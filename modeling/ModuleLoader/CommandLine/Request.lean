import ModuleLoader.Text.Split

/-
What a command line asks for.

    [-v] resolve SPECIFIER [--base B] [--archive DIR] [--identity-only] [shared]
    [-v] compile ARCHIVE OUT_DIR [shared]
    [-v] run SPECIFIER --runtime CMD [--base B] [--archive DIR] [shared]

    shared: [--resources PATH]... [--config FILE] [--compile-with CMD]

Words are read from left to right.  An option and its value are two words, or one with `=`
between them; a value that is a word of its own does not begin with a hyphen, unless it is
nothing but one.  Behind `--` every word is an operand.  No option but `--resources` may be
given twice.
-/

namespace ModuleLoader.CommandLine

open Text

/-- Where modules come from besides the archive, and how they are compiled. -/
structure LoaderOptions where
  resources : List String := []
  config : Option String := none
  compileWith : Option String := none
  deriving Repr, DecidableEq

/-- What is to be done. -/
inductive Task where
  | resolve (specifier : String) (base archive : Option String) (identityOnly : Bool)
  | compile (archive target : String)
  | run (specifier : String) (base archive : Option String) (runtime : String)
  deriving Repr, DecidableEq

/-- What a command line asks for. -/
inductive Request where
  | version
  | help
  | perform (task : Task) (options : LoaderOptions)
  deriving Repr, DecidableEq

/-- The tasks by name. -/
inductive TaskName where
  | resolve
  | compile
  | run
  deriving Repr, DecidableEq

namespace TaskName

/-- The name of a task as it is written. -/
def text : TaskName → String
  | resolve => "resolve"
  | compile => "compile"
  | run => "run"

/-- The task that a word names. -/
def ofWord? (word : String) : Option TaskName :=
  [resolve, compile, run].find? fun task => task.text = word

/-- How many operands a task has. -/
def operandCount : TaskName → Nat
  | compile => 2
  | _ => 1

end TaskName

/-- The options that have a value. -/
inductive Setting where
  | base
  | archive
  | runtime
  | resources
  | config
  | compileWith
  deriving Repr, DecidableEq

namespace Setting

/-- The name of an option as it is written. -/
def text : Setting → String
  | base => "--base"
  | archive => "--archive"
  | runtime => "--runtime"
  | resources => "--resources"
  | config => "--config"
  | compileWith => "--compile-with"

/-- The options of a task. -/
def allowed : TaskName → List Setting
  | .resolve => [base, archive, resources, config, compileWith]
  | .compile => [resources, config, compileWith]
  | .run => [base, archive, runtime, resources, config, compileWith]

/-- Whether the value of an option is a path; a path is not empty. -/
def isPath : Setting → Bool
  | archive | resources | config => true
  | _ => false

end Setting

/-- What has been read of a command line. -/
structure Words where
  settings : List (Setting × String) := []
  identityOnly : Bool := false
  verbose : Bool := false
  operands : List String := []
  deriving Repr, DecidableEq

namespace Words

/-- The value of an option. -/
def get? (words : Words) (setting : Setting) : Option String := words.settings.lookup setting

/-- Sets an option, unless its value is no path though it should be one, or it is set
already and may not be set twice. -/
def set? (words : Words) (setting : Setting) (value : String) : Option Words :=
  if setting.isPath && value.isEmpty then none
  else if setting ≠ .resources ∧ (words.get? setting).isSome then none
  else some { words with settings := words.settings ++ [(setting, value)] }

/-- Appends an operand, unless the task has all it needs.  The operands of `compile` are
paths. -/
def operand? (task : TaskName) (words : Words) (word : String) : Option Words :=
  if words.operands.length ≥ task.operandCount then none
  else if task = .compile && word.isEmpty then none
  else some { words with operands := words.operands ++ [word] }

/-- Sets the flag that only `resolve` has. -/
def identityOnly? (task : TaskName) (words : Words) : Option Words :=
  if task ≠ .resolve ∨ words.identityOnly then none else some { words with identityOnly := true }

/-- Sets the flag for logging. -/
def verbose? (words : Words) : Option Words :=
  if words.verbose then none else some { words with verbose := true }

end Words

/-- Whether a word cannot be a value: it begins with a hyphen and is more than that. -/
def isHyphenated (word : String) : Bool :=
  match word.toList with
  | '-' :: _ :: _ => true
  | _ => false

/-- The end of reading: a finished reading, or a call for help on the way. -/
inductive Reading where
  | done (words : Words)
  | help
  deriving Repr, DecidableEq

/-- Reads flags of one letter each, as they stand in one word. -/
def readLetters (words : Words) : List Char → Option Reading
  | [] => some (.done words)
  | 'v' :: rest => words.verbose?.bind fun words => readLetters words rest
  | 'h' :: _ => some .help
  | _ => none

/-- Reads the words behind the name of a task. -/
def readWords (task : TaskName) (words : Words) : List String → Option Reading
  | [] => some (.done words)
  | "--" :: rest => (rest.foldlM (Words.operand? task) words).map .done
  | word :: rest =>
    if !isHyphenated word then
      (words.operand? task word).bind fun words => readWords task words rest
    else
      match word with
      | "--help" => some .help
      | "--verbose" => words.verbose?.bind fun words => readWords task words rest
      | "--identity-only" => (words.identityOnly? task).bind fun words => readWords task words rest
      | _ =>
        let (name, attached) := match cut? '=' word.toList with
          | some (name, value) => (String.ofList name, some (String.ofList value))
          | none => (word, none)
        match (Setting.allowed task).find? fun setting => setting.text = name with
        | some setting =>
          match attached, rest with
          | some value, rest =>
            (words.set? setting value).bind fun words => readWords task words rest
          | none, [] => none
          | none, value :: rest =>
            if isHyphenated value then none
            else (words.set? setting value).bind fun words => readWords task words rest
        | none =>
          if (dropStart? ['-', '-'] word.toList).isSome then none
          else
            match readLetters words (word.toList.drop 1) with
            | some (.done words) => readWords task words rest
            | other => other

/-- The request that was read, if nothing is missing. -/
def Words.request? (task : TaskName) (words : Words) : Option Request :=
  let options : LoaderOptions :=
    { resources := (words.settings.filter (·.1 = .resources)).map (·.2)
      config := words.get? .config
      compileWith := words.get? .compileWith }
  let base := words.get? .base
  let archive := words.get? .archive
  match task, words.operands with
  | .resolve, [specifier] =>
    some (.perform (.resolve specifier base archive words.identityOnly) options)
  | .compile, [archive, target] => some (.perform (.compile archive target) options)
  | .run, [specifier] =>
    (words.get? .runtime).map fun runtime => .perform (.run specifier base archive runtime) options
  | _, _ => none

/-- Reads the words behind `help`: nothing or one task. -/
def readHelp : List String → Option Request
  | [] => some .help
  | [task] => if task = "help" ∨ (TaskName.ofWord? task).isSome then some .help else none
  | _ => none

/-- The request of a command line.  There is none if the words break the rules. -/
def request? : Bool → List String → Option Request
  | _, [] => none
  | verbose, word :: rest =>
    match word with
    | "--version" => some .version
    | "--help" => some .help
    | "--verbose" => if verbose then none else request? true rest
    | "help" => readHelp rest
    | _ =>
      match word.toList with
      | '-' :: 'v' :: letters =>
        if verbose then none
        else
          match letters with
          | [] => request? true rest
          | 'V' :: _ => some .version
          | 'h' :: _ => some .help
          | _ => none
      | '-' :: 'V' :: _ => some .version
      | '-' :: 'h' :: _ => some .help
      | _ =>
        match TaskName.ofWord? word with
        | none => none
        | some task =>
          match readWords task {} rest with
          | none => none
          | some .help => some .help
          | some (.done words) => words.request? task

end ModuleLoader.CommandLine
