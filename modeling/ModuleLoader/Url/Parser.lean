import ModuleLoader.Url.Host

/-
Reading a URL, alone or relative to a base.

White space and control characters around the text are dropped, and tabs and line ends
inside it.  What remains is cut at the first `#` and the first `?`; the part before them
is a scheme, an authority and a path, of which a relative reference leaves out a
beginning and takes it from the base.

A path is read segment by segment on top of the segments already there.  `..` removes the
innermost one, except that a drive letter such as `c:` is never removed.
-/

namespace ModuleLoader.Url

open Text

/-! ### Text -/

/-- Dropped wherever it stands. -/
def isIgnored (c : Char) : Bool := c = '\t' || c = '\n' || c = '\r'

/-- The text that is read: trimmed, and without ignored characters. -/
def clean (input : List Char) : List Char :=
  let trimmed := ((input.dropWhile (· ≤ ' ')).reverse.dropWhile (· ≤ ' ')).reverse
  trimmed.filter fun c => !isIgnored c

/-- A text cut at its first `#` and, before that, at its first `?`. -/
structure Parts where
  main : List Char
  query : Option (List Char)
  fragment : Option (List Char)

/-- Cuts a text at its first `#` and, before that, at its first `?`. -/
def Parts.of (text : List Char) : Parts :=
  let (front, fragment) :=
    match cut? '#' text with
    | some (before, after) => (before, some after)
    | none => (text, none)
  match cut? '?' front with
  | some (before, after) => ⟨before, some after, fragment⟩
  | none => ⟨front, none, fragment⟩

/-- A query as it is written in a URL of this class. -/
def Parts.encodedQuery (parts : Parts) (c : SchemeClass) : Option (List Char) :=
  parts.query.map (Percent.encode (if c.isSpecial then Percent.specialQuery else Percent.query))

/-- A fragment as it is written. -/
def Parts.encodedFragment (parts : Parts) : Option (List Char) :=
  parts.fragment.map (Percent.encode Percent.fragment)

/-- A character that may stand in a scheme after its first letter. -/
def isSchemeChar (c : Char) : Bool := c.isAlphanum || c = '+' || c = '-' || c = '.'

/-- The scheme in lower case and the text after its colon. -/
def scheme? (main : List Char) : Option (List Char × List Char) :=
  match cut? ':' main with
  | some (c :: name, rest) =>
    if c.isAlpha && name.all isSchemeChar then some ((c :: name).map Char.toLower, rest) else none
  | _ => none

/-! ### Paths -/

/-- The written forms of the segment for this directory. -/
def isDot (segment : List Char) : Bool :=
  String.ofList (segment.map Char.toLower) ∈ [".", "%2e"]

/-- The written forms of the segment for the directory above. -/
def isDotDot (segment : List Char) : Bool :=
  String.ofList (segment.map Char.toLower) ∈ ["..", ".%2e", "%2e.", "%2e%2e"]

/-- A letter and a colon or bar. -/
def isDriveLetter : List Char → Bool
  | [a, mark] => a.isAlpha && (mark = ':' || mark = '|')
  | _ => false

/-- A letter and a colon. -/
def isNormalDriveLetter : List Char → Bool
  | [a, mark] => a.isAlpha && mark = ':'
  | _ => false

/-- A segment that `..` never removes: a drive letter, alone or before a backslash. -/
def holdsDrive : List Char → Bool
  | [a, mark] => a.isAlpha && (mark = ':' || mark = '|')
  | a :: mark :: '\\' :: _ => a.isAlpha && (mark = ':' || mark = '|')
  | _ => false

/-- The segments, innermost first, after `..`. -/
def leave : List (List Char) → List (List Char)
  | [] => []
  | top :: rest => if holdsDrive top then top :: rest else rest

/-- The segments, innermost first, after one more.  In a file path a drive letter at the
top is written with a colon. -/
def enter (c : SchemeClass) (closed : List (List Char)) (segment : List Char) :
    List (List Char) :=
  if isDotDot segment then leave closed
  else if isDot segment then closed
  else if c = .file ∧ closed = [] then
    match segment with
    | [a, mark] => if isDriveLetter [a, mark] then [[a, ':']] else [segment]
    | _ => [segment]
  else segment :: closed

/-- The segments of `text` on top of those in `closed`, which stand innermost first.  A dot
segment at the end leaves an empty one. -/
def segmentsOnto (c : SchemeClass) (closed : List (List Char)) (pieces : List (List Char)) :
    List (List Char) :=
  let segments := (pieces.foldl (enter c) closed).reverse
  match pieces.getLast? with
  | some last => if isDot last || isDotDot last then segments ++ [[]] else segments
  | none => segments

/-- The segments as written: cut at separators and percent-encoded. -/
def pathPieces (c : SchemeClass) (text : List Char) : List (List Char) :=
  let slashed := if c.isSpecial then text.map fun ch => if ch = '\\' then '/' else ch else text
  (split '/' slashed).map (Percent.encode Percent.path)

/-- A file path has no empty segments at its top. -/
def dropEmptyTop (segments : List (List Char)) : List (List Char) :=
  match segments.dropWhile List.isEmpty with
  | [] => [[]]
  | rest => rest

/-- The path that `text`, standing behind a slash, spells on top of `closed`. -/
def pathOnto (c : SchemeClass) (closed : List (List Char)) (text : List Char) : Path :=
  let segments := segmentsOnto c closed (pathPieces c text)
  .segments (if c = .file then dropEmptyTop segments else segments)

/-- Whether a drive letter is met at the top of a file path. -/
def meetsDrive (closed : List (List Char)) : List (List Char) → Bool
  | [] => false
  | piece :: rest =>
    (closed.isEmpty && isDriveLetter piece) || meetsDrive (enter .file closed piece) rest

/-- The text behind one separator, if it begins with one. -/
def dropSeparator (c : SchemeClass) : List Char → List Char
  | ch :: rest => if c.separates ch then rest else ch :: rest
  | [] => []

/-- The path after an authority.  Only a generic URL may have none. -/
def pathAfterAuthority (c : SchemeClass) (text : List Char) : Path :=
  if text.isEmpty && !c.isSpecial then .segments [] else pathOnto c [] (dropSeparator c text)

/-- All segments but the last, innermost first: where a relative path starts. -/
def Path.base : Path → List (List Char)
  | .segments list => list.dropLast.reverse
  | .rootless _ => []

/-- The first segment. -/
def Path.top? : Path → Option (List Char)
  | .segments list => list.head?
  | .rootless _ => none

/-- The path that a relative `text` spells against a base path.  A drive letter at the end
of a file path stays, and the text goes on behind it. -/
def pathRelative (c : SchemeClass) (base : Path) (text : List Char) : Path :=
  match c, base with
  | .file, .segments list =>
    match list.getLast? with
    | some last =>
      if isNormalDriveLetter last then
        if list.length = 1 then pathOnto c [last] text
        else
          let front := list.dropLast.reverse
          match pathPieces c text with
          | [] => base
          | piece :: pieces =>
            let segments :=
              if isDotDot piece then
                if pieces.isEmpty then list else segmentsOnto c (last :: front) pieces
              else if isDot piece then
                segmentsOnto c (last :: front) (if pieces.isEmpty then [[]] else pieces)
              else segmentsOnto c front ((last ++ piece) :: pieces)
            .segments (dropEmptyTop segments)
      else pathOnto c base.base text
    | none => pathOnto c [] text
  | _, _ => pathOnto c base.base text

/-! ### Authorities -/

/-- User, password and the text after them.  They end at the last `@`. -/
def credentials (text : List Char) (more : Bool) :
    Except UrlFault (List Char × List Char × List Char) :=
  match cutLast? '@' text with
  | none => .ok ([], [], text)
  | some ([], rest) => if rest.isEmpty && more then .error .emptyHost else .ok ([], [], rest)
  | some (info, rest) =>
    let encode := Percent.encode Percent.userinfo
    match cut? ':' info with
    | some (user, password) => .ok (encode user, encode password, rest)
    | none => .ok (encode info, [], rest)

/-- The text of the host and the text after it.  A colon between brackets belongs to the
host. -/
def cutHost (text : List Char) : List Char × List Char := go false text
where
  go (inside : Bool) : List Char → List Char × List Char
    | [] => ([], [])
    | c :: r =>
      if c = ':' ∧ !inside then ([], c :: r)
      else
        let (host, rest) := go (if c = '[' then true else if c = ']' then false else inside) r
        (c :: host, rest)

/-- The port before any text that may follow it, unless it is the scheme's own. -/
def port (scheme text : List Char) : Except UrlFault (Option Nat × List Char) :=
  let digits := text.takeWhile Char.isDigit
  let rest := text.dropWhile Char.isDigit
  match numberOf 10 digits with
  | some n =>
    if n > 65535 then .error .invalidPort
    else if rest.isEmpty || rest.head? = some '\\' then
      .ok (if digits.isEmpty || defaultPort? scheme = some n then none else some n, rest)
    else .error .invalidPort
  | none => .error .invalidPort

/-- A URL from the text behind the two slashes that announce an authority. -/
def afterSlashes (scheme : List Char) (parts : Parts) (text : List Char) : Except UrlFault Url := do
  let c := SchemeClass.of scheme
  let authorityText := text.takeWhile fun ch => !c.separates ch
  let pathText := text.dropWhile fun ch => !c.separates ch
  let more := !pathText.isEmpty || parts.query.isSome || parts.fragment.isSome
  let (user, password, hostAndPort) ← credentials authorityText more
  let (hostText, portText) := cutHost hostAndPort
  if hostText.isEmpty && c.isSpecial then throw .emptyHost
  let host ← if c.isSpecial then Host.parseSpecial hostText else Host.parseGeneric hostText
  if host = .name [] && !portText.isEmpty then throw .emptyHost
  let (port, rest) ← match portText with
    | ':' :: portText => Url.port scheme portText
    | other => pure (none, other)
  if host = .name [] && (!user.isEmpty || !password.isEmpty) then throw .emptyHost
  return {
    scheme := scheme
    authority := some ⟨user, password, host, port⟩
    path := pathAfterAuthority c (rest ++ pathText)
    query := parts.encodedQuery c
    fragment := parts.encodedFragment }

/-! ### The classes of schemes -/

/-- The host of a file URL; this machine has none. -/
def fileHost (text : List Char) : Except UrlFault Host := do
  let host ← Host.parseSpecial text
  return if host = .name "localhost".toList then .name [] else host

/-- Whether a text begins with a drive letter that fills a segment. -/
def startsWithDrive : List Char → Bool
  | [a, mark] => isDriveLetter [a, mark]
  | a :: mark :: next :: _ => isDriveLetter [a, mark] && (next = '/' || next = '\\')
  | _ => false

/-- A file URL with this host and path. -/
def fileUrl (parts : Parts) (host : Host) (path : Path) : Url :=
  { scheme := "file".toList
    authority := some { host := host }
    path := path
    query := parts.encodedQuery .file
    fragment := parts.encodedFragment }

/-- The base without its fragment, and without its query if the reference has one. -/
def sameDocument (base : Url) (parts : Parts) : Url :=
  { base with
    query := if parts.query.isSome then parts.encodedQuery (SchemeClass.of base.scheme) else base.query
    fragment := parts.encodedFragment }

/-- A file URL behind `file://`. -/
def fileWithHost (parts : Parts) (text : List Char) : Except UrlFault Url := do
  let slash (ch : Char) := SchemeClass.file.separates ch
  let hostText := text.takeWhile fun ch => !slash ch
  let rest := text.dropWhile fun ch => !slash ch
  if isDriveLetter hostText then
    return fileUrl parts (.name []) (pathOnto .file [] text)
  let host ← if hostText.isEmpty then pure (.name []) else fileHost hostText
  let pathText := dropSeparator .file rest
  let host := if meetsDrive [] (pathPieces .file pathText) then .name [] else host
  return fileUrl parts host (pathOnto .file [] pathText)

/-- A file URL behind `file:`, or relative to a file URL. -/
def parseFile (base : Option Url) (parts : Parts) : Except UrlFault Url :=
  let slash (ch : Char) := SchemeClass.file.separates ch
  match parts.main with
  | [] =>
    match base with
    | some base => .ok (sameDocument base parts)
    | none => .ok (fileUrl parts (.name []) (.segments [[]]))
  | first :: rest =>
    if slash first then
      match rest with
      | second :: rest' =>
        if slash second then fileWithHost parts rest' else .ok (fromRoot rest)
      | [] => .ok (fromRoot rest)
    else
      match base with
      | some base =>
        if startsWithDrive parts.main then
          .ok (fileUrl parts (.name []) (pathOnto .file [] parts.main))
        else .ok { sameDocument base parts with
          path := pathRelative .file base.path parts.main
          query := parts.encodedQuery .file }
      | none => .ok (fileUrl parts (.name []) (pathOnto .file [] parts.main))
where
  /-- A path behind a single slash keeps the drive of the base, or else its host. -/
  fromRoot (text : List Char) : Url :=
    match base with
    | some base =>
      if startsWithDrive text then fileUrl parts (.name []) (pathOnto .file [] text)
      else
        match base.path.top? with
        | some top =>
          if isNormalDriveLetter top then fileUrl parts (.name []) (pathOnto .file [top] text)
          else fileUrl parts (base.authority.elim (.name []) Authority.host) (pathOnto .file [] text)
        | none => fileUrl parts (base.authority.elim (.name []) Authority.host) (pathOnto .file [] text)
    | none => fileUrl parts (.name []) (pathOnto .file [] text)

/-- A reference without a scheme against a base that is no file URL. -/
def parseRelative (base : Url) (parts : Parts) : Except UrlFault Url :=
  let c := SchemeClass.of base.scheme
  let slash (ch : Char) := ch = '/' || ch = '\\'
  let withPath (path : Path) : Url :=
    { sameDocument base parts with path := path, query := parts.encodedQuery c }
  match parts.main with
  | [] => .ok (sameDocument base parts)
  | first :: rest =>
    if slash first then
      match rest with
      | second :: rest' =>
        if slash second then
          let text := if first = '/' ∧ second = '/' then rest' else parts.main.dropWhile slash
          afterSlashes base.scheme parts text
        else .ok (withPath (pathOnto c [] rest))
      | [] => .ok (withPath (pathOnto c [] rest))
    else .ok (withPath (pathRelative c base.path parts.main))

/-- A URL of a generic scheme behind its colon. -/
def parseGeneric (scheme : List Char) (parts : Parts) (main : List Char) : Except UrlFault Url :=
  match main with
  | '/' :: '/' :: rest => afterSlashes scheme parts rest
  | '/' :: rest => .ok (build (pathOnto .generic [] rest))
  | text => .ok (build (.rootless (Percent.encode Percent.control text)))
where
  build (path : Path) : Url :=
    { scheme := scheme
      path := path
      query := parts.encodedQuery .generic
      fragment := parts.encodedFragment }

/-- A URL that names its scheme. -/
def parseAbsolute (base : Option Url) (scheme : List Char) (parts : Parts) (main : List Char) :
    Except UrlFault Url :=
  match SchemeClass.of scheme with
  | .file =>
    parseFile (base.filter fun b => b.scheme = "file".toList) { parts with main := main }
  | .web =>
    let slashes := (main.takeWhile fun ch => ch = '/' || ch = '\\').length
    let rest := main.dropWhile fun ch => ch = '/' || ch = '\\'
    match base with
    | some base =>
      if slashes < 2 ∧ base.scheme = scheme then parseRelative base { parts with main := main }
      else afterSlashes scheme parts rest
    | none => afterSlashes scheme parts rest
  | .generic => parseGeneric scheme parts main

/-- The URL that `input` spells, relative to `base` if it names no scheme. -/
def parseChars (base : Option Url) (input : List Char) : Except UrlFault Url :=
  let parts := Parts.of (clean input)
  match scheme? parts.main with
  | some (scheme, main) => parseAbsolute base scheme parts main
  | none =>
    match base with
    | none => .error .relativeWithoutBase
    | some base =>
      if parts.main.isEmpty && parts.query.isNone && parts.fragment.isSome then
        .ok { base with fragment := parts.encodedFragment }
      else if base.isRootless then .error .relativeWithRootlessBase
      else if SchemeClass.of base.scheme = .file then parseFile (some base) parts
      else parseRelative base parts

/-- The URL that `input` spells by itself. -/
def parse (input : String) : Except UrlFault Url := parseChars none input.toList

/-- The URL that `reference` spells relative to `base`. -/
def joinReference (base : Url) (reference : String) : Except UrlFault Url :=
  parseChars (some base) reference.toList

end ModuleLoader.Url
