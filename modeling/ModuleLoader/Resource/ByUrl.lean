import ModuleLoader.Resource.Provider

/-
Opening modules by URL.

A `file` URL names a file, a URL of the configured scheme names a packaged resource, and
under any other scheme there is nothing.  The identity of what is found is the URL.
-/

namespace ModuleLoader

namespace Url

open Text

/-- Bytes as a name of the file tree.  Bytes that are no text name nothing there: they are
kept behind a slash, which no name holds. -/
def fileName (bytes : List UInt8) : String :=
  match Utf8.decode ⟨bytes.toArray⟩ with
  | .ok name => name
  | .error _ => String.ofList ('/' :: Utf8.decodeLossy bytes)

/-- Bytes between slashes. -/
def splitBytes : List UInt8 → List (List UInt8)
  | [] => [[]]
  | b :: rest =>
    if b = 0x2F then [] :: splitBytes rest
    else match splitBytes rest with
      | [] => [[b]]
      | piece :: pieces => (b :: piece) :: pieces

/-- A path that ends in a drive letter gets a slash at its end. -/
def closeDrive (path : List UInt8) : List UInt8 :=
  match path.reverse with
  | mark :: letter :: _ :: _ =>
    if (Char.ofNat letter.toNat).isAlpha && letter < 0x80 && (mark = 0x3A || mark = 0x7C) then
      path ++ [0x2F]
    else path
  | _ => path

/-- The names that lead from the root to the file of a URL on this machine. -/
def localNames? (url : Url) : Option (List String) :=
  let host := url.authority.elim (.name []) Authority.host
  match url.path with
  | .segments (segment :: segments) =>
    if host = .name [] ∨ host = .name "localhost".toList then
      let path := (segment :: segments).flatMap fun s => 0x2F :: Percent.decode s
      some ((splitBytes (closeDrive path)).map fileName)
    else none
  | _ => none

/-- The name of the packaged resource of a URL: its path without slashes before it. -/
def resourceName (url : Url) : String :=
  String.ofList (url.path.text.dropWhile (· = '/'))

end Url

namespace ByUrl

/-- Opens the file of a URL. -/
def openFile (files : FileTree) (url : Url) : Except LoadError (Option Artifact) :=
  match url.localNames? with
  | none => .error (.malformed ⟨url.text, .notLocal⟩)
  | some path =>
    match files.stat path with
    | .error e => if e.kind = .notFound then .ok none else .error (.io url.text e)
    | .ok (_, .file bytes) => (Artifact.ofBody url.text ⟨bytes, none⟩).map some
    | .ok _ => .error (.io url.text .isDirectory)

/-- Opens the packaged resource of a URL. -/
def openResource (files : FileTree) (resources : ResourceSpace) (url : Url) :
    Except LoadError (Option Artifact) :=
  match resources.openName files url.resourceName with
  | .ok (some body) => (Artifact.ofBody url.text body).map some
  | .ok none => .ok none
  | .error e => .error (.io url.text e)

/-- Opens a URL; `scheme` is the one that packaged resources are served under. -/
def openUrl (files : FileTree) (scheme : String) (resources : ResourceSpace) (url : Url) :
    Except LoadError (Option Artifact) :=
  if url.scheme = "file".toList then openFile files url
  else if url.scheme = scheme.toList then openResource files resources url
  else .ok none

/-- Opens the URL that a text spells. -/
def openText (files : FileTree) (scheme : String) (resources : ResourceSpace) (text : String) :
    Except LoadError (Option Artifact) :=
  match Url.parse text with
  | .error fault => .error (.malformed ⟨text, .notUrl fault⟩)
  | .ok url => openUrl files scheme resources url

end ByUrl

end ModuleLoader
