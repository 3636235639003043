import ModuleLoader.Text.Utf8

/-
What can go wrong when bytes are read or written.

Each cause belongs to a kind, which is what callers tell apart, and has a text.
-/

namespace ModuleLoader

/-- The kinds of input and output errors. -/
inductive IoKind where
  | notFound
  | permissionDenied
  | invalidData
  | invalidInput
  | alreadyExists
  | isADirectory
  | notADirectory
  | invalidFilename
  | filesystemLoop
  | other
  /-- A kind known by name only. -/
  | named (name : String)
  deriving Repr, DecidableEq

/-- Why bytes could not be read or written. -/
inductive IoError where
  | noSuchFile
  | fileExists
  | notDirectory
  | isDirectory
  | nameTooLong
  | tooManyLinks
  | nulInName
  | accessDenied
  /-- What a program is told cannot be passed on. -/
  | nulInArgument
  /-- A stream that should be text is not. -/
  | notText
  /-- A module that should be text is not, from some place on. -/
  | illFormedText (fault : Text.Utf8.Fault)
  /-- The bytes of a bundle's entry do not have the checksum that is written with them. -/
  | badChecksum
  /-- The bytes of a bundle's entry cannot be expanded. -/
  | corruptStream
  /-- An entry of a bundle is encrypted. -/
  | passwordRequired
  /-- An entry of a bundle is stored by an unknown method. -/
  | unknownMethod
  /-- A bundle cannot be opened. -/
  | badBundle (reason : String)
  /-- A source of bytes reports a failure of its own. -/
  | reported (kind : IoKind) (message : String)
  deriving Repr, DecidableEq

namespace IoError

/-- The kind that a cause belongs to. -/
def kind : IoError → IoKind
  | noSuchFile => .notFound
  | fileExists => .alreadyExists
  | notDirectory => .notADirectory
  | isDirectory => .isADirectory
  | nameTooLong => .invalidFilename
  | tooManyLinks => .filesystemLoop
  | nulInName => .invalidInput
  | accessDenied => .permissionDenied
  | nulInArgument => .invalidInput
  | notText => .invalidData
  | illFormedText _ => .invalidData
  | badChecksum => .invalidData
  | corruptStream => .invalidInput
  | passwordRequired => .invalidData
  | unknownMethod => .invalidData
  | badBundle _ => .invalidData
  | reported kind _ => kind

/-- A cause in words. -/
def message : IoError → String
  | noSuchFile => "No such file or directory (os error 2)"
  | fileExists => "File exists (os error 17)"
  | notDirectory => "Not a directory (os error 20)"
  | isDirectory => "Is a directory (os error 21)"
  | nameTooLong => "File name too long (os error 36)"
  | tooManyLinks => "Too many levels of symbolic links (os error 40)"
  | nulInName => "file name contained an unexpected NUL byte"
  | accessDenied => "Permission denied (os error 13)"
  | nulInArgument => "nul byte found in provided data"
  | notText => "stream did not contain valid UTF-8"
  | illFormedText fault => fault.message
  | badChecksum => "Invalid checksum"
  | corruptStream => "corrupt deflate stream"
  | passwordRequired => "unsupported Zip archive: Password required to decrypt file"
  | unknownMethod => "unsupported Zip archive: Compression method not supported"
  | badBundle reason => s!"invalid Zip archive: {reason}"
  | reported _ message => message

end IoError

end ModuleLoader
