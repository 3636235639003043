import ModuleLoader.Text.Split
import ModuleLoader.Text.Percent

/-
URLs as values.

A URL has a scheme and a path, and may have an authority (user, host, port), a query and a
fragment.  All parts are held as they are written, percent-encoding included.  `text`
writes a URL down; a path that would begin with two slashes and no authority before them
is written behind `/.`, so that it cannot be taken for an authority.
-/

namespace ModuleLoader

/-- Why a text is no URL. -/
inductive UrlFault where
  | relativeWithoutBase
  | relativeWithRootlessBase
  | emptyHost
  | invalidPort
  | invalidIpv4
  | invalidIpv6
  | invalidDomainCharacter
  | invalidInternationalDomain
  deriving Repr, DecidableEq

/-- A fault in words. -/
def UrlFault.message : UrlFault → String
  | relativeWithoutBase => "relative URL without a base"
  | relativeWithRootlessBase => "relative URL with a cannot-be-a-base base"
  | emptyHost => "empty host"
  | invalidPort => "invalid port number"
  | invalidIpv4 => "invalid IPv4 address"
  | invalidIpv6 => "invalid IPv6 address"
  | invalidDomainCharacter => "invalid domain character"
  | invalidInternationalDomain => "invalid international domain name"

namespace Url

/-- A host: a name as written, or an address as a number or as its eight groups. -/
inductive Host where
  | name (text : List Char)
  | ipv4 (address : Nat)
  | ipv6 (groups : List Nat)
  deriving Repr, DecidableEq

/-- What stands between `//` and the path.  The empty name stands for no host. -/
structure Authority where
  user : List Char := []
  password : List Char := []
  host : Host := .name []
  port : Option Nat := none
  deriving Repr, DecidableEq

/-- A path: segments, each behind a slash, or one text without hierarchy. -/
inductive Path where
  | segments (list : List (List Char))
  | rootless (text : List Char)
  deriving Repr, DecidableEq

/-- Schemes fall into three classes with rules of their own. -/
inductive SchemeClass where
  | web
  | file
  | generic
  deriving Repr, DecidableEq

/-- The class of a scheme in lower case. -/
def SchemeClass.of (scheme : List Char) : SchemeClass :=
  if scheme = "file".toList then .file
  else if scheme ∈ ["http", "https", "ws", "wss", "ftp"].map String.toList then .web
  else .generic

/-- In the special classes a backslash separates like a slash. -/
def SchemeClass.isSpecial : SchemeClass → Bool
  | .generic => false
  | _ => true

/-- A character that separates path segments. -/
def SchemeClass.separates (c : SchemeClass) (ch : Char) : Bool :=
  ch = '/' || (c.isSpecial && ch = '\\')

/-- The port that a scheme uses when none is written. -/
def defaultPort? (scheme : List Char) : Option Nat :=
  if scheme ∈ ["http", "ws"].map String.toList then some 80
  else if scheme ∈ ["https", "wss"].map String.toList then some 443
  else if scheme = "ftp".toList then some 21
  else none

end Url

/-- A URL. -/
structure Url where
  scheme : List Char
  authority : Option Url.Authority := none
  path : Url.Path
  query : Option (List Char) := none
  fragment : Option (List Char) := none
  deriving Repr, DecidableEq

namespace Url

/-- The longest run of zero groups, as its start and length; the first of equals. -/
def longestZeros (groups : List Nat) : Nat × Nat :=
  (List.range groups.length).foldl (fun best start =>
    let run := ((groups.drop start).takeWhile (· = 0)).length
    if best.2 < run then (start, run) else best) (0, 0)

/-- A group in lower-case hexadecimal digits without leading zeros. -/
def groupText (n : Nat) : List Char := Nat.toDigits 16 n

/-- An IPv6 address between brackets, its longest run of two or more zero groups left out. -/
def ipv6Text (groups : List Nat) : List Char :=
  let (start, run) := longestZeros groups
  let write (gs : List Nat) := Text.join ':' (gs.map groupText)
  let body :=
    if run < 2 then write groups
    else write (groups.take start) ++ "::".toList ++ write (groups.drop (start + run))
  '[' :: body ++ [']']

/-- An IPv4 address in four decimal parts. -/
def ipv4Text (address : Nat) : List Char :=
  Text.join '.' ([24, 16, 8, 0].map fun shift => Nat.toDigits 10 (address >>> shift % 256))

/-- A host as it is written. -/
def Host.text : Host → List Char
  | .name text => text
  | .ipv4 address => ipv4Text address
  | .ipv6 groups => ipv6Text groups

/-- User and password with the mark that closes them. -/
def Authority.credentials (a : Authority) : List Char :=
  let password := if a.password.isEmpty then [] else ':' :: a.password
  if a.user.isEmpty && a.password.isEmpty then [] else a.user ++ password ++ ['@']

/-- An authority behind its two slashes. -/
def Authority.text (a : Authority) : List Char :=
  "//".toList ++ a.credentials ++ a.host.text ++
    (match a.port with
      | some port => ':' :: Nat.toDigits 10 port
      | none => [])

/-- A path as it is written; segments stand behind one slash each. -/
def Path.text : Path → List Char
  | .segments list => list.flatMap ('/' :: ·)
  | .rootless text => text

/-- A path that begins with two slashes needs a guard when no authority precedes it. -/
def Path.guard : Path → List Char
  | .segments ([] :: _ :: _) => "/.".toList
  | _ => []

/-- A URL without a hierarchy to resolve against. -/
def isRootless (url : Url) : Bool :=
  match url.path with
  | .rootless _ => true
  | .segments list => list.isEmpty && url.authority.isNone

/-- The URL as characters. -/
def chars (url : Url) : List Char :=
  url.scheme ++ ':' ::
    (match url.authority with
      | some authority => authority.text
      | none => url.path.guard) ++
    url.path.text ++
    (match url.query with
      | some query => '?' :: query
      | none => []) ++
    (match url.fragment with
      | some fragment => '#' :: fragment
      | none => [])

/-- The URL as text. -/
def text (url : Url) : String := String.ofList url.chars

end Url

end ModuleLoader
