import ModuleLoader.Text.Utf8

/-
Percent-encoding: a byte as a percent sign and two hexadecimal digits.

Encoding works on characters and is told which ASCII characters to encode; every other
character outside ASCII is encoded byte by byte.  Decoding reads every well-formed triple
and leaves all else alone, so it undoes any encoding that encodes the percent sign.
-/

namespace ModuleLoader.Text.Percent

/-- The upper-case digit of a number below sixteen. -/
def hexDigit (n : Nat) : Char := Char.ofNat (if n < 10 then 0x30 + n else 0x37 + n)

/-- The value of a hexadecimal digit of either case. -/
def hexValue? (c : Char) : Option Nat :=
  if '0' ≤ c ∧ c ≤ '9' then some (c.toNat - 0x30)
  else if 'a' ≤ c ∧ c ≤ 'f' then some (c.toNat - 0x57)
  else if 'A' ≤ c ∧ c ≤ 'F' then some (c.toNat - 0x37)
  else none

/-- One byte as a percent sign and two digits. -/
def triple (b : UInt8) : List Char := ['%', hexDigit (b.toNat / 16), hexDigit (b.toNat % 16)]

/-- The text with the characters of `set`, and all outside ASCII, encoded. -/
def encode (set : Char → Bool) (cs : List Char) : List Char :=
  cs.flatMap fun c =>
    if c.toNat < 0x80 && !set c then [c] else (String.utf8EncodeChar c).flatMap triple

/-- The bytes spelled by a text. -/
def decode : List Char → List UInt8
  | [] => []
  | c :: r =>
    if c = '%' then
      match r with
      | a :: b :: rest =>
        match hexValue? a, hexValue? b with
        | some hi, some lo => UInt8.ofNat (hi * 16 + lo) :: decode rest
        | _, _ => 0x25 :: decode (a :: b :: rest)
      | [a] => 0x25 :: decode [a]
      | [] => [0x25]
    else String.utf8EncodeChar c ++ decode r
termination_by cs => cs.length

/-! ### Which characters the parts of a URL encode -/

/-- Control characters are encoded everywhere. -/
def control (c : Char) : Bool := c.toNat < 0x20 || c.toNat = 0x7F

/-- Encoded in a fragment. -/
def fragment (c : Char) : Bool := control c || c ∈ [' ', '"', '<', '>', '\x60']

/-- Encoded in a path. -/
def path (c : Char) : Bool := fragment c || c ∈ ['#', '?', '\x7b', '\x7d']

/-- Encoded in a user name or a password. -/
def userinfo (c : Char) : Bool :=
  path c || c ∈ ['/', ':', ';', '=', '@', '[', '\\', ']', '^', '|']

/-- Encoded in a query. -/
def query (c : Char) : Bool := control c || c ∈ [' ', '"', '#', '<', '>']

/-- Encoded in the query of a URL with a special scheme. -/
def specialQuery (c : Char) : Bool := query c || c = '\''

/-- A text that neither `set` nor the byte values touch is its own encoding. -/
theorem encode_eq_self {set : Char → Bool} {cs : List Char}
    (h : ∀ c ∈ cs, c.toNat < 0x80 ∧ set c = false) : encode set cs = cs := by
  induction cs with
  | nil => rfl
  | cons c r ih =>
    have hc := h c (by simp)
    have hr := ih fun d hd => h d (by simp [hd])
    unfold encode at hr ⊢
    rw [List.flatMap_cons, hr]
    simp [hc.1, hc.2]

end ModuleLoader.Text.Percent
