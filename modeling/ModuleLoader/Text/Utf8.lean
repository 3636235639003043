/-
UTF-8 read byte by byte.

A byte sequence is cut into characters and ill-formed parts.  An ill-formed part is the
longest beginning of a sequence that could still have become a character, so it is one to
three bytes long; a sequence that the end of input cuts short is told apart, because more
bytes might have completed it.
-/

namespace ModuleLoader.Text.Utf8

/-- Where well-formed text stops: at `index`, with an ill-formed part of `width` bytes, or
with a sequence that the end of input cut short. -/
structure Fault where
  index : Nat
  width : Option Nat
  deriving Repr, DecidableEq

/-- A fault in words. -/
def Fault.message (fault : Fault) : String :=
  match fault.width with
  | some width => s!"invalid utf-8 sequence of {width} bytes from index {fault.index}"
  | none => s!"incomplete utf-8 byte sequence from index {fault.index}"

/-- One step of reading. -/
inductive Piece where
  | char (c : Char)
  | illFormed (width : Nat)
  | cutShort
  deriving Repr, DecidableEq

/-- How many bytes a sequence has that begins with this byte; zero if none does. -/
def width (lead : UInt8) : Nat :=
  if lead < 0x80 then 1
  else if lead < 0xC2 then 0
  else if lead < 0xE0 then 2
  else if lead < 0xF0 then 3
  else if lead < 0xF5 then 4
  else 0

/-- Bytes inside a sequence. -/
def continues (b : UInt8) : Bool := 0x80 ≤ b && b < 0xC0

/-- The second byte also rules out overlong forms, surrogates and values past the last
code point. -/
def seconds (lead second : UInt8) : Bool :=
  continues second &&
    (lead != 0xE0 || 0xA0 ≤ second) && (lead != 0xED || second < 0xA0) &&
    (lead != 0xF0 || 0x90 ≤ second) && (lead != 0xF4 || second < 0x90)

/-- The code point spelled by the payload bits of a sequence. -/
def assemble (leadBits : UInt8) (rest : List UInt8) : Char :=
  Char.ofNat (rest.foldl (fun n b => n * 64 + (b &&& 0x3F).toNat) leadBits.toNat)

/-- Reads one piece; the bytes that it leaves are returned. -/
def next (lead : UInt8) (r : List UInt8) : Piece × List UInt8 :=
  match width lead, r with
  | 1, r => (.char (assemble lead []), r)
  | 2, b :: r =>
    if seconds lead b then (.char (assemble (lead &&& 0x1F) [b]), r) else (.illFormed 1, b :: r)
  | 3, b :: r =>
    if seconds lead b then
      match r with
      | c :: r =>
        if continues c then (.char (assemble (lead &&& 0x0F) [b, c]), r) else (.illFormed 2, c :: r)
      | [] => (.cutShort, [])
    else (.illFormed 1, b :: r)
  | 4, b :: r =>
    if seconds lead b then
      match r with
      | c :: r =>
        if continues c then
          match r with
          | d :: r =>
            if continues d then (.char (assemble (lead &&& 0x07) [b, c, d]), r)
            else (.illFormed 3, d :: r)
          | [] => (.cutShort, [])
        else (.illFormed 2, c :: r)
      | [] => (.cutShort, [])
    else (.illFormed 1, b :: r)
  | 0, r => (.illFormed 1, r)
  | _, [] => (.cutShort, [])
  | _, r => (.illFormed 1, r)

/-- Every step consumes its lead byte at least. -/
theorem next_length (lead : UInt8) (r : List UInt8) : (next lead r).2.length ≤ r.length := by
  unfold next
  split <;> (repeat' split) <;> simp_all <;> omega

/-- The pieces of a byte sequence in order. -/
def pieces : List UInt8 → List Piece
  | [] => []
  | lead :: r => (next lead r).1 :: pieces (next lead r).2
termination_by bytes => bytes.length
decreasing_by
  have := next_length lead r
  simp only [List.length_cons]; omega

/-- Every ill-formed part becomes one replacement character. -/
def decodeLossy (bytes : List UInt8) : List Char :=
  (pieces bytes).map fun
    | .char c => c
    | _ => '\uFFFD'

/-- The number of bytes a well-formed character takes. -/
def charWidth (c : Char) : Nat := c.utf8Size

/-- The first ill-formed part among pieces that begin at `index`. -/
def firstFault (index : Nat) : List Piece → Option Fault
  | [] => none
  | .char c :: rest => firstFault (index + charWidth c) rest
  | .illFormed width :: _ => some ⟨index, some width⟩
  | .cutShort :: _ => some ⟨index, none⟩

/-- Where `bytes` stop being text. -/
def fault (bytes : List UInt8) : Fault :=
  (firstFault 0 (pieces bytes)).getD ⟨bytes.length, none⟩

/-- Well-formed bytes as text; otherwise the place of the first fault. -/
def decode (bytes : ByteArray) : Except Fault String :=
  match String.fromUTF8? bytes with
  | some text => .ok text
  | none => .error (fault bytes.toList)

/-- Text as bytes. -/
def encode (text : List Char) : List UInt8 := text.flatMap String.utf8EncodeChar

theorem decode_toUTF8 (text : String) : decode text.toUTF8 = .ok text := by
  have h : text.toUTF8.IsValidUTF8 := text.isValidUTF8
  unfold decode String.fromUTF8?
  rw [dif_pos h]
  rfl

end ModuleLoader.Text.Utf8
