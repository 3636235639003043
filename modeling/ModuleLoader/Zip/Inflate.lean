/-
Expanding deflated data.

The data is a sequence of bits, least significant bit of a byte first, in blocks that are
stored, coded with fixed codes, or coded with codes that the block itself describes.  A
code is canonical: it is given by the lengths of its words alone.  Every step reads at
least one bit, so the number of bits bounds the number of steps.
-/

namespace ModuleLoader.Zip

/-- Why expansion stopped early. -/
inductive InflateFault where
  /-- The data ended. -/
  | cut
  /-- The data means nothing. -/
  | corrupt
  deriving Repr, DecidableEq

/-- A place among the bits of some bytes. -/
structure BitReader where
  bytes : ByteArray
  position : Nat := 0

namespace BitReader

/-- The next bit. -/
def bit (r : BitReader) : Except InflateFault (Nat × BitReader) :=
  match r.bytes[r.position / 8]? with
  | some b => .ok (b.toNat >>> (r.position % 8) % 2, { r with position := r.position + 1 })
  | none => .error .cut

/-- The number that the next bits spell, least significant bit first. -/
def bits : Nat → BitReader → Except InflateFault (Nat × BitReader)
  | 0, r => .ok (0, r)
  | n + 1, r => do
    let (low, r) ← r.bit
    let (high, r) ← bits n r
    return (low + 2 * high, r)

/-- The reader at the next byte boundary. -/
def align (r : BitReader) : BitReader := { r with position := (r.position + 7) / 8 * 8 }

end BitReader

/-- The greatest length of a code word. -/
def longestWord : Nat := 15

/-- A canonical code: how many words there are of each length from one on, and the symbols
in the order of their words. -/
structure PrefixCode where
  counts : List Nat
  symbols : Array Nat

namespace PrefixCode

/-- The code in which symbol `i` has a word of length `lengths[i]`; zero means no word. -/
def ofLengths (lengths : List Nat) : PrefixCode :=
  let byLength (n : Nat) := (lengths.zipIdx.filter fun (l, _) => l = n).map Prod.snd
  let groups := (List.range longestWord).map fun n => byLength (n + 1)
  ⟨groups.map List.length, groups.flatten.toArray⟩

/-- The share of all bit sequences that begin with a word, in units of 2⁻¹⁵. -/
def usage (code : PrefixCode) : Nat :=
  code.counts.zipIdx.foldl (fun sum (count, i) => sum + count * Nat.pow 2 (longestWord - 1 - i)) 0

/-- A code covers every bit sequence exactly once; one with a single word need not. -/
def isSound (code : PrefixCode) : Bool :=
  code.usage = Nat.pow 2 longestWord ||
    (code.symbols.size ≤ 1 && code.usage ≤ Nat.pow 2 longestWord)

/-- Reads one word.  `word` are the bits so far, `first` is the first word of their length
and `index` the number of shorter words. -/
def readFrom (symbols : Array Nat) (word first index : Nat) :
    List Nat → BitReader → Except InflateFault (Nat × BitReader)
  | [], _ => .error .corrupt
  | count :: counts, r => do
    let (b, r) ← r.bit
    let word := 2 * word + b
    if word < first + count then
      match symbols[index + (word - first)]? with
      | some symbol => return (symbol, r)
      | none => throw .corrupt
    else readFrom symbols word (2 * (first + count)) (index + count) counts r

/-- Reads one word and gives its symbol. -/
def read (code : PrefixCode) (r : BitReader) : Except InflateFault (Nat × BitReader) :=
  readFrom code.symbols 0 0 0 code.counts r

end PrefixCode

/-- The shortest copy of each length symbol from 257 on, and how many bits extend it. -/
def lengthTable : Array (Nat × Nat) :=
  #[(3, 0), (4, 0), (5, 0), (6, 0), (7, 0), (8, 0), (9, 0), (10, 0), (11, 1), (13, 1), (15, 1),
    (17, 1), (19, 2), (23, 2), (27, 2), (31, 2), (35, 3), (43, 3), (51, 3), (59, 3), (67, 4),
    (83, 4), (99, 4), (115, 4), (131, 5), (163, 5), (195, 5), (227, 5), (258, 0)]

/-- The shortest distance of each distance symbol, and how many bits extend it. -/
def distanceTable : Array (Nat × Nat) :=
  #[(1, 0), (2, 0), (3, 0), (4, 0), (5, 1), (7, 1), (9, 2), (13, 2), (17, 3), (25, 3), (33, 4),
    (49, 4), (65, 5), (97, 5), (129, 6), (193, 6), (257, 7), (385, 7), (513, 8), (769, 8),
    (1025, 9), (1537, 9), (2049, 10), (3073, 10), (4097, 11), (6145, 11), (8193, 12), (12289, 12),
    (16385, 13), (24577, 13)]

/-- The order in which the lengths of the code for lengths are written. -/
def lengthOrder : List Nat := [16, 17, 18, 0, 8, 7, 9, 6, 10, 5, 11, 4, 12, 3, 13, 2, 14, 1, 15]

/-- The fixed code for literals and lengths. -/
def fixedLiterals : PrefixCode :=
  .ofLengths (List.replicate 144 8 ++ List.replicate 112 9 ++ List.replicate 24 7 ++
    List.replicate 8 8)

/-- The fixed code for distances. -/
def fixedDistances : PrefixCode := .ofLengths (List.replicate 32 5)

/-- The bytes so far with `count` more, each a copy of the one `distance` before it. -/
def copyBack (out : ByteArray) (distance : Nat) : Nat → ByteArray
  | 0 => out
  | count + 1 => copyBack (out.push (out.get! (out.size - distance))) distance count

/-- The bytes of a block in these codes.  Data that ends leaves what was expanded. -/
def codedBlock (literals distances : PrefixCode) :
    Nat → ByteArray → BitReader → ByteArray × Except InflateFault BitReader
  | 0, out, _ => (out, .error .cut)
  | n + 1, out, r =>
    match literals.read r with
    | .error e => (out, .error e)
    | .ok (symbol, r) =>
      if symbol < 256 then codedBlock literals distances n (out.push symbol.toUInt8) r
      else if symbol = 256 then (out, .ok r)
      else
        let copy : Except InflateFault (Nat × Nat × BitReader) := do
          let some (length, extra) := lengthTable[symbol - 257]? | throw .corrupt
          let (more, r) ← r.bits extra
          let (symbol, r) ← distances.read r
          let some (distance, extra) := distanceTable[symbol]? | throw .corrupt
          let (farther, r) ← r.bits extra
          if distance + farther > out.size then throw .corrupt
          return (length + more, distance + farther, r)
        match copy with
        | .error e => (out, .error e)
        | .ok (length, distance, r) =>
          codedBlock literals distances n (copyBack out distance length) r

/-- The bytes of a stored block: its length, the complement of that, and the bytes. -/
def storedBlock (out : ByteArray) (r : BitReader) : ByteArray × Except InflateFault BitReader :=
  let header : Except InflateFault (Nat × BitReader) := do
    let (length, r) ← r.align.bits 16
    let (complement, r) ← r.bits 16
    if length + complement ≠ 0xFFFF then throw .corrupt
    return (length, r)
  match header with
  | .error e => (out, .error e)
  | .ok (length, r) =>
    let start := r.position / 8
    let out := out ++ r.bytes.extract start (start + length)
    if start + length ≤ r.bytes.size then
      (out, .ok { r with position := (start + length) * 8 })
    else (out, .error .cut)

/-- The lengths of code words, themselves coded: a length, or a run of the last length or
of zeros. -/
def readLengths (code : PrefixCode) (count : Nat) :
    Nat → List Nat → BitReader → Except InflateFault (List Nat × BitReader)
  | 0, _, _ => .error .corrupt
  | n + 1, lengths, r =>
    if lengths.length = count then .ok (lengths.reverse, r)
    else if lengths.length > count then .error .corrupt
    else do
      let (symbol, r) ← code.read r
      if symbol < 16 then readLengths code count n (symbol :: lengths) r
      else if symbol = 16 then do
        let some last := lengths.head? | throw .corrupt
        let (more, r) ← r.bits 2
        readLengths code count n (List.replicate (3 + more) last ++ lengths) r
      else if symbol = 17 then do
        let (more, r) ← r.bits 3
        readLengths code count n (List.replicate (3 + more) 0 ++ lengths) r
      else do
        let (more, r) ← r.bits 7
        readLengths code count n (List.replicate (11 + more) 0 ++ lengths) r

/-- The codes that a block describes. -/
def readCodes (r : BitReader) : Except InflateFault (PrefixCode × PrefixCode × BitReader) := do
  let (literalCount, r) ← r.bits 5
  let (distanceCount, r) ← r.bits 5
  let (lengthCount, r) ← r.bits 4
  let literalCount := literalCount + 257
  let distanceCount := distanceCount + 1
  if literalCount > 286 ∨ distanceCount > 30 then throw .corrupt
  let (written, r) ← (List.range (lengthCount + 4)).foldlM (fun (acc, r) _ => do
    let (n, r) ← r.bits 3
    return (acc ++ [n], r)) (([] : List Nat), r)
  let given := lengthOrder.zip written
  let code := PrefixCode.ofLengths ((List.range 19).map fun i => (given.lookup i).getD 0)
  if !code.isSound then throw .corrupt
  let total := literalCount + distanceCount
  let (lengths, r) ← readLengths code total (total + 1) [] r
  let literals := PrefixCode.ofLengths (lengths.take literalCount)
  let distances := PrefixCode.ofLengths (lengths.drop literalCount)
  if !literals.isSound || !distances.isSound then throw .corrupt
  return (literals, distances, r)

/-- The bytes of all blocks. -/
def blocks : Nat → ByteArray → BitReader → ByteArray × Except InflateFault Unit
  | 0, out, _ => (out, .error .cut)
  | n + 1, out, r =>
    let header : Except InflateFault (Nat × Nat × BitReader) := do
      let (final, r) ← r.bit
      let (kind, r) ← r.bits 2
      return (final, kind, r)
    match header with
    | .error e => (out, .error e)
    | .ok (final, kind, r) =>
      let steps := r.bytes.size * 8 + 1
      let (out, rest) :=
        if kind = 0 then storedBlock out r
        else if kind = 1 then codedBlock fixedLiterals fixedDistances steps out r
        else if kind = 2 then
          match readCodes r with
          | .error e => (out, .error e)
          | .ok (literals, distances, r) => codedBlock literals distances steps out r
        else (out, .error .corrupt)
      match rest with
      | .error e => (out, .error e)
      | .ok r => if final = 1 then (out, .ok ()) else blocks n out r

/-- The expanded bytes, as far as they go, and whether the data was whole. -/
def inflate (bytes : ByteArray) : ByteArray × Except InflateFault Unit :=
  blocks (bytes.size * 8 + 1) ByteArray.empty ⟨bytes, 0⟩

end ModuleLoader.Zip
