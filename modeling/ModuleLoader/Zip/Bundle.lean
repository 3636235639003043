import ModuleLoader.IoError
import ModuleLoader.Text.Utf8
import ModuleLoader.Zip.Crc
import ModuleLoader.Zip.Inflate

/-
Zip bundles.

A bundle ends in a record that tells where its directory is.  The directory names the
entries and tells where the data of each begins.  Bytes may stand before the first entry:
the directory then lies later than the end record says, and so does all data, by the same
distance.  Of two entries with one name the last one counts.
-/

namespace ModuleLoader.Zip

open Text

/-- The number in `count` bytes from `position` on, least significant byte first. -/
def number? (bytes : ByteArray) (position : Nat) : Nat → Option Nat
  | 0 => some 0
  | count + 1 => do
    let low ← bytes[position]?
    let high ← number? bytes (position + 1) count
    return low.toNat + 256 * high

/-- Begins the end record. -/
def endSignature : Nat := 0x06054b50

/-- Begins an entry of the directory. -/
def directorySignature : Nat := 0x02014b50

/-- Begins an entry's data. -/
def dataSignature : Nat := 0x04034b50

/-- An entry of the directory. -/
structure Entry where
  name : String
  method : Nat
  encrypted : Bool
  checksum : Nat
  packedSize : Nat
  /-- Where the header of the data begins. -/
  start : Nat
  deriving Repr, DecidableEq

/-- A bundle: its entries in the order of their first mention, and its bytes. -/
structure Bundle where
  label : String
  bytes : ByteArray
  entries : List Entry

/-- The characters of the bytes from 128 on in names that are not marked as UTF-8. -/
def highCharacters : Array Char :=
  ("ÇüéâäàåçêëèïîìÄÅÉæÆôöòûùÿÖÜ¢£¥₧ƒáíóúñÑªº¿⌐¬½¼¡«»░▒▓│┤╡╢╖╕╣║╗╝╜╛┐└┴┬├─┼╞╟╚╔╩╦╠═╬╧╨╤╥╙╘╒╓╫╪" ++
    "┘┌█▄▌▐▀αßΓπΣσµτΦΘΩδ∞φε∩≡±≥≤⌠⌡÷≈°∙·√ⁿ²■\u00A0").toList.toArray

/-- A name of an entry. -/
def nameOf (markedUtf8 : Bool) (bytes : List UInt8) : String :=
  if markedUtf8 then String.ofList (Utf8.decodeLossy bytes)
  else String.ofList (bytes.map fun b =>
    if b < 0x80 then Char.ofNat b.toNat else highCharacters.getD (b.toNat - 0x80) '\uFFFD')

/-- The place of the end record: the last one whose comment fits. -/
def endRecord? (bytes : ByteArray) : Option Nat :=
  ((List.range bytes.size).reverse).find? fun position =>
    number? bytes position 4 = some endSignature &&
      match number? bytes (position + 20) 2 with
      | some commentLength => position + 22 + commentLength ≤ bytes.size
      | none => false

/-- The entry of the directory at a position and the position after it.  `shift` is the
number of bytes before the first entry. -/
def directoryEntry? (bytes : ByteArray) (shift position : Nat) : Option (Entry × Nat) := do
  let signature ← number? bytes position 4
  if signature ≠ directorySignature then none
  let flags ← number? bytes (position + 8) 2
  let method ← number? bytes (position + 10) 2
  let checksum ← number? bytes (position + 16) 4
  let packedSize ← number? bytes (position + 20) 4
  let nameLength ← number? bytes (position + 28) 2
  let extraLength ← number? bytes (position + 30) 2
  let commentLength ← number? bytes (position + 32) 2
  let start ← number? bytes (position + 42) 4
  let next := position + 46 + nameLength + extraLength + commentLength
  if next > bytes.size then none
  -- Method 99 needs a description of its encryption, which is not supported.
  if method = 99 then none
  let name := bytes.extract (position + 46) (position + 46 + nameLength)
  return ({
    name := nameOf (flags >>> 11 % 2 = 1) name.toList
    method := method
    encrypted := flags % 2 = 1
    checksum := checksum
    packedSize := packedSize
    start := start + shift }, next)

/-- So many entries of the directory from a position on. -/
def directory? (bytes : ByteArray) (shift : Nat) : Nat → Nat → Option (List Entry)
  | 0, _ => some []
  | count + 1, position => do
    let (entry, position) ← directoryEntry? bytes shift position
    let entries ← directory? bytes shift count position
    return entry :: entries

/-- The entries with the last one of each name in the place of the first. -/
def lastOfEachName (entries : List Entry) : List Entry :=
  entries.foldl (fun kept entry =>
    if kept.any (·.name = entry.name) then
      kept.map fun k => if k.name = entry.name then entry else k
    else kept ++ [entry]) []

/-- Where the directory begins and by how much all places are shifted. -/
def directoryStart? (bytes : ByteArray) (endPosition count size offset : Nat) :
    Option (Nat × Nat) :=
  let begins (position : Nat) := number? bytes position 4 = some directorySignature
  if count = 0 then
    if size + offset ≤ endPosition then some (endPosition - size, endPosition - size - offset)
    else none
  else if size + offset ≤ endPosition && begins (endPosition - size) then
    some (endPosition - size, endPosition - size - offset)
  else if begins offset then some (offset, 0)
  else none

namespace Bundle

/-- The bundle that some bytes hold. -/
def ofBytes? (label : String) (bytes : ByteArray) : Option Bundle := do
  let position ← endRecord? bytes
  let disk ← number? bytes (position + 4) 2
  let directoryDisk ← number? bytes (position + 6) 2
  if disk ≠ directoryDisk then none
  let count ← number? bytes (position + 10) 2
  let size ← number? bytes (position + 12) 4
  let offset ← number? bytes (position + 16) 4
  let (start, shift) ← directoryStart? bytes position count size offset
  let entries ← directory? bytes shift count start
  return ⟨label, bytes, lastOfEachName entries⟩

/-- The bundle that some bytes hold, or the reason why they hold none. -/
def ofBytes (label : String) (bytes : ByteArray) : Except IoError Bundle :=
  match ofBytes? label bytes with
  | some bundle => .ok bundle
  | none => .error (.badBundle "Could not find EOCD")

/-- The number of entries. -/
def size (bundle : Bundle) : Nat := bundle.entries.length

/-- The data of an entry as it is stored. -/
def packed (bundle : Bundle) (entry : Entry) : Except IoError ByteArray :=
  match number? bundle.bytes entry.start 4, number? bundle.bytes (entry.start + 26) 2,
    number? bundle.bytes (entry.start + 28) 2 with
  | some signature, some nameLength, some extraLength =>
    if signature = dataSignature then
      let start := entry.start + 30 + nameLength + extraLength
      .ok (bundle.bytes.extract start (start + entry.packedSize))
    else .error (.badBundle "Invalid local file header")
  | _, _, _ => .error (.badBundle "Invalid local file header")

/-- Some bytes, if they have this checksum. -/
def checked (checksum : Nat) (bytes : ByteArray) : Except IoError ByteArray :=
  if (crc32 bytes).toNat = checksum then .ok bytes else .error .badChecksum

/-- Whether entries stored by this method can be read. -/
def isKnownMethod (method : Nat) : Bool := method = 0 || method = 8

/-- The data of an entry that is neither encrypted nor stored by an unknown method. -/
def readable (bundle : Bundle) (entry : Entry) : Except IoError ByteArray := do
  if entry.encrypted then throw .passwordRequired
  let data ← bundle.packed entry
  if !isKnownMethod entry.method then throw .unknownMethod
  return data

/-- The bytes that an entry's data stands for. -/
def expand (entry : Entry) (data : ByteArray) : Except IoError ByteArray :=
  if entry.method = 0 then checked entry.checksum data
  else
    match inflate data with
    | (_, .error .corrupt) => .error .corruptStream
    | (out, _) => checked entry.checksum out

/-- A name of a directory. -/
def namesDirectory (name : String) : Bool :=
  name.toList.getLast? = some '/' || name.toList.getLast? = some '\\'

/-- Opens an entry.  Slashes before the name do not count, and directories have no bytes. -/
def open? (bundle : Bundle) (name : String) : Except IoError (Option ByteArray) :=
  let name := String.ofList (name.toList.dropWhile (· = '/'))
  match bundle.entries.find? fun entry => entry.name = name with
  | none => .ok none
  | some entry => do
    let data ← bundle.readable entry
    if namesDirectory entry.name then return none
    return some (← expand entry data)

end Bundle

end ModuleLoader.Zip
