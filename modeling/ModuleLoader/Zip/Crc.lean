/-
The checksum of a bundle's entries: the CRC-32 with the reflected polynomial EDB88320.
-/

namespace ModuleLoader.Zip

/-- One bit of division by the polynomial. -/
def crcStep (r : UInt32) : UInt32 :=
  if r &&& 1 = 1 then (r >>> 1) ^^^ 0xEDB88320 else r >>> 1

/-- The register after one byte. -/
def crcByte (r : UInt32) (b : UInt8) : UInt32 :=
  (List.range 8).foldl (fun r _ => crcStep r) (r ^^^ b.toUInt32)

/-- The checksum of some bytes. -/
def crc32 (bytes : ByteArray) : UInt32 := bytes.foldl crcByte 0xFFFFFFFF ^^^ 0xFFFFFFFF

end ModuleLoader.Zip
