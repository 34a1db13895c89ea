/-!
# The CRC-32 Checksum

The cyclic redundancy check with the reflected polynomial `0xEDB88320`, as it is used to turn a name
into a number.
-/

namespace TickCircuit.Random

/-- One bit of the division by the polynomial. -/
def checksumBit (crc : UInt32) : UInt32 :=
  if crc &&& 1 == 1 then (crc >>> 1) ^^^ 0xEDB88320 else crc >>> 1

/-- The checksum after one more byte. -/
def checksumByte (crc : UInt32) (byte : UInt8) : UInt32 :=
  (List.range 8).foldl (fun crc _ => checksumBit crc) (crc ^^^ byte.toUInt32)

/-- The checksum of bytes. -/
def checksum (bytes : List UInt8) : UInt32 :=
  bytes.foldl checksumByte 0xFFFFFFFF ^^^ 0xFFFFFFFF

/-- The checksum of the UTF-8 bytes of a text. -/
def textChecksum (s : String) : UInt32 := checksum s.toUTF8.toList

end TickCircuit.Random
