/-!
# Cyclic redundancy check

The 32-bit check sum of archives, with the reflected polynomial 0xEDB88320.
-/

set_option autoImplicit false

namespace BooleanRetrieval.Archive

/-- One division step of the check sum register. -/
def crcStep (register : UInt32) : UInt32 :=
  if register &&& 1 = 1 then (register >>> 1) ^^^ 0xEDB88320 else register >>> 1

/-- The register after one more byte. -/
def crcByte (register : UInt32) (b : UInt8) : UInt32 :=
  (8 : Nat).repeat crcStep (register ^^^ b.toUInt32)

/-- The check sum of bytes. -/
def crc32 (bytes : List UInt8) : UInt32 :=
  bytes.foldl crcByte 0xFFFFFFFF ^^^ 0xFFFFFFFF

end BooleanRetrieval.Archive
