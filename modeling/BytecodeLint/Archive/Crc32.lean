/-!
# CRC-32

The cyclic redundancy check of zip archives: the reflected polynomial `EDB88320`, starting from and
ending with the complement. It is a fold of one step per byte.
-/

namespace BytecodeLint.Archive

/-- One bit of the division by the polynomial. -/
def crcBit (r : UInt32) : UInt32 :=
  if r &&& 1 = 1 then (r >>> 1) ^^^ 0xedb88320 else r >>> 1

def crcTable : Array UInt32 :=
  (Array.range 256).map fun n => Nat.repeat crcBit 8 (UInt32.ofNat n)

def crcByte (r : UInt32) (b : UInt8) : UInt32 :=
  (r >>> 8) ^^^ crcTable.getD ((r ^^^ b.toUInt32) &&& 0xff).toNat 0

def crc32 (data : ByteArray) : UInt32 :=
  data.foldl crcByte 0xffffffff ^^^ 0xffffffff

end BytecodeLint.Archive
