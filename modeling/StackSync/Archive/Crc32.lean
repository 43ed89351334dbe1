/-!
# Checksums of compressed data

The cyclic redundancy check of a gzip member, with the reflected polynomial `0xEDB88320`.
-/

namespace StackSync.Archive

def crcPolynomial : UInt32 := 0xEDB88320

/-- The remainder of one byte. -/
def crcOfByte (n : Nat) : UInt32 :=
  (List.range 8).foldl
    (fun c _ => if c &&& 1 = 1 then crcPolynomial ^^^ (c >>> 1) else c >>> 1) n.toUInt32

def crcTable : Array UInt32 := (Array.range 256).map crcOfByte

def crc32 (data : ByteArray) : UInt32 :=
  (data.foldl (fun (c : UInt32) b =>
    (crcTable[((c ^^^ b.toUInt32) &&& 0xFF).toNat]?).getD 0 ^^^ (c >>> 8)) 0xFFFFFFFF) ^^^ 0xFFFFFFFF

end StackSync.Archive
