import StackSync.Archive.Crc32
import StackSync.Archive.Inflate

/-!
# Gzip members

A member is a header with optional parts, a compressed stream, and a checksum and size. Only the first member
of a file is read. The checksum is looked at only by a reader that reads to the end, so a stream says whether
it ends cleanly instead of failing as a whole.
-/

namespace StackSync.Archive

/-- Bytes that can be read, and whether the end of them is an end or a fault. -/
structure Stream where
  bytes : ByteArray
  isComplete : Bool

namespace Stream

def read? (s : Stream) (start size : Nat) : Option ByteArray :=
  if start + size ≤ s.bytes.size then some (s.bytes.extract start (start + size)) else none

end Stream

namespace Gzip

def byteAt (data : ByteArray) (i : Nat) : Option Nat := (data[i]?).map (·.toNat)

def littleEndian? (data : ByteArray) (start : Nat) : Nat → Option Nat
  | 0 => some 0
  | n + 1 => do
    let low ← byteAt data start
    return low + 256 * (← littleEndian? data (start + 1) n)

/-- The longest a name or a comment may be. -/
def maxTextLength : Nat := 65535

/-- The place behind the zero byte that ends a text. -/
def skipText? (data : ByteArray) (start : Nat) : Option Nat := do
  let size ← ((data.extract start (start + maxTextLength + 1)).toList.findIdx? (· == 0))
  return start + size + 1

/-- The place behind an optional part of the header. -/
def skipIf (present : Bool) (place : Nat) (skip : Nat → Option Nat) : Option Nat :=
  if present then skip place else some place

/-- The place behind a checksum of the header's first `place` bytes. -/
def skipChecksum? (data : ByteArray) (place : Nat) : Option Nat := do
  let sum ← littleEndian? data place 2
  if sum = (crc32 (data.extract 0 place)).toNat % 65536 then return place + 2 else none

/-- Where the compressed stream starts, if the header is one. -/
def header? (data : ByteArray) : Option Nat := do
  let magic ← littleEndian? data 0 3
  let flags ← byteAt data 3
  let _ ← byteAt data 9
  if magic ≠ 0x088B1F ∨ 32 ≤ flags then none
  else
    let flag := fun i => flags.testBit i
    let place ← skipIf (flag 2) 10 fun place => do
      let size ← littleEndian? data place 2
      if place + 2 + size ≤ data.size then return place + 2 + size else none
    let place ← skipIf (flag 3) place (skipText? data)
    let place ← skipIf (flag 4) place (skipText? data)
    skipIf (flag 1) place (skipChecksum? data)

/-- Whether checksum and size behind the stream are those of the output. -/
def trailerHolds (data : ByteArray) (place : Nat) (output : ByteArray) : Bool :=
  littleEndian? data place 4 == some (crc32 output).toNat &&
    littleEndian? data (place + 4) 4 == some (output.size % UInt32.size)

def decode (data : ByteArray) : Stream :=
  match header? data with
  | none => ⟨ByteArray.empty, false⟩
  | some start =>
    let result := Inflate.decode data start
    match result.ending with
    | .ok place => ⟨result.output, trailerHolds data place result.output⟩
    | .error _ => ⟨result.output, false⟩

end Gzip

end StackSync.Archive
