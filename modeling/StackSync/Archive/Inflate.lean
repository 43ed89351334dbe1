/-!
# Decompression

A compressed stream is a sequence of blocks of bits, the lowest bit of a byte first. A block is stored as it
is, or written in two prefix codes: one for literals and lengths, one for distances back into the output. The
decoder keeps the output it has when it fails, because a reader may not need more than that. Every symbol takes
at least one bit, so the number of bits bounds every loop.
-/

namespace StackSync.Archive.Inflate

inductive Fault where
  /-- The data ends within a block. -/
  | truncated
  | corrupt
  deriving DecidableEq, Repr

structure State where
  position : Nat
  output : ByteArray

/-- A step of the decoder; a fault keeps the state it arose in. -/
abbrev Decoder := EStateM Fault State

def bit (data : ByteArray) : Decoder Nat := do
  let position := (← get).position
  match data[position / 8]? with
  | none => throw .truncated
  | some b =>
    modify fun s => { s with position := s.position + 1 }
    return b.toNat >>> (position % 8) % 2

def bits (data : ByteArray) : Nat → Decoder Nat
  | 0 => return 0
  | n + 1 => do
    let low ← bit data
    return low + 2 * (← bits data n)

def emit (b : UInt8) : Decoder Unit := modify fun s => { s with output := s.output.push b }

/-- Copies one byte from `distance` bytes back; before the output there are zeros. -/
def copyByte (distance : Nat) : Decoder Unit :=
  modify fun s =>
    let b := if distance ≤ s.output.size then (s.output[s.output.size - distance]?).getD 0 else 0
    { s with output := s.output.push b }

def copy (distance : Nat) : Nat → Decoder Unit
  | 0 => return
  | n + 1 => do
    copyByte distance
    copy distance n

/-- A prefix code: how many symbols there are of each length, and the symbols in the order of their codes. -/
structure PrefixCode where
  counts : List Nat
  symbols : Array Nat

/-- The longest a code may be. -/
def maxLength : Nat := 15

/-- The code in which symbol `i` has length `lengths[i]`; unused symbols have length zero. It must use up all
words, unless it has no more than one symbol. -/
def PrefixCode.ofLengths? (lengths : List Nat) : Option PrefixCode :=
  let counts := (List.range (maxLength + 1)).drop 1 |>.map fun n => lengths.count n
  let total := counts.foldl (fun total n => 2 * (total + n)) 0
  let used := counts.foldl (· + ·) 0
  if total ≠ 1 <<< (maxLength + 1) ∧ 1 < used then none
  else
    let indexed := lengths.zipIdx
    let symbols := ((List.range (maxLength + 1)).drop 1).flatMap fun n =>
      (indexed.filter (·.1 == n)).map (·.2)
    some ⟨counts, symbols.toArray⟩

/-- Reads a symbol bit by bit: `first` is the first code of the length reached and `index` its symbol. -/
def symbolFrom (data : ByteArray) (symbols : Array Nat) (code first index : Nat) :
    List Nat → Decoder Nat
  | [] => throw .corrupt
  | count :: longer => do
    let code := code + (← bit data)
    if code < first + count then
      match symbols[index + (code - first)]? with
      | some s => return s
      | none => throw .corrupt
    else symbolFrom data symbols (2 * code) (2 * (first + count)) (index + count) longer

def symbol (data : ByteArray) (c : PrefixCode) : Decoder Nat :=
  symbolFrom data c.symbols 0 0 0 c.counts

/-- Length symbols: the shortest length and the number of extra bits. -/
def lengthTable : Array (Nat × Nat) := #[
  (3, 0), (4, 0), (5, 0), (6, 0), (7, 0), (8, 0), (9, 0), (10, 0), (11, 1), (13, 1), (15, 1), (17, 1),
  (19, 2), (23, 2), (27, 2), (31, 2), (35, 3), (43, 3), (51, 3), (59, 3), (67, 4), (83, 4), (99, 4),
  (115, 4), (131, 5), (163, 5), (195, 5), (227, 5), (258, 0)]

/-- Distance symbols: the shortest distance and the number of extra bits. -/
def distanceTable : Array (Nat × Nat) := #[
  (1, 0), (2, 0), (3, 0), (4, 0), (5, 1), (7, 1), (9, 2), (13, 2), (17, 3), (25, 3), (33, 4), (49, 4),
  (65, 5), (97, 5), (129, 6), (193, 6), (257, 7), (385, 7), (513, 8), (769, 8), (1025, 9), (1537, 9),
  (2049, 10), (3073, 10), (4097, 11), (6145, 11), (8193, 12), (12289, 12), (16385, 13), (24577, 13)]

/-- A length or a distance of a symbol. -/
def extended (data : ByteArray) (table : Array (Nat × Nat)) (s : Nat) : Decoder Nat :=
  match table[s]? with
  | some (base, extra) => do return base + (← bits data extra)
  | none => throw .corrupt

/-- The symbols of a block up to its end. -/
def codedBlock (data : ByteArray) (literals distances : PrefixCode) : Nat → Decoder Unit
  | 0 => throw .corrupt
  | fuel + 1 => do
    let s ← symbol data literals
    if s < 256 then
      emit s.toUInt8
      codedBlock data literals distances fuel
    else if s = 256 then return
    else
      let length ← extended data lengthTable (s - 257)
      let distance ← extended data distanceTable (← symbol data distances)
      copy distance length
      codedBlock data literals distances fuel

def storedBytes (data : ByteArray) : Nat → Decoder Unit
  | 0 => return
  | n + 1 => do
    emit (← bits data 8).toUInt8
    storedBytes data n

/-- From the next whole byte on: the size, its complement and the bytes. -/
def storedBlock (data : ByteArray) : Decoder Unit := do
  modify fun s => { s with position := (s.position + 7) / 8 * 8 }
  let size ← bits data 16
  let complement ← bits data 16
  if size + complement ≠ 65535 then throw .corrupt
  storedBytes data size

def fixedLiteralLengths : List Nat :=
  List.replicate 144 8 ++ List.replicate 112 9 ++ List.replicate 24 7 ++ List.replicate 8 8

def codeOf (lengths : List Nat) : Decoder PrefixCode :=
  match PrefixCode.ofLengths? lengths with
  | some c => return c
  | none => throw .corrupt

def lengthOrder : List Nat := [16, 17, 18, 0, 8, 7, 9, 6, 10, 5, 11, 4, 12, 3, 13, 2, 14, 1, 15]

def numbers (data : ByteArray) (width : Nat) : Nat → Decoder (List Nat)
  | 0 => return []
  | n + 1 => do
    let first ← bits data width
    return first :: (← numbers data width n)

/-- Lengths up to `total`, given so far in reverse; three symbols stand for repetitions. -/
def readLengths (data : ByteArray) (c : PrefixCode) (total : Nat) (done : List Nat) :
    Nat → Decoder (List Nat)
  | 0 => throw .corrupt
  | fuel + 1 => do
    if total ≤ done.length then
      if done.length = total then return done.reverse else throw .corrupt
    let s ← symbol data c
    if s < 16 then readLengths data c total (s :: done) fuel
    else if s = 16 then
      match done.head? with
      | none => throw .corrupt
      | some last =>
        let n := 3 + (← bits data 2)
        readLengths data c total (List.replicate n last ++ done) fuel
    else
      let n ← if s = 17 then (3 + ·) <$> bits data 3 else (11 + ·) <$> bits data 7
      readLengths data c total (List.replicate n 0 ++ done) fuel

/-- A block that begins with its own codes. -/
def dynamicBlock (data : ByteArray) (fuel : Nat) : Decoder Unit := do
  let literalCount := 257 + (← bits data 5)
  let distanceCount := 1 + (← bits data 5)
  let lengthCount := 4 + (← bits data 4)
  if 286 < literalCount ∨ 30 < distanceCount then throw .corrupt
  let given := lengthOrder.zip (← numbers data 3 lengthCount)
  let lengthCode ← codeOf ((List.range 19).map fun i => (given.lookup i).getD 0)
  let lengths ← readLengths data lengthCode (literalCount + distanceCount) [] fuel
  let literals ← codeOf (lengths.take literalCount)
  let distances ← codeOf (lengths.drop literalCount)
  codedBlock data literals distances fuel

/-- One block after another up to the last one. -/
def blocks (data : ByteArray) (fuel : Nat) : Nat → Decoder Unit
  | 0 => throw .corrupt
  | n + 1 => do
    let isLast ← bit data
    match ← bits data 2 with
    | 0 => storedBlock data
    | 1 =>
      codedBlock data (← codeOf fixedLiteralLengths) (← codeOf (List.replicate 30 5 ++ [5, 5])) fuel
    | 2 => dynamicBlock data fuel
    | _ => throw .corrupt
    if isLast = 1 then return else blocks data fuel n

/-- What a reader gets of compressed data. -/
structure Result where
  output : ByteArray
  /-- The byte behind the stream, or why it has no end. -/
  ending : Except Fault Nat

def window : Nat := 32768

/-- Decompresses the stream that starts at a byte. Where it ends early, all output up to there can be read;
where it is corrupt, the window with the fault in it is lost. -/
def decode (data : ByteArray) (start : Nat) : Result :=
  let fuel := 8 * data.size + 1
  match blocks data fuel fuel ⟨8 * start, ByteArray.empty⟩ with
  | .ok _ s => ⟨s.output, .ok ((s.position + 7) / 8)⟩
  | .error .truncated s => ⟨s.output, .error .truncated⟩
  | .error .corrupt s =>
    ⟨s.output.extract 0 (s.output.size / window * window), .error .corrupt⟩

end StackSync.Archive.Inflate
