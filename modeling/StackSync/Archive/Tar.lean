import StackSync.Archive.Gzip
import StackSync.Text.Blank
import StackSync.Text.Integer

/-!
# Tape archives

An archive is a row of 512-byte blocks: headers, and behind each the data of its member. A zero block ends it,
and so does the end of the stream at a block boundary. Names that do not fit into a header are given by members
that describe the next one: two kinds for a long name and a long link, and one for a list of attributes.
-/

namespace StackSync.Archive.Tar

def blockSize : Nat := 512

/-- A part of a member's data. -/
inductive Chunk where
  | data (start size : Nat)
  /-- Zeros that the archive does not hold. -/
  | gap (size : Nat)
  deriving Repr

structure Member where
  path : List UInt8
  link : Option (List UInt8)
  kind : Char
  /-- Whether the header is of the standard form, in which a name with a final slash may be a file's. -/
  isStandard : Bool
  chunks : List Chunk

structure Header where
  block : ByteArray

namespace Header

/-- A field, up to its first zero byte. -/
def text (h : Header) (start size : Nat) : List UInt8 :=
  (h.block.extract start (start + size)).toList.takeWhile (· ≠ 0)

def charAt (h : Header) (i : Nat) : Char := Char.ofNat ((h.block[i]?).getD 0).toNat

/-- Digits in base 8 within blanks; an optional `+` is no harm. -/
def octal? (h : Header) (start size : Nat) : Option Nat := do
  let trimmed ← (String.fromUTF8? ⟨(h.text start size).toArray⟩).map fun s => Text.trimChars s.toList
  let digits := match trimmed with
    | '+' :: rest => rest
    | s => s
  if digits.isEmpty then none
  else
    let value ← digits.foldlM (fun n c =>
      if '0' ≤ c ∧ c ≤ '7' then some (8 * n + Text.digitValue c) else none) 0
    if value < UInt64.size then some value else none

/-- The size of the member's data: in base 8, or in base 256 if the first bit is set. -/
def size? (h : Header) : Option Nat :=
  if 0x80 ≤ ((h.block[124]?).getD 0).toNat then
    some ((h.block.extract 128 136).toList.foldl (fun n b => 256 * n + b.toNat) 0)
  else h.octal? 124 12

/-- The sum of all bytes, with blanks in place of the checksum. -/
def sum (h : Header) : Nat :=
  ((h.block.extract 0 148).toList ++ List.replicate 8 0x20 ++ (h.block.extract 156 512).toList).foldl
    (fun (n : Nat) (b : UInt8) => n + b.toNat) 0

def isValid (h : Header) : Bool := (h.octal? 148 8).map (· % UInt32.size) == some h.sum

def magic (h : Header) : List UInt8 := (h.block.extract 257 265).toList

def isStandard (h : Header) : Bool := h.magic == "ustar\x0000".toUTF8.toList

def isGnu (h : Header) : Bool := h.magic == "ustar  \x00".toUTF8.toList

def kind (h : Header) : Char := if h.charAt 156 = '\x00' then '0' else h.charAt 156

/-- The name, in the standard form with a second field before it. -/
def path (h : Header) : List UInt8 :=
  let name := h.text 0 100
  let front := if h.isStandard then h.text 345 155 else []
  if front.isEmpty then name else front ++ 0x2F :: name

def link? (h : Header) : Option (List UInt8) :=
  let target := h.text 157 100
  if target.isEmpty then none else some target

end Header

/-- What preceding members say of the next one. -/
structure Described where
  longPath : Option (List UInt8)
  longLink : Option (List UInt8)
  attributes : Option (List UInt8)

namespace Described

def nothing : Described := ⟨none, none, none⟩

def isNothing (d : Described) : Bool :=
  d.longPath.isNone && d.longLink.isNone && d.attributes.isNone

end Described

def lines (bytes : List UInt8) : List (List UInt8) :=
  match bytes with
  | [] => []
  | b :: rest =>
    if b = 0x0A then []
    else
      let line := (b :: rest).takeWhile (· ≠ 0x0A)
      line :: lines ((b :: rest).drop (line.length + 1))
  termination_by bytes.length
  decreasing_by simp only [List.length_drop, List.length_cons]; omega

/-- The key and value of a line, if its length is the one it gives. -/
def attribute? (line : List UInt8) : Option (List UInt8 × List UInt8) := do
  let number := line.takeWhile (· ≠ 0x20)
  if number.length = line.length then none
  else
    let size ← Text.readNat? (UInt64.size - 1) (String.ofList (number.map fun b => Char.ofNat b.toNat))
    let pair := line.drop (number.length + 1)
    let key := pair.takeWhile (· ≠ 0x3D)
    if size ≠ line.length + 1 ∨ key.length = pair.length then none
    else some (key, pair.drop (key.length + 1))

/-- The first value of a key; lines that are no attributes are skipped. -/
def attributeOf? (key : String) (bytes : List UInt8) : Option (List UInt8) :=
  ((lines bytes).filterMap attribute?).lookup key.toUTF8.toList

/-- The size in a list of attributes, if all lines before it can be read. -/
def sizeOf? : List (List UInt8) → Option Nat
  | [] => none
  | line :: rest => do
    let (key, value) ← attribute? line
    if key = "size".toUTF8.toList then
      Text.readNat? (UInt64.size - 1) (← String.fromUTF8? ⟨value.toArray⟩)
    else sizeOf? rest

/-- A member as its header alone describes it. -/
structure Raw where
  header : Header
  start : Nat
  size : Nat
  next : Nat

inductive Fault where
  | malformed
  deriving DecidableEq, Repr

/-- The member whose header is at a place: none at the end of the archive. -/
def raw? (s : Stream) (place : Nat) (attributes : Option (List UInt8)) : Except Fault (Option Raw) :=
  if s.bytes.size < place then .error .malformed
  else if s.bytes.size = place then (if s.isComplete then .ok none else .error .malformed)
  else
    match s.read? place blockSize with
    | none => .error .malformed
    | some block =>
      let header : Header := ⟨block⟩
      if block.toList.all (· == 0) then .ok none
      else if !header.isValid then .error .malformed
      else
        match header.size? with
        | none => .error .malformed
        | some given =>
          let size := if given = 0 then (attributes.bind fun a => sizeOf? (lines a)).getD 0 else given
          let start := place + blockSize
          let next := start + (size + blockSize - 1) / blockSize * blockSize
          if UInt64.size ≤ size + blockSize - 1 ∨ UInt64.size ≤ next then .error .malformed
          else .ok (some ⟨header, start, size, next⟩)

/-- The bytes of a describing member, as many as there are. -/
def describing (s : Stream) (r : Raw) : Except Fault (List UInt8) :=
  if r.start + r.size ≤ s.bytes.size ∨ s.isComplete then
    .ok (s.bytes.extract r.start (r.start + r.size)).toList
  else .error .malformed

def withoutFinalZero (bytes : List UInt8) : List UInt8 :=
  if bytes.getLast? = some 0 then bytes.dropLast else bytes

/-- The chunks of a sparse member: each entry of its map is a place and a size. -/
structure Sparse where
  chunks : List Chunk
  position : Nat
  listed : Nat

namespace Sparse

/-- Adds the entry of the map that starts at a byte of a block. -/
def add (total dataStart : Nat) (block : Header) (sp : Sparse) (entry : Nat) : Except Fault Sparse := do
  if block.charAt entry = '\x00' ∨ block.charAt (entry + 12) = '\x00' then return sp
  match block.octal? entry 12, block.octal? (entry + 12) 12 with
  | some place, some size =>
    if (size ≠ 0 ∧ sp.listed % blockSize ≠ 0) ∨ place < sp.position ∨ total < sp.listed + size ∨
        UInt64.size ≤ place + size then throw .malformed
    let gap := if sp.position < place then [Chunk.gap (place - sp.position)] else []
    return {
      chunks := sp.chunks ++ gap ++ [.data (dataStart + sp.listed) size]
      position := place + size
      listed := sp.listed + size }
  | _, _ => throw .malformed

/-- How many more blocks of the map follow, given whether there is another. -/
def extensions (s : Stream) (place : Nat) (more : Bool) : Nat → Except Fault (List Header)
  | 0 => .error .malformed
  | fuel + 1 =>
    if !more then .ok []
    else
      match s.read? place blockSize with
      | none => .error .malformed
      | some block => do
        let header : Header := ⟨block⟩
        let rest ← extensions s (place + blockSize) (header.charAt 504 = '\x01') fuel
        return header :: rest

def read (s : Stream) (r : Raw) : Except Fault (List Chunk × Nat) := do
  if !r.header.isGnu then throw .malformed
  let more ← extensions s r.start (r.header.charAt 482 = '\x01') (s.bytes.size / blockSize + 2)
  let dataStart := r.start + blockSize * more.length
  let first ← ((List.range 4).map fun i => 386 + 24 * i).foldlM (add r.size dataStart r.header)
    ⟨[], 0, 0⟩
  let last ← more.foldlM (fun sp block =>
    ((List.range 21).map (24 * ·)).foldlM (add r.size dataStart block) sp) first
  if r.header.octal? 483 12 ≠ some last.position ∨ last.listed ≠ r.size then throw .malformed
  return (last.chunks, more.length)

end Sparse

/-- A member with everything that has been said of it. -/
def member (r : Raw) (d : Described) (chunks : List Chunk) : Member where
  path :=
    match d.longPath with
    | some path => withoutFinalZero path
    | none => (d.attributes.bind (attributeOf? "path")).getD r.header.path
  link :=
    match d.longLink with
    | some link => some (withoutFinalZero link)
    | none => d.attributes.bind (attributeOf? "linkpath") <|> r.header.link?
  kind := r.header.kind
  isStandard := r.header.isStandard
  chunks := chunks

/-- The members from a place on, and the fault that ends them, if it is one. -/
def membersFrom (s : Stream) : Nat → Nat → Described → List Member × Option Fault
  | 0, _, _ => ([], some .malformed)
  | fuel + 1, place, d =>
    match raw? s place d.attributes with
    | .error fault => ([], some fault)
    | .ok none => ([], if d.isNothing then none else some .malformed)
    | .ok (some r) =>
      let describes := r.header.isStandard || r.header.isGnu
      let describe := fun (known : Option (List UInt8)) (set : List UInt8 → Described) =>
        match known, describing s r with
        | none, .ok bytes => membersFrom s fuel r.next (set bytes)
        | _, _ => ([], some Fault.malformed)
      if describes && r.header.kind == 'L' then describe d.longPath fun b => { d with longPath := some b }
      else if describes && r.header.kind == 'K' then
        describe d.longLink fun b => { d with longLink := some b }
      else if describes && r.header.kind == 'x' then
        describe d.attributes fun b => { d with attributes := some b }
      else if r.header.kind == 'S' then
        match Sparse.read s r with
        | .error fault => ([], some fault)
        | .ok (chunks, extensions) =>
          let (more, fault) := membersFrom s fuel (r.next + blockSize * extensions) .nothing
          (member r d chunks :: more, fault)
      else
        let (more, fault) := membersFrom s fuel r.next .nothing
        (member r d [.data r.start r.size] :: more, fault)

/-- The members of an archive up to its end or a fault. Every one takes a block at least. -/
def members (s : Stream) : List Member × Option Fault :=
  membersFrom s (s.bytes.size / blockSize + 2) 0 .nothing

end StackSync.Archive.Tar
