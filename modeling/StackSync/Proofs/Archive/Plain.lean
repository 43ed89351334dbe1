import StackSync.Archive.Tar
import StackSync.Text.Lossy

/-!
# Plain archives

Compressed data may hold a block as it is, and such a block is read byte for byte, although the
decoder takes it bit by bit (`decode_of_stored`). So content can be put into a file without any
compression, and it is what comes out again (`bytes_stored`). If it is an archive of a header, some
data and a zero block, the archive has the one member the header describes (`members_of_single`).
-/

namespace StackSync

/-! ## Bytes -/

theorem toList_loop_eq (b : ByteArray) (i : Nat) (done : List UInt8) :
    ByteArray.toList.loop b i done = done.reverse ++ b.data.toList.drop i := by
  induction hn : b.size - i generalizing i done with
  | zero =>
    rw [ByteArray.toList.loop, if_neg (by omega), List.drop_eq_nil_of_le, List.append_nil]
    rw [Array.length_toList]
    exact Nat.le_of_sub_eq_zero hn
  | succ n ih =>
    have hi : i < b.data.toList.length := by
      rw [Array.length_toList]
      show i < b.size
      omega
    have hget : b.get! i = b.data.toList[i] :=
      getElem!_pos b.data i (by rwa [Array.length_toList] at hi)
    rw [ByteArray.toList.loop, if_pos (by omega), ih _ _ (by omega), List.drop_eq_getElem_cons hi,
      hget]
    simp

theorem toList_eq_data (b : ByteArray) : b.toList = b.data.toList := by
  rw [ByteArray.toList, toList_loop_eq]
  rfl

theorem eq_of_toList_eq {b b' : ByteArray} (h : b.toList = b'.toList) : b = b' := by
  rw [toList_eq_data, toList_eq_data] at h
  exact ByteArray.ext (Array.toList_inj.1 h)

theorem toList_extract (b : ByteArray) (start stop : Nat) :
    (b.extract start stop).toList = (b.toList.drop start).take (stop - start) := by
  rw [toList_eq_data, toList_eq_data, ByteArray.data_extract, Array.toList_extract]

theorem getElem?_eq_toList (b : ByteArray) (i : Nat) : b[i]? = b.toList[i]? := by
  rw [toList_eq_data, Array.getElem?_toList]
  by_cases h : i < b.size
  · rw [getElem?_pos b i h, getElem?_pos b.data i h]
    rfl
  · rw [getElem?_neg b i h, getElem?_neg b.data i h]

/-- A number in so many bytes, the lowest first. -/
def littleEndian (n : Nat) : Nat → List UInt8
  | 0 => []
  | width + 1 => n.toUInt8 :: littleEndian (n / 256) width

theorem littleEndian_two {n : Nat} (h : n < 65536) :
    ∃ low high, littleEndian n 2 = [low, high] ∧ low.toNat + 256 * high.toNat = n := by
  refine ⟨n.toUInt8, (n / 256).toUInt8, rfl, ?_⟩
  rw [UInt8.toNat_ofNat', UInt8.toNat_ofNat']
  omega

namespace Archive.Inflate

variable {data output : ByteArray} {q : Nat} {b : UInt8}

/-! ## Bits of whole bytes -/

theorem bind_of_ok {α β : Type} {x : Decoder α} {f : α → Decoder β} {s s' : State} {a : α}
    (h : x s = .ok a s') : (x >>= f) s = f a s' := by
  show EStateM.bind x f s = _
  unfold EStateM.bind
  rw [h]

theorem bit_of_byte {i : Nat} (hb : data[q]? = some b) (hi : i < 8) :
    bit data ⟨8 * q + i, output⟩ = .ok (b.toNat >>> i % 2) ⟨8 * q + i + 1, output⟩ := by
  have hbyte : (8 * q + i) / 8 = q := by omega
  have hbit : (8 * q + i) % 8 = i := by omega
  have hget : (get : Decoder State) ⟨8 * q + i, output⟩ =
      .ok ⟨8 * q + i, output⟩ ⟨8 * q + i, output⟩ := rfl
  refine (bind_of_ok hget).trans ?_
  dsimp only
  rw [hbyte, hb, hbit]
  rfl

/-- The bits of a byte from one of them on, and then those of the next bytes. -/
theorem bits_of_byte {k n v : Nat} {s : State} (hb : data[q]? = some b) (hk : k ≤ 8)
    (hrest : bits data n ⟨8 * (q + 1), output⟩ = .ok v s) :
    bits data (k + n) ⟨8 * q + (8 - k), output⟩ = .ok (b.toNat >>> (8 - k) + v <<< k) s := by
  induction k with
  | zero =>
    have hzero : b.toNat >>> 8 = 0 := Nat.shiftRight_eq_zero _ _ b.toNat_lt
    rw [Nat.zero_add, Nat.sub_zero, hzero, Nat.shiftLeft_zero, Nat.zero_add]
    exact hrest
  | succ k ih =>
    have hnext : 8 * q + (8 - (k + 1)) + 1 = 8 * q + (8 - k) := by omega
    have hlast : 8 - k = 8 - (k + 1) + 1 := by omega
    have hhalf : b.toNat >>> (8 - k) = b.toNat >>> (8 - (k + 1)) / 2 := by
      rw [hlast, Nat.shiftRight_succ]
    rw [Nat.add_right_comm, bits, bind_of_ok (bit_of_byte hb (by omega)), hnext,
      bind_of_ok (ih (by omega)), hhalf, Nat.shiftLeft_succ]
    show EStateM.Result.ok _ _ = _
    congr 1
    generalize b.toNat >>> (8 - (k + 1)) = byte
    generalize v <<< k = more
    omega

theorem bits_eight (hb : data[q]? = some b) :
    bits data 8 ⟨8 * q, output⟩ = .ok b.toNat ⟨8 * (q + 1), output⟩ := by
  have hnone : bits data 0 ⟨8 * (q + 1), output⟩ = .ok 0 ⟨8 * (q + 1), output⟩ := rfl
  simpa using bits_of_byte hb (Nat.le_refl 8) hnone

theorem bits_sixteen {b' : UInt8} (hb : data[q]? = some b) (hb' : data[q + 1]? = some b') :
    bits data 16 ⟨8 * q, output⟩ = .ok (b.toNat + 256 * b'.toNat) ⟨8 * (q + 2), output⟩ := by
  simpa [Nat.shiftLeft_eq, Nat.mul_comm] using bits_of_byte hb (Nat.le_refl 8) (bits_eight hb')

/-! ## Stored blocks -/

theorem storedBytes_run (n : Nat) (h : q + n ≤ data.size) :
    ∃ out : ByteArray, storedBytes data n ⟨8 * q, output⟩ = .ok () ⟨8 * (q + n), out⟩ ∧
      out.toList = output.toList ++ (data.toList.drop q).take n := by
  induction n generalizing q output with
  | zero => exact ⟨output, rfl, by simp⟩
  | succ n ih =>
    have hq : q < data.size := by omega
    obtain ⟨out, hrun, hout⟩ := @ih (output.push data[q]) (q + 1) (by omega)
    have hnext : 8 * (q + (n + 1)) = 8 * (q + 1 + n) := by omega
    refine ⟨out, ?_, ?_⟩
    · unfold storedBytes
      rw [bind_of_ok (bits_eight (getElem?_pos data q hq)), hnext, ← hrun]
      have hbyte : data[q].toNat.toUInt8 = data[q] := UInt8.ofNat_toNat
      rw [hbyte]
      rfl
    · have hlist : q < data.toList.length := by rwa [toList_eq_data, Array.length_toList]
      have hget : data.toList[q] = data[q] := by
        simp only [toList_eq_data]
        rfl
      rw [hout, List.drop_eq_getElem_cons hlist, hget, List.take_succ_cons, toList_eq_data,
        toList_eq_data output, ByteArray.data_push, Array.toList_push]
      simp

/-- The header of a block that is stored: its size, and the complement of the size. -/
structure StoredAt (data : ByteArray) (start n : Nat) : Prop where
  kind : data[start]? = some 1
  size : ∃ low high, data[start + 1]? = some low ∧ data[start + 2]? = some high ∧
    low.toNat + 256 * high.toNat = n
  complement : ∃ low high, data[start + 3]? = some low ∧ data[start + 4]? = some high ∧
    low.toNat + 256 * high.toNat = 65535 - n
  fits : start + 5 + n ≤ data.size

theorem storedBlock_run {start n : Nat} (h : StoredAt data start n) :
    ∃ out : ByteArray, storedBlock data ⟨8 * start + 3, output⟩ =
      .ok () ⟨8 * (start + 5 + n), out⟩ ∧
      out.toList = output.toList ++ (data.toList.drop (start + 5)).take n := by
  obtain ⟨low, high, hlow, hhigh, hn⟩ := h.size
  obtain ⟨low', high', hlow', hhigh', hcomplement⟩ := h.complement
  obtain ⟨out, hrun, hout⟩ := @storedBytes_run data output (start + 5) n h.fits
  refine ⟨out, ?_, hout⟩
  have halign : (8 * start + 3 + 7) / 8 * 8 = 8 * (start + 1) := by omega
  have hmodify : (modify fun s => { s with position := (s.position + 7) / 8 * 8 } : Decoder Unit)
      ⟨8 * start + 3, output⟩ = .ok () ⟨8 * (start + 1), output⟩ := by
    rw [← halign]
    rfl
  have hsum : ¬ low.toNat + 256 * high.toNat + (low'.toNat + 256 * high'.toNat) ≠ 65535 := by
    have := low.toNat_lt
    have := high.toNat_lt
    omega
  refine (bind_of_ok hmodify).trans ?_
  refine (bind_of_ok (bits_sixteen hlow hhigh)).trans ?_
  refine (bind_of_ok (bits_sixteen hlow' hhigh')).trans ?_
  dsimp only
  rw [if_neg hsum, hn]
  exact hrun

/-- A last block that is stored is read byte for byte, whatever comes behind it. -/
theorem decode_of_stored {start n : Nat} (h : StoredAt data start n) :
    (decode data start).output.toList = (data.toList.drop (start + 5)).take n := by
  obtain ⟨out, hrun, hout⟩ := @storedBlock_run data ByteArray.empty start n h
  have hlast : bit data ⟨8 * start, ByteArray.empty⟩ = .ok 1 ⟨8 * start + 1, ByteArray.empty⟩ :=
    bit_of_byte (i := 0) h.kind (by omega)
  have hkind : bits data 2 ⟨8 * start + 1, ByteArray.empty⟩ =
      .ok 0 ⟨8 * start + 3, ByteArray.empty⟩ := by
    have hhigh : bits data 1 ⟨8 * start + 2, ByteArray.empty⟩ =
        .ok 0 ⟨8 * start + 3, ByteArray.empty⟩ :=
      (bind_of_ok (bit_of_byte (i := 2) h.kind (by omega))).trans rfl
    refine (bind_of_ok (bit_of_byte (i := 1) h.kind (by omega))).trans ?_
    exact (bind_of_ok hhigh).trans rfl
  have hblocks : ∀ fuel k, blocks data fuel (k + 1) ⟨8 * start, ByteArray.empty⟩ =
      .ok () ⟨8 * (start + 5 + n), out⟩ := by
    intro fuel k
    refine (bind_of_ok hlast).trans ?_
    refine (bind_of_ok hkind).trans ?_
    exact (bind_of_ok hrun).trans rfl
  unfold decode
  dsimp only
  rw [hblocks]
  show out.toList = _
  rw [hout, toList_eq_data ByteArray.empty]
  rfl

end Archive.Inflate

/-! ## Stored files -/

namespace Archive.Gzip

theorem bytes_decode {data : ByteArray} {start : Nat} (h : header? data = some start) :
    (decode data).bytes = (Inflate.decode data start).output := by
  unfold decode
  rw [h]
  dsimp only
  split <;> rfl

/-- Content in a file of its own, as one block that is stored. -/
def storedList (content : List UInt8) : List UInt8 :=
  [31, 139, 8, 0, 0, 0, 0, 0, 0, 255, 1] ++ littleEndian content.length 2 ++
      littleEndian (65535 - content.length) 2 ++ content ++
      littleEndian (crc32 ⟨content.toArray⟩).toNat 4 ++ littleEndian content.length 4

def stored (content : List UInt8) : ByteArray := ⟨(storedList content).toArray⟩

variable {content : List UInt8}

/-- What was stored is what comes out again. -/
theorem bytes_stored (h : content.length < 65536) :
    (decode (stored content)).bytes.toList = content := by
  obtain ⟨low, high, hsize, hlow⟩ := littleEndian_two h
  obtain ⟨low', high', hcomplement, hlow'⟩ :=
    littleEndian_two (n := 65535 - content.length) (by omega)
  obtain ⟨trailer, htrailer⟩ : ∃ trailer, (stored content).toList =
      [31, 139, 8, 0, 0, 0, 0, 0, 0, 255, 1, low, high, low', high'] ++ (content ++ trailer) := by
    refine ⟨littleEndian (crc32 ⟨content.toArray⟩).toNat 4 ++ littleEndian content.length 4, ?_⟩
    rw [stored, toList_eq_data, storedList, hsize, hcomplement]
    simp
  have hbyte : ∀ i, (stored content)[i]? = (stored content).toList[i]? := getElem?_eq_toList _
  have hlength : (stored content).size = 15 + (content.length + trailer.length) := by
    have hlist := congrArg List.length htrailer
    rw [toList_eq_data, Array.length_toList, List.length_append, List.length_append] at hlist
    exact hlist
  have hheader : header? (stored content) = some 10 := by
    simp [header?, littleEndian?, byteAt, hbyte, htrailer, skipIf]
  have hstored : Inflate.StoredAt (stored content) 10 content.length := by
    refine ⟨?_, ⟨low, high, ?_, ?_, hlow⟩, ⟨low', high', ?_, ?_, hlow'⟩, by omega⟩
    all_goals
      rw [hbyte, htrailer]
      rfl
  rw [bytes_decode hheader, Inflate.decode_of_stored hstored, htrailer]
  simp

end Archive.Gzip

/-! ## A single member -/

namespace Archive.Tar

/-! ### Headers that are written down -/

namespace Header

/-- A text in a field of a header. -/
def field (text : String) (size : Nat) : List UInt8 :=
  Text.utf8 text ++ List.replicate (size - (Text.utf8 text).length) 0

/-- A header in the standard form: the name of the member, the size of its data and the checksum, in
base 8 both, the kind of the member and what it refers to. -/
def standard (name size checksum kind link : String) : List UInt8 :=
  field name 100 ++ field "0000644" 8 ++ field "0000000" 8 ++ field "0000000" 8 ++ field size 12 ++
    field "00000000000" 12 ++ field checksum 8 ++ field kind 1 ++ field link 100 ++
    field "ustar" 6 ++ field "00" 249

def ofBytes (bytes : List UInt8) : Header := ⟨⟨bytes.toArray⟩⟩

theorem toList_ofBytes (bytes : List UInt8) : (ofBytes bytes).block.toList = bytes :=
  toList_eq_data _

/-- The sum of the bytes of a header, with blanks in place of the checksum. -/
def sumOfBytes (bytes : List UInt8) : Nat :=
  (bytes.take 148 ++ List.replicate 8 0x20 ++ (bytes.drop 156).take 356).foldl
    (fun (n : Nat) (b : UInt8) => n + b.toNat) 0

theorem sum_ofBytes (bytes : List UInt8) : (ofBytes bytes).sum = sumOfBytes bytes := by
  rw [sum, toList_extract, toList_extract, toList_ofBytes]
  rfl

end Header

/-! ### Reading the member -/

/-- The header can be read, it has so many bytes of data behind it and does not describe another
one. -/
structure Header.Plain (h : Header) (n : Nat) : Prop where
  size : h.block.size = blockSize
  nonzero : h.block.toList.all (· == 0) = false
  valid : h.isValid = true
  data : h.size? = some n
  kind : h.kind ≠ 'L' ∧ h.kind ≠ 'K' ∧ h.kind ≠ 'x' ∧ h.kind ≠ 'S'

/-- What there is to look at in the bytes of a header that is plain. -/
theorem Header.Plain.ofBytes {bytes : List UInt8} {n : Nat} (hsize : bytes.length = blockSize)
    (hnonzero : bytes.all (· == 0) = false)
    (hsum : ((Header.ofBytes bytes).octal? 148 8).map (· % UInt32.size) = some (sumOfBytes bytes))
    (hdata : (Header.ofBytes bytes).size? = some n)
    (hkind : (Header.ofBytes bytes).kind ∉ ['L', 'K', 'x', 'S']) :
    (Header.ofBytes bytes).Plain n := by
  refine ⟨hsize, ?_, ?_, hdata, by simpa using hkind⟩
  · rwa [Header.toList_ofBytes]
  · rw [Header.isValid, Header.sum_ofBytes, hsum]
    exact beq_self_eq_true _

/-- What a number of bytes takes in whole blocks. -/
def inBlocks (n : Nat) : Nat := (n + blockSize - 1) / blockSize * blockSize

/-- An archive with one member: its header, its data filled up to whole blocks, and the zero block
that ends the archive. -/
def single (header data : List UInt8) : List UInt8 :=
  header ++ (data ++ List.replicate (inBlocks data.length - data.length) 0) ++
    List.replicate blockSize 0

variable {s : Stream} {h : Header} {n : Nat} {data : List UInt8}

theorem le_inBlocks (n : Nat) : n ≤ inBlocks n ∧ inBlocks n < n + blockSize := by
  unfold inBlocks blockSize
  omega

theorem read?_eq_some (before bytes after : List UInt8)
    (h : s.bytes.toList = before ++ bytes ++ after) :
    s.read? before.length bytes.length = some ⟨bytes.toArray⟩ := by
  have hlength : s.bytes.size = before.length + bytes.length + after.length := by
    have hlist := congrArg List.length h
    rwa [toList_eq_data, Array.length_toList, List.length_append, List.length_append] at hlist
  rw [Stream.read?, if_pos (by omega)]
  congr 1
  apply eq_of_toList_eq
  rw [toList_extract, h, toList_eq_data]
  simp

theorem le_of_read?_eq_some {place size : Nat} {bytes : ByteArray}
    (h : s.read? place size = some bytes) : place + size ≤ s.bytes.size := by
  unfold Stream.read? at h
  split at h
  · assumption
  · cases h

theorem raw?_of_plain (h' : h.Plain n) (hn : n < 65536)
    (hread : s.read? 0 blockSize = some h.block) :
    raw? s 0 none = .ok (some ⟨h, blockSize, n, blockSize + inBlocks n⟩) := by
  have hsize := le_of_read?_eq_some hread
  have hblock : blockSize = 512 := rfl
  have hbound : UInt64.size = 18446744073709551616 := rfl
  have hblocks := (le_inBlocks n).2
  unfold raw?
  rw [hread, if_neg (by omega), if_neg (by omega)]
  dsimp only
  rw [h'.nonzero, h'.valid, h'.data]
  have hgiven : (if n = 0 then (none.bind fun a => sizeOf? (lines a)).getD 0 else n) = n := by
    split
    · next hzero => exact hzero.symm
    · rfl
  dsimp only
  rw [hgiven, if_neg Bool.false_ne_true, if_neg (by simp), Nat.zero_add, ← inBlocks,
    if_neg (by omega)]

theorem raw?_of_zeros {place : Nat} {zeros : ByteArray}
    (hread : s.read? place blockSize = some zeros)
    (hzeros : zeros.toList.all (· == 0) = true) (attributes : Option (List UInt8)) :
    raw? s place attributes = .ok none := by
  have hsize := le_of_read?_eq_some hread
  have hblock : blockSize = 512 := rfl
  unfold raw?
  rw [hread, if_neg (by omega), if_neg (by omega)]
  dsimp only
  rw [hzeros, if_pos rfl]

theorem read?_of_single (h' : h.Plain data.length)
    (hbytes : s.bytes.toList = single h.block.toList data) :
    s.read? 0 blockSize = some h.block ∧ s.read? blockSize data.length = some ⟨data.toArray⟩ ∧
      ∃ zeros, s.read? (blockSize + inBlocks data.length) blockSize = some zeros ∧
        zeros.toList.all (· == 0) = true := by
  have hheader : h.block.toList.length = blockSize := by
    rw [toList_eq_data, Array.length_toList]
    exact h'.size
  unfold single at hbytes
  generalize hfilling : List.replicate (inBlocks data.length - data.length) (0 : UInt8) = filling
    at hbytes
  have hfilled : (h.block.toList ++ (data ++ filling)).length =
      blockSize + inBlocks data.length := by
    have hle := (le_inBlocks data.length).1
    rw [← hfilling, List.length_append, List.length_append, List.length_replicate, hheader]
    omega
  refine ⟨?_, ?_, ⟨(List.replicate blockSize 0).toArray⟩, ?_, ?_⟩
  · have hread := read?_eq_some (s := s) [] h.block.toList
      (data ++ filling ++ List.replicate blockSize 0) (by rw [hbytes, List.nil_append, List.append_assoc])
    rw [hheader] at hread
    refine hread.trans (congrArg some (eq_of_toList_eq ?_))
    rw [toList_eq_data]
  · have hread := read?_eq_some (s := s) h.block.toList data (filling ++ List.replicate blockSize 0)
      (by simp only [hbytes, List.append_assoc])
    rwa [hheader] at hread
  · have hread := read?_eq_some _ _ [] (hbytes.trans (List.append_nil _).symm)
    rwa [hfilled, List.length_replicate] at hread
  · rw [toList_eq_data]
    simp

/-- The archive has the member its header describes, and the data of the member can be read. -/
theorem members_of_single (h' : h.Plain data.length) (hn : data.length < 65536)
    (hbytes : s.bytes.toList = single h.block.toList data) :
    members s = ([member ⟨h, blockSize, data.length, blockSize + inBlocks data.length⟩ .nothing
      [.data blockSize data.length]], none) ∧
    s.read? blockSize data.length = some ⟨data.toArray⟩ := by
  obtain ⟨hfirst, hdata, zeros, hlast, hzeros⟩ := read?_of_single h' hbytes
  obtain ⟨hL, hK, hx, hS⟩ := h'.kind
  refine ⟨?_, hdata⟩
  have hend : ∀ fuel, membersFrom s (fuel + 1) (blockSize + inBlocks data.length) .nothing =
      ([], none) := by
    intro fuel
    unfold membersFrom
    rw [raw?_of_zeros hlast hzeros]
    rfl
  have hraw := raw?_of_plain h' hn hfirst
  unfold members
  show membersFrom s (_ + 1 + 1) 0 .nothing = _
  unfold membersFrom
  rw [show Described.nothing.attributes = none from rfl, hraw]
  simp only [hL, hK, hx, hS, beq_iff_eq, Bool.and_eq_true, and_false, if_false, hend]

end Archive.Tar

end StackSync
