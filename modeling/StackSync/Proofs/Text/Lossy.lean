import StackSync.FileTree.Basic

/-!
# Bytes shown as text

The bytes of a text are read as the text again, by the strict reader (`fromUTF8?_utf8`) and by the
one that shows whatever it is given (`ofBytesLossy_utf8`). The second is used for names that need not
be text. A byte below 0x80 is a character wherever it stands: it begins no longer sequence and it
continues none. So where bytes are joined by such a separator, what they show is joined by its
character, however broken the sequences between the separators are. A path therefore shows of each
of its names what the name shows by itself (`Location.chars_path`).
-/

namespace StackSync

namespace Text

/-! ## Bytes of a text -/

theorem toUTF8_eq (s : String) : s.toUTF8 = ⟨(utf8 s).toArray⟩ := by
  have hencoded : s.toList.utf8Encode = s.toByteArray := String.utf8Encode_toList
  rw [String.toUTF8_eq_toByteArray, ← hencoded, List.utf8Encode, utf8]
  apply ByteArray.ext
  simp

theorem fromUTF8?_utf8 (s : String) : String.fromUTF8? ⟨(utf8 s).toArray⟩ = some s := by
  rw [← toUTF8_eq, String.fromUTF8?, String.toUTF8_eq_toByteArray, dif_pos s.isValidUTF8]
  rfl

/-! ## Sequences and their ends -/

theorem continuing_zero (lo hi : Nat) (bytes : List UInt8) : continuing 0 lo hi bytes = 0 := by
  cases bytes <;> rw [continuing]

theorem continuing_cons {b : UInt8} {lo hi : Nat} (hlo : lo ≤ b.toNat) (hhi : b.toNat ≤ hi)
    (count : Nat) (rest : List UInt8) :
    continuing (count + 1) lo hi (b :: rest) = continuing count 0x80 0xBF rest + 1 := by
  rw [continuing, if_pos ⟨hlo, hhi⟩]

theorem continuing_append {b : UInt8} (hb : b.toNat < 0x80) (count : Nat) {lo : Nat}
    (hlo : 0x80 ≤ lo) (hi : Nat) (bytes after : List UInt8) :
    continuing count lo hi (bytes ++ b :: after) = continuing count lo hi bytes := by
  induction bytes generalizing count lo hi with
  | nil =>
    cases count with
    | zero => rfl
    | succ count =>
      rw [List.nil_append, continuing]
      exact if_neg fun h => by omega
  | cons a rest ih =>
    cases count with
    | zero => rfl
    | succ count =>
      rw [List.cons_append, continuing, continuing, ih count (Nat.le_refl _)]

theorem continuing_le_length (count lo hi : Nat) (bytes : List UInt8) :
    continuing count lo hi bytes ≤ bytes.length := by
  induction bytes generalizing count lo hi with
  | nil =>
    rw [continuing]
    exact Nat.zero_le _
  | cons a rest ih =>
    cases count with
    | zero => exact Nat.zero_le _
    | succ count =>
      rw [continuing]
      split
      · exact Nat.succ_le_succ (ih _ _ _)
      · exact Nat.zero_le _

theorem continuation?_least {b : UInt8} {count lo hi : Nat}
    (h : continuation? b = some (count, lo, hi)) : 0x80 ≤ lo := by
  unfold continuation? at h
  dsimp only at h
  grind

theorem charsOfBytes_nil : charsOfBytes [] = [] := by
  rw [charsOfBytes]

theorem charsOfBytes_cons_of_lt {b : UInt8} (hb : b.toNat < 0x80) (rest : List UInt8) :
    charsOfBytes (b :: rest) = Char.ofNat b.toNat :: charsOfBytes rest := by
  rw [charsOfBytes.eq_def]
  exact if_pos hb

/-- The bytes before a byte below 0x80 are shown as if nothing came after them. -/
theorem charsOfBytes_append_cons {b : UInt8} (hb : b.toNat < 0x80) (bytes after : List UInt8) :
    charsOfBytes (bytes ++ b :: after) =
      charsOfBytes bytes ++ Char.ofNat b.toNat :: charsOfBytes after := by
  induction bytes using charsOfBytes.induct with
  | case1 =>
    rw [List.nil_append, charsOfBytes_cons_of_lt hb, charsOfBytes_nil, List.nil_append]
  | case2 a rest ha ih =>
    rw [List.cons_append, charsOfBytes_cons_of_lt ha, charsOfBytes_cons_of_lt ha, ih,
      List.cons_append]
  | case3 a rest ha hnone ih =>
    rw [List.cons_append, charsOfBytes, if_neg ha, hnone, charsOfBytes, if_neg ha, hnone]
    dsimp only
    rw [ih, List.cons_append]
  | case4 a rest ha count lo hi hsome found ih =>
    have hfound : continuing count lo hi (rest ++ b :: after) = found :=
      continuing_append hb count (continuation?_least hsome) hi rest after
    have hle : found ≤ rest.length := continuing_le_length count lo hi rest
    rw [List.cons_append, charsOfBytes, if_neg ha, hsome, charsOfBytes, if_neg ha, hsome]
    dsimp only
    rw [hfound, List.drop_append_of_le_length hle, ih, List.cons_append]
    by_cases hwhole : found = count
    · rw [List.take_append_of_le_length (by omega)]
    · rw [if_neg hwhole, if_neg hwhole]

/-! ## Well-formed bytes -/

/-- A whole sequence is one character. -/
theorem charsOfBytes_sequence {b : UInt8} (hb : 0x80 ≤ b.toNat) (more rest : List UInt8)
    {lo hi : Nat} (hcontinuation : continuation? b = some (more.length, lo, hi))
    (hmore : continuing more.length lo hi (more ++ rest) = more.length) :
    charsOfBytes (b :: (more ++ rest)) = charOfBytes (b :: more) :: charsOfBytes rest := by
  rw [charsOfBytes, if_neg (Nat.not_lt.2 hb), hcontinuation]
  dsimp only
  rw [hmore, if_pos rfl, List.take_left, List.drop_left]

theorem exists_byte {n : Nat} (h : n < 256) : ∃ b : UInt8, UInt8.ofNat n = b ∧ b.toNat = n := by
  refine ⟨_, rfl, ?_⟩
  rw [UInt8.toNat_ofNat']
  omega

theorem charsOfBytes_utf8EncodeChar (c : Char) (rest : List UInt8) :
    charsOfBytes (String.utf8EncodeChar c ++ rest) = c :: charsOfBytes rest := by
  have hvalid : c.toNat < 0xD800 ∨ 0xDFFF < c.toNat ∧ c.toNat < 0x110000 := c.valid
  have hchar : Char.ofNat c.toNat = c := c.ofNat_toNat
  unfold String.utf8EncodeChar
  dsimp only
  rw [show c.val.toNat = c.toNat from rfl]
  generalize c.toNat = v at hvalid hchar
  subst hchar
  split
  · obtain ⟨b, hb, hvb⟩ := exists_byte (n := v) (by omega)
    rw [hb, List.singleton_append, charsOfBytes_cons_of_lt (by omega), hvb]
  · obtain ⟨z, hz, hvz⟩ := exists_byte (n := v % 64 + 128) (by omega)
    rw [hz]
    split
    · obtain ⟨b, hb, hvb⟩ := exists_byte (n := v / 64 % 32 + 192) (by omega)
      have hcontinuation : continuation? b = some (1, 0x80, 0xBF) := by grind [continuation?]
      rw [hb, List.cons_append, charsOfBytes_sequence (by omega) [z] rest hcontinuation
        (by grind [continuing_zero, continuing_cons])]
      simp only [charOfBytes, List.map_cons, List.map_nil, hvb, hvz]
      congr 2
      omega
    · obtain ⟨y, hy, hvy⟩ := exists_byte (n := v / 64 % 64 + 128) (by omega)
      rw [hy]
      split
      · obtain ⟨b, hb, hvb⟩ := exists_byte (n := v / 4096 % 16 + 224) (by omega)
        have hcontinuation : continuation? b = some (2, if b.toNat = 0xE0 then 0xA0 else 0x80,
            if b.toNat = 0xED then 0x9F else 0xBF) := by grind [continuation?]
        rw [hb, List.cons_append, charsOfBytes_sequence (by omega) [y, z] rest hcontinuation
          (by grind [continuing_zero, continuing_cons])]
        simp only [charOfBytes, List.map_cons, List.map_nil, hvb, hvz, hvy]
        congr 2
        omega
      · obtain ⟨x, hx, hvx⟩ := exists_byte (n := v / 4096 % 64 + 128) (by omega)
        obtain ⟨b, hb, hvb⟩ := exists_byte (n := v / 262144 % 8 + 240) (by omega)
        have hcontinuation : continuation? b = some (3, if b.toNat = 0xF0 then 0x90 else 0x80,
            if b.toNat = 0xF4 then 0x8F else 0xBF) := by grind [continuation?]
        rw [hx, hb, List.cons_append, charsOfBytes_sequence (by omega) [x, y, z] rest hcontinuation
          (by grind [continuing_zero, continuing_cons])]
        simp only [charOfBytes, List.map_cons, List.map_nil, hvb, hvz, hvy, hvx]
        congr 2
        omega

/-- Nothing is lost of bytes that are text. -/
theorem ofBytesLossy_utf8 (s : String) : ofBytesLossy (utf8 s) = s := by
  have hchars : ∀ l : List Char, charsOfBytes (l.flatMap String.utf8EncodeChar) = l := by
    intro l
    induction l with
    | nil => exact charsOfBytes_nil
    | cons c rest ih => rw [List.flatMap_cons, charsOfBytes_utf8EncodeChar, ih]
  rw [ofBytesLossy, utf8, hchars, String.ofList_toList]

end Text

/-! ## Names in a path -/

theorem Location.chars_path (l : Location) :
    Text.charsOfBytes l.path = '/' :: ['/'].intercalate (l.map Text.charsOfBytes) := by
  have hslash : (0x2F : UInt8).toNat < 0x80 := by decide
  have hjoined : Text.charsOfBytes ([0x2F].intercalate l) =
      ['/'].intercalate (l.map Text.charsOfBytes) := by
    induction l with
    | nil => exact Text.charsOfBytes_nil
    | cons name rest ih =>
      cases rest with
      | nil => simp
      | cons next more =>
        rw [List.map_cons, List.map_cons, List.intercalate_cons_cons, List.intercalate_cons_cons,
          ← List.map_cons, ← ih, List.append_assoc, List.append_assoc]
        exact Text.charsOfBytes_append_cons hslash _ _
  rw [Location.path, Text.charsOfBytes_cons_of_lt hslash, hjoined]
  rfl

theorem intercalate_ne_of_ne {α : Type} {sep a a' : List α} (h : a ≠ a')
    (before after : List (List α)) :
    sep.intercalate (before ++ a :: after) ≠ sep.intercalate (before ++ a' :: after) := by
  induction before with
  | nil =>
    cases after with
    | nil => simpa using h
    | cons next rest =>
      intro heq
      rw [List.nil_append, List.nil_append, List.intercalate_cons_cons, List.intercalate_cons_cons,
        List.append_left_inj, List.append_left_inj] at heq
      exact h heq
  | cons first rest ih =>
    intro heq
    rw [List.cons_append, List.cons_append, List.intercalate_cons_of_ne_nil (by simp),
      List.intercalate_cons_of_ne_nil (by simp), List.append_right_inj] at heq
    exact ih heq

/-- Paths that differ in one name show it, if the names are shown differently. -/
theorem Location.text_ne_of_ne {name name' : FileName}
    (h : Text.ofBytesLossy name ≠ Text.ofBytesLossy name') (parent below : Location) :
    Location.text (parent ++ name :: below) ≠ Location.text (parent ++ name' :: below) := by
  have hchars : Text.charsOfBytes name ≠ Text.charsOfBytes name' := fun heq =>
    h (congrArg String.ofList heq)
  intro heq
  have hpaths : Text.charsOfBytes (Location.path (parent ++ name :: below)) =
      Text.charsOfBytes (Location.path (parent ++ name' :: below)) := String.ofList_injective heq
  rw [Location.chars_path, Location.chars_path, List.cons.injEq] at hpaths
  simp only [List.map_append, List.map_cons] at hpaths
  exact intercalate_ne_of_ne hchars _ _ hpaths.2

end StackSync
