import StackSync.Duration
import StackSync.Proofs.Number.Rounding
import StackSync.Proofs.Text.Cutting

/-!
# The grammar of durations

A duration is spelled by items, of which each is a number and a unit. Numbers are made of numerals
and units have none, so a text that is cut where numerals begin and where they end is cut into the
items that spell it, if there are any (`items_flatMap`): it is spelled in one way only. A text that no
items spell is cut all the same, and then one of the parts is no item (`spells_items`). What the items
amount to is said without the arithmetic of the reader, by what is nearest to what (`Accumulates`); of
the texts that items spell only those are refused that amount to 2^64 seconds
(`parse?_readByGrammar`).
-/

namespace StackSync.Duration

open Text Binary64

/-! ## Numbers -/

/-- Digits with at most one point among them, and at least one digit. -/
structure IsNumber (s : List Char) : Prop where
  characters : ∀ c ∈ s, isDigit c = true ∨ c = '.'
  points : s.count '.' ≤ 1
  digits : ∃ c ∈ s, isDigit c = true

instance (s : List Char) : Decidable (IsNumber s) :=
  decidable_of_iff (s.all (fun c => isDigit c || c == '.') = true ∧ s.count '.' ≤ 1 ∧
      s.any isDigit = true) <| by
    simp only [List.all_eq_true, List.any_eq_true, Bool.or_eq_true, beq_iff_eq]
    exact ⟨fun ⟨h, h', h''⟩ => ⟨h, h', h''⟩, fun ⟨h, h', h''⟩ => ⟨h, h', h''⟩⟩

/-- The digits of the text, so many of them behind the point, rounded. -/
def IsDecimal (s : List Char) (x : Binary64) : Prop :=
  Rounds (digitsValue (s.filter isDigit) * one) (10 ^ ((s.dropWhile (· != '.')).drop 1).length) x

variable {s : List Char}

theorem ne_point (h : '.' ∉ s) : ∀ c ∈ s, (c != '.') = true := by
  intro c hc
  rw [bne_iff_ne]
  rintro rfl
  exact h hc

theorem filter_isDigit (h : ∀ c ∈ s, isDigit c = true) : s.filter isDigit = s :=
  List.filter_eq_self.2 h

theorem isNumber_of_not_mem (h : '.' ∉ s) :
    IsNumber s ↔ s ≠ [] ∧ ∀ c ∈ s, isDigit c = true := by
  constructor
  · rintro ⟨hall, -, c, hc, -⟩
    refine ⟨List.ne_nil_of_mem hc, fun d hd => (hall d hd).resolve_right ?_⟩
    rintro rfl
    exact h hd
  · rintro ⟨hne, hall⟩
    obtain ⟨c, hc⟩ := List.exists_mem_of_ne_nil s hne
    exact ⟨fun d hd => .inl (hall d hd), by rw [List.count_eq_zero.2 h]; omega, c, hc, hall c hc⟩

theorem isNumber_append {a b : List Char} (ha : '.' ∉ a) :
    IsNumber (a ++ '.' :: b) ↔ a ++ b ≠ [] ∧ ∀ c ∈ a ++ b, isDigit c = true := by
  constructor
  · rintro ⟨hall, hpoints, c, hc, hdigit⟩
    rw [List.count_append, List.count_eq_zero.2 ha, List.count_cons_self] at hpoints
    have hb : '.' ∉ b := List.count_eq_zero.1 (by omega)
    have hdigits : ∀ d ∈ a ++ b, isDigit d = true := by
      intro d hd
      have hpoint : d ≠ '.' := by
        rintro rfl
        exact (List.mem_append.1 hd).elim ha hb
      refine (hall d ?_).resolve_right hpoint
      rw [List.mem_append] at hd ⊢
      exact hd.imp_right (List.mem_cons_of_mem _)
    refine ⟨List.ne_nil_of_mem (a := c) ?_, hdigits⟩
    rw [List.mem_append, List.mem_cons] at hc
    rcases hc with hc | rfl | hc
    · exact List.mem_append_left _ hc
    · cases hdigit
    · exact List.mem_append_right _ hc
  · rintro ⟨hne, hall⟩
    have hb : '.' ∉ b := fun hmem => by cases hall '.' (List.mem_append_right _ hmem)
    obtain ⟨c, hc⟩ := List.exists_mem_of_ne_nil (a ++ b) hne
    refine ⟨fun d hd => ?_, ?_, c, ?_, hall c hc⟩
    · rw [List.mem_append, List.mem_cons] at hd
      rcases hd with hd | rfl | hd
      · exact .inl (hall d (List.mem_append_left _ hd))
      · exact .inr rfl
      · exact .inl (hall d (List.mem_append_right _ hd))
    · rw [List.count_append, List.count_eq_zero.2 ha, List.count_cons_self, List.count_eq_zero.2 hb]
    · rw [List.mem_append] at hc ⊢
      exact hc.imp_right (List.mem_cons_of_mem _)

/-- The digits before and behind the first point, and that they make a number exactly if the text is
one. -/
theorem exists_parts (s : List Char) : ∃ whole fraction,
    s.takeWhile (· != '.') = whole ∧ (s.dropWhile (· != '.')).drop 1 = fraction ∧
    s.filter isDigit = (whole ++ fraction).filter isDigit ∧
    (IsNumber s ↔ whole ++ fraction ≠ [] ∧ ∀ c ∈ whole ++ fraction, isDigit c = true) := by
  by_cases hpoint : '.' ∈ s
  · obtain ⟨a, b, rfl, ha⟩ := List.eq_append_cons_of_mem hpoint
    have hkeep := ne_point ha
    refine ⟨a, b, ?_, ?_, ?_, isNumber_append ha⟩
    · rw [List.takeWhile_append_of_pos hkeep, List.takeWhile_cons_of_neg (by simp), List.append_nil]
    · rw [List.dropWhile_append_of_pos hkeep, List.dropWhile_cons_of_neg (by simp)]
      rfl
    · rw [List.filter_append, List.filter_append, List.filter_cons_of_neg (by decide)]
  · have hkeep := ne_point hpoint
    have hwhole : s.takeWhile (· != '.') = s := List.takeWhile_eq_self_iff.2 hkeep
    have hnothing : s.dropWhile (· != '.') = [] := List.dropWhile_eq_nil_iff.2 hkeep
    refine ⟨s, [], hwhole, by rw [hnothing]; rfl, by rw [List.append_nil], ?_⟩
    rw [List.append_nil]
    exact isNumber_of_not_mem hpoint

/-- A number is read as the double that is nearest to it, and nothing else is read. -/
theorem number?_spec (s : List Char) :
    (number? s = none ∧ ¬IsNumber s) ∨
      ∃ x, number? s = some x ∧ IsNumber s ∧ ∀ y, IsDecimal s y ↔ y = x := by
  obtain ⟨whole, fraction, hwhole, hfraction, hfilter, hnumber⟩ := exists_parts s
  have hcheck : ((whole ++ fraction).isEmpty || !(whole ++ fraction).all isDigit) = false ↔
      whole ++ fraction ≠ [] ∧ ∀ c ∈ whole ++ fraction, isDigit c = true := by
    rw [Bool.or_eq_false_iff, Bool.not_eq_false', List.all_eq_true, List.isEmpty_eq_false_iff]
  simp only [number?, hwhole, hfraction]
  by_cases h : whole ++ fraction ≠ [] ∧ ∀ c ∈ whole ++ fraction, isDigit c = true
  · right
    have hden : 0 < 10 ^ fraction.length := Nat.pow_pos (by decide)
    have hrounds := ofScientific_rounds (digitsValue (whole ++ fraction)) fraction.length
    refine ⟨_, if_neg (by rw [hcheck.2 h]; decide), hnumber.2 h, fun y => ?_⟩
    rw [IsDecimal, hfraction, hfilter, filter_isDigit h.2]
    exact ⟨fun hy => hy.unique hden hrounds, fun hy => hy ▸ hrounds⟩
  · exact .inl ⟨if_pos (Bool.of_not_eq_false (mt hcheck.1 h)), mt hnumber.1 h⟩

/-! ## Units -/

/-- The units, and the seconds each of them stands for: digits, so many of them behind the point. -/
def unitTable : List (String × Nat × Nat) := [("ns", 1, 9), ("us", 1, 6), ("µs", 1, 6),
  ("ms", 1, 3), ("s", 1, 0), ("m", 60, 0), ("h", 3600, 0)]

def IsUnit (unit : List Char) : Prop := String.ofList unit ∈ unitTable.map (·.1)

instance (unit : List Char) : Decidable (IsUnit unit) :=
  inferInstanceAs (Decidable (String.ofList unit ∈ unitTable.map (·.1)))

/-- The seconds of the unit, rounded. -/
def IsScale (unit : List Char) (x : Binary64) : Prop :=
  ∃ digits places, (String.ofList unit, digits, places) ∈ unitTable ∧
    Rounds (digits * one) (10 ^ places) x

theorem unit?_of_mem {unit : List Char} {digits places : Nat}
    (h : (String.ofList unit, digits, places) ∈ unitTable) :
    unit? unit = some (.ofScientific digits (-(places : Int))) := by
  simp only [unitTable, List.mem_cons, Prod.mk.injEq, List.not_mem_nil, or_false] at h
  rcases h with ⟨h, rfl, rfl⟩ | ⟨h, rfl, rfl⟩ | ⟨h, rfl, rfl⟩ | ⟨h, rfl, rfl⟩ | ⟨h, rfl, rfl⟩ |
    ⟨h, rfl, rfl⟩ | ⟨h, rfl, rfl⟩ <;> simp only [unit?, h] <;> rfl

theorem unit?_eq_none {unit : List Char} (h : ¬IsUnit unit) : unit? unit = none := by
  simp only [IsUnit, unitTable, List.map_cons, List.mem_cons, not_or] at h
  unfold unit?
  split <;> simp_all

theorem unitTable_unique : ∀ a ∈ unitTable, ∀ b ∈ unitTable, a.1 = b.1 → a = b := by decide

theorem scale_ne_infinite :
    ∀ e ∈ unitTable, Binary64.ofScientific e.2.1 (-(e.2.2 : Int)) ≠ .infinite := by
  decide +kernel

/-- A unit is read as the double that is nearest to its seconds, which is finite. -/
theorem unit?_spec (unit : List Char) :
    (unit? unit = none ∧ ¬IsUnit unit) ∨
      ∃ n, unit? unit = some (.finite n) ∧ IsUnit unit ∧ ∀ y, IsScale unit y ↔ y = .finite n := by
  by_cases h : IsUnit unit
  · right
    obtain ⟨⟨text, digits, places⟩, hmem, htext⟩ := List.mem_map.1 h
    subst htext
    have hrounds := ofScientific_rounds digits places
    cases hscale : Binary64.ofScientific digits (-(places : Int)) with
    | infinite => exact absurd hscale (scale_ne_infinite _ hmem)
    | finite n =>
      rw [hscale] at hrounds
      refine ⟨n, by rw [unit?_of_mem hmem, hscale], h, fun y => ⟨?_, ?_⟩⟩
      · rintro ⟨digits', places', hmem', hy⟩
        have hsame := unitTable_unique _ hmem _ hmem' rfl
        simp only [Prod.mk.injEq, true_and] at hsame
        obtain ⟨rfl, rfl⟩ := hsame
        exact hy.unique (Nat.pow_pos (by decide)) hrounds
      · rintro rfl
        exact ⟨digits, places, hmem, hrounds⟩
  · exact .inl ⟨unit?_eq_none h, h⟩

/-! ## Items -/

/-- A number and a unit. -/
structure IsItem (item : List Char × List Char) : Prop where
  number : IsNumber item.1
  unit : IsUnit item.2

instance (item : List Char × List Char) : Decidable (IsItem item) :=
  decidable_of_iff (IsNumber item.1 ∧ IsUnit item.2)
    ⟨fun ⟨h, h'⟩ => ⟨h, h'⟩, fun ⟨h, h'⟩ => ⟨h, h'⟩⟩

/-- The seconds of an item: the product of its number and its unit, all of them rounded. -/
def IsSeconds (item : List Char × List Char) (x : Binary64) : Prop :=
  ∃ value scale, IsDecimal item.1 value ∧ IsScale item.2 scale ∧ IsProduct value scale x

variable {item : List Char × List Char} {list : List (List Char × List Char)}

theorem itemSeconds?_spec (item : List Char × List Char) :
    (itemSeconds? item = none ∧ ¬IsItem item) ∨
      ∃ x, itemSeconds? item = some x ∧ IsItem item ∧ ∀ y, IsSeconds item y ↔ y = x := by
  rcases number?_spec item.1 with ⟨hread, hnot⟩ | ⟨value, hread, hnumber, hvalue⟩
  · exact .inl ⟨by rw [itemSeconds?, hread]; rfl, fun h => hnot h.number⟩
  rcases unit?_spec item.2 with ⟨hread', hnot⟩ | ⟨n, hread', hunit, hscale⟩
  · exact .inl ⟨by rw [itemSeconds?, hread, hread']; rfl, fun h => hnot h.unit⟩
  refine .inr ⟨value.mul (.finite n), by rw [itemSeconds?, hread, hread']; rfl, ⟨hnumber, hunit⟩,
    fun y => ⟨?_, ?_⟩⟩
  · rintro ⟨value', scale', hvalue', hscale', hy⟩
    rw [(hvalue value').1 hvalue', (hscale scale').1 hscale'] at hy
    exact hy.unique
  · rintro rfl
    exact ⟨value, .finite n, (hvalue value).2 rfl, (hscale _).2 rfl, mul_isProduct value n⟩

/-- From `acc` on, the seconds of the items are added one after the other, each sum rounded. -/
inductive Accumulates : Binary64 → List (List Char × List Char) → Binary64 → Prop
  | nil {acc : Binary64} : Accumulates acc [] acc
  | cons {acc x next t : Binary64} {item : List Char × List Char}
      {list : List (List Char × List Char)} : IsSeconds item x → IsSum acc x next →
      Accumulates next list t → Accumulates acc (item :: list) t

theorem mapM_itemSeconds?_spec (list : List (List Char × List Char)) :
    (list.mapM itemSeconds? = none ∧ ¬∀ item ∈ list, IsItem item) ∨
      ∃ seconds, list.mapM itemSeconds? = some seconds ∧ (∀ item ∈ list, IsItem item) ∧
        ∀ acc t, Accumulates acc list t ↔ t = seconds.foldl .add acc := by
  induction list with
  | nil =>
    refine .inr ⟨[], rfl, List.forall_mem_nil _, fun acc t => ⟨?_, ?_⟩⟩
    · rintro ⟨⟩
      rfl
    · rintro rfl
      exact .nil
  | cons item more ih =>
    rcases itemSeconds?_spec item with ⟨hread, hnot⟩ | ⟨x, hread, hitem, hx⟩
    · refine .inl ⟨?_, fun h => hnot (h item List.mem_cons_self)⟩
      rw [List.mapM_cons, hread]
      rfl
    rcases ih with ⟨hmore, hnot⟩ | ⟨seconds, hmore, hitems, hsum⟩
    · refine .inl ⟨?_, fun h => hnot (List.forall_mem_cons.1 h).2⟩
      rw [List.mapM_cons, hread, hmore]
      rfl
    refine .inr ⟨x :: seconds, ?_, List.forall_mem_cons.2 ⟨hitem, hitems⟩, fun acc t => ⟨?_, ?_⟩⟩
    · rw [List.mapM_cons, hread, hmore]
      rfl
    · rintro (_ | ⟨hx', hnext, hrest⟩)
      rw [(hx _).1 hx'] at hnext
      rw [(hsum _ _).1 hrest, hnext.unique]
      rfl
    · rintro rfl
      exact .cons ((hx x).2 rfl) (add_isSum acc x) ((hsum _ _).2 rfl)

/-! ## The scan -/

/-- An item as it is written. -/
def spelled (item : List Char × List Char) : List Char := item.1 ++ item.2

/-- The text is spelled by the items, of which there is at least one. -/
structure Spells (list : List (List Char × List Char)) (s : List Char) : Prop where
  ne_nil : list ≠ []
  items : ∀ item ∈ list, IsItem item
  eq : s = list.flatMap spelled

/-- What is behind the first numerals and what follows them. -/
def behindItem (s : List Char) : List Char := (s.dropWhile isNumeral).dropWhile (!isNumeral ·)

theorem items_nil : items [] = [] := by rw [items]

theorem items_of_ne_nil (h : s ≠ []) : items s =
    (s.takeWhile isNumeral, (s.dropWhile isNumeral).takeWhile (!isNumeral ·)) ::
      items (behindItem s) := by
  cases s with
  | nil => exact absurd rfl h
  | cons c rest =>
    rw [items]
    rfl

theorem length_behindItem_lt (h : s ≠ []) : (behindItem s).length < s.length := by
  have hle : ∀ (p : Char → Bool) (l : List Char), (l.dropWhile p).length ≤ l.length :=
    fun p l => (List.dropWhile_sublist p).length_le
  cases s with
  | nil => exact absurd rfl h
  | cons c rest =>
    rw [behindItem, List.length_cons, Nat.lt_succ_iff]
    by_cases hc : isNumeral c = true
    · rw [List.dropWhile_cons_of_pos hc]
      exact Nat.le_trans (hle _ _) (hle _ _)
    · rw [List.dropWhile_cons_of_neg hc, List.dropWhile_cons_of_pos (by simpa using hc)]
      exact hle _ _

/-- The scan divides the text and leaves nothing out, and takes no more turns than there are
characters. -/
theorem flatMap_items (s : List Char) :
    (items s).flatMap spelled = s ∧ (items s).length ≤ s.length := by
  induction hlength : s.length using Nat.strongRecOn generalizing s with
  | ind n ih =>
    subst hlength
    by_cases hs : s = []
    · subst hs
      rw [items_nil]
      exact ⟨rfl, Nat.le_refl _⟩
    · have hlt := length_behindItem_lt hs
      obtain ⟨hrest, hturns⟩ := ih _ hlt (behindItem s) rfl
      rw [items_of_ne_nil hs]
      constructor
      · rw [List.flatMap_cons, hrest, spelled, behindItem, List.append_assoc,
          List.takeWhile_append_dropWhile, List.takeWhile_append_dropWhile]
      · rw [List.length_cons]
        omega

theorem IsNumber.numerals (h : IsNumber s) : ∀ c ∈ s, isNumeral c = true := by
  intro c hc
  rw [isNumeral, Bool.or_eq_true, beq_iff_eq]
  exact h.characters c hc

theorem IsNumber.ne_nil (h : IsNumber s) : s ≠ [] := by
  obtain ⟨c, hc, -⟩ := h.digits
  exact List.ne_nil_of_mem hc

theorem IsUnit.no_numerals (h : IsUnit s) : s ≠ [] ∧ ∀ c ∈ s, isNumeral c = false := by
  have hall : ∀ text ∈ unitTable.map (·.1),
      text.toList ≠ [] ∧ text.toList.all (!isNumeral ·) = true := by
    decide
  have hs := hall _ h
  rw [String.toList_ofList, List.all_eq_true] at hs
  exact hs.imp_right fun hothers c hc => by simpa using hothers c hc

/-- A run of characters ends where the first of the others stands. -/
theorem span_append {p : Char → Bool} {run rest : List Char} (hrun : ∀ c ∈ run, p c = true)
    (hrest : ∀ c ∈ rest.head?, p c = false) :
    (run ++ rest).takeWhile p = run ∧ (run ++ rest).dropWhile p = rest := by
  rw [List.takeWhile_append_of_pos hrun, List.dropWhile_append_of_pos hrun]
  cases rest with
  | nil => exact ⟨List.append_nil run, rfl⟩
  | cons c more =>
    have hc : ¬p c = true := by rw [hrest c rfl]; decide
    rw [List.takeWhile_cons_of_neg hc, List.dropWhile_cons_of_neg hc, List.append_nil]
    exact ⟨rfl, rfl⟩

/-- The numerals end at the unit and the unit at the next numerals: so the scan finds the item. -/
theorem items_spelled_append (hitem : IsItem item) {rest : List Char}
    (hrest : ∀ c ∈ rest.head?, isNumeral c = true) :
    items (spelled item ++ rest) = item :: items rest := by
  obtain ⟨hunit, hothers⟩ := hitem.unit.no_numerals
  have hbehind : ∀ c ∈ (item.2 ++ rest).head?, isNumeral c = false := by
    obtain ⟨c, more, hcons⟩ := List.exists_cons_of_ne_nil hunit
    rw [hcons] at hothers ⊢
    rintro d ⟨⟩
    exact hothers c List.mem_cons_self
  have hnot : ∀ c ∈ item.2, (!isNumeral c) = true := fun c hc => by rw [hothers c hc]; rfl
  have hstop : ∀ c ∈ rest.head?, (!isNumeral c) = false := fun c hc => by rw [hrest c hc]; rfl
  obtain ⟨hnumber, htail⟩ := span_append hitem.number.numerals hbehind
  obtain ⟨hscale, hend⟩ := span_append hnot hstop
  have hne : item.1 ++ (item.2 ++ rest) ≠ [] :=
    List.append_ne_nil_of_left_ne_nil hitem.number.ne_nil _
  rw [spelled, List.append_assoc, items_of_ne_nil hne, behindItem, hnumber, htail, hscale, hend]

/-- A text that items spell is scanned into these items: there is only one way to read it. -/
theorem items_flatMap (h : ∀ item ∈ list, IsItem item) : items (list.flatMap spelled) = list := by
  induction list with
  | nil => exact items_nil
  | cons item more ih =>
    obtain ⟨hitem, hmore⟩ := List.forall_mem_cons.1 h
    have hrest : ∀ c ∈ (more.flatMap spelled).head?, isNumeral c = true := by
      cases more with
      | nil => exact nofun
      | cons next more =>
        have hnext := (hmore next List.mem_cons_self).number
        obtain ⟨c, digits, hcons⟩ := List.exists_cons_of_ne_nil hnext.ne_nil
        have hfirst := hnext.numerals c (by rw [hcons]; exact List.mem_cons_self)
        rw [List.flatMap_cons, spelled, hcons]
        rintro d ⟨⟩
        exact hfirst
    rw [List.flatMap_cons, items_spelled_append hitem hrest, ih hmore]

theorem Spells.items_eq (h : Spells list s) : Duration.items s = list := by
  rw [h.eq, items_flatMap h.items]

theorem spells_items (hs : s ≠ []) (h : ∀ item ∈ items s, IsItem item) : Spells (items s) s where
  ne_nil := by
    rw [items_of_ne_nil hs]
    exact List.cons_ne_nil _ _
  items := h
  eq := (flatMap_items s).1.symm

/-! ## The total -/

/-- Fewer than so many seconds. -/
def Below (bound : Nat) : Binary64 → Prop
  | .finite n => n < bound * one
  | .infinite => False

/-- The whole number of nanoseconds that is nearest to a number of seconds; of two, the even one. -/
inductive IsNanos : Binary64 → Nat → Prop
  | finite {n k : Nat} : RoundsTo (n * 1_000_000_000) one k → IsNanos (.finite n) k

theorem ofBinary64?_eq_some_iff {t : Binary64} {d : Duration} :
    ofBinary64? t = some d ↔ Below (2 ^ 64) t ∧ IsNanos t d.nanos := by
  cases t with
  | infinite => exact iff_of_false (Option.some_ne_none d).symm fun h => h.1
  | finite n =>
    have hround : RoundsTo (n * 1_000_000_000) one (roundDiv (n * 1_000_000_000) one) :=
      roundDiv_roundsTo Binary64.one_pos
    have hsize : UInt64.size = 2 ^ 64 := rfl
    rw [ofBinary64?, hsize, Below]
    by_cases hbelow : n < 2 ^ 64 * one
    · rw [if_pos hbelow, Option.some.injEq]
      constructor
      · rintro rfl
        exact ⟨hbelow, .finite hround⟩
      · rintro ⟨-, ⟨hnanos⟩⟩
        rw [hround.unique hnanos Binary64.one_pos]
    · rw [if_neg hbelow]
      exact iff_of_false (Option.some_ne_none d).symm fun h => hbelow h.1

theorem ofBinary64?_eq_none_iff {t : Binary64} : ofBinary64? t = none ↔ ¬Below (2 ^ 64) t := by
  cases t with
  | infinite => exact iff_of_true rfl id
  | finite n =>
    have hsize : UInt64.size = 2 ^ 64 := rfl
    rw [ofBinary64?, hsize, Below]
    by_cases hbelow : n < 2 ^ 64 * one
    · rw [if_pos hbelow]
      exact iff_of_false (Option.some_ne_none _) (not_not_intro hbelow)
    · rw [if_neg hbelow]
      exact iff_of_true rfl hbelow

/-- Large doubles are whole numbers of seconds, so rounding does not lead up to the bound. -/
theorem nanos_lt {n k : Nat} (hdouble : IsDouble n) (hbelow : n < 2 ^ 64 * one)
    (hnanos : RoundsTo (n * 1_000_000_000) one k) : k < 2 ^ 64 * 1_000_000_000 := by
  have hle : n ≤ (2 ^ 64 - 1) * one := by
    have hsecond := hdouble.multiple_or_lt oneExponent
    rw [← one_eq] at hsecond
    rcases hsecond with ⟨j, rfl⟩ | ⟨-, hlt⟩
    · have hj : j < 2 ^ 64 := Nat.lt_of_mul_lt_mul_right hbelow
      exact Nat.mul_le_mul_right one (Nat.le_sub_one_of_lt hj)
    · exact Nat.le_of_lt (Nat.lt_of_lt_of_le hlt (Nat.mul_le_mul_right one (by decide)))
  have hk : k ≤ (2 ^ 64 - 1) * 1_000_000_000 + 1 := by
    refine hnanos.le_of_lt_mul ?_
    have hone := Binary64.one_pos
    have hscaled := Nat.mul_le_mul_right 1_000_000_000 hle
    rw [Nat.mul_right_comm] at hscaled
    rw [Nat.add_mul, Nat.one_mul]
    omega
  omega

theorem Accumulates.isDouble {acc t : Binary64} (h : Accumulates acc list t)
    (hacc : ∀ n, acc = .finite n → IsDouble n) : ∀ n, t = .finite n → IsDouble n := by
  induction h with
  | nil => exact hacc
  | cons _ hsum _ ih =>
    refine ih ?_
    rintro n rfl
    cases hsum with
    | finite hrounds => exact hrounds.isDouble

/-! ## The whole text -/

theorem parse?_of_ne_nil {text : String} (hempty : trimChars text.toList ≠ [])
    (hzero : trimChars text.toList ≠ ['0']) : parse? text =
      ((items (trimChars text.toList)).mapM itemSeconds?).bind fun seconds =>
        ofBinary64? (total seconds) := by
  unfold parse?
  split
  · next h => exact absurd h hempty
  · next h => exact absurd h hzero
  · rfl

/-- An item has at least one numeral and a unit. -/
theorem Spells.two_le_length (h : Spells list s) : 2 ≤ s.length := by
  obtain ⟨item, more, rfl⟩ := List.exists_cons_of_ne_nil h.ne_nil
  have hitem := h.items item List.mem_cons_self
  have hnumber := List.length_pos_iff.2 hitem.number.ne_nil
  have hunit := List.length_pos_iff.2 hitem.unit.no_numerals.1
  rw [h.eq, List.flatMap_cons, spelled, List.length_append, List.length_append]
  omega

/-- The items that spell a text decide what becomes of it. -/
theorem parse?_of_spells {text : String} (h : Spells list (trimChars text.toList)) :
    ∃ t, (∀ t', Accumulates .zero list t' ↔ t' = t) ∧ parse? text = ofBinary64? t := by
  have hlength := h.two_le_length
  have hempty : trimChars text.toList ≠ [] := fun heq => by
    rw [heq] at hlength
    cases hlength
  have hzero : trimChars text.toList ≠ ['0'] := fun heq => by
    rw [heq] at hlength
    exact absurd hlength (by decide)
  rw [parse?_of_ne_nil hempty hzero, h.items_eq]
  rcases mapM_itemSeconds?_spec list with ⟨-, hnot⟩ | ⟨seconds, hread, -, hsum⟩
  · exact absurd h.items hnot
  · exact ⟨total seconds, hsum .zero, by rw [hread]; rfl⟩

theorem spells_of_parse? {text : String} {d : Duration} (h : parse? text = some d) :
    trimChars text.toList = ['0'] ∨ ∃ list, Spells list (trimChars text.toList) := by
  by_cases hzero : trimChars text.toList = ['0']
  · exact .inl hzero
  by_cases hempty : trimChars text.toList = []
  · rw [parse?, hempty] at h
    cases h
  rw [parse?_of_ne_nil hempty hzero] at h
  rcases mapM_itemSeconds?_spec (items (trimChars text.toList)) with ⟨hread, -⟩ | ⟨_, -, hitems, -⟩
  · rw [hread] at h
    cases h
  · exact .inr ⟨_, spells_items hempty hitems⟩

/-- What becomes of a text, and that it is decided by what the grammar says of it. -/
structure ReadByGrammar (text : String) : Prop where
  /-- White space around the text does not count. -/
  trimmed : Tight (trim text).toList ∧ ∃ before behind, Blank before ∧ Blank behind ∧
    text.toList = before ++ (trim text).toList ++ behind
  /-- Nothing is read but a bare zero and what items spell, -/
  only : ∀ d, parse? text = some d → trim text = "0" ∨ ∃ list, Spells list (trim text).toList
  /-- and the zero is. -/
  zero : trim text = "0" → parse? text = some .zero
  /-- No text is spelled in two ways. -/
  unambiguous : ∀ list list', Spells list (trim text).toList → Spells list' (trim text).toList →
    list = list'
  /-- The seconds of the items have one total, the text is refused exactly if that is not below
  2^64, and else read as the total in nanoseconds, which is below 2^64 seconds then as well. -/
  total : ∀ list, Spells list (trim text).toList → ∃ t, (∀ t', Accumulates .zero list t' ↔ t' = t) ∧
    (parse? text = none ↔ ¬Below (2 ^ 64) t) ∧
    ∀ d, parse? text = some d → IsNanos t d.nanos ∧ d.nanos < 2 ^ 64 * 1_000_000_000
  /-- The scan comes to the end of any text, in no more turns than it has characters. -/
  ends : (items (trim text).toList).flatMap spelled = (trim text).toList ∧
    (items (trim text).toList).length ≤ (trim text).toList.length

/-- Durations are read by their grammar, and refused beyond it only for being too long. -/
theorem parse?_readByGrammar (text : String) : ReadByGrammar text := by
  have htrim : (trim text).toList = trimChars text.toList := String.toList_ofList
  have hzero : trim text = "0" ↔ trimChars text.toList = ['0'] := by
    rw [← htrim, ← String.toList_inj]
    rfl
  constructor
  · rw [htrim]
    exact ⟨tight_trimChars _, exists_eq_append_trimChars _⟩
  · rw [hzero, htrim]
    exact fun d h => spells_of_parse? h
  · intro h
    rw [parse?, hzero.1 h]
    rfl
  · exact fun list list' h h' => h.items_eq.symm.trans h'.items_eq
  · rw [htrim]
    intro list h
    obtain ⟨t, hsum, hread⟩ := parse?_of_spells h
    refine ⟨t, hsum, by rw [hread]; exact ofBinary64?_eq_none_iff, fun d hd => ?_⟩
    rw [hread] at hd
    obtain ⟨hbelow, hnanos⟩ := ofBinary64?_eq_some_iff.1 hd
    refine ⟨hnanos, ?_⟩
    obtain ⟨hround⟩ := hnanos
    have hdouble := ((hsum _).2 rfl).isDouble (fun n hn => ?_) _ rfl
    · exact nanos_lt hdouble hbelow hround
    · cases hn
      exact ⟨0, 0, by decide, rfl⟩
  · exact flatMap_items _

/-- A compound duration with a point in front of its digits, and white space of two kinds. -/
theorem parse?_readByGrammar_compound :
    Spells [(['1'], ['h']), (['.', '5'], ['m'])] (trim " 1h.5m\u00a0").toList ∧
      ∃ t, Accumulates .zero [(['1'], ['h']), (['.', '5'], ['m'])] t ∧
        parse? " 1h.5m\u00a0" = some ⟨3_630_000_000_000⟩ ∧ IsNanos t 3_630_000_000_000 := by
  have hspells : Spells [(['1'], ['h']), (['.', '5'], ['m'])] (trim " 1h.5m\u00a0").toList :=
    ⟨by decide, by decide, by decide⟩
  have hread : parse? " 1h.5m\u00a0" = some ⟨3_630_000_000_000⟩ := by decide +kernel
  obtain ⟨t, hsum, -, hnanos⟩ := (parse?_readByGrammar " 1h.5m\u00a0").total _ hspells
  exact ⟨hspells, t, (hsum t).2 rfl, hread, (hnanos _ hread).1⟩

end StackSync.Duration
