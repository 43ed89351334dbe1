import StackSync.Proofs.Reconcile.ChangeSetName
import StackSync.Proofs.Text.Cutting
import StackSync.Reconcile.TargetStack
import StackSync.Simulation.MemoryCloud

/-!
# Handles that come back from a status

A status keeps one text about the change set a round attempted: its ARN, or its name while there is
no ARN. The next round reads that text and uses the handle only if it carries the name the round
itself would choose. What a round records is taken over unchanged by the next one of the same
attempt. Whether an ARN tells its own name is another matter: it does in every region that is
written like one, without colons and slashes.
-/

namespace StackSync

open Text ChangeSetName

theorem ChangeSetName.not_isBlank_of_admitted {c : Char} (h : Admitted c) : isBlank c = false := by
  have hascii : ∀ n : Nat, n < 128 → (Char.ofNat n).isAlphanum = true →
      isBlank (Char.ofNat n) = false := by
    decide +kernel
  rcases h with h | rfl
  · have hlt : c.toNat < 128 := by
      have hdef : c.isAlphanum = (decide ('A'.val ≤ c.val ∧ c.val ≤ 'Z'.val) ||
          ('a'.val ≤ c.val && c.val ≤ 'z'.val) || ('0'.val ≤ c.val && c.val ≤ '9'.val)) := rfl
      simp only [hdef, Bool.or_eq_true, Bool.and_eq_true, decide_eq_true_eq,
          UInt32.le_iff_toNat_le] at h
      have hval : c.toNat = c.val.toNat := rfl
      have hupper : 'Z'.val.toNat = 90 := rfl
      have hlower : 'z'.val.toNat = 122 := rfl
      have hdigit : '9'.val.toNat = 57 := rfl
      omega
    have hc := hascii c.toNat hlt
    rw [Char.ofNat_toNat] at hc
    exact hc h
  · rfl

namespace ChangeSetHandle

/-- The part of an ARN that is taken for the name. -/
def readName (arn : List Char) : String := String.ofList ((nameInArn? arn).getD arn)

theorem parse_of_isArn {s : String} (h : arnMark.toList.isPrefixOf (trimChars s.toList) = true) :
    parse s = ⟨readName (trimChars s.toList), some (String.ofList (trimChars s.toList))⟩ := by
  simp only [parse, h, if_true, readName]

theorem parse_of_not_isArn {s : String}
    (h : arnMark.toList.isPrefixOf (trimChars s.toList) = false) :
    parse s = named (String.ofList (trimChars s.toList)) := by
  simp only [parse, h, Bool.false_eq_true, if_false]

/-- What has been read is written so that it reads the same again. -/
theorem parse_reference_parse (s : String) : parse (parse s).reference = parse s := by
  cases h : arnMark.toList.isPrefixOf (trimChars s.toList) with
  | true =>
    have hread : (parse s).reference = String.ofList (trimChars s.toList) := by
      rw [parse_of_isArn h]
      rfl
    rw [hread, parse_of_isArn h]
    simp only [parse, String.toList_ofList, trimChars_trimChars, h, if_true, readName]
  | false =>
    have hread : (parse s).reference = String.ofList (trimChars s.toList) := by
      rw [parse_of_not_isArn h]
      rfl
    rw [hread, parse_of_not_isArn h]
    simp only [parse, String.toList_ofList, trimChars_trimChars, h, Bool.false_eq_true, if_false]

theorem name_of_parse_id {s id : String} (h : (parse s).id = some id) :
    (parse s).name = readName id.toList := by
  cases hmark : arnMark.toList.isPrefixOf (trimChars s.toList) with
  | true =>
    rw [parse_of_isArn hmark] at h ⊢
    rw [← Option.some.inj h, String.toList_ofList]
  | false =>
    rw [parse_of_not_isArn hmark] at h
    cases h

theorem parse_of (generation : Int64) (revision : String) :
    parse (ChangeSetName.of generation revision) = named
    (ChangeSetName.of generation revision) := by
  have hblank : ∀ c ∈ (ChangeSetName.of generation revision).toList, isBlank c = false :=
    fun c hc => not_isBlank_of_admitted (admitted_of_mem_of hc)
  have htrim : trimChars (ChangeSetName.of generation revision).toList =
      (ChangeSetName.of generation revision).toList :=
    trimChars_eq_self (fun c hc => hblank c (List.mem_of_mem_head? hc))
      (fun c hc => hblank c (List.mem_of_mem_getLast? hc))
  have hmark : arnMark.toList.isPrefixOf (ChangeSetName.of generation revision).toList = false := by
    obtain ⟨rest, hof, -⟩ := exists_toList_of generation revision
    rw [hof]
    rfl
  rw [parse_of_not_isArn (by rw [htrim]; exact hmark), htrim, String.ofList_toList]

end ChangeSetHandle

open ChangeSetHandle

theorem attemptHandle_of_name_eq {s name : String} (h : (parse s).name = name) :
    attemptHandle (some s) name = parse s := by
  simp [attemptHandle, Option.filter_some, h]

theorem attemptHandle_of_name_ne {s name : String} (h : (parse s).name ≠ name) :
    attemptHandle (some s) name = named name := by
  simp [attemptHandle, Option.filter_some, h]

theorem attemptHandle_eq (recorded : Option String) (name : String) :
    attemptHandle recorded name = named name ∨
      ∃ s, recorded = some s ∧ (parse s).name = name ∧ attemptHandle recorded name = parse s := by
  cases recorded with
  | none => exact .inl rfl
  | some s =>
    by_cases h : (parse s).name = name
    · exact .inr ⟨s, rfl, h, attemptHandle_of_name_eq h⟩
    · exact .inl (attemptHandle_of_name_ne h)

theorem attemptHandle_name (recorded : Option String) (name : String) :
    (attemptHandle recorded name).name = name := by
  rcases attemptHandle_eq recorded name with h | ⟨s, -, hname, h⟩
  · rw [h]
    rfl
  · rw [h, hname]

/-- The handle a round goes by is what the next round reads back from its record. -/
theorem attemptHandle_reference (recorded : Option String) (generation : Int64)
    (revision : String) :
    attemptHandle (some (attemptHandle recorded (ChangeSetName.of generation revision)).reference)
      (ChangeSetName.of generation revision) =
      attemptHandle recorded (ChangeSetName.of generation revision) := by
  rcases attemptHandle_eq recorded (ChangeSetName.of generation revision) with h | ⟨s, -, hname, h⟩
  · have hparse := parse_of generation revision
    have hreference : (named (ChangeSetName.of generation revision)).reference =
        ChangeSetName.of generation revision := rfl
    rw [h, hreference, attemptHandle_of_name_eq (by rw [hparse]; rfl), hparse]
  · have hparse := parse_reference_parse s
    rw [h, attemptHandle_of_name_eq (by rw [hparse]; exact hname), hparse]

/-! ## ARNs -/

namespace MemoryCloud

/-- What stands in an ARN between its parts, a colon before each of them. -/
def arnService : List Char :=
  ['a', 'r', 'n', ':', 'a', 'w', 's', ':', 'c', 'l', 'o', 'u', 'd', 'f', 'o', 'r', 'm', 'a', 't',
    'i', 'o', 'n']

def arnAccount : List Char := ['1', '2', '3', '4', '5', '6', '7', '8', '9', '0', '1', '2']

def arnKind : List Char := ['c', 'h', 'a', 'n', 'g', 'e', 'S', 'e', 't', '/']

theorem toList_nameMark : nameMark.toList = ':' :: arnKind := rfl

theorem toList_changeSetArn (region name : String) (n : Nat) :
    (changeSetArn region name n).toList =
      arnService ++ ':' :: (region.toList ++ ':' :: (arnAccount ++ ':' :: (arnKind ++
        (name.toList ++ '/' :: Nat.toDigits 10 n)))) := by
  have hdigits : (toString n).toList = Nat.toDigits 10 n := by
    rw [Nat.toString_eq_repr, Nat.toList_repr]
  have hservice : "arn:aws:cloudformation:".toList = arnService ++ [':'] := rfl
  have hkind : ":123456789012:changeSet/".toList = ':' ::
      (arnAccount ++ ':' :: arnKind) := rfl
  have hslash : "/".toList = ['/'] := rfl
  unfold changeSetArn
  rw [String.toList_append, String.toList_append, String.toList_append, String.toList_append,
    String.toList_append, hdigits, hservice, hkind, hslash]
  simp only [List.append_assoc, List.cons_append, List.nil_append]

theorem index_eq_of_changeSetArn_eq {region region' name name' : String} {n n' : Nat}
    (h : changeSetArn region name n = changeSetArn region' name' n') : n = n' := by
  have hend : ∀ (region name : String) (k : Nat), ∃ before,
      (changeSetArn region name k).toList = before ++ '/' :: Nat.toDigits 10 k := by
    intro region name k
    refine ⟨arnService ++ ':' ::
        (region.toList ++ ':' :: (arnAccount ++ ':' :: (arnKind ++ name.toList))), ?_⟩
    rw [toList_changeSetArn]
    simp only [List.append_assoc, List.cons_append]
  have hread : ∀ (before : List Char) (k : Nat),
      (before ++ '/' :: Nat.toDigits 10 k).reverse.takeWhile Char.isDigit =
      (Nat.toDigits 10 k).reverse := by
    intro before k
    rw [List.reverse_append, List.reverse_cons, List.append_assoc,
      List.takeWhile_append_of_pos fun c hc =>
        Nat.isDigit_of_mem_toDigits (by omega) (by omega) (List.mem_reverse.1 hc),
      List.singleton_append, List.takeWhile_cons_of_neg (by simp), List.append_nil]
  obtain ⟨before, hbefore⟩ := hend region name n
  obtain ⟨before', hbefore'⟩ := hend region' name' n'
  have hreverse : (Nat.toDigits 10 n).reverse = (Nat.toDigits 10 n').reverse := by
    rw [← hread before n, ← hbefore, h, hbefore', hread]
  have hdigits : Nat.toDigits 10 n = Nat.toDigits 10 n' := List.reverse_inj.1 hreverse
  calc n = Nat.ofDigitChars 10 (Nat.toDigits 10 n) 0 := Nat.ofDigitChars_ten_toDigits.symm
    _ = Nat.ofDigitChars 10 (Nat.toDigits 10 n') 0 := by rw [hdigits]
    _ = n' := Nat.ofDigitChars_ten_toDigits

theorem parse_changeSetArn (region name : String) (n : Nat) :
    parse (changeSetArn region name n) =
      ⟨readName (changeSetArn region name n).toList, some (changeSetArn region name n)⟩ := by
  have hlist := toList_changeSetArn region name n
  have hhead : ∀ c ∈ (changeSetArn region name n).toList.head?, isBlank c = false := by
    intro c hc
    have ha : (changeSetArn region name n).toList.head? = some 'a' := by rw [hlist]; rfl
    rw [ha, Option.mem_some_iff] at hc
    rw [← hc]
    rfl
  have hlast : ∀ c ∈ (changeSetArn region name n).toList.getLast?, isBlank c = false := by
    intro c hc
    have hdigits : (changeSetArn region name n).toList.getLast? = (Nat.toDigits 10 n).getLast? := by
      obtain ⟨d, hd⟩ := List.getLast?_isSome.2 (Nat.toDigits_ne_nil (n := n) (b := 10)) |>
          Option.isSome_iff_exists.1
      rw [hlist]
      simp only [List.getLast?_append, List.getLast?_cons, hd, Option.getD_some, Option.some_or]
    rw [hdigits] at hc
    exact not_isBlank_of_admitted (admitted_of_isDigit
      (Nat.isDigit_of_mem_toDigits (by omega) (by omega) (List.mem_of_mem_getLast? hc)))
  have htrim := trimChars_eq_self hhead hlast
  have hmark : arnMark.toList.isPrefixOf
      (trimChars (changeSetArn region name n).toList) = true := by
    rw [htrim, hlist]
    rfl
  rw [parse_of_isArn hmark, htrim, String.ofList_toList]

/-! ## Names in ARNs -/

/-- A region whose ARNs tell the names of their change sets. -/
def Legible (region : String) : Prop :=
  ∀ (generation : Int64) (revision : String) (n : Nat),
    readName (changeSetArn region (ChangeSetName.of generation revision) n).toList =
      ChangeSetName.of generation revision

theorem behind?_nameMark_append {l : List Char} (h : ':' ∉ l) (t : List Char) :
    behind? (':' :: arnKind) (l ++ t) = behind? (':' :: arnKind) t := by
  induction l with
  | nil => rfl
  | cons c rest ih =>
    have hc : (':' == c) = false := beq_false_of_ne fun heq => h (heq ▸ List.mem_cons_self)
    rw [List.cons_append, behind?, List.isPrefixOf_cons_cons, hc, Bool.false_and,
        if_neg Bool.false_ne_true]
    exact ih fun hmem => h (List.mem_cons_of_mem c hmem)

theorem behind?_nameMark_colon {t : List Char} (h : arnKind.isPrefixOf t = false) :
    behind? (':' :: arnKind) (':' :: t) = behind? (':' :: arnKind) t := by
  rw [behind?, List.isPrefixOf_cons_cons, h, Bool.and_false, if_neg Bool.false_ne_true]

theorem behind?_nameMark_self (t : List Char) :
    behind? (':' :: arnKind) (':' :: (arnKind ++ t)) = some t := by
  have hstarts : arnKind.isPrefixOf (arnKind ++ t) = true := by
    rw [List.isPrefixOf_iff_prefix]
    exact List.prefix_append _ _
  rw [behind?, List.isPrefixOf_cons_cons, hstarts, beq_self_eq_true, Bool.and_self, if_pos rfl,
    List.length_cons, List.drop_succ_cons, List.drop_left]

/-- No region without a slash and a colon looks like the mark. -/
theorem not_prefix_of_plain {region : List Char} (h : ∀ c ∈ region, c ≠ ':' ∧ c ≠ '/')
    (t : List Char) :
    arnKind.isPrefixOf (region ++ ':' :: t) = false := by
  rw [Bool.eq_false_iff, ne_eq, List.isPrefixOf_iff_prefix]
  rintro ⟨u, hu⟩
  have hkind : (arnKind ++ u).dropWhile (fun c => c ≠ ':' && c ≠ '/') = '/' :: u := rfl
  have hregion : (region ++ ':' :: t).dropWhile (fun c => c ≠ ':' && c ≠ '/') = ':' :: t := by
    rw [List.dropWhile_append_of_pos fun c hc => by simp [h c hc]]
    rfl
  rw [← hu, hkind] at hregion
  exact absurd (List.cons.inj hregion).1 (by simp)

/-- Regions as they are, made of letters, digits and dashes, are legible. -/
theorem legible_of_plain {region : String} (h : ∀ c ∈ region.toList, c ≠ ':' ∧ c ≠ '/') :
    Legible region := by
  intro generation revision n
  have hname : ∀ c ∈ (ChangeSetName.of generation revision).toList, decide (c ≠ '/') = true := by
    intro c hc
    rw [decide_eq_true_eq]
    rintro rfl
    rcases admitted_of_mem_of hc with hslash | hslash
    · exact absurd hslash (by simp)
    · exact absurd hslash (by simp)
  have hservice : ∀ t,
      behind? (':' :: arnKind) (arnService ++ t) = behind? (':' :: arnKind) t := fun t => rfl
  have hbehind : behind? nameMark.toList
      (changeSetArn region (ChangeSetName.of generation revision) n).toList =
      some ((ChangeSetName.of generation revision).toList ++ '/' :: Nat.toDigits 10 n) := by
    rw [toList_nameMark, toList_changeSetArn, hservice,
      behind?_nameMark_colon (not_prefix_of_plain h _),
      behind?_nameMark_append (fun hmem => (h ':' hmem).1 rfl), behind?_nameMark_colon rfl,
      behind?_nameMark_append (l := arnAccount) nofun, behind?_nameMark_self]
  rw [readName, nameInArn?, hbehind, Option.map_some, Option.getD_some,
    List.takeWhile_append_of_pos hname, List.takeWhile_cons_of_neg (by simp), List.append_nil,
    String.ofList_toList]

end MemoryCloud

end StackSync
