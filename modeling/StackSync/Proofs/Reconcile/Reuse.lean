import StackSync.Proofs.Cloud.Store

/-!
# Handles that are used again

The handle of a target has the name that generation and revision give, whatever has been recorded.
Its ARN is taken from the record exactly if the record is an ARN that names this change set
(`attemptHandle_id_iff`). What the cloud in memory hands out in a legible region is such an ARN, so
it comes back unchanged at the attempt it was made for; at another generation it never does, since
no other generation has the name (`build_handle_reused_iff`).
-/

namespace StackSync

open Text ChangeSetHandle MemoryCloud

/-! ## The first occurrence of a word -/

/-- The text is cut at the first place the word stands in. -/
structure Text.CutAt (word text before behind : List Char) : Prop where
  eq : text = before ++ (word ++ behind)
  first : ∀ start, start ++ word <+: text → before.length ≤ start.length

theorem Text.cutAt_cons_iff {word rest before behind : List Char} {c : Char}
    (hnot : ¬ word <+: c :: rest) : CutAt word (c :: rest) before behind ↔
      ∃ more, before = c :: more ∧ CutAt word rest more behind := by
  constructor
  · rintro ⟨heq, hfirst⟩
    cases before with
    | nil => exact absurd ⟨behind, heq.symm⟩ hnot
    | cons d more =>
      obtain ⟨rfl, hrest⟩ := List.cons.inj heq
      refine ⟨more, rfl, hrest, fun start hstart => ?_⟩
      have hle := hfirst (c :: start) (List.cons_prefix_cons.2 ⟨rfl, hstart⟩)
      simpa using hle
  · rintro ⟨more, rfl, heq, hfirst⟩
    refine ⟨by rw [heq, List.cons_append], fun start hstart => ?_⟩
    cases start with
    | nil => exact absurd hstart hnot
    | cons d start =>
      have hle := hfirst start (List.cons_prefix_cons.1 hstart).2
      simpa using hle

theorem Text.behind?_eq_some_iff {word text behind : List Char} (hne : word ≠ []) :
    behind? word text = some behind ↔ ∃ before, CutAt word text before behind := by
  induction text with
  | nil =>
    have hempty : word.isEmpty = false := by simpa using hne
    simp only [behind?, hempty, Bool.false_eq_true, if_false, reduceCtorEq, false_iff]
    rintro ⟨before, heq, -⟩
    simp only [List.nil_eq, List.append_eq_nil_iff] at heq
    exact hne heq.2.1
  | cons c rest ih =>
    rw [behind?]
    by_cases hstarts : word <+: c :: rest
    · rw [if_pos (List.isPrefixOf_iff_prefix.2 hstarts), Option.some.injEq]
      obtain ⟨t, ht⟩ := hstarts
      constructor
      · rintro rfl
        refine ⟨[], ?_, fun start _ => Nat.zero_le _⟩
        rw [← ht, List.drop_left, List.nil_append]
      · rintro ⟨before, heq, hfirst⟩
        have hnil : before = [] := by
          have hle := hfirst [] ⟨t, ht⟩
          exact List.eq_nil_of_length_eq_zero (by simpa using hle)
        rw [heq, hnil, List.nil_append, List.drop_left]
    · rw [if_neg (fun h => hstarts (List.isPrefixOf_iff_prefix.1 h)), ih]
      constructor
      · rintro ⟨more, h⟩
        exact ⟨c :: more, (cutAt_cons_iff hstarts).2 ⟨more, rfl, h⟩⟩
      · rintro ⟨before, h⟩
        obtain ⟨more, -, h⟩ := (cutAt_cons_iff hstarts).1 h
        exact ⟨more, h⟩

/-! ## The name in an ARN -/

/-- The segment of an ARN behind the first `:changeSet/`. -/
def NameSegment (arn name : List Char) : Prop :=
  ∃ before behind, CutAt ":changeSet/".toList arn before (name ++ behind) ∧ '/' ∉ name ∧
    (behind = [] ∨ behind.head? = some '/')

theorem takeWhile_eq_iff {text name : List Char} : text.takeWhile (· ≠ '/') = name ↔
    ∃ behind, text = name ++ behind ∧ '/' ∉ name ∧ (behind = [] ∨ behind.head? = some '/') := by
  constructor
  · rintro rfl
    refine ⟨text.dropWhile (· ≠ '/'), List.takeWhile_append_dropWhile.symm, fun hslash => ?_, ?_⟩
    · have hkept := List.all_eq_true.1 List.all_takeWhile _ hslash
      simp at hkept
    · cases hrest : text.dropWhile (· ≠ '/') with
      | nil => exact .inl rfl
      | cons c more =>
        have hhead := List.head?_dropWhile_not (· ≠ '/') text
        rw [hrest] at hhead
        exact .inr (by simpa using hhead)
  · rintro ⟨behind, rfl, hslash, hbehind⟩
    have hkept : ∀ c ∈ name, decide (c ≠ '/') = true := fun c hc => by
      simpa using ne_of_mem_of_not_mem hc hslash
    rw [List.takeWhile_append_of_pos hkept]
    rcases hbehind with rfl | hhead
    · simp
    · obtain ⟨more, rfl⟩ := List.head?_eq_some_iff.1 hhead
      simp

theorem ChangeSetHandle.nameInArn?_eq_some_iff {arn name : List Char} :
    nameInArn? arn = some name ↔ NameSegment arn name := by
  have hmark : ":changeSet/".toList ≠ [] := by simp
  rw [nameInArn?, Option.map_eq_some_iff]
  constructor
  · rintro ⟨rest, hrest, hname⟩
    obtain ⟨before, hcut⟩ := (behind?_eq_some_iff hmark).1 hrest
    obtain ⟨behind, rfl, hslash, hbehind⟩ := takeWhile_eq_iff.1 hname
    exact ⟨before, behind, hcut, hslash, hbehind⟩
  · rintro ⟨before, behind, hcut, hslash, hbehind⟩
    exact ⟨name ++ behind, (behind?_eq_some_iff hmark).2 ⟨before, hcut⟩,
      takeWhile_eq_iff.2 ⟨behind, rfl, hslash, hbehind⟩⟩

/-- No name begins like an ARN, so what is read from one stands in it. -/
theorem ChangeSetHandle.readName_eq_iff {arn : List Char} (hmark : arnMark.toList <+: arn)
    (generation : Int64) (revision : String) :
    readName arn = ChangeSetName.of generation revision ↔
      NameSegment arn (ChangeSetName.of generation revision).toList := by
  rw [← nameInArn?_eq_some_iff, readName]
  cases hname : nameInArn? arn with
  | some name =>
    rw [Option.getD_some, Option.some.injEq, ← String.toList_inj, String.toList_ofList]
  | none =>
    simp only [Option.getD_none, reduceCtorEq, iff_false]
    intro heq
    obtain ⟨rest, hof, -⟩ := ChangeSetName.exists_toList_of generation revision
    obtain ⟨t, rfl⟩ := hmark
    rw [← heq, String.toList_ofList] at hof
    have hfirst : some 'a' = some 'f' := congrArg List.head? hof
    simp at hfirst

/-! ## The record -/

theorem ChangeSetHandle.parse_id_iff {stored arn : String} :
    (parse stored).id = some arn ↔ arn = trim stored ∧ "arn:".toList <+: arn.toList := by
  have htrim : (trim stored).toList = trimChars stored.toList := String.toList_ofList
  by_cases hmark : "arn:".toList <+: trimChars stored.toList
  · rw [parse_of_isArn (List.isPrefixOf_iff_prefix.2 hmark)]
    constructor
    · intro h
      obtain rfl : trim stored = arn := Option.some.inj h
      exact ⟨rfl, by rw [htrim]; exact hmark⟩
    · rintro ⟨rfl, -⟩
      rfl
  · rw [parse_of_not_isArn (Bool.eq_false_iff.2 fun h => hmark (List.isPrefixOf_iff_prefix.1 h))]
    constructor
    · intro h
      cases h
    · rintro ⟨rfl, hstarts⟩
      rw [htrim] at hstarts
      exact absurd hstarts hmark

theorem attemptHandle_some_id_iff {stored name arn : String} :
    (attemptHandle (some stored) name).id = some arn ↔
      (parse stored).name = name ∧ (parse stored).id = some arn := by
  by_cases hname : (parse stored).name = name
  · simp [attemptHandle_of_name_eq hname, hname]
  · simp [attemptHandle_of_name_ne hname, hname, named]

/-- An ARN is used if it has been recorded and names the change set of the attempt. -/
theorem attemptHandle_id_iff (recorded : Option String) (generation : Int64) (revision : String)
    (arn : String) :
    (attemptHandle recorded (ChangeSetName.of generation revision)).id = some arn ↔
      ∃ stored, recorded = some stored ∧ arn = trim stored ∧ "arn:".toList <+: arn.toList ∧
        NameSegment arn.toList (ChangeSetName.of generation revision).toList := by
  cases recorded with
  | none => simp [attemptHandle, named]
  | some stored =>
    simp only [Option.some.injEq, exists_eq_left']
    rw [attemptHandle_some_id_iff]
    constructor
    · rintro ⟨hname, hid⟩
      obtain ⟨hstored, hstarts⟩ := parse_id_iff.1 hid
      rw [name_of_parse_id hid] at hname
      exact ⟨hstored, hstarts, (readName_eq_iff hstarts generation revision).1 hname⟩
    · rintro ⟨hstored, hstarts, hsegment⟩
      have hid := parse_id_iff.2 ⟨hstored, hstarts⟩
      rw [name_of_parse_id hid]
      exact ⟨(readName_eq_iff hstarts generation revision).2 hsegment, hid⟩

/-! ## What has been handed out -/

variable {c : MemoryCloud} {r : ChangeSetRequest} {handle : ChangeSetHandle}

/-- A handle that is handed out has the name asked for and an ARN with that name. -/
theorem MemoryCloud.issued_handle
    (h : (createStack r c).1 = .ok handle ∨ (updateStack r c).1 = .ok handle) :
    handle = ⟨r.changeSetName, some (changeSetArn r.region r.changeSetName (c.issued + 1))⟩ := by
  have hcreate : createStack r c = ((createStack r c).1, (createStack r c).2) := rfl
  have hupdate : updateStack r c = ((updateStack r c).1, (updateStack r c).2) := rfl
  rcases h with h | h
  · rw [h] at hcreate
    obtain ⟨detail, -, hanswer, -⟩ | ⟨-, -, hanswer, -⟩ | ⟨-, -, hanswer, -⟩ :=
      createStack_law hcreate
    · cases hanswer
    · cases hanswer
    · exact Except.ok.inj hanswer
  · rw [h] at hupdate
    obtain ⟨detail, -, hanswer, -⟩ | ⟨-, -, hanswer, -⟩ | ⟨-, -, -, hanswer, -⟩ |
      ⟨s, -, -, -, hanswer, -⟩ := updateStack_law hupdate
    · cases hanswer
    · cases hanswer
    · cases hanswer
    · exact Except.ok.inj hanswer

/-- In a legible region the record of such a handle is read back as it was. -/
theorem ChangeSetHandle.parse_of_issued {generation : Int64} {revision : String}
    (hlegible : Legible r.region) (hname : r.changeSetName = ChangeSetName.of generation revision)
    (h : (createStack r c).1 = .ok handle ∨ (updateStack r c).1 = .ok handle) :
    parse handle.reference = handle := by
  rw [issued_handle h, reference, Option.getD_some, parse_changeSetArn, hname, hlegible]

/-- A recorded ARN is used by the attempt it names and by no other; one that has been handed out
names the attempt it was made for. -/
theorem build_handle_reused_iff :
    (∀ i : TargetInput, (TargetStack.build i).changeSet.name =
        ChangeSetName.of i.generation i.revision ∧
      ∀ arn, (TargetStack.build i).changeSet.id = some arn ↔
        ∃ stored, i.lastAttempted = some stored ∧ arn = trim stored ∧ "arn:".toList <+: arn.toList ∧
          NameSegment arn.toList (ChangeSetName.of i.generation i.revision).toList) ∧
    ∀ (c : MemoryCloud) (r : ChangeSetRequest) (generation : Int64) (revision : String)
      (handle : ChangeSetHandle), r.changeSetName = ChangeSetName.of generation revision →
      (∀ x ∈ r.region.toList, x ≠ ':' ∧ x ≠ '/') →
      ((createStack r c).1 = .ok handle ∨ (updateStack r c).1 = .ok handle) →
      ∀ i : TargetInput, i.lastAttempted = some handle.reference →
        (i.generation = generation → i.revision = revision →
          (TargetStack.build i).changeSet = handle) ∧
        (i.generation ≠ generation → (TargetStack.build i).changeSet.id = none) := by
  refine ⟨fun i => ⟨attemptHandle_name _ _, attemptHandle_id_iff _ _ _⟩, ?_⟩
  intro c r generation revision handle hname hregion hissued i hrecorded
  have hparse := parse_of_issued (legible_of_plain hregion) hname hissued
  have hhandle : handle.name = ChangeSetName.of generation revision := by
    rw [issued_handle hissued, hname]
  have hbuild : (TargetStack.build i).changeSet =
      attemptHandle (some handle.reference) (ChangeSetName.of i.generation i.revision) := by
    rw [← hrecorded]
    rfl
  rw [hbuild]
  constructor
  · rintro rfl rfl
    rw [attemptHandle_of_name_eq (by rw [hparse, hhandle]), hparse]
  · intro hother
    have hne : (parse handle.reference).name ≠ ChangeSetName.of i.generation i.revision := by
      rw [hparse, hhandle]
      exact fun heq => hother (ChangeSetName.generation_eq_of_of_eq heq.symm)
    rw [attemptHandle_of_name_ne hne]
    rfl

/-! ## The next round, and the next generation -/

namespace Sample

def firstRequest : ChangeSetRequest :=
  ⟨"eu-north-1", "app-stack", ChangeSetName.of 1 "a", .body "A", [], []⟩

def firstHandle : ChangeSetHandle :=
  ⟨ChangeSetName.of 1 "a", some (changeSetArn "eu-north-1" (ChangeSetName.of 1 "a") 1)⟩

/-- The handle of the first request has been recorded. -/
def attempt (generation : Int64) : TargetInput where
  objectName := "app"
  objectNs := "infra"
  spec := default
  generation := generation
  revision := "a"
  templateBody := "A"
  lastAttempted := some firstHandle.reference
  defaultRegion := "eu-north-1"
  bucket := none
  defaultTags := []

end Sample

open Sample in
theorem build_handle_reused_attempt :
    (TargetStack.build (attempt 1)).changeSet = firstHandle ∧
      (TargetStack.build (attempt 2)).changeSet.id = none := by
  obtain ⟨-, hissued⟩ := build_handle_reused_iff
  have hregion : ∀ x ∈ firstRequest.region.toList, x ≠ ':' ∧ x ≠ '/' := by simp [firstRequest]
  have hcreated : (createStack firstRequest .empty).1 = .ok firstHandle := rfl
  have hreused := hissued .empty firstRequest 1 "a" firstHandle rfl hregion (.inl hcreated)
  exact ⟨(hreused (attempt 1) rfl).1 rfl rfl, (hreused (attempt 2) rfl).2 nofun⟩

end StackSync
