import StackSync.Proofs.Json.Fields
import StackSync.Resource.Decode
import StackSync.Status.Merge

/-!
# Statuses as they are stored

A status that is written is read back as it was (`Status.decode_toJson`), since what is left out is what
the decoder fills in. A merge patch does not say what it leaves out, and there the stored status speaks:
the patched one is read as the status of the patch as long as that has every field the stored one has
(`optional_status_mergePatch`). So two statuses are the same but for the transition times exactly if
they compare as equal, and that decides whether one is written over the other (`needsWrite_some_iff`).
-/

namespace StackSync

namespace Json

variable {α β : Type} {fields old : Fields} {key : String} {item : Json → Decoded α}

theorem bind_eq_ok_iff {ε : Type} {x : Except ε α} {f : α → Except ε β} {b : β} :
    (x >>= f) = .ok b ↔ ∃ a, x = .ok a ∧ f a = .ok b := by
  cases x with
  | error e => exact ⟨nofun, fun ⟨_, h, _⟩ => by cases h⟩
  | ok a =>
    constructor
    · intro h
      exact ⟨a, rfl, h⟩
    · rintro ⟨a', h, hf⟩
      cases h
      exact hf

theorem pure_eq_ok_iff {ε : Type} {a b : α} : (pure a : Except ε α) = .ok b ↔ a = b :=
  ⟨Except.ok.inj, congrArg Except.ok⟩

theorem map_eq_ok_iff {ε : Type} {x : Except ε α} {f : α → β} {b : β} :
    (f <$> x) = .ok b ↔ ∃ a, x = .ok a ∧ f a = b := by
  cases x with
  | error e => exact ⟨nofun, fun ⟨_, h, _⟩ => by cases h⟩
  | ok a =>
    constructor
    · intro h
      exact ⟨a, rfl, Except.ok.inj h⟩
    · rintro ⟨a', h, rfl⟩
      cases h
      rfl

theorem present?_eq_some_iff {a : α} :
    present? fields key item = .ok (some a) ↔ ∃ v, Fields.get? key fields = some v ∧ item v = .ok a := by
  unfold present?
  cases Fields.get? key fields with
  | none => exact ⟨nofun, nofun⟩
  | some v =>
    constructor
    · intro h
      obtain ⟨a', ha', h⟩ := map_eq_ok_iff.1 h
      cases h
      exact ⟨v, rfl, ha'⟩
    · rintro ⟨v', hv, ha⟩
      cases hv
      exact map_eq_ok_iff.2 ⟨a, ha, rfl⟩

theorem optional_eq_ok_iff {value : Option α} :
    optional fields key item = .ok value ↔
      (Fields.get? key fields = none ∧ value = none) ∨
        ∃ v, Fields.get? key fields = some v ∧ asOptional item v = .ok value := by
  unfold optional
  cases hget : Fields.get? key fields with
  | none =>
    simp only [present?, hget]
    constructor
    · intro h
      cases h
      exact .inl ⟨trivial, rfl⟩
    · rintro (⟨-, rfl⟩ | ⟨v, hv, -⟩)
      · rfl
      · cases hv
  | some v =>
    simp only [present?, hget]
    constructor
    · intro h
      obtain ⟨joined, hjoined, rfl⟩ := map_eq_ok_iff.1 h
      obtain ⟨read, hread, rfl⟩ := map_eq_ok_iff.1 hjoined
      exact .inr ⟨v, rfl, hread⟩
    · rintro (⟨hnone, -⟩ | ⟨v', hv, hread⟩)
      · cases hnone
      · cases hv
        rw [hread]
        rfl

/-- An optional field, written over fields that do not have it unless it is written itself. -/
theorem optional_of_written {write : α → Json} (hitem : ∀ a, asOptional item (write a) = .ok (some a))
    {value : Option α} (hget : Fields.get? key fields = (value.map write).or (Fields.get? key old))
    (hold : value = none → optional old key item = .ok none) :
    optional fields key item = .ok value := by
  cases value with
  | none =>
    rw [Option.map_none, Option.none_or] at hget
    rw [optional_eq_ok_iff, hget]
    exact optional_eq_ok_iff.1 (hold rfl)
  | some a =>
    rw [Option.map_some, Option.some_or] at hget
    exact optional_eq_ok_iff.2 (.inr ⟨_, hget, hitem a⟩)

theorem optional_of_get? {write : α → Json} (hitem : ∀ a, asOptional item (write a) = .ok (some a))
    {value : Option α} (hget : Fields.get? key fields = value.map write) :
    optional fields key item = .ok value := by
  have hnone : value.map write = (value.map write).or (Fields.get? key []) := (Option.or_none ..).symm
  exact optional_of_written hitem (hget.trans hnone) fun _ => rfl

theorem present?_congr (h : Fields.get? key fields = Fields.get? key old) :
    present? fields key item = present? old key item := by
  simp only [present?, h]

theorem asInt64_ofInt64 (n : Int64) : asInt64 (ofInt64 n) = .ok n := by
  have hrange : Int64.minValue.toInt ≤ n.toInt ∧ n.toInt ≤ Int64.maxValue.toInt :=
    ⟨Int64.le_iff_toInt_le.1 (Int64.minValue_le n), Int64.le_iff_toInt_le.1 (Int64.le_maxValue n)⟩
  simp only [ofInt64, asInt64, if_pos hrange, Int64.ofInt_toInt]

theorem asOptional_string (s : String) : asOptional asString (.string s) = .ok (some s) := rfl

theorem asOptional_ofInt64 (n : Int64) : asOptional asInt64 (ofInt64 n) = .ok (some n) := by
  show some <$> asInt64 (ofInt64 n) = _
  rw [asInt64_ofInt64]
  rfl

theorem asArray_map {write : α → Json} (hitem : ∀ a, item (write a) = .ok a) (values : List α) :
    asArray item (.array (values.map write)) = .ok values := by
  show (values.map write).mapM item = _
  induction values with
  | nil => rfl
  | cons a rest ih =>
    rw [List.map_cons, List.mapM_cons, hitem, ih]
    rfl

/-- A record that is written field by field is read through what is found under the keys. -/
theorem decode_recordOf {decode : Json → Decoded α} (table : List (String × Option Json))
    (hnodup : (table.map (·.1)).Nodup) {x : α}
    (h : ∀ fields, (∀ key, Fields.get? key fields = (table.lookup key).join) →
      decode (.object fields) = .ok x) : decode (recordOf table) = .ok x :=
  h _ (get?_recordOf hnodup)

/-- A list, written over fields that do not have it unless it is written itself. -/
theorem orDefault_of_written {write : α → Json} (hitem : ∀ a, item (write a) = .ok a)
    {values : List α}
    (hget : Fields.get? key fields = (nonEmpty? (values.map write)).or (Fields.get? key old))
    (hold : values = [] → orDefault old key [] (asArray item) = .ok []) :
    orDefault fields key [] (asArray item) = .ok values := by
  cases values with
  | nil =>
    have hnone : nonEmpty? (([] : List α).map write) = none := rfl
    rw [hnone, Option.none_or] at hget
    rw [← hold rfl]
    simp only [orDefault, present?_congr hget]
  | cons a rest =>
    have hsome : nonEmpty? ((a :: rest).map write) = some (.array ((a :: rest).map write)) := rfl
    rw [hsome, Option.some_or] at hget
    rw [orDefault, present?_eq_some_iff.2 ⟨_, hget, asArray_map hitem _⟩]
    rfl

theorem orDefault_of_get? {write : α → Json} (hitem : ∀ a, item (write a) = .ok a)
    {values : List α} (hget : Fields.get? key fields = nonEmpty? (values.map write)) :
    orDefault fields key [] (asArray item) = .ok values := by
  have hnone : nonEmpty? (values.map write) =
      (nonEmpty? (values.map write)).or (Fields.get? key []) := (Option.or_none ..).symm
  exact orDefault_of_written hitem (hget.trans hnone) fun _ => rfl

end Json

open Json

/-! ## Conditions -/

theorem ConditionStatus.decode_text (s : ConditionStatus) :
    ConditionStatus.decode (.string s.text) = .ok s := by
  cases s <;> rfl

namespace Condition

/-- The fields a condition is written with. -/
def written (c : Condition) : List (String × Option Json) := [
  ("type", some (.string c.type)), ("status", some (.string c.status.text)),
  ("reason", c.reason.map .string), ("message", c.message.map .string),
  ("observedGeneration", c.observedGeneration.map .ofInt64),
  ("lastTransitionTime", c.lastTransitionTime.map .string)]

theorem field?_toJson (c : Condition) (key : String) :
    c.toJson.field? key = (c.written.lookup key).join := by
  have hnodup : (c.written.map (·.1)).Nodup := by simp [written]
  exact get?_recordOf hnodup key

theorem decode_toJson (c : Condition) : Condition.decode c.toJson = .ok c := by
  refine decode_recordOf c.written (by simp [written]) fun fields hget => ?_
  have hgeneration : optional fields "observedGeneration" asInt64 = .ok c.observedGeneration :=
    optional_of_get? asOptional_ofInt64 (hget _)
  have hstatus : present? fields "status" ConditionStatus.decode = .ok (some c.status) :=
    present?_eq_some_iff.2 ⟨_, hget _, c.status.decode_text⟩
  have htype : present? fields "type" asString = .ok (some c.type) :=
    present?_eq_some_iff.2 ⟨.string c.type, hget _, rfl⟩
  have htime : optional fields "lastTransitionTime" asString = .ok c.lastTransitionTime :=
    optional_of_get? asOptional_string (hget _)
  have hmessage : optional fields "message" asString = .ok c.message :=
    optional_of_get? asOptional_string (hget _)
  have hreason : optional fields "reason" asString = .ok c.reason :=
    optional_of_get? asOptional_string (hget _)
  show Condition.byName fields = .ok c
  simp only [byName, htime, hmessage, hgeneration, hreason, hstatus, htype]
  rfl

/-- The condition, whenever it came about. -/
def timeless (c : Condition) : Condition := { c with lastTransitionTime := none }

theorem withoutTransitionTime_toJson (c : Condition) :
    withoutTransitionTime c.toJson = c.timeless.toJson := by
  show Json.object (Fields.erase "lastTransitionTime" (Fields.ofList _)) = .object (Fields.ofList _)
  congr 1
  refine ((Fields.sorted_ofList _).erase _).ext (Fields.sorted_ofList _) fun key => ?_
  rw [Fields.get?_erase]
  refine Eq.trans (congrArg _ (field?_toJson c key)) (Eq.trans ?_ (field?_toJson c.timeless key).symm)
  by_cases hkey : "lastTransitionTime" = key
  · subst hkey
    rfl
  · rw [if_neg hkey]
    simp only [written, timeless, List.lookup_cons, beq_false_of_ne (Ne.symm hkey)]

end Condition

/-! ## Statuses -/

namespace Status

variable {fields old : Fields} {s stored d : Status}

/-- The fields a status is written with. -/
def written (s : Status) : List (String × Option Json) := [
  ("observedGeneration", s.observedGeneration.map .ofInt64),
  ("conditions", Json.nonEmpty? (s.conditions.map (·.toJson))),
  ("lastAttemptedRevision", s.lastAttemptedRevision.map .string),
  ("lastAppliedRevision", s.lastAppliedRevision.map .string),
  ("lastAttemptedChangeSet", s.lastAttemptedChangeSet.map .string),
  ("lastAppliedChangeSet", s.lastAppliedChangeSet.map .string),
  ("stackName", s.stackName.map .string)]

theorem field?_toJson (s : Status) (key : String) :
    s.toJson.field? key = (s.written.lookup key).join := by
  have hnodup : (s.written.map (·.1)).Nodup := by simp [written]
  exact get?_recordOf hnodup key

theorem exists_fields (s : Status) : ∃ fields, s.toJson = .object fields ∧ Fields.Sorted fields ∧
    ∀ key, Fields.get? key fields = (s.written.lookup key).join :=
  ⟨_, rfl, Fields.sorted_ofList _, s.field?_toJson⟩

theorem lookup_conditions_written (s : Status) :
    (s.written.lookup "conditions").join = Json.nonEmpty? (s.conditions.map (·.toJson)) := rfl

/-- Fields that are read as the status, one by one. -/
structure ReadAs (fields : Fields) (s : Status) : Prop where
  conditions : orDefault fields "conditions" [] (asArray Condition.decode) = .ok s.conditions
  lastAppliedChangeSet : optional fields "lastAppliedChangeSet" asString = .ok s.lastAppliedChangeSet
  lastAppliedRevision : optional fields "lastAppliedRevision" asString = .ok s.lastAppliedRevision
  lastAttemptedChangeSet :
    optional fields "lastAttemptedChangeSet" asString = .ok s.lastAttemptedChangeSet
  lastAttemptedRevision : optional fields "lastAttemptedRevision" asString = .ok s.lastAttemptedRevision
  observedGeneration : optional fields "observedGeneration" asInt64 = .ok s.observedGeneration
  stackName : optional fields "stackName" asString = .ok s.stackName

theorem byName_eq_ok_iff : byName fields = .ok s ↔ ReadAs fields s := by
  simp only [byName, bind_eq_ok_iff, pure_eq_ok_iff]
  constructor
  · rintro ⟨_, h₁, _, h₂, _, h₃, _, h₄, _, h₅, _, h₆, _, h₇, rfl⟩
    exact ⟨h₁, h₂, h₃, h₄, h₅, h₆, h₇⟩
  · rintro ⟨h₁, h₂, h₃, h₄, h₅, h₆, h₇⟩
    exact ⟨_, h₁, _, h₂, _, h₃, _, h₄, _, h₅, _, h₆, _, h₇, rfl⟩

/-- The one has every field that the other has. -/
structure Covers (d s : Status) : Prop where
  conditions : d.conditions = [] → s.conditions = []
  lastAppliedChangeSet : d.lastAppliedChangeSet = none → s.lastAppliedChangeSet = none
  lastAppliedRevision : d.lastAppliedRevision = none → s.lastAppliedRevision = none
  lastAttemptedChangeSet : d.lastAttemptedChangeSet = none → s.lastAttemptedChangeSet = none
  lastAttemptedRevision : d.lastAttemptedRevision = none → s.lastAttemptedRevision = none
  observedGeneration : d.observedGeneration = none → s.observedGeneration = none
  stackName : d.stackName = none → s.stackName = none

theorem covers_empty (d : Status) : d.Covers .empty := by
  constructor <;> exact fun _ => rfl

theorem readAs_nil : ReadAs [] .empty := by
  constructor <;> rfl

/-- A status that is written over fields which it covers is what is read afterwards. -/
theorem ReadAs.of_written (hget : ∀ key, Fields.get? key fields =
      ((d.written.lookup key).join).or (Fields.get? key old))
    (hold : ReadAs old s) (hcovers : d.Covers s) : ReadAs fields d where
  conditions := orDefault_of_written Condition.decode_toJson (hget _) fun hnone => by
    rw [hold.conditions, hcovers.conditions hnone]
  lastAppliedChangeSet := optional_of_written asOptional_string (hget _) fun hnone => by
    rw [hold.lastAppliedChangeSet, hcovers.lastAppliedChangeSet hnone]
  lastAppliedRevision := optional_of_written asOptional_string (hget _) fun hnone => by
    rw [hold.lastAppliedRevision, hcovers.lastAppliedRevision hnone]
  lastAttemptedChangeSet := optional_of_written asOptional_string (hget _) fun hnone => by
    rw [hold.lastAttemptedChangeSet, hcovers.lastAttemptedChangeSet hnone]
  lastAttemptedRevision := optional_of_written asOptional_string (hget _) fun hnone => by
    rw [hold.lastAttemptedRevision, hcovers.lastAttemptedRevision hnone]
  observedGeneration := optional_of_written asOptional_ofInt64 (hget _) fun hnone => by
    rw [hold.observedGeneration, hcovers.observedGeneration hnone]
  stackName := optional_of_written asOptional_string (hget _) fun hnone => by
    rw [hold.stackName, hcovers.stackName hnone]

theorem decode_toJson (s : Status) : Status.decode s.toJson = .ok s := by
  obtain ⟨fields, hfields, -, hget⟩ := s.exists_fields
  rw [hfields]
  refine byName_eq_ok_iff.2 (ReadAs.of_written (fun key => ?_) readAs_nil s.covers_empty)
  rw [hget, Fields.get?, Option.or_none]

theorem toJson_injective (h : s.toJson = d.toJson) : s = d := by
  have hdecoded := decode_toJson s
  rw [h, decode_toJson, Except.ok.injEq] at hdecoded
  exact hdecoded.symm

/-! ### Patching the stored status -/

theorem isPlain_of_written {key : String} {value : Json}
    (h : (s.written.lookup key).join = some value) : value.IsPlain := by
  obtain ⟨before, after, hsplit, -⟩ := List.lookup_eq_some_iff.1 (Option.join_eq_some_iff.1 h)
  have hmem : (key, some value) ∈ s.written := hsplit ▸ List.mem_append_right _ List.mem_cons_self
  have hmap : ∀ {α : Type} {v : Option α} {write : α → Json}, some value = v.map write →
      (∀ a, (write a).IsPlain) → value.IsPlain := by
    intro α v write heq hplain
    obtain ⟨a, -, rfl⟩ := Option.map_eq_some_iff.1 heq.symm
    exact hplain a
  have hlist : some value = Json.nonEmpty? (s.conditions.map (·.toJson)) → value.IsPlain := by
    intro heq
    unfold Json.nonEmpty? at heq
    split at heq
    · cases heq
    · cases heq
      trivial
  simp only [written, List.mem_cons, Prod.mk.injEq, List.not_mem_nil, or_false] at hmem
  rcases hmem with ⟨-, h⟩ | ⟨-, h⟩ | ⟨-, h⟩ | ⟨-, h⟩ | ⟨-, h⟩ | ⟨-, h⟩ | ⟨-, h⟩
  · exact hmap h fun _ => trivial
  · exact hlist h
  all_goals exact hmap h fun _ => trivial

/-- What is stored under the status, as the fields that a patch is merged into: those of the stored
status, or none at all. -/
theorem readAs_fieldsOf {stored : Option Status}
    (h : optional old "status" Status.decode = .ok stored) :
    ∃ s, ReadAs (fieldsOf ((Fields.get? "status" old).getD .null)) s ∧
      (s = stored.getD .empty ∨ s = .empty) := by
  rcases optional_eq_ok_iff.1 h with ⟨hnone, -⟩ | ⟨value, hvalue, hread⟩
  · rw [hnone]
    exact ⟨.empty, readAs_nil, .inr rfl⟩
  · rw [hvalue]
    cases value with
    | object fields =>
      have hmap : some <$> Status.decode (.object fields) = .ok stored := hread
      obtain ⟨s, hs, rfl⟩ := map_eq_ok_iff.1 hmap
      exact ⟨s, byName_eq_ok_iff.1 hs, .inl rfl⟩
    | _ => exact ⟨.empty, readAs_nil, .inr rfl⟩

/-- The stored status, patched with one that covers it, is read as the patch. -/
theorem optional_status_mergePatch {stored : Option Status}
    (hstored : optional old "status" Status.decode = .ok stored)
    (hcovers : d.Covers (stored.getD .empty))
    (hget : Fields.get? "status" fields =
      some (((Fields.get? "status" old).getD .null).mergePatch d.toJson)) :
    optional fields "status" Status.decode = .ok (some d) := by
  obtain ⟨s, hreads, hs⟩ := readAs_fieldsOf hstored
  have hcovers : d.Covers s := by
    rcases hs with rfl | rfl
    · exact hcovers
    · exact d.covers_empty
  obtain ⟨patch, hpatch, hsorted, hfield⟩ := d.exists_fields
  rw [hpatch, mergePatch] at hget
  have hread : byName (mergeFields (fieldsOf ((Fields.get? "status" old).getD .null)) patch) =
      .ok d := by
    refine byName_eq_ok_iff.2 (ReadAs.of_written (fun key => ?_) hreads hcovers)
    rw [get?_mergeFields hsorted (fun key value hvalue => isPlain_of_written (hfield key ▸ hvalue)),
      hfield]
  exact optional_eq_ok_iff.2 (.inr ⟨_, hget, map_eq_ok_iff.2 ⟨d, hread, rfl⟩⟩)

/-! ### Statuses that differ in their times -/

/-- The status, whenever its conditions came about. -/
def timeless (s : Status) : Status := { s with conditions := s.conditions.map (·.timeless) }

theorem comparable_eq (s : Status) : s.comparable = s.timeless.toJson := by
  obtain ⟨fields, hfields, hsorted, hfield⟩ := s.exists_fields
  cases hlist : s.conditions with
  | nil =>
    have hnone : Fields.get? "conditions" fields = none := by
      rw [hfield, lookup_conditions_written, hlist]
      rfl
    have hsame : s.timeless = s := by
      rw [timeless, hlist, List.map_nil, ← hlist]
    simp only [comparable, hfields, hnone]
    rw [hsame, hfields]
  | cons c rest =>
    have hsome : Fields.get? "conditions" fields = some (.array ((c :: rest).map (·.toJson))) := by
      rw [hfield, lookup_conditions_written, hlist]
      rfl
    simp only [comparable, hfields, hsome]
    show Json.object _ = .object (Fields.ofList _)
    congr 1
    refine (hsorted.insert _ _).ext (Fields.sorted_ofList _) fun key => ?_
    refine Eq.trans ?_ (field?_toJson s.timeless key).symm
    rw [Fields.get?_insert, hfield]
    by_cases hkey : "conditions" = key
    · subst hkey
      simp [written, timeless, List.lookup_cons, hlist, Json.nonEmpty?,
        Condition.withoutTransitionTime_toJson]
    · rw [if_neg hkey]
      simp only [written, timeless, List.lookup_cons, beq_false_of_ne (Ne.symm hkey)]

/-- A status is written over another one exactly if they differ in more than times. -/
theorem needsWrite_some_iff (stored d : Status) :
    needsWrite (some stored) d = true ↔ stored.timeless ≠ d.timeless := by
  simp only [needsWrite, decide_eq_true_eq, comparable_eq, ne_eq]
  exact not_congr ⟨toJson_injective, congrArg toJson⟩

end Status

end StackSync
