import StackSync.Proofs.Cloud.Frame
import StackSync.Proofs.Reconcile.Addressing
import StackSync.Proofs.Reconcile.Justification

/-!
# Where a handle comes from

A round goes by ARNs that it has from its object's status or from the answers before. A status may be about
another stack, from before the object was renamed, so what it records counts only as far as it will be used:
under the name of the present attempt. That name has the generation in it, and renaming takes a new one. So it
is enough that records of this generation are of this stack (`Trusted`), and that is kept up by what the cloud
hands out (`issued_of_answers`). The calls of a round then stay within its stack (`within_of_justifies`).
-/

namespace StackSync

open Program MemoryCloud ChangeSetHandle

variable {c c' : MemoryCloud} {key : StackKey} {generation : Int64} {h : ChangeSetHandle}
  {revision : String}

/-! ## Trust -/

/-- An ARN that the handle has carries the name of an attempt no later than the generation. If it is one at
the generation, the ARN belongs to the stack. -/
def ChangeSetHandle.Trusted (h : ChangeSetHandle) (c : MemoryCloud) (key : StackKey)
    (generation : Int64) : Prop :=
  ∀ id ∈ h.id, ∃ attempted revision, h.name = ChangeSetName.of attempted revision ∧
    attempted ≤ generation ∧ (attempted = generation → Owned c key id)

namespace ChangeSetHandle.Trusted

theorem of_id_eq_none (hid : h.id = none) : h.Trusted c key generation := by
  intro id hsome
  rw [hid] at hsome
  cases hsome

theorem mono (htrusted : h.Trusted c key generation) (hkeeps : KeepsOwners c c') :
    h.Trusted c' key generation := by
  intro id hid
  obtain ⟨attempted, revision, hname, hle, howned⟩ := htrusted id hid
  exact ⟨attempted, revision, hname, hle, fun heq => hkeeps key id (howned heq)⟩

/-- At a later generation nothing is left of the stack it was for. -/
theorem later (htrusted : h.Trusted c key generation) {generation' : Int64}
    (hlt : generation < generation') (key' : StackKey) : h.Trusted c key' generation' := by
  intro id hid
  obtain ⟨attempted, revision, hname, hle, -⟩ := htrusted id hid
  have hbefore : attempted < generation' := Int64.lt_of_le_of_lt hle hlt
  exact ⟨attempted, revision, hname, Int64.le_of_lt hbefore,
    fun heq => absurd (heq ▸ hbefore) Int64.lt_irrefl⟩

/-- Names of the generation come with ARNs of the stack. -/
theorem owned (htrusted : h.Trusted c key generation)
    (hname : h.name = ChangeSetName.of generation revision) : ∀ id ∈ h.id, Owned c key id := by
  intro id hid
  obtain ⟨attempted, revision', hname', -, howned⟩ := htrusted id hid
  exact howned (ChangeSetName.generation_eq_of_of_eq (hname'.symm.trans hname))

theorem attemptHandle {recorded : Option String}
    (hrecord : ∀ s ∈ recorded, (parse s).Trusted c key generation) (name : String) :
    (attemptHandle recorded name).Trusted c key generation := by
  rcases attemptHandle_eq recorded name with hnamed | ⟨s, hs, -, hparsed⟩
  · exact hnamed ▸ of_id_eq_none rfl
  · exact hparsed ▸ hrecord s hs

/-- What a round records before it has met the change set is read back as it is. -/
theorem reference {recorded : Option String}
    (hrecord : ∀ s ∈ recorded, (parse s).Trusted c key generation) (attempted : Int64)
    (revision : String) :
    (parse (StackSync.attemptHandle recorded (ChangeSetName.of attempted revision)).reference).Trusted
      c key generation := by
  rcases attemptHandle_eq recorded (ChangeSetName.of attempted revision) with
    hnamed | ⟨s, hs, -, hparsed⟩
  · rw [hnamed]
    refine of_id_eq_none ?_
    show (parse (ChangeSetName.of attempted revision)).id = none
    rw [parse_of]
    rfl
  · rw [hparsed, parse_reference_parse]
    exact hrecord s hs

end ChangeSetHandle.Trusted

/-! ## What the cloud hands out -/

/-- The handle finds nothing but change sets of the stack, now and when it is read back from a status. -/
structure Issued (c : MemoryCloud) (key : StackKey) (generation : Int64) (h : ChangeSetHandle) :
    Prop where
  owned : ∀ id ∈ h.id, Owned c key id
  trusted : (parse h.reference).Trusted c key generation

namespace Issued

theorem mono (hissued : Issued c key generation h) (hkeeps : KeepsOwners c c') :
    Issued c' key generation h :=
  ⟨fun id hid => hkeeps key id (hissued.owned id hid), hissued.trusted.mono hkeeps⟩

theorem of_owned {id name : String} (howned : Owned c key id)
    (hread : readName id.toList = ChangeSetName.of generation revision) :
    Issued c key generation ⟨name, some id⟩ := by
  have hparse : parse id = ⟨ChangeSetName.of generation revision, some id⟩ := by
    obtain ⟨region, changeSet, k, -, rfl⟩ := howned.issued
    rw [parse_changeSetArn, hread]
  refine ⟨fun i hi => Option.some.inj hi ▸ howned, ?_⟩
  show (parse id).Trusted c key generation
  rw [hparse]
  exact fun i hi => ⟨generation, revision, rfl, Int64.le_refl _, fun _ => Option.some.inj hi ▸ howned⟩

end Issued

/-- The handle in an answer, if the cloud has given one. -/
def Program.Exchange.handle? : Exchange → Option ChangeSetHandle
  | ⟨.describeChangeSet _ _ _, Except.ok (some d)⟩ => some d.handle
  | ⟨.createStack _, Except.ok h⟩ | ⟨.updateStack _, Except.ok h⟩ => some h
  | _ => none

theorem readName_of_attemptHandle (recorded : Option String) (name : String) :
    ∀ id ∈ (attemptHandle recorded name).id,
      readName id.toList = (attemptHandle recorded name).name := by
  intro id hid
  rcases attemptHandle_eq recorded name with hnamed | ⟨s, -, -, hparsed⟩
  · rw [hnamed] at hid
    cases hid
  · rw [hparsed] at hid ⊢
    exact (name_of_parse_id hid).symm

namespace TargetStack

variable {t : TargetStack}

/-- The change set that is found for the target is one of its stack, and so is one that is made for it. -/
theorem issued_of_answers (hc : Coherent c) (hlegible : Legible t.region)
    (hname : t.changeSet.name = ChangeSetName.of generation revision)
    (howned : ∀ id ∈ t.changeSet.id, Owned c t.key id)
    (hread : ∀ id ∈ t.changeSet.id, readName id.toList = t.changeSet.name) {r : Request}
    {answer : r.Answer} (haddressed : t.Addresses r) (hanswer : c.Answers r answer c') :
    ∀ h ∈ Exchange.handle? ⟨r, answer⟩, Issued c' t.key generation h := by
  have hmade : ∀ {c₁ : MemoryCloud} {s : ChangeSetRecord}, Coherent c₁ →
      s.belongsTo t.key = true → s.region = t.region → s.name = t.changeSet.name →
      SameStore (c₁.addChangeSet s).2 c' → ∀ name,
      Issued c' t.key generation ⟨name, some (changeSetArn s.region s.name (c₁.issued + 1))⟩ := by
    intro c₁ s hc₁ hkey hregion hsname hs name
    have hread : readName (changeSetArn s.region s.name (c₁.issued + 1)).toList =
        ChangeSetName.of generation revision := by
      rw [hregion, hsname, hname]
      exact hlegible generation revision _
    exact .of_owned ((Owned.of_addChangeSet hc₁ hkey).sameStore hs) hread
  intro h hh
  cases r with
  | describeChangeSet region name asked =>
    obtain ⟨rfl, rfl, rfl⟩ := haddressed
    obtain ⟨hs, hfound⟩ := describeChangeSet_law hanswer
    cases answer with
    | error e => cases hh
    | ok found =>
      cases hfind : c.find? t.key t.changeSet with
      | none =>
        rw [hfound found rfl, show (t.region, t.stackName) = t.key from rfl, hfind] at hh
        cases hh
      | some entry =>
        obtain ⟨id, s⟩ := entry
        rw [hfound found rfl, show (t.region, t.stackName) = t.key from rfl, hfind] at hh
        obtain rfl := Option.some.inj hh
        -- found by its ARN it has the name that was read from it, and else the name it was asked for by
        have hid : readName id.toList = ChangeSetName.of generation revision := by
          obtain ⟨hmem, hid | ⟨-, hkey, hsname⟩⟩ := hc.mem_of_find? hfind
          · exact (hread id hid).trans hname
          · obtain ⟨k, -, harn⟩ := hc.arn _ hmem
            have hregion : s.region = t.region := congrArg Prod.fst (beq_iff_eq.1 hkey)
            rw [show id = _ from harn, hregion, hsname, hname]
            exact hlegible generation revision k
        exact .of_owned ((Owned.of_find? hc howned hfind).sameStore hs) hid
  | createStack r =>
    obtain ⟨template, rfl⟩ := haddressed
    rcases createStack_law hanswer with ⟨_, -, rfl, -⟩ | ⟨-, -, rfl, -⟩ | ⟨-, -, rfl, hs⟩
    · cases hh
    · cases hh
    · obtain rfl := Option.some.inj hh
      have hput : Coherent (c.putRecord t.key reservedStack) := hc.of_changeSets_eq rfl rfl
      exact hmade hput (beq_self_eq_true _) rfl rfl hs _
  | updateStack r =>
    obtain ⟨template, rfl⟩ := haddressed
    rcases updateStack_law hanswer with
      ⟨_, -, rfl, -⟩ | ⟨-, -, rfl, -⟩ | ⟨-, -, -, rfl, -⟩ | ⟨s, -, -, -, rfl, hs⟩
    · cases hh
    · cases hh
    · cases hh
    · obtain rfl := Option.some.inj hh
      have hkey : (updateRecord (t.request template) s).belongsTo t.key = true := by
        rw [ChangeSetRecord.belongsTo, updateRecord_region, updateRecord_stack]
        exact beq_self_eq_true _
      have hissued := hmade hc hkey (updateRecord_region _ _) (updateRecord_name _ _) hs
      rw [updateRecord_region, updateRecord_name] at hissued
      exact hissued _
  | _ => cases hh

/-- A change set is executed or deleted by a handle that has been told before. -/
theorem within_of_justifies {m : Manifest} {r : Request} {told : List Exchange}
    (haddressed : t.Addresses r) (hreason : m.Justifies told r)
    (htold : ∀ e ∈ told, ∀ h ∈ e.handle?, Issued c t.key generation h) : r.Within c t.key := by
  cases r with
  | createStack r | updateStack r =>
    obtain ⟨template, rfl⟩ := haddressed
    exact rfl
  | deleteStack region name | continueRollback region name =>
    obtain ⟨rfl, rfl⟩ := haddressed
    exact rfl
  | executeChangeSet region name handle | deleteChangeSet region name handle =>
    obtain ⟨rfl, rfl⟩ := haddressed
    obtain ⟨-, asked, d, hd, rfl, -⟩ := hreason
    exact ⟨rfl, (htold _ hd d.handle rfl).owned⟩
  | _ => trivial

end TargetStack

/-! ## What a round records -/

namespace TargetStack

variable {t : TargetStack} {es : List Exchange} {isCreate : Bool} {ref reference : String}
  {st : ConditionStatus}

/-- What stands for the attempt at the end: what the round has come with, or a handle it has been told. -/
def Records (ref : String) (es : List Exchange) (reference : String) : Prop :=
  reference = ref ∨ ∃ e ∈ es, ∃ h ∈ e.handle?, reference = h.reference

theorem Records.of_cons {e : Exchange} (h : Records ref es reference) :
    Records ref (e :: es) reference := by
  rcases h with h | ⟨e', he', hhandle⟩
  · exact .inl h
  · exact .inr ⟨e', List.mem_cons_of_mem e he', hhandle⟩

theorem records_of_submitted (h : t.Submitted isCreate ref es reference st) :
    Records ref es reference := by
  cases h with
  | oversized _ _ | notUploaded _ | refused _ => exact .inl rfl
  | @accepted placing template handle _ =>
    refine .inr ⟨_, List.mem_append_right placing List.mem_cons_self, handle, ?_, rfl⟩
    cases isCreate <;> rfl

theorem records_of_changeSetPursuit (h : t.ChangeSetPursuit isCreate es reference st) :
    Records t.changeSet.reference es reference := by
  cases h with
  | unseen => exact .inl rfl
  | @missing found _ _ _ _ hsubmitted =>
    rcases records_of_submitted hsubmitted with hsame | ⟨e, he, hhandle⟩
    · cases found with
      | none => exact .inl hsame
      | some d => exact .inr ⟨_, List.mem_cons_self, d.handle, rfl, hsame⟩
    · exact .inr ⟨e, List.mem_cons_of_mem _ he, hhandle⟩
  | waiting _ | unexpected _ | executed _ | executing _ | notExecuted _ | emptyDropped _
  | emptyKept _ | failedDeletion _ => exact .inr ⟨_, List.mem_cons_self, _, rfl, rfl⟩

theorem records_of_pursuit (h : t.Pursuit es reference st) :
    Records t.changeSet.reference es reference := by
  cases h with
  | changeSet _ hpursuit => exact (records_of_changeSetPursuit hpursuit).of_cons
  | unseen | waiting _ | unexpected _ | rollingBack _ | deleting _ => exact .inl rfl

end TargetStack

namespace Operator

variable {o : Operator} {time : String} {m : Manifest} {es : List Exchange} {out : Outcome}
  {d : Status}

/-- A round leaves the record of the last attempt, or records the handle of its own, as it was or as it has
been told. -/
theorem records_of_reconcile (ran : Ran (o.reconcile time m) es out) (hd : out.status = some d) :
    d.lastAttemptedChangeSet = m.base.lastAttemptedChangeSet ∨ ∃ revision reference,
      d.lastAttemptedChangeSet = some reference ∧
        TargetStack.Records (m.handle revision).reference es reference := by
  have hmove : ∀ {s : Status} {a : Attempt} {revision changeSet : Option String} {st},
      m.Observed s → m.Attempts a revision changeSet → s.Moves a st d →
      d.lastAttemptedChangeSet = (changeSet <|> m.base.lastAttemptedChangeSet) := by
    intro s a revision changeSet st hobserved hattempts hmoves
    rw [hmoves.lastAttemptedChangeSet, hattempts.changeSet, hobserved.lastAttemptedChangeSet]
  have hwritten : ∀ {s a st}, out.Writes s a st → s.Moves a st d := by
    rintro s a st ⟨d', hd', hmoves⟩
    rwa [Option.some.inj (hd.symm.trans hd')]
  cases passage_of_reconcile ran with
  | idle _ _ hnone =>
    rw [hd] at hnone
    cases hnone
  | tornDown _ _ hunready =>
    obtain ⟨a, st, hattempts, -, hmoves⟩ := hunready d hd
    exact .inl (hmove (.inl rfl) hattempts hmoves)
  | stopped _ hobserved hattempts hwrites =>
    exact .inl (hmove hobserved hattempts (hwritten hwrites))
  | @pursued revision body reference _ _ _ _ _ hpursuit hobserved hattempts hwrites =>
    refine .inr ⟨revision, reference, hmove hobserved hattempts (hwritten hwrites), ?_⟩
    rcases TargetStack.records_of_pursuit hpursuit with hsame | ⟨e, he, hhandle⟩
    · exact .inl hsame
    · exact .inr ⟨e, (List.mem_filter.1 he).1, hhandle⟩

end Operator

end StackSync
