import StackSync.Proofs.Reconcile.Refusal
import StackSync.Proofs.Reconcile.Rounds

/-!
# One attempt, tried again

The courses of this module stay with one generation and one revision. Stacks may be seeded and
operations may break and work again between two rounds, and the status of a round may get lost.
`Tracked` is the invariant: the stack has at most the one change set of the attempt, what the record
finds belongs to the stack, and the change set there is is what the record finds, unless a round
that made one has lost its status.

The main theorem says when a request is refused as existing: exactly if the record is outdated, that
is, its ARN is gone and another change set has the name. Without a lost write this never happens.
-/

namespace StackSync

open Program MemoryCloud

theorem ChangeSetDescription.status_of_phase_notFound {d : ChangeSetDescription}
    (h : d.phase = .notFound) :
    d.status = "DELETE_COMPLETE" := by
  unfold ChangeSetDescription.phase at h
  split at h
  · assumption
  · repeat' split at h
    all_goals cases h

/-- A recorded ARN of the cloud is used as it is, or not at all. -/
theorem attemptHandle_changeSetArn (region name : String) (k : Nat) (n : String) :
    (attemptHandle (some (changeSetArn region name k)) n).id = none ∨
      (attemptHandle (some (changeSetArn region name k)) n).id =
      some (changeSetArn region name k) := by
  rcases attemptHandle_eq (some (changeSetArn region name k)) n with h | ⟨s, hs, -, h⟩
  · rw [h]
    exact .inl rfl
  · rw [h, ← Option.some.inj hs, parse_changeSetArn]
    exact .inr rfl

/-- The record of an object is outdated for a revision: the ARN in it is gone, and the stack has a
change set of the name the revision is deployed under. -/
def Manifest.Outdated (m : Manifest) (s : OperatorSettings) (revision : String)
    (c : MemoryCloud) : Prop :=
  ∃ id, (m.handle revision).id = some id ∧ c.changeSet? id = none ∧
    c.Taken (m.stackKey s) (ChangeSetName.of m.generation revision)

def Visit.LostChangeSet (v : Visit) : Prop := v.change? = some .made ∧ v.written = false

/-- One attempt, over and over: at the start nothing is recorded, and the stack has no change
sets. -/
def retrying (s : OperatorSettings) (revision : String) : Plan where
  starts m c := m.base.lastAttemptedChangeSet = none ∧ Reachable c ∧
    ∀ e ∈ c.changeSets, e.2.belongsTo (m.stackKey s) = false
  allows v := v.operator.settings = s ∧ ∀ r body, v.loaded = some (r, body) → r = revision
  between m c m' c' := m'.spec = m.spec ∧ m'.generation = m.generation ∧ m'.status = m.status ∧
    c'.changeSets = c.changeSets ∧ c'.issued = c.issued

/-- The handle a round goes by and the change sets of the stack belong together; `lost` says whether
a round that made a change set has lost its status. -/
structure Tracked (key : StackKey) (name : String) (handle : ChangeSetHandle) (lost : Prop)
    (c : MemoryCloud) : Prop where
  coherent : Coherent c
  handle_name : handle.name = name
  named : ∀ e ∈ c.changeSets, e.2.belongsTo key = true → e.2.name = name ∧
      e.2.status ≠ "DELETE_COMPLETE"
  single : ∀ e ∈ c.changeSets, ∀ e' ∈ c.changeSets, e.2.belongsTo key = true →
      e'.2.belongsTo key = true → e = e'
  own : ∀ id r, handle.id = some id → (id, r) ∈ c.changeSets → r.belongsTo key = true
  known : ∀ e ∈ c.changeSets, e.2.belongsTo key = true → handle.id = none ∨ handle.id = some e.1 ∨
      lost

namespace Tracked

variable {key : StackKey} {name : String} {handle handle' : ChangeSetHandle} {lost lost' : Prop}
  {c c' : MemoryCloud}

/-! ## What tracking says about a round -/

theorem belongsTo_of_find? (h : Tracked key name handle lost c) {id : String} {r : ChangeSetRecord}
    (hfind : c.find? key handle = some (id, r)) :
    (id, r) ∈ c.changeSets ∧ r.belongsTo key = true := by
  obtain ⟨hmem, hid | ⟨-, hkey, -⟩⟩ := h.coherent.mem_of_find? hfind
  · exact ⟨hmem, h.own id r hid hmem⟩
  · exact ⟨hmem, hkey⟩

/-- A round that may make a change set has found none at all. -/
theorem find?_of_vacant (h : Tracked key name handle lost c) {t : TargetStack} (hkey : t.key = key)
    (hhandle : t.changeSet = handle) (hvacant : t.Vacant c) : c.find? key handle = none := by
  rw [TargetStack.Vacant, hkey, hhandle] at hvacant
  rcases hvacant with hnone | ⟨id, r, hfind, hphase⟩
  · exact hnone
  · obtain ⟨hmem, hbelongs⟩ := h.belongsTo_of_find? hfind
    have hstatus : r.status = "DELETE_COMPLETE" :=
      ChangeSetDescription.status_of_phase_notFound hphase
    exact absurd hstatus (h.named (id, r) hmem hbelongs).2

/-- If nothing is found although the name is taken, the handle has an ARN that is gone. -/
theorem gone_of_taken (h : Tracked key name handle lost c) (hnone : c.find? key handle = none)
    (htaken : c.Taken key name) : ∃ id, handle.id = some id ∧ c.changeSet? id = none := by
  obtain ⟨hgone, hfree⟩ := h.coherent.of_find?_eq_none hnone
  cases hid : handle.id with
  | none =>
    rw [h.handle_name] at hfree
    exact absurd htaken (hfree hid)
  | some id => exact ⟨id, rfl, hgone id hid⟩

theorem lost_of_gone (h : Tracked key name handle lost c) {id : String} (hid : handle.id = some id)
    (hgone : c.changeSet? id = none) (htaken : c.Taken key name) : lost := by
  obtain ⟨e, he, hkey, -⟩ := htaken
  rcases h.known e he hkey with hnone | hsome | hlost
  · rw [hid] at hnone
    cases hnone
  · rw [hid, Option.some.injEq] at hsome
    rw [hsome, h.coherent.changeSet?_eq_some_iff.2 he] at hgone
    cases hgone
  · exact hlost

/-! ## What keeps track -/

theorem mono (h : Tracked key name handle lost c) (hlost : lost → lost') :
    Tracked key name handle lost' c :=
  ⟨h.coherent, h.handle_name, h.named, h.single, h.own, fun e he hkey =>
    (h.known e he hkey).imp_right (Or.imp_right hlost)⟩

theorem of_changeSets_eq (h : Tracked key name handle lost c) (hsets : c'.changeSets = c.changeSets)
    (hissued : c'.issued = c.issued) : Tracked key name handle lost c' := by
  refine ⟨h.coherent.of_changeSets_eq hsets hissued, h.handle_name, ?_, ?_, ?_, ?_⟩ <;> rw [hsets]
  · exact h.named
  · exact h.single
  · exact h.own
  · exact h.known

theorem shrink (h : Tracked key name handle lost c) (hsets : c'.changeSets.Sublist c.changeSets)
    (hissued : c'.issued = c.issued) : Tracked key name handle lost c' where
  coherent := h.coherent.of_sublist hsets hissued
  handle_name := h.handle_name
  named e he := h.named e (hsets.subset he)
  single e he e' he' := h.single e (hsets.subset he) e' (hsets.subset he')
  own id r hid hmem := h.own id r hid (hsets.subset hmem)
  known e he := h.known e (hsets.subset he)

theorem follow (h : Tracked key name handle lost c) (hname : handle'.name = name)
    (hid : handle'.id = none ∨ handle'.id = handle.id ∨
      ∃ id r, handle'.id = some id ∧ (id, r) ∈ c.changeSets ∧ r.belongsTo key = true) :
    Tracked key name handle' lost c := by
  refine ⟨h.coherent, hname, h.named, h.single, ?_, ?_⟩
  · intro i r hi hmem
    rcases hid with hnone | hsame | ⟨id, r', hid, hmem', hkey⟩
    · rw [hnone] at hi
      cases hi
    · exact h.own i r (hsame ▸ hi) hmem
    · obtain rfl : id = i := Option.some.inj (hid.symm.trans hi)
      have hr := (h.coherent.changeSet?_eq_some_iff.2 hmem).symm.trans
          (h.coherent.changeSet?_eq_some_iff.2 hmem')
      rw [Option.some.inj hr]
      exact hkey
  · intro e he hkey
    rcases hid with hnone | hsame | ⟨id, r', hid, hmem', hkey'⟩
    · exact .inl hnone
    · rw [hsame]
      exact h.known e he hkey
    · refine .inr (.inl ?_)
      rw [hid, h.single e he (id, r') hmem' hkey hkey']

theorem update (h : Tracked key name handle lost c) (id : String)
    {f : ChangeSetRecord → ChangeSetRecord}
    (hregion : ∀ r, (f r).region = r.region) (hstack : ∀ r, (f r).stack = r.stack)
    (hname : ∀ r, (f r).name = r.name) (hstatus : ∀ r, (f r).status = r.status) :
    Tracked key name handle lost (c.updateChangeSet id f) := by
  have hback : ∀ e ∈ (c.updateChangeSet id f).changeSets, ∃ r, (e.1, r) ∈ c.changeSets ∧
      e.2 = (if e.1 = id then f r else r) ∧ e.2.belongsTo key = r.belongsTo key ∧
      e.2.name = r.name ∧
        e.2.status = r.status := by
    intro e he
    obtain ⟨r, hmem, hrecord⟩ := exists_of_mem_updateChangeSet he
    refine ⟨r, hmem, hrecord, ?_⟩
    rw [hrecord]
    split
    · refine ⟨?_, hname r, hstatus r⟩
      rw [ChangeSetRecord.belongsTo, ChangeSetRecord.belongsTo, hregion, hstack]
    · exact ⟨rfl, rfl, rfl⟩
  refine ⟨h.coherent.updateChangeSet id hregion hname, h.handle_name, ?_, ?_, ?_, ?_⟩
  · intro e he hkey
    obtain ⟨r, hmem, -, hbelongs, hn, hs⟩ := hback e he
    rw [hn, hs]
    exact h.named (e.1, r) hmem (hbelongs ▸ hkey)
  · intro e he e' he' hkey hkey'
    obtain ⟨r, hmem, hr, hbelongs, -⟩ := hback e he
    obtain ⟨r', hmem', hr', hbelongs', -⟩ := hback e' he'
    have hsame := Prod.mk.inj (h.single (e.1, r) hmem (e'.1, r') hmem' (hbelongs ▸ hkey)
        (hbelongs' ▸ hkey'))
    refine Prod.ext hsame.1 ?_
    rw [hr, hr', hsame.1, hsame.2]
  · intro i r hi hmem
    obtain ⟨r', hmem', -, hbelongs, -⟩ := hback (i, r) hmem
    exact hbelongs.trans (h.own i r' hi hmem')
  · intro e he hkey
    obtain ⟨r, hmem, -, hbelongs, -⟩ := hback e he
    exact h.known (e.1, r) hmem (hbelongs ▸ hkey)

/-- Making the change set: the stack has had none, and either its ARN is recorded or its status is
lost. -/
theorem add (h : Tracked key name handle lost c) (hfree : ¬ c.Taken key name) {r : ChangeSetRecord}
    (hkey : r.belongsTo key = true) (hname : r.name = name) (hstatus : r.status ≠ "DELETE_COMPLETE")
    (hname' : handle'.name = name)
    (hid : handle'.id = none ∨ handle'.id = some (changeSetArn r.region r.name (c.issued + 1)) ∨
      (handle'.id = handle.id ∧ lost')) :
    Tracked key name handle' lost' (c.addChangeSet r).2 := by
  have hnew : ∀ e ∈ (c.addChangeSet r).2.changeSets, e.2.belongsTo key = true →
      e = (changeSetArn r.region r.name (c.issued + 1), r) := by
    intro e he hbelongs
    rcases List.mem_append.1 he with he | he
    · exact absurd ⟨e, he, hbelongs, (h.named e he hbelongs).1⟩ hfree
    · exact List.mem_singleton.1 he
  refine ⟨h.coherent.addChangeSet r, hname', ?_, ?_, ?_, ?_⟩
  · intro e he hbelongs
    rw [hnew e he hbelongs]
    exact ⟨hname, hstatus⟩
  · intro e he e' he' hbelongs hbelongs'
    rw [hnew e he hbelongs, hnew e' he' hbelongs']
  · intro i r' hi hmem
    rcases List.mem_append.1 hmem with hmem | hmem
    · rcases hid with hnone | harn | ⟨hsame, -⟩
      · rw [hnone] at hi
        cases hi
      · have hi' := Option.some.inj (harn.symm.trans hi)
        exact absurd hi'.symm (h.coherent.fresh r.region r.name (i, r') hmem)
      · exact h.own i r' (hsame ▸ hi) hmem
    · rw [(Prod.mk.inj (List.mem_singleton.1 hmem)).2]
      exact hkey
  · intro e he hbelongs
    rw [hnew e he hbelongs]
    rcases hid with hnone | harn | ⟨-, hlost'⟩
    · exact .inl hnone
    · exact .inr (.inl harn)
    · exact .inr (.inr hlost')

end Tracked

/-! ## Courses of one attempt -/

namespace Visit

variable {v : Visit} {revision : String}

theorem handle_after_of_unready (h : v.Unready) (revision : String) :
    v.after.handle revision = v.object.handle revision := by
  rw [Manifest.handle, Manifest.handle, base_after_of_unready h, after_generation]

theorem handle_after_of_writes {s : Status} {a : Attempt} {st : ConditionStatus}
    {reference : String}
    (hattempt : a.changeSet = some reference) (hwrites : v.outcome.Writes s a st)
    (revision : String) :
    v.after.handle revision =
      if v.written then attemptHandle (some reference)
      (ChangeSetName.of v.object.generation revision)
      else v.object.handle revision := by
  rw [Manifest.handle, base_after_of_writes hattempt hwrites, after_generation]
  split <;> rfl

theorem follow_after {key : StackKey} {name : String} {lost : Prop} {c : MemoryCloud}
    (h : Tracked key name (v.object.handle revision) lost c) {reference : String}
    (hreference : reference = (v.object.handle revision).reference ∨
      ∃ r, c.find? key (v.object.handle revision) = some (reference, r))
    {s : Status} {a : Attempt} {st : ConditionStatus} (hattempt : a.changeSet = some reference)
    (hwrites : v.outcome.Writes s a st) : Tracked key name (v.after.handle revision) lost c := by
  have hname : (v.after.handle revision).name = name := by
    rw [Manifest.handle_name, after_generation, ← h.handle_name, Manifest.handle_name]
  refine h.follow hname ?_
  rw [handle_after_of_writes hattempt hwrites]
  split
  · rcases hreference with rfl | ⟨r, hfind⟩
    · refine .inr (.inl ?_)
      rw [Manifest.handle, attemptHandle_reference]
    · obtain ⟨hmem, hkey⟩ := h.belongsTo_of_find? hfind
      obtain ⟨k, -, harn⟩ := h.coherent.arn _ hmem
      have hid := attemptHandle_changeSetArn r.region r.name k
          (ChangeSetName.of v.object.generation revision)
      rw [← show reference = changeSetArn r.region r.name k from harn] at hid
      rcases hid with hnone | hsome
      · exact .inl hnone
      · exact .inr (.inr ⟨reference, r, hsome, hmem, hkey⟩)
  · exact .inr (.inl rfl)

theorem add_after {key : StackKey} {name : String} {lost : Prop} {c : MemoryCloud}
    (h : Tracked key name (v.object.handle revision) lost c) (hfree : ¬ c.Taken key name)
    {r : ChangeSetRecord}
    (hkey : r.belongsTo key = true) (hname : r.name = name) (hstatus : r.status ≠ "DELETE_COMPLETE")
    (hmade : v.change? = some .made) {s : Status} {a : Attempt} {st : ConditionStatus}
    (hattempt : a.changeSet = some (changeSetArn r.region r.name (c.issued + 1)))
    (hwrites : v.outcome.Writes s a st) :
    Tracked key name (v.after.handle revision) (v.LostChangeSet ∨ lost) (c.addChangeSet r).2 := by
  have hname' : (v.after.handle revision).name = name := by
    rw [Manifest.handle_name, after_generation, ← h.handle_name, Manifest.handle_name]
  refine h.add hfree hkey hname hstatus hname' ?_
  rw [handle_after_of_writes hattempt hwrites]
  cases hwritten : v.written with
  | true =>
    rw [if_pos rfl]
    rcases attemptHandle_changeSetArn r.region r.name (c.issued + 1)
      (ChangeSetName.of v.object.generation revision) with hnone | hsome
    · exact .inl hnone
    · exact .inr (.inl hsome)
  | false =>
    rw [if_neg Bool.false_ne_true]
    exact .inr (.inr ⟨rfl, .inl ⟨hmade, hwritten⟩⟩)

end Visit

def TracksAttempt (s : OperatorSettings) (revision : String) (hist : List Visit) (m : Manifest)
    (c : MemoryCloud) : Prop :=
  Tracked (m.stackKey s) (ChangeSetName.of m.generation revision) (m.handle revision)
    (∃ v ∈ hist, v.LostChangeSet) c

namespace TracksAttempt

variable {s : OperatorSettings} {revision : String} {hist : List Visit}

theorem start {m : Manifest} {c : MemoryCloud} (h : (retrying s revision).starts m c) :
    TracksAttempt s revision [] m c := by
  obtain ⟨hrecord, hreachable, hnone⟩ := h
  have hnot : ∀ e ∈ c.changeSets, ¬ e.2.belongsTo (m.stackKey s) = true := by
    intro e he
    rw [hnone e he]
    exact Bool.false_ne_true
  have hhandle : (m.handle revision).id = none := by
    rw [Manifest.handle, hrecord]
    rfl
  refine ⟨hreachable.coherent, m.handle_name revision, ?_, ?_, ?_, ?_⟩
  · intro e he hkey
    exact absurd hkey (hnot e he)
  · intro e he e' _ hkey
    exact absurd hkey (hnot e he)
  · intro id r hid
    rw [hhandle] at hid
    cases hid
  · intro e he hkey
    exact absurd hkey (hnot e he)

theorem between {m m' : Manifest} {c c' : MemoryCloud} (h : TracksAttempt s revision hist m c)
    (hb : (retrying s revision).between m c m' c') : TracksAttempt s revision hist m' c' := by
  obtain ⟨hspec, hgeneration, hstatus, hsets, hissued⟩ := hb
  have hkey : m'.stackKey s = m.stackKey s := by rw [Manifest.stackKey, hspec]; rfl
  have hhandle : m'.handle revision = m.handle revision := by
    rw [Manifest.handle, Manifest.handle, Manifest.base, Manifest.base, hstatus, hgeneration]
  rw [TracksAttempt, hkey, hhandle, hgeneration]
  exact Tracked.of_changeSets_eq h hsets hissued

/-- A round keeps track, whether its status is written or lost. -/
theorem round {v : Visit} {c c' : MemoryCloud} (h : TracksAttempt s revision hist v.object c)
    (hallowed : (retrying s revision).allows v) (hvalid : v.Valid c c') :
    TracksAttempt s revision (v :: hist) v.after c' := by
  obtain ⟨rfl, hrevision⟩ := hallowed
  have hlost : (∃ w ∈ hist, w.LostChangeSet) → ∃ w ∈ v :: hist, w.LostChangeSet :=
    fun ⟨w, hw, hl⟩ => ⟨w, List.mem_cons_of_mem v hw, hl⟩
  have hlost' : (v.LostChangeSet ∨ ∃ w ∈ hist, w.LostChangeSet) →
      ∃ w ∈ v :: hist, w.LostChangeSet := by
    rintro (hl | hl)
    · exact ⟨v, List.mem_cons_self, hl⟩
    · exact hlost hl
  unfold TracksAttempt at h ⊢
  rw [Visit.after_stackKey, Visit.after_generation]
  cases hvalid.upshot with
  | quiet _ hs hunready =>
    rw [Visit.handle_after_of_unready hunready]
    exact (h.of_changeSets_eq hs.changeSets hs.issued).mono hlost
  | cleared _ hs hunready =>
    rw [Visit.handle_after_of_unready hunready]
    refine (h.shrink ?_ hs.issued).mono hlost
    rw [hs.changeSets]
    exact List.filter_sublist
  | @pursued r body reference base a st hloaded heffect _ hattempt hwrites =>
    obtain rfl := hrevision r body hloaded
    generalize ht : v.operator.targetOf v.object r body = t at heffect
    have hkey : t.key = v.object.stackKey v.operator.settings := by rw [← ht]; rfl
    have hhandle : t.changeSet = v.object.handle r := by rw [← ht]; rfl
    have hname : t.changeSet.name = ChangeSetName.of v.object.generation r := by
      rw [hhandle, Manifest.handle_name]
    have hmade : ∀ {change : Change}, change? (remote v.exchanges) = some change →
        v.change? = some change := by
      intro change hchange
      rw [Visit.change?_of_remote rfl, hchange]
    cases heffect with
    | noted _ hs _ hreference =>
      rw [hkey, hhandle] at hreference
      exact ((Visit.follow_after h hreference hattempt hwrites).of_changeSets_eq hs.changeSets
          hs.issued).mono hlost
    | upToDate _ hfind _ hs =>
      rw [hkey, hhandle] at hfind
      exact ((Visit.follow_after h (.inr ⟨_, hfind⟩) hattempt hwrites).of_changeSets_eq
        hs.changeSets hs.issued).mono hlost
    | dropped _ hfind _ _ hs =>
      rw [hkey, hhandle] at hfind
      have hfollow := Visit.follow_after h (.inr ⟨_, hfind⟩) hattempt hwrites
      refine (hfollow.shrink ?_ hs.issued).mono hlost
      rw [hs.changeSets]
      exact List.filter_sublist
    | @executed _ record _ _ hfind _ hs =>
      rw [hkey, hhandle] at hfind
      have hfollow := Visit.follow_after h (.inr ⟨_, hfind⟩) hattempt hwrites
      have hupdate := hfollow.update reference (f := executedRecord) (fun _ => rfl) (fun _ => rfl)
        (fun _ => rfl) (fun _ => rfl)
      have hsets : (c.execute t.key reference record).changeSets =
          (c.updateChangeSet reference executedRecord).changeSets := by
        unfold execute
        split <;> rfl
      have hissued : (c.execute t.key reference record).issued = c.issued := by
        unfold execute
        split <;> rfl
      exact (hupdate.of_changeSets_eq (hs.changeSets.trans hsets)
        (hs.issued.trans hissued)).mono hlost
    | created hchange _ _ hfree hs =>
      rw [hkey, hname] at hfree
      have hput : Tracked (v.object.stackKey v.operator.settings)
          (ChangeSetName.of v.object.generation r)
          (v.object.handle r) (∃ w ∈ hist, w.LostChangeSet) (c.putRecord t.key reservedStack) :=
        h.of_changeSets_eq rfl rfl
      have hadd := Visit.add_after hput hfree (r := recordOf (t.request t.source) true)
        (by rw [← hkey]; exact beq_self_eq_true _) hname
        (show "CREATE_COMPLETE" ≠ "DELETE_COMPLETE" by simp)
        (hmade hchange) hattempt hwrites
      exact (hadd.of_changeSets_eq hs.changeSets hs.issued).mono hlost'
    | @updated stack _ hchange _ _ _ hfree hs =>
      rw [hkey, hname] at hfree
      have hstatus : (updateRecord (t.request t.source) stack).status ≠ "DELETE_COMPLETE" := by
        unfold updateRecord
        split
        · exact show "FAILED" ≠ "DELETE_COMPLETE" by simp
        · exact show "CREATE_COMPLETE" ≠ "DELETE_COMPLETE" by simp
      have hadd := Visit.add_after h hfree (r := updateRecord (t.request t.source) stack)
        (by rw [ChangeSetRecord.belongsTo, updateRecord_region, updateRecord_stack, ← hkey]
            exact beq_self_eq_true _)
        ((updateRecord_name _ _).trans hname) hstatus (hmade hchange)
        (by rw [updateRecord_region, updateRecord_name]; exact hattempt) hwrites
      exact (hadd.of_changeSets_eq hs.changeSets hs.issued).mono hlost'
    | resumed _ _ _ hs =>
      rw [hhandle] at hattempt
      exact ((Visit.follow_after h (.inl rfl) hattempt hwrites).of_changeSets_eq hs.changeSets
          hs.issued).mono hlost
    | cleared _ _ _ hs =>
      rw [hhandle] at hattempt
      refine ((Visit.follow_after h (.inl rfl) hattempt hwrites).shrink ?_ hs.issued).mono hlost
      rw [hs.changeSets]
      exact List.filter_sublist

end TracksAttempt

theorem tracksAttempt_of_course {s : OperatorSettings} {revision : String} {hist : List Visit}
    {m : Manifest} {c : MemoryCloud} (course : Course (retrying s revision) hist m c) :
    TracksAttempt s revision hist m c :=
  course.invariant (fun _ _ h => .start h)
    (fun _ _ _ _ hallowed hvalid h => h.round hallowed hvalid)
    (fun _ _ _ _ _ hb h => h.between hb)

/-- A request of a round is refused because the change set exists exactly if the record of the
object is outdated then, unless the operation is made to fail. This takes an earlier round that made
a change set and whose status was lost, so with every such status written the name alone keeps
rounds from making a change set twice. -/
theorem refused_iff_outdated {s : OperatorSettings} {revision : String}
    {hist : List Visit} {v : Visit}
    {c c' : MemoryCloud} (course : Course (retrying s revision) hist v.object c)
    (allowed : (retrying s revision).allows v) (valid : v.Valid c c') {isCreate : Bool}
    {r : ChangeSetRequest} {answer : CloudAnswer ChangeSetHandle}
    (asked : Exchange.submission isCreate r answer ∈ v.exchanges)
    (works : c.failures.lookup (submissionOperation isCreate) = none) :
    (answer = .error (alreadyExists r.changeSetName) ↔ v.object.Outdated s revision c) ∧
      (v.object.Outdated s revision c → ∃ w ∈ hist, w.LostChangeSet) := by
  have htracked := tracksAttempt_of_course course
  obtain ⟨rfl, hrevision⟩ := allowed
  obtain ⟨revision', body, hloaded, hvacant, hname, hiff⟩ := valid.submission asked
  obtain rfl := hrevision revision' body hloaded
  have hnone := htracked.find?_of_vacant rfl rfl hvacant
  constructor
  · rw [hiff works, hname]
    constructor
    · intro htaken
      obtain ⟨id, hid, hgone⟩ := htracked.gone_of_taken hnone htaken
      exact ⟨id, hid, hgone, htaken⟩
    · rintro ⟨-, -, -, htaken⟩
      exact htaken
  · rintro ⟨id, hid, hgone, htaken⟩
    exact htracked.lost_of_gone hid hgone htaken

/-! ## A lost change set

The stack has the template already, so every change set is empty and is deleted. After the first one
is gone its ARN stays recorded; the next one is made under the same name, and the write of its
status gets lost. -/

namespace Sample

def repeated : Plan := retrying operator.settings "a"

theorem repeated_between (m : Manifest) (c : MemoryCloud) : repeated.between m c m c :=
  ⟨rfl, rfl, rfl, rfl, rfl⟩

theorem repeated_allows (x : Stage) (written : Bool) : repeated.allows (x.visit "a" written) :=
  ⟨rfl, fun _ _ hloaded => (Prod.mk.inj (Option.some.inj hloaded)).1.symm⟩

def seeded : MemoryCloud :=
  (MemoryCloud.empty.seedStack (object.stackKey operator.settings)
    "CREATE_COMPLETE" none).seedTemplate (object.stackKey operator.settings)
    (object.source operator.settings "a" "A")

theorem seeded_reachable : Reachable seeded := .seedTemplate _ _ (.seedStack _ _ _ .empty)

def unattempted : Stage := ⟨[], object, { World.ofNetwork default with cloud := seeded }⟩
def emptied : Stage := unattempted.next "a" true
def dropped : Stage := emptied.next "a" true
def lost : Stage := dropped.next "a" false

theorem unattempted_reached : unattempted.Reached repeated := by
  have hnone : seeded.changeSets = [] := rfl
  refine ⟨.start ⟨rfl, seeded_reachable, fun e he => ?_⟩, rfl, rfl, rfl⟩
  have hmem : e ∈ seeded.changeSets := he
  rw [hnone] at hmem
  cases hmem

theorem emptied_reached : emptied.Reached repeated :=
  unattempted_reached.next (repeated_allows _ _) repeated_between rfl

theorem lost_runs : dropped.object.lifecycleFacts.choice.duty = some .reconcile ∧
    lost.object.lifecycleFacts.choice.duty = some .reconcile ∧
    (lost.visit "a" true).exchanges.any Exchange.isRefused = true ∧
    lost.world.cloud.failures = [] := by
  decide +kernel

theorem dropped_reached : dropped.Reached repeated :=
  emptied_reached.next (repeated_allows _ _) repeated_between lost_runs.1

theorem lost_reached : lost.Reached repeated :=
  dropped_reached.next (repeated_allows _ _) repeated_between lost_runs.2.1

theorem lost_refused : ∃ isCreate r,
    Exchange.submission isCreate r (.error (alreadyExists r.changeSetName)) ∈
      (lost.visit "a" true).exchanges := by
  obtain ⟨e, he, hrefused⟩ := List.any_eq_true.1 lost_runs.2.2.1
  obtain ⟨isCreate, r, rfl⟩ := exists_submission_of_isRefused hrefused
  exact ⟨isCreate, r, he⟩

end Sample

open Sample in
/-- After the lost write the recorded ARN is outdated. -/
theorem refused_iff_outdated_lost :
    (lost.visit "a" true).object.Outdated operator.settings "a" lost.world.cloud ∧
      ∃ w ∈ lost.visits, w.LostChangeSet := by
  have hworks : ∀ op, lost.world.cloud.failures.lookup op = none := by
    intro op
    rw [lost_runs.2.2.2]
    rfl
  obtain ⟨isCreate, r, hasked⟩ := lost_refused
  obtain ⟨hiff, hlost⟩ := refused_iff_outdated (v := lost.visit "a" true) lost_reached.course
    (repeated_allows lost true) lost_reached.valid.1 hasked (hworks _)
  have houtdated := hiff.1 rfl
  exact ⟨houtdated, hlost houtdated⟩

open Sample in
/-- One lost write is enough for a request to be refused. -/
theorem not_always_unrefused : ¬ ∀ (s : OperatorSettings) (revision : String)
    (hist : List Visit) (v : Visit) (c c' : MemoryCloud) (isCreate : Bool) (r : ChangeSetRequest)
    (answer : CloudAnswer ChangeSetHandle),
    Course (retrying s revision) hist v.object c → (retrying s revision).allows v → v.Valid c c' →
    Exchange.submission isCreate r answer ∈ v.exchanges →
    answer ≠ .error (alreadyExists r.changeSetName) := by
  intro always
  obtain ⟨isCreate, r, hasked⟩ := lost_refused
  exact always operator.settings "a" _ (lost.visit "a" true) _ _ isCreate r _ lost_reached.course
    (repeated_allows lost true) lost_reached.valid.1 hasked rfl

end StackSync
