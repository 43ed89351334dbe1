import StackSync.Proofs.Cloud.Replay
import StackSync.Proofs.Reconcile.Passage

/-!
# What a round does to the cloud

A round that pursues a target against the cloud in memory changes it in at most one way, and which
one follows from what it found. `Effect` lists the ways: nothing, a change set taken away, executed,
or made, or the stack itself resumed or cleared. `effect_of_pursuit` puts the look-ups of a round
and the laws of the operations together; invariants of the cloud are then preserved by a case
analysis on effects.
-/

namespace StackSync

open Program MemoryCloud

inductive Change where
  | executed (key : StackKey)
  | cleared (key : StackKey)
  | made
  deriving DecidableEq, Repr

def Program.Exchange.change? : Exchange → Option Change
  | ⟨.executeChangeSet region name _, Except.ok _⟩ => some (.executed (region, name))
  | ⟨.deleteStack region name, Except.ok _⟩ => some (.cleared (region, name))
  | ⟨.createStack _, Except.ok _⟩ | ⟨.updateStack _, Except.ok _⟩ => some .made
  | _ => none

/-- What a conversation changed: a round makes one such change at most. -/
def change? (es : List Exchange) : Option Change := es.findSome? Exchange.change?

theorem change?_remote (es : List Exchange) : change? (remote es) = change? es := by
  induction es with
  | nil => rfl
  | cons e rest ih =>
    cases hremote : e.request.isRemote with
    | true =>
      rw [remote_cons_of_isRemote hremote]
      simp only [change?, List.findSome?_cons] at ih ⊢
      rw [ih]
    | false =>
      have hnone : e.change? = none := by
        obtain ⟨request, answer⟩ := e
        cases request <;> first | rfl | cases hremote
      rw [remote_cons_of_not_isRemote hremote, ih]
      simp only [change?, List.findSome?_cons, hnone]

/-! ## Phases behind moves -/

theorem ChangeSetDescription.phase_of_move (d : ChangeSetDescription) :
    match d.move with
    | .create => d.phase = .notFound
    | .deleteEmpty => d.phase = .empty
    | .deleteFailed _ => d.phase = .failed
    | .wait _ => d.phase = .inProgress
    | .ready => d.phase = .success
    | .execute => d.phase = .readyForExecution
    | .unexpected _ => d.phase = .unclassified := by
  unfold ChangeSetDescription.move
  cases d.phase <;> rfl

theorem StackDescription.phase_of_move (s : StackDescription) :
    match s.move with
    | .changeSet true _ => s.phase = .notCreated
    | .changeSet false _ => s.phase = .success ∨ s.phase = .recoverableFailure
    | .wait _ => s.phase = .inProgress
    | .continueRollback => s.phase = .rollbackContinuationNeeded
    | .deleteUnrecoverable _ => s.phase = .unrecoverableFailure
    | .unexpected _ => s.phase = .unclassified := by
  unfold StackDescription.move
  cases s.phase <;> first | rfl | exact .inl rfl | exact .inr rfl

theorem ChangeSetDescription.available_of_readyForExecution {d : ChangeSetDescription}
    (h : d.phase = .readyForExecution) :
    d.status = "CREATE_COMPLETE" ∧ d.execution = "AVAILABLE" := by
  unfold ChangeSetDescription.phase at h
  split at h
  · cases h
  · repeat' split at h
    all_goals first | assumption | cases h

def MemoryCloud.phaseOf (found : String × ChangeSetRecord) : ChangeSetPhase :=
  (description found).phase

def MemoryCloud.StackRecord.phase (s : StackRecord) : StackPhase := .ofStatus s.status

theorem MemoryCloud.deployed_phase (r : ChangeSetRecord) :
    StackRecord.phase (deployed r) = .success := by
  have hcreated : StackPhase.ofStatus "CREATE_COMPLETE" = .success := rfl
  have hupdated : StackPhase.ofStatus "UPDATE_COMPLETE" = .success := rfl
  rw [StackRecord.phase, deployed]
  cases r.isCreate with
  | true => exact hcreated
  | false => exact hupdated

theorem MemoryCloud.reservedStack_phase : StackRecord.phase reservedStack = .notCreated := rfl

theorem MemoryCloud.rolledBack_phase (s : StackRecord) :
    StackRecord.phase (rolledBack s) = .recoverableFailure := by
  have hback : StackPhase.ofStatus "UPDATE_ROLLBACK_COMPLETE" =
      .recoverableFailure := rfl
  exact hback

theorem MemoryCloud.phaseOf_recordOf (id : String) (r : ChangeSetRequest) (isCreate : Bool) :
    phaseOf (id, recordOf r isCreate) = .readyForExecution := by
  have hphase : ChangeSetDescription.phase
      ⟨.named "", "CREATE_COMPLETE", some "AVAILABLE", none, []⟩ =
      .readyForExecution := rfl
  exact hphase

namespace TargetStack

def key (t : TargetStack) : StackKey := (t.region, t.stackName)

/-- A round may make a change set: it has found none, or one that is only remembered as deleted. -/
def Vacant (t : TargetStack) (c : MemoryCloud) : Prop :=
  c.find? t.key t.changeSet = none ∨
    ∃ id s, c.find? t.key t.changeSet = some (id, s) ∧ phaseOf (id, s) = .notFound

/-- What a round with this target does to the cloud, by its exchanges, the reference it records, its
verdict on `Ready` and the cloud afterwards. -/
inductive Effect (t : TargetStack) (c : MemoryCloud) :
    List Exchange → String → ConditionStatus → MemoryCloud → Prop where
  | noted {es : List Exchange} {reference : String} {st : ConditionStatus} {c' : MemoryCloud} :
      change? es = none → SameStore c c' → st ≠ .true →
      (reference = t.changeSet.reference ∨
        ∃ s, c.find? t.key t.changeSet = some (reference, s)) →
      Effect t c es reference st c'
  | upToDate {es : List Exchange} {id : String} {s : ChangeSetRecord} {c' : MemoryCloud} :
      change? es = none → c.find? t.key t.changeSet = some (id, s) → phaseOf (id, s) = .success →
      SameStore c c' → Effect t c es id .true c'
  | dropped {es : List Exchange} {id : String} {s : ChangeSetRecord} {st : ConditionStatus}
      {c' : MemoryCloud} :
      change? es = none → c.find? t.key t.changeSet = some (id, s) →
      (st = .true → phaseOf (id, s) = .empty) → (st ≠ .true → phaseOf (id, s) = .failed) →
      SameStore (c.eraseChangeSet id) c' → Effect t c es id st c'
  | executed {es : List Exchange} {id : String} {s : ChangeSetRecord} {c' : MemoryCloud} :
      change? es = some (.executed t.key) → c.find? t.key t.changeSet = some (id, s) →
      phaseOf (id, s) = .readyForExecution →
      SameStore (c.execute t.key id s) c' → Effect t c es id .unknown c'
  | created {es : List Exchange} {c' : MemoryCloud} :
      change? es = some .made → (∀ s, c.stack? t.key = some s → StackRecord.phase s = .notCreated) →
      t.Vacant c → ¬ c.Taken t.key t.changeSet.name →
      SameStore ((c.putRecord t.key reservedStack).addChangeSet
        (recordOf (t.request t.source) true)).2 c' →
      Effect t c es (changeSetArn t.region t.changeSet.name (c.issued + 1)) .unknown c'
  | updated {es : List Exchange} {s : StackRecord} {c' : MemoryCloud} :
      change? es = some .made → c.stack? t.key = some s →
      StackRecord.phase s = .success ∨ StackRecord.phase s = .recoverableFailure →
      t.Vacant c → ¬ c.Taken t.key t.changeSet.name →
      SameStore (c.addChangeSet (updateRecord (t.request t.source) s)).2 c' →
      Effect t c es (changeSetArn t.region t.changeSet.name (c.issued + 1)) .unknown c'
  | resumed {es : List Exchange} {s : StackRecord} {c' : MemoryCloud} :
      change? es = none → c.stack? t.key = some s →
      StackRecord.phase s = .rollbackContinuationNeeded →
      SameStore (c.putRecord t.key (rolledBack s)) c' →
      Effect t c es t.changeSet.reference .false c'
  | cleared {es : List Exchange} {s : StackRecord} {c' : MemoryCloud} :
      change? es = some (.cleared t.key) → c.stack? t.key = some s →
      StackRecord.phase s = .unrecoverableFailure →
      SameStore (c.eraseStack t.key) c' → Effect t c es t.changeSet.reference .false c'

end TargetStack

namespace TargetStack

variable {t : TargetStack} {c c₁ c' : MemoryCloud} {es : List Exchange} {reference : String}
  {st : ConditionStatus} {isCreate : Bool}

theorem Vacant.of_sameStore (h : t.Vacant c₁) (hs : SameStore c c₁) : t.Vacant c := by
  rw [Vacant, hs.find?] at h
  exact h

theorem Effect.of_sameStore (h : t.Effect c₁ es reference st c') (hs : SameStore c c₁) :
    t.Effect c es reference st c' := by
  cases h with
  | noted hes hc hst href =>
    rw [hs.find?] at href
    exact .noted hes (hs.trans hc) hst href
  | upToDate hes hfind hphase hc =>
    rw [hs.find?] at hfind
    exact .upToDate hes hfind hphase (hs.trans hc)
  | dropped hes hfind hempty hfailed hc =>
    rw [hs.find?] at hfind
    exact .dropped hes hfind hempty hfailed ((hs.eraseChangeSet _).trans hc)
  | executed hes hfind hphase hc =>
    rw [hs.find?] at hfind
    exact .executed hes hfind hphase ((hs.execute _ _ _).trans hc)
  | created hes hstack hvacant hfree hc =>
    rw [hs.issued]
    refine .created hes ?_ (hvacant.of_sameStore hs) (fun h => hfree ((hs.taken_iff _ _).2 h))
      (((hs.putRecord _ _).addChangeSet _).trans hc)
    intro s hstack'
    exact hstack s (by rw [hs.stack?]; exact hstack')
  | updated hes hstack hphase hvacant hfree hc =>
    rw [hs.issued]
    rw [hs.stack?] at hstack
    exact .updated hes hstack hphase (hvacant.of_sameStore hs)
      (fun h => hfree ((hs.taken_iff _ _).2 h)) ((hs.addChangeSet _).trans hc)
  | resumed hes hstack hphase hc =>
    rw [hs.stack?] at hstack
    exact .resumed hes hstack hphase ((hs.putRecord _ _).trans hc)
  | cleared hes hstack hphase hc =>
    rw [hs.stack?] at hstack
    exact .cleared hes hstack hphase ((hs.eraseStack _).trans hc)

theorem Effect.cons {e : Exchange} (h : t.Effect c es reference st c') (he : e.change? = none) :
    t.Effect c (e :: es) reference st c' := by
  have hcons : change? (e :: es) = change? es := by
    simp only [change?, List.findSome?_cons, he]
  cases h with
  | noted hes hc hst href => exact .noted (hcons.trans hes) hc hst href
  | upToDate hes hfind hphase hc => exact .upToDate (hcons.trans hes) hfind hphase hc
  | dropped hes hfind hempty hfailed hc => exact .dropped (hcons.trans hes) hfind hempty hfailed hc
  | executed hes hfind hphase hc => exact .executed (hcons.trans hes) hfind hphase hc
  | created hes hstack hvacant hfree hc => exact .created (hcons.trans hes) hstack hvacant hfree hc
  | updated hes hstack hphase hvacant hfree hc =>
    exact .updated (hcons.trans hes) hstack hphase hvacant hfree hc
  | resumed hes hstack hphase hc => exact .resumed (hcons.trans hes) hstack hphase hc
  | cleared hes hstack hphase hc => exact .cleared (hcons.trans hes) hstack hphase hc

/-! ## Look-ups -/

theorem replay_changeSetLookup {answer : CloudAnswer (Option ChangeSetDescription)}
    (h : Replay c (t.changeSetLookup answer :: es) c') :
    ∃ c₁, SameStore c c₁ ∧ Replay c₁ es c' ∧
      ∀ found, answer = .ok found → found = (c.find? t.key t.changeSet).map description := by
  obtain ⟨c₁, hanswer, hrest⟩ := replay_cons_iff.1 h
  obtain ⟨hs, hfound⟩ := describeChangeSet_law hanswer
  exact ⟨c₁, hs, hrest, hfound⟩

theorem replay_stackLookup {answer : CloudAnswer (Option StackDescription)}
    (h : Replay c (t.stackLookup answer :: es) c') :
    ∃ c₁, SameStore c c₁ ∧ Replay c₁ es c' ∧
      ∀ found, answer = .ok found →
      found = (c.stack? t.key).map (stackDescription t.region t.stackName) := by
  obtain ⟨c₁, hanswer, hrest⟩ := replay_cons_iff.1 h
  obtain ⟨hs, hfound⟩ := describeStack_law hanswer
  exact ⟨c₁, hs, hrest, hfound⟩

/-- What a round has found is what the cloud has under the handle of the round. -/
theorem find?_of_found {d : ChangeSetDescription}
    (h : some d = (c.find? t.key t.changeSet).map description) :
    ∃ id s, c.find? t.key t.changeSet = some (id, s) ∧ d = description (id, s) := by
  obtain ⟨⟨id, s⟩, hfind, hd⟩ := Option.map_eq_some_iff.1 h.symm
  exact ⟨id, s, hfind, hd.symm⟩

theorem source_of_placed {template : TemplateSource} (h : t.Placed es template)
    (hr : Replay c es c') :
    c' = c ∧ template = t.source ∧ change? es = none := by
  cases h with
  | inline hbucket _ =>
    refine ⟨replay_nil_iff.1 hr, ?_, rfl⟩
    rw [source, hbucket]
  | uploaded hbucket =>
    obtain ⟨c₁, ⟨rfl, hurl⟩, hrest⟩ := replay_cons_iff.1 hr
    refine ⟨replay_nil_iff.1 hrest, ?_, rfl⟩
    rw [source, hbucket, hurl _ rfl]

/-! ## Making a change set -/

/-- What has to be known of the stack for the sort of change set that is asked for. -/
def StackAllows (t : TargetStack) (c : MemoryCloud) : (isCreate : Bool) → Prop
  | true => ∀ s, c.stack? t.key = some s → StackRecord.phase s = .notCreated
  | false => ∃ s, c.stack? t.key = some s ∧
      (StackRecord.phase s = .success ∨ StackRecord.phase s = .recoverableFailure)

theorem StackAllows.of_sameStore (h : t.StackAllows c isCreate) (hs : SameStore c c₁) :
    t.StackAllows c₁ isCreate := by
  cases isCreate with
  | true =>
    intro s hstack
    rw [hs.stack?] at hstack
    exact h s hstack
  | false =>
    obtain ⟨s, hstack, hphase⟩ := h
    exact ⟨s, by rw [hs.stack?]; exact hstack, hphase⟩

theorem effect_of_submission {answer : CloudAnswer ChangeSetHandle}
    (hallows : t.StackAllows c isCreate)
    (hvacant : t.Vacant c) (hr : Replay c [t.submission isCreate t.source answer] c') :
    match answer with
    | .error _ => SameStore c c'
    | .ok handle =>
        t.Effect c [t.submission isCreate t.source answer] handle.reference .unknown c' := by
  cases isCreate with
  | true =>
    obtain ⟨c₁, hanswer, hrest⟩ := replay_cons_iff.1 hr
    obtain rfl := replay_nil_iff.1 hrest
    rcases createStack_law hanswer with ⟨_, -, rfl, hs⟩ | ⟨-, -, rfl, hs⟩ | ⟨-, hfree, rfl, hs⟩
    · exact hs
    · exact hs
    · exact .created rfl hallows hvacant hfree hs
  | false =>
    obtain ⟨c₁, hanswer, hrest⟩ := replay_cons_iff.1 hr
    obtain rfl := replay_nil_iff.1 hrest
    rcases updateStack_law hanswer with
      ⟨_, -, rfl, hs⟩ | ⟨-, -, rfl, hs⟩ | ⟨-, -, -, rfl, hs⟩ | ⟨s, -, hfree, hstack, rfl, hs⟩
    · exact hs
    · exact hs
    · exact hs
    · obtain ⟨s', hstack', hphase⟩ := hallows
      have hsame : s' = s := Option.some.inj (hstack'.symm.trans hstack)
      rw [hsame] at hphase
      exact .updated rfl hstack hphase hvacant hfree hs

theorem change?_append {more : List Exchange} (h : change? es = none) :
    change? (es ++ more) = change? more := by
  simp only [change?, List.findSome?_append] at h ⊢
  rw [h, Option.none_or]

theorem Effect.append {before : List Exchange} (h : t.Effect c es reference st c')
    (hbefore : change? before = none) :
    t.Effect c (before ++ es) reference st c' := by
  induction before with
  | nil => exact h
  | cons e rest ih =>
    simp only [change?, List.findSome?_cons] at hbefore
    cases he : e.change? with
    | some change =>
      rw [he] at hbefore
      cases hbefore
    | none =>
      rw [he] at hbefore
      exact (ih hbefore).cons he

theorem effect_of_submitted {ref : String} (h : t.Submitted isCreate ref es reference st)
    (hallows : t.StackAllows c isCreate) (hvacant : t.Vacant c)
    (href : ref = t.changeSet.reference ∨ ∃ s, c.find? t.key t.changeSet = some (ref, s))
    (hr : Replay c es c') : t.Effect c es reference st c' := by
  cases h with
  | oversized _ _ =>
    obtain rfl := replay_nil_iff.1 hr
    exact .noted rfl (.refl _) (by simp) href
  | notUploaded _ =>
    obtain ⟨c₁, ⟨rfl, -⟩, hrest⟩ := replay_cons_iff.1 hr
    obtain rfl := replay_nil_iff.1 hrest
    exact .noted rfl (.refl _) (by simp) href
  | refused placed =>
    obtain ⟨c₁, hplacing, hsubmission⟩ := replay_append_iff.1 hr
    obtain ⟨rfl, rfl, hquiet⟩ := source_of_placed placed hplacing
    refine .noted ?_ (effect_of_submission hallows hvacant hsubmission) (by simp) href
    rw [change?_append hquiet]
    cases isCreate <;> rfl
  | accepted placed =>
    obtain ⟨c₁, hplacing, hsubmission⟩ := replay_append_iff.1 hr
    obtain ⟨rfl, rfl, hquiet⟩ := source_of_placed placed hplacing
    exact Effect.append (effect_of_submission hallows hvacant hsubmission) hquiet

/-! ## Going on to the change set -/

theorem effect_of_deletion {id : String} {s : ChangeSetRecord} (hs : SameStore c c₁)
    (hfind : c.find? t.key t.changeSet = some (id, s))
    (hempty : st = .true → phaseOf (id, s) = .empty)
    (hfailed : st ≠ .true → phaseOf (id, s) = .failed)
    (hr : Replay c₁ [t.deletion (description (id, s)).handle (.ok ())] c') :
    t.Effect c [t.changeSetLookup (.ok (some (description (id, s)))),
      t.deletion (description (id, s)).handle (.ok ())]
      (description (id, s)).handle.reference st c' := by
  obtain ⟨c₂, hanswer, hlast⟩ := replay_cons_iff.1 hr
  obtain rfl := replay_nil_iff.1 hlast
  have hid : c₁.idOf? t.key (description (id, s)).handle = some id := by
    rw [hs.idOf?]
    exact idOf?_of_changeSet? (changeSet?_of_find? hfind) _ _
  rcases deleteChangeSet_law hanswer with ⟨⟨e, he⟩, -⟩ | ⟨-, ⟨hnone, -⟩ | ⟨id', hid', herased⟩⟩
  · cases he
  · exact absurd (hnone.symm.trans hid) (by simp)
  · obtain rfl : id' = id := Option.some.inj (hid'.symm.trans hid)
    exact .dropped rfl hfind hempty hfailed ((hs.eraseChangeSet _).trans herased)

theorem effect_of_changeSetPursuit (h : t.ChangeSetPursuit isCreate es reference st)
    (hallows : t.StackAllows c isCreate) (hr : Replay c es c') : t.Effect c es reference st c' := by
  cases h with
  | unseen =>
    obtain ⟨c₁, hs, hrest, -⟩ := replay_changeSetLookup hr
    obtain rfl := replay_nil_iff.1 hrest
    exact .noted rfl hs (by simp) (.inl rfl)
  | @missing found rest _ _ hmove hsubmitted =>
    obtain ⟨c₁, hs, hrest, hfound⟩ := replay_changeSetLookup hr
    have hfound := hfound found rfl
    refine Effect.cons ?_ rfl
    refine Effect.of_sameStore ?_ hs
    cases found with
    | none =>
      have hnone : c₁.find? t.key t.changeSet = none := by
        rw [hs.find?]
        exact Option.map_eq_none_iff.1 hfound.symm
      exact effect_of_submitted hsubmitted (hallows.of_sameStore hs) (.inl hnone) (.inl rfl) hrest
    | some d =>
      obtain ⟨id, s, hfind, rfl⟩ := find?_of_found hfound
      rw [← hs.find?] at hfind
      have hphase := ChangeSetDescription.phase_of_move (description (id, s))
      rw [show (description (id, s)).move = .create from hmove] at hphase
      exact effect_of_submitted hsubmitted (hallows.of_sameStore hs) (.inr ⟨id, s, hfind, hphase⟩)
        (.inr ⟨s, hfind⟩) hrest
  | @waiting d message hmove =>
    obtain ⟨c₁, hs, hrest, hfound⟩ := replay_changeSetLookup hr
    obtain rfl := replay_nil_iff.1 hrest
    obtain ⟨id, s, hfind, rfl⟩ := find?_of_found (hfound _ rfl)
    exact .noted rfl hs (by simp) (.inr ⟨s, hfind⟩)
  | @unexpected d message hmove =>
    obtain ⟨c₁, hs, hrest, hfound⟩ := replay_changeSetLookup hr
    obtain rfl := replay_nil_iff.1 hrest
    obtain ⟨id, s, hfind, rfl⟩ := find?_of_found (hfound _ rfl)
    exact .noted rfl hs (by simp) (.inr ⟨s, hfind⟩)
  | @executed d hmove =>
    obtain ⟨c₁, hs, hrest, hfound⟩ := replay_changeSetLookup hr
    obtain rfl := replay_nil_iff.1 hrest
    obtain ⟨id, s, hfind, rfl⟩ := find?_of_found (hfound _ rfl)
    have hphase := ChangeSetDescription.phase_of_move (description (id, s))
    rw [hmove] at hphase
    exact .upToDate rfl hfind hphase hs
  | @executing d hmove =>
    obtain ⟨c₁, hs, hrest, hfound⟩ := replay_changeSetLookup hr
    obtain ⟨id, s, hfind, rfl⟩ := find?_of_found (hfound _ rfl)
    have hphase := ChangeSetDescription.phase_of_move (description (id, s))
    rw [hmove] at hphase
    obtain ⟨c₂, hanswer, hlast⟩ := replay_cons_iff.1 hrest
    obtain rfl := replay_nil_iff.1 hlast
    rcases executeChangeSet_law hanswer with ⟨⟨e, he⟩, -⟩ | ⟨id', s', hfind', -, -, hexecuted⟩
    · cases he
    · have hagain : c₁.find? t.key (description (id, s)).handle = some (id, s) := by
        rw [hs.find?]
        exact find?_of_changeSet? (changeSet?_of_find? hfind) _ _
      obtain ⟨rfl, rfl⟩ := Prod.mk.inj (Option.some.inj (hfind'.symm.trans hagain))
      exact .executed rfl hfind hphase ((hs.execute _ _ _).trans hexecuted)
  | @notExecuted d e hmove =>
    obtain ⟨c₁, hs, hrest, hfound⟩ := replay_changeSetLookup hr
    obtain ⟨id, s, hfind, rfl⟩ := find?_of_found (hfound _ rfl)
    obtain ⟨c₂, hanswer, hlast⟩ := replay_cons_iff.1 hrest
    obtain rfl := replay_nil_iff.1 hlast
    rcases executeChangeSet_law hanswer with ⟨-, hs'⟩ | ⟨_, _, _, _, hok, -⟩
    · exact .noted rfl (hs.trans hs') (by simp) (.inr ⟨s, hfind⟩)
    · cases hok
  | @emptyDropped d hmove =>
    obtain ⟨c₁, hs, hrest, hfound⟩ := replay_changeSetLookup hr
    obtain ⟨id, s, hfind, rfl⟩ := find?_of_found (hfound _ rfl)
    have hphase := ChangeSetDescription.phase_of_move (description (id, s))
    rw [hmove] at hphase
    exact effect_of_deletion hs hfind (fun _ => hphase) (fun h => absurd rfl h) hrest
  | @emptyKept d e hmove =>
    obtain ⟨c₁, hs, hrest, hfound⟩ := replay_changeSetLookup hr
    obtain ⟨id, s, hfind, rfl⟩ := find?_of_found (hfound _ rfl)
    obtain ⟨c₂, hanswer, hlast⟩ := replay_cons_iff.1 hrest
    obtain rfl := replay_nil_iff.1 hlast
    rcases deleteChangeSet_law hanswer with ⟨-, hs'⟩ | ⟨hok, -⟩
    · exact .noted rfl (hs.trans hs') (by simp) (.inr ⟨s, hfind⟩)
    · cases hok
  | @failedDeletion d message answer hmove =>
    obtain ⟨c₁, hs, hrest, hfound⟩ := replay_changeSetLookup hr
    obtain ⟨id, s, hfind, rfl⟩ := find?_of_found (hfound _ rfl)
    have hphase := ChangeSetDescription.phase_of_move (description (id, s))
    rw [hmove] at hphase
    cases answer with
    | ok done => exact effect_of_deletion hs hfind (fun h => by cases h) (fun _ => hphase) hrest
    | error e =>
      obtain ⟨c₂, hanswer, hlast⟩ := replay_cons_iff.1 hrest
      obtain rfl := replay_nil_iff.1 hlast
      rcases deleteChangeSet_law hanswer with ⟨-, hs'⟩ | ⟨hok, -⟩
      · exact .noted rfl (hs.trans hs') (by simp) (.inr ⟨s, hfind⟩)
      · cases hok

/-! ## Pursuing a target -/

theorem stack?_of_found {found : Option StackDescription} {s : StackDescription}
    (hfound : found = (c.stack? t.key).map (stackDescription t.region t.stackName))
    (hs : found = some s) :
    ∃ record, c.stack? t.key = some record ∧ StackRecord.phase record = s.phase := by
  subst hs
  obtain ⟨record, hrecord, rfl⟩ := Option.map_eq_some_iff.1 hfound.symm
  exact ⟨record, hrecord, rfl⟩

/-- A move on to the change set is one that the stack allows. -/
theorem stackAllows_of_move {found : Option StackDescription} {recovering : Bool}
    (hfound : found = (c.stack? t.key).map (stackDescription t.region t.stackName))
    (hmove : StackMove.ofFound found = .changeSet isCreate recovering) :
    t.StackAllows c isCreate := by
  cases found with
  | none =>
    have hnone : c.stack? t.key = none := Option.map_eq_none_iff.1 hfound.symm
    obtain ⟨rfl, -⟩ := StackMove.changeSet.inj hmove
    intro s hstack
    rw [hnone] at hstack
    cases hstack
  | some s =>
    obtain ⟨record, hrecord, hphase⟩ := stack?_of_found hfound rfl
    have hmoved := StackDescription.phase_of_move s
    rw [show s.move = .changeSet isCreate recovering from hmove] at hmoved
    cases isCreate with
    | true =>
      intro s' hs'
      have hsame : record = s' := Option.some.inj (hrecord.symm.trans hs')
      rw [← hsame, hphase]
      exact hmoved
    | false =>
      refine ⟨record, hrecord, ?_⟩
      rw [hphase]
      exact hmoved

/-- A round against the cloud in memory does one of the things listed. -/
theorem effect_of_pursuit (h : t.Pursuit es reference st) (hr : Replay c es c') :
    t.Effect c es reference st c' := by
  cases h with
  | unseen =>
    obtain ⟨c₁, hs, hrest, -⟩ := replay_stackLookup hr
    obtain rfl := replay_nil_iff.1 hrest
    exact .noted rfl hs (by simp) (.inl rfl)
  | waiting hmove =>
    obtain ⟨c₁, hs, hrest, -⟩ := replay_stackLookup hr
    obtain rfl := replay_nil_iff.1 hrest
    exact .noted rfl hs (by simp) (.inl rfl)
  | unexpected hmove =>
    obtain ⟨c₁, hs, hrest, -⟩ := replay_stackLookup hr
    obtain rfl := replay_nil_iff.1 hrest
    exact .noted rfl hs (by simp) (.inl rfl)
  | @rollingBack found answer hmove =>
    obtain ⟨c₁, hs, hrest, hfound⟩ := replay_stackLookup hr
    obtain ⟨c₂, hanswer, hlast⟩ := replay_cons_iff.1 hrest
    obtain rfl := replay_nil_iff.1 hlast
    rcases continueUpdateRollback_law hanswer with ⟨-, hs'⟩ | ⟨record, hrecord, -, hs'⟩
    · exact .noted rfl (hs.trans hs') (by simp) (.inl rfl)
    · cases found with
      | none => cases hmove
      | some s =>
        obtain ⟨record', hrecord', hphase⟩ := stack?_of_found (hfound _ rfl) rfl
        rw [hs.stack?] at hrecord
        obtain rfl : record' = record := Option.some.inj (hrecord'.symm.trans hrecord)
        have hmoved := StackDescription.phase_of_move s
        rw [show s.move = .continueRollback from hmove] at hmoved
        exact .resumed rfl hrecord' (hphase.trans hmoved) ((hs.putRecord _ _).trans hs')
  | @deleting found message answer hmove =>
    obtain ⟨c₁, hs, hrest, hfound⟩ := replay_stackLookup hr
    obtain ⟨c₂, hanswer, hlast⟩ := replay_cons_iff.1 hrest
    obtain rfl := replay_nil_iff.1 hlast
    rcases deleteStack_law hanswer with ⟨⟨e, rfl⟩, hs'⟩ | ⟨rfl, hs'⟩
    · exact .noted rfl (hs.trans hs') (by simp) (.inl rfl)
    · cases found with
      | none => cases hmove
      | some s =>
        obtain ⟨record, hrecord, hphase⟩ := stack?_of_found (hfound _ rfl) rfl
        have hmoved := StackDescription.phase_of_move s
        rw [show s.move = .deleteUnrecoverable message from hmove] at hmoved
        exact .cleared rfl hrecord (hphase.trans hmoved) ((hs.eraseStack _).trans hs')
  | @changeSet found isCreate recovering rest _ _ hmove hpursuit =>
    obtain ⟨c₁, hs, hrest, hfound⟩ := replay_stackLookup hr
    have hallows := stackAllows_of_move (hfound _ rfl) hmove
    have heffect := effect_of_changeSetPursuit hpursuit (hallows.of_sameStore hs) hrest
    exact (heffect.of_sameStore hs).cons rfl

end TargetStack

end StackSync
