import StackSync.Proofs.Cloud.Working
import StackSync.Proofs.Reconcile.Effect

/-!
# A round on a working cloud is a function

`Effect` lists what a round can do to a cloud. Where no operation fails and the template can be
placed there is nothing left to choose: the stored stack and the change set under the handle decide
the reference that is recorded, the verdict on `Ready` and the cloud afterwards. `turn` computes the
three, and `turn_of_pursuit` says that every conversation comes to them. What keeps a template from
being placed is not the cloud's (an upload that fails, a template that is too long to go inline), so
it is left as a flag.
-/

namespace StackSync

open Program MemoryCloud

structure Turn where
  reference : String
  verdict : ConditionStatus
  cloud : MemoryCloud

/-- The turn is what a round came to, up to the log of the cloud. -/
structure Turn.Leads (x : Turn) (reference : String) (st : ConditionStatus) (c' : MemoryCloud) :
    Prop where
  reference : x.reference = reference
  verdict : x.verdict = st
  store : SameStore x.cloud c'

instance (c : MemoryCloud) (key : StackKey) (name : String) : Decidable (c.Taken key name) :=
  decidable_of_iff _ (any_changeSetsOf_iff c key name)

/-- An upload that was refused. -/
def Program.Exchange.failsUpload : Exchange → Bool
  | ⟨.uploadTemplate .., Except.error _⟩ => true
  | _ => false

namespace TargetStack

/-- The template gets to the service: nothing is in the way of passing it inline or uploading it. -/
def Places (t : TargetStack) (es : List Exchange) : Prop :=
  (t.bucket = none → t.templateBody.utf8ByteSize ≤ inlineLimit) ∧ ∀ e ∈ es, e.failsUpload = false

/-- Asking for a change set, when `reference` is what has been attempted before. -/
def submitTurn (t : TargetStack) (placed isCreate : Bool) (reference : String) (c : MemoryCloud) :
    Turn :=
  if placed = false ∨ c.Taken t.key t.changeSet.name then ⟨reference, .false, c⟩
  else
    let arn := changeSetArn t.region t.changeSet.name (c.issued + 1)
    match isCreate, c.stack? t.key with
    | true, _ => ⟨arn, .unknown, ((c.putRecord t.key reservedStack).addChangeSet
        (recordOf (t.request t.source) true)).2⟩
    | false, some s => ⟨arn, .unknown,
        (c.addChangeSet (updateRecord (t.request t.source) s)).2⟩
    | false, none => ⟨reference, .false, c⟩

/-- Making the move that a change set calls for. -/
def moveTurn (t : TargetStack) (placed isCreate : Bool) (c : MemoryCloud) (id : String)
    (s : ChangeSetRecord) : ChangeSetMove → Turn
  | .create => t.submitTurn placed isCreate id c
  | .deleteEmpty => ⟨id, .true, c.eraseChangeSet id⟩
  | .deleteFailed _ => ⟨id, .false, c.eraseChangeSet id⟩
  | .wait _ => ⟨id, .unknown, c⟩
  | .ready => ⟨id, .true, c⟩
  | .execute => ⟨id, .unknown, c.execute t.key id s⟩
  | .unexpected _ => ⟨id, .false, c⟩

def changeSetTurn (t : TargetStack) (placed isCreate : Bool) (c : MemoryCloud) : Turn :=
  match c.find? t.key t.changeSet with
  | none => t.submitTurn placed isCreate t.changeSet.reference c
  | some (id, s) => t.moveTurn placed isCreate c id s (description (id, s)).move

/-- Making the move that a stack calls for. -/
def stackTurn (t : TargetStack) (placed : Bool) (c : MemoryCloud) : StackMove → Turn
  | .changeSet isCreate _ => t.changeSetTurn placed isCreate c
  | .wait _ => ⟨t.changeSet.reference, .unknown, c⟩
  | .continueRollback =>
    ⟨t.changeSet.reference, .false, match c.stack? t.key with
      | some s => c.putRecord t.key (rolledBack s)
      | none => c⟩
  | .deleteUnrecoverable _ => ⟨t.changeSet.reference, .false, c.eraseStack t.key⟩
  | .unexpected _ => ⟨t.changeSet.reference, .false, c⟩

def turn (t : TargetStack) (placed : Bool) (c : MemoryCloud) : Turn :=
  t.stackTurn placed c
    (StackMove.ofFound ((c.stack? t.key).map (stackDescription t.region t.stackName)))

variable {t : TargetStack} {c c₁ c' : MemoryCloud} {es more : List Exchange}
  {ref reference : String} {st : ConditionStatus} {placed isCreate : Bool}

theorem Places.of_subset (h : t.Places more) (hsub : es ⊆ more) : t.Places es :=
  ⟨h.1, fun e he => h.2 e (hsub he)⟩

theorem submitTurn_of_refused (h : placed = false ∨ c.Taken t.key t.changeSet.name) :
    t.submitTurn placed isCreate ref c = ⟨ref, .false, c⟩ := if_pos h

theorem submitTurn_create (hfree : ¬ c.Taken t.key t.changeSet.name) :
    t.submitTurn true true ref c =
      ⟨changeSetArn t.region t.changeSet.name (c.issued + 1), .unknown,
        ((c.putRecord t.key reservedStack).addChangeSet (recordOf (t.request t.source) true)).2⟩ :=
  if_neg (by simp [hfree])

theorem submitTurn_update {s : StackRecord} (hfree : ¬ c.Taken t.key t.changeSet.name)
    (hstack : c.stack? t.key = some s) :
    t.submitTurn true false ref c =
      ⟨changeSetArn t.region t.changeSet.name (c.issued + 1), .unknown,
        (c.addChangeSet (updateRecord (t.request t.source) s)).2⟩ := by
  unfold submitTurn
  rw [if_neg (by simp [hfree]), hstack]

theorem submitTurn_of_none (hstack : c.stack? t.key = none) :
    t.submitTurn true false ref c = ⟨ref, .false, c⟩ := by
  unfold submitTurn
  rw [hstack]
  split <;> rfl

theorem changeSetTurn_of_none (hfind : c.find? t.key t.changeSet = none) :
    t.changeSetTurn placed isCreate c = t.submitTurn placed isCreate t.changeSet.reference c := by
  rw [changeSetTurn, hfind]

theorem changeSetTurn_of_move {id : String} {s : ChangeSetRecord} {move : ChangeSetMove}
    (hfind : c.find? t.key t.changeSet = some (id, s)) (hmove : (description (id, s)).move = move) :
    t.changeSetTurn placed isCreate c = t.moveTurn placed isCreate c id s move := by
  rw [changeSetTurn, hfind, ← hmove]

theorem turn_of_move {move : StackMove}
    (hmove : StackMove.ofFound ((c.stack? t.key).map (stackDescription t.region t.stackName)) =
      move) : t.turn placed c = t.stackTurn placed c move := by
  rw [turn, hmove]

theorem stackTurn_continueRollback {s : StackRecord} (hstack : c.stack? t.key = some s) :
    t.stackTurn placed c .continueRollback =
      ⟨t.changeSet.reference, .false, c.putRecord t.key (rolledBack s)⟩ := by
  rw [stackTurn, hstack]

/-! ## The log does not matter -/

theorem submitTurn_of_sameStore (h : (t.submitTurn placed isCreate ref c₁).Leads reference st c')
    (hs : SameStore c c₁) : (t.submitTurn placed isCreate ref c).Leads reference st c' := by
  have htaken := hs.taken_iff t.key t.changeSet.name
  have hstack₁ := hs.stack? t.key
  by_cases hrefused : placed = false ∨ c.Taken t.key t.changeSet.name
  · rw [submitTurn_of_refused (by rwa [htaken])] at h
    rw [submitTurn_of_refused hrefused]
    exact ⟨h.reference, h.verdict, hs.trans h.store⟩
  · obtain ⟨hplaced, hfree⟩ := not_or.1 hrefused
    obtain rfl : placed = true := Bool.not_eq_false _ ▸ hplaced
    have hfree₁ : ¬ c₁.Taken t.key t.changeSet.name := by rwa [htaken]
    cases isCreate with
    | true =>
      rw [submitTurn_create hfree₁, hs.issued] at h
      rw [submitTurn_create hfree]
      exact ⟨h.reference, h.verdict, ((hs.putRecord _ _).addChangeSet _).trans h.store⟩
    | false =>
      cases hstack : c.stack? t.key with
      | none =>
        rw [submitTurn_of_none (hstack₁.trans hstack)] at h
        rw [submitTurn_of_none hstack]
        exact ⟨h.reference, h.verdict, hs.trans h.store⟩
      | some s =>
        rw [submitTurn_update hfree₁ (hstack₁.trans hstack), hs.issued] at h
        rw [submitTurn_update hfree hstack]
        exact ⟨h.reference, h.verdict, (hs.addChangeSet _).trans h.store⟩

theorem changeSetTurn_of_sameStore
    (h : (t.changeSetTurn placed isCreate c₁).Leads reference st c') (hs : SameStore c c₁) :
    (t.changeSetTurn placed isCreate c).Leads reference st c' := by
  unfold changeSetTurn at h ⊢
  rw [hs.find?] at h
  cases hfind : c.find? t.key t.changeSet with
  | none =>
    rw [hfind] at h
    exact submitTurn_of_sameStore h hs
  | some found =>
    obtain ⟨id, s⟩ := found
    rw [hfind] at h
    dsimp only at h ⊢
    cases hmove : (description (id, s)).move with
    | create =>
      rw [hmove] at h
      exact submitTurn_of_sameStore h hs
    | deleteEmpty | deleteFailed _ =>
      rw [hmove] at h
      exact ⟨h.reference, h.verdict, (hs.eraseChangeSet _).trans h.store⟩
    | execute =>
      rw [hmove] at h
      exact ⟨h.reference, h.verdict, (hs.execute _ _ _).trans h.store⟩
    | wait _ | ready | unexpected _ =>
      rw [hmove] at h
      exact ⟨h.reference, h.verdict, hs.trans h.store⟩

/-! ## Every conversation is the turn -/

theorem submitTurn_of_submission {answer : CloudAnswer ChangeSetHandle} (hworks : c.Works)
    (hr : Replay c [t.submission isCreate t.source answer] c') :
    match answer with
    | .ok handle => (t.submitTurn true isCreate ref c).Leads handle.reference .unknown c'
    | .error _ => (t.submitTurn true isCreate ref c).Leads ref .false c' := by
  cases isCreate with
  | true =>
    obtain ⟨c₁, hanswer, hrest⟩ := replay_cons_iff.1 hr
    obtain rfl := replay_nil_iff.1 hrest
    rcases createStack_law hanswer with
      ⟨_, hfails, -, -⟩ | ⟨-, htaken, rfl, hs⟩ | ⟨-, hfree, rfl, hs⟩
    · rw [hworks.lookup] at hfails
      cases hfails
    · rw [submitTurn_of_refused (.inr htaken)]
      exact ⟨rfl, rfl, hs⟩
    · rw [submitTurn_create hfree]
      exact ⟨rfl, rfl, hs⟩
  | false =>
    obtain ⟨c₁, hanswer, hrest⟩ := replay_cons_iff.1 hr
    obtain rfl := replay_nil_iff.1 hrest
    rcases updateStack_law hanswer with
      ⟨_, hfails, -, -⟩ | ⟨-, htaken, rfl, hs⟩ | ⟨-, -, hstack, rfl, hs⟩ |
        ⟨s, -, hfree, hstack, rfl, hs⟩
    · rw [hworks.lookup] at hfails
      cases hfails
    · rw [submitTurn_of_refused (.inr htaken)]
      exact ⟨rfl, rfl, hs⟩
    · rw [submitTurn_of_none hstack]
      exact ⟨rfl, rfl, hs⟩
    · rw [submitTurn_update hfree hstack]
      exact ⟨rfl, rfl, hs⟩

theorem submitTurn_of_submitted (hworks : c.Works) (h : t.Submitted isCreate ref es reference st)
    (hr : Replay c es c') :
    ∃ placed, (t.submitTurn placed isCreate ref c).Leads reference st c' ∧
      (placed = false → ¬ t.Places es) := by
  cases h with
  | oversized hbucket hsize =>
    obtain rfl := replay_nil_iff.1 hr
    refine ⟨false, ?_, fun _ hplaces => Nat.not_le.2 hsize (hplaces.1 hbucket)⟩
    rw [submitTurn_of_refused (.inl rfl)]
    exact ⟨rfl, rfl, .refl _⟩
  | notUploaded _ =>
    obtain ⟨c₁, ⟨rfl, -⟩, hrest⟩ := replay_cons_iff.1 hr
    obtain rfl := replay_nil_iff.1 hrest
    refine ⟨false, ?_, fun _ hplaces => nomatch hplaces.2 _ List.mem_cons_self⟩
    rw [submitTurn_of_refused (.inl rfl)]
    exact ⟨rfl, rfl, .refl _⟩
  | refused placed =>
    obtain ⟨c₁, hplacing, hsubmission⟩ := replay_append_iff.1 hr
    obtain ⟨rfl, rfl, -⟩ := source_of_placed placed hplacing
    exact ⟨true, submitTurn_of_submission hworks hsubmission, nofun⟩
  | accepted placed =>
    obtain ⟨c₁, hplacing, hsubmission⟩ := replay_append_iff.1 hr
    obtain ⟨rfl, rfl, -⟩ := source_of_placed placed hplacing
    exact ⟨true, submitTurn_of_submission hworks hsubmission, nofun⟩

/-- On a working cloud a change set that is looked up is found as it is stored. -/
theorem replay_changeSetLookup_works {answer : CloudAnswer (Option ChangeSetDescription)}
    (hworks : c.Works) (h : Replay c (t.changeSetLookup answer :: es) c') :
    ∃ c₁, SameStore c c₁ ∧ Replay c₁ es c' ∧
      answer = .ok ((c.find? t.key t.changeSet).map description) := by
  obtain ⟨c₁, hanswer, hrest⟩ := replay_cons_iff.1 h
  obtain ⟨hfound, hs⟩ := hworks.describeChangeSet hanswer
  exact ⟨c₁, hs, hrest, hfound⟩

theorem replay_stackLookup_works {answer : CloudAnswer (Option StackDescription)}
    (hworks : c.Works) (h : Replay c (t.stackLookup answer :: es) c') :
    ∃ c₁, SameStore c c₁ ∧ Replay c₁ es c' ∧
      answer = .ok ((c.stack? t.key).map (stackDescription t.region t.stackName)) := by
  obtain ⟨c₁, hanswer, hrest⟩ := replay_cons_iff.1 h
  obtain ⟨hfound, hs⟩ := hworks.describeStack hanswer
  exact ⟨c₁, hs, hrest, hfound⟩

theorem replay_foundChangeSet {d : ChangeSetDescription}
    (hworks : c.Works) (h : Replay c (t.changeSetLookup (.ok (some d)) :: es) c') :
    ∃ c₁ id s, SameStore c c₁ ∧ Replay c₁ es c' ∧ c.find? t.key t.changeSet = some (id, s) ∧
      d = description (id, s) := by
  obtain ⟨c₁, hs, hrest, hanswer⟩ := replay_changeSetLookup_works hworks h
  obtain ⟨id, s, hfind, hd⟩ := find?_of_found (Except.ok.inj hanswer)
  exact ⟨c₁, id, s, hs, hrest, hfind, hd⟩

theorem replay_deletion {id : String} {s : ChangeSetRecord} {answer : CloudAnswer Unit}
    (hworks : c.Works) (hs : SameStore c c₁) (hfind : c.find? t.key t.changeSet = some (id, s))
    (h : Replay c₁ [t.deletion (description (id, s)).handle answer] c') :
    answer = .ok () ∧ SameStore (c.eraseChangeSet id) c' := by
  obtain ⟨c₂, hanswer, hlast⟩ := replay_cons_iff.1 h
  obtain rfl := replay_nil_iff.1 hlast
  have hid : c₁.idOf? t.key (description (id, s)).handle = some id := by
    rw [hs.idOf?]
    exact idOf?_of_changeSet? (changeSet?_of_find? hfind) _ _
  obtain ⟨hok, herased⟩ := (hs.works hworks).deleteChangeSet hid hanswer
  exact ⟨hok, (hs.eraseChangeSet id).trans herased⟩

theorem available_of_execute {id : String} {s : ChangeSetRecord}
    (hmove : (description (id, s)).move = .execute) : s.executionStatus = some "AVAILABLE" := by
  have hphase := (description (id, s)).phase_of_move
  rw [hmove] at hphase
  have hexecution : s.executionStatus.getD "" = "AVAILABLE" :=
    (ChangeSetDescription.available_of_readyForExecution hphase).2
  cases hstatus : s.executionStatus with
  | none =>
    rw [hstatus] at hexecution
    exact absurd hexecution (by simp)
  | some status =>
    rw [hstatus] at hexecution
    exact congrArg some hexecution

theorem replay_execution {id : String} {s : ChangeSetRecord} {answer : CloudAnswer Unit}
    (hworks : c.Works) (hs : SameStore c c₁) (hfind : c.find? t.key t.changeSet = some (id, s))
    (hmove : (description (id, s)).move = .execute)
    (h : Replay c₁ [t.execution (description (id, s)).handle answer] c') :
    answer = .ok () ∧ SameStore (c.execute t.key id s) c' := by
  obtain ⟨c₂, hanswer, hlast⟩ := replay_cons_iff.1 h
  obtain rfl := replay_nil_iff.1 hlast
  have hfind₁ : c₁.find? t.key (description (id, s)).handle = some (id, s) := by
    rw [hs.find?]
    exact find?_of_changeSet? (changeSet?_of_find? hfind) _ _
  obtain ⟨hok, hexecuted⟩ :=
    (hs.works hworks).executeChangeSet hfind₁ (available_of_execute hmove) hanswer
  exact ⟨hok, (hs.execute _ _ _).trans hexecuted⟩

theorem changeSetTurn_of_pursuit (hworks : c.Works)
    (h : t.ChangeSetPursuit isCreate es reference st) (hr : Replay c es c') :
    ∃ placed, (t.changeSetTurn placed isCreate c).Leads reference st c' ∧
      (placed = false → ¬ t.Places es) := by
  have hmoved : ∀ {id : String} {s : ChangeSetRecord} {move : ChangeSetMove},
      c.find? t.key t.changeSet = some (id, s) → (description (id, s)).move = move →
      (t.moveTurn true isCreate c id s move).Leads reference st c' →
      ∃ placed, (t.changeSetTurn placed isCreate c).Leads reference st c' ∧
        (placed = false → ¬ t.Places es) := by
    intro id s move hfind hmove hleads
    refine ⟨true, ?_, nofun⟩
    rw [changeSetTurn_of_move hfind hmove]
    exact hleads
  cases h with
  | unseen =>
    obtain ⟨c₁, -, -, hanswer⟩ := replay_changeSetLookup_works hworks hr
    cases hanswer
  | @missing found rest _ _ hmissing hsubmitted =>
    obtain ⟨c₁, hs, hrest, hanswer⟩ := replay_changeSetLookup_works hworks hr
    obtain rfl := Except.ok.inj hanswer
    obtain ⟨placed, hleads, hplaces⟩ := submitTurn_of_submitted (hs.works hworks) hsubmitted hrest
    have hleads := submitTurn_of_sameStore hleads hs
    refine ⟨placed, ?_, fun hplaced h => hplaces hplaced (h.of_subset (List.subset_cons_self _ _))⟩
    cases hfind : c.find? t.key t.changeSet with
    | none =>
      rw [hfind] at hleads
      rw [changeSetTurn_of_none hfind]
      exact hleads
    | some found =>
      rw [hfind] at hleads hmissing
      rw [changeSetTurn_of_move hfind hmissing]
      exact hleads
  | waiting hmove | unexpected hmove | executed hmove =>
    obtain ⟨c₁, id, s, hs, hrest, hfind, rfl⟩ := replay_foundChangeSet hworks hr
    obtain rfl := replay_nil_iff.1 hrest
    exact hmoved hfind hmove ⟨rfl, rfl, hs⟩
  | executing hmove =>
    obtain ⟨c₁, id, s, hs, hrest, hfind, rfl⟩ := replay_foundChangeSet hworks hr
    obtain ⟨-, hexecuted⟩ := replay_execution hworks hs hfind hmove hrest
    exact hmoved hfind hmove ⟨rfl, rfl, hexecuted⟩
  | emptyDropped hmove | failedDeletion hmove =>
    obtain ⟨c₁, id, s, hs, hrest, hfind, rfl⟩ := replay_foundChangeSet hworks hr
    obtain ⟨-, herased⟩ := replay_deletion hworks hs hfind hrest
    exact hmoved hfind hmove ⟨rfl, rfl, herased⟩
  | notExecuted hmove =>
    obtain ⟨c₁, id, s, hs, hrest, hfind, rfl⟩ := replay_foundChangeSet hworks hr
    cases (replay_execution hworks hs hfind hmove hrest).1
  | emptyKept hmove =>
    obtain ⟨c₁, id, s, hs, hrest, hfind, rfl⟩ := replay_foundChangeSet hworks hr
    cases (replay_deletion hworks hs hfind hrest).1

/-- On a working cloud a conversation in pursuit of a target comes to its turn, with the template
placed unless something kept it from being placed. -/
theorem turn_of_pursuit (hworks : c.Works) (h : t.Pursuit es reference st) (hr : Replay c es c') :
    ∃ placed, (t.turn placed c).Leads reference st c' ∧ (placed = false → ¬ t.Places es) := by
  cases h with
  | unseen =>
    obtain ⟨c₁, -, -, hanswer⟩ := replay_stackLookup_works hworks hr
    cases hanswer
  | waiting hmove | unexpected hmove =>
    obtain ⟨c₁, hs, hrest, hanswer⟩ := replay_stackLookup_works hworks hr
    obtain rfl := Except.ok.inj hanswer
    obtain rfl := replay_nil_iff.1 hrest
    refine ⟨true, ?_, nofun⟩
    rw [turn_of_move hmove]
    exact ⟨rfl, rfl, hs⟩
  | rollingBack hmove =>
    obtain ⟨c₁, hs, hrest, hanswer⟩ := replay_stackLookup_works hworks hr
    obtain rfl := Except.ok.inj hanswer
    obtain ⟨c₂, hanswer, hlast⟩ := replay_cons_iff.1 hrest
    obtain rfl := replay_nil_iff.1 hlast
    refine ⟨true, ?_, nofun⟩
    rw [turn_of_move hmove]
    cases hstack : c.stack? t.key with
    | none =>
      rw [hstack] at hmove
      cases hmove
    | some s =>
      rw [stackTurn_continueRollback hstack]
      have hstack₁ : c₁.stack? (t.region, t.stackName) = some s := (hs.stack? _).trans hstack
      obtain ⟨-, hresumed⟩ := (hs.works hworks).continueUpdateRollback hstack₁ hanswer
      exact ⟨rfl, rfl, (hs.putRecord _ _).trans hresumed⟩
  | deleting hmove =>
    obtain ⟨c₁, hs, hrest, hanswer⟩ := replay_stackLookup_works hworks hr
    obtain rfl := Except.ok.inj hanswer
    obtain ⟨c₂, hanswer, hlast⟩ := replay_cons_iff.1 hrest
    obtain rfl := replay_nil_iff.1 hlast
    obtain ⟨-, hcleared⟩ := (hs.works hworks).deleteStack hanswer
    refine ⟨true, ?_, nofun⟩
    rw [turn_of_move hmove]
    exact ⟨rfl, rfl, (hs.eraseStack _).trans hcleared⟩
  | changeSet hmove hpursuit =>
    obtain ⟨c₁, hs, hrest, hanswer⟩ := replay_stackLookup_works hworks hr
    obtain rfl := Except.ok.inj hanswer
    obtain ⟨placed, hleads, hplaces⟩ := changeSetTurn_of_pursuit (hs.works hworks) hpursuit hrest
    refine ⟨placed, ?_, fun hplaced h => hplaces hplaced (h.of_subset (List.subset_cons_self _ _))⟩
    rw [turn_of_move hmove]
    exact changeSetTurn_of_sameStore hleads hs

end TargetStack

end StackSync
