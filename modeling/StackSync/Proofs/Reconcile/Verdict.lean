import StackSync.Proofs.Reconcile.Justification
import StackSync.Proofs.Reconcile.Readiness

/-!
# What Ready is read off

A round looks up the stack and then the change set of its generation and revision. The first answer
decides whether the stack is to be created or updated, and the second one everything else: a change
set that was executed, or an empty one that could be removed, makes the stack ready. `Verified` is
such a pair of answers. Since the second look-up is answered without regard to the first, it may
tell of an executed change set where the stack is gone, and the verdict then is that of a change set
without a stack; `ready_iff_verified` keeps the two apart.
-/

namespace StackSync

open Program

/-! ## Verdicts -/

def Outcome.SaysReady (out : Outcome) : Prop :=
  ∃ d ready, out.status = some d ∧ d.ready? = some ready ∧ ready.isTrue = true

theorem Outcome.Writes.saysReady_iff {out : Outcome} {s : Status} {a : Attempt}
    {st : ConditionStatus} (h : out.Writes s a st) : out.SaysReady ↔ st = .true := by
  obtain ⟨d, hd, hmoves⟩ := h
  obtain ⟨ready, hready, hstatus, -⟩ := hmoves.ready?
  constructor
  · rintro ⟨d', ready', hd', hready', htrue⟩
    rw [hd, Option.some.injEq] at hd'
    subst hd'
    rw [hready, Option.some.injEq] at hready'
    subst hready'
    exact hstatus.symm.trans (beq_iff_eq.1 htrue)
  · rintro rfl
    exact ⟨d, ready, hd, hready, beq_iff_eq.2 hstatus⟩

theorem Operator.Unready.not_saysReady {m : Manifest} {out : Outcome}
    (h : Operator.Unready m out) : ¬ out.SaysReady := by
  intro hready
  obtain ⟨d, -, hd, -⟩ := id hready
  obtain ⟨a, st, -, hst, hmoves⟩ := h d hd
  have hwrites : out.Writes m.base a st := ⟨d, hd, hmoves⟩
  exact hst (hwrites.saysReady_iff.1 hready)

/-- The exchange tells of a stack that has been created. -/
def Program.Exchange.showsStack : Exchange → Bool
  | ⟨.describeStack _ _, Except.ok (some s)⟩ => s.phase != .notCreated
  | _ => false

theorem any_showsStack_remote (es : List Exchange) :
    (remote es).any (·.showsStack) = es.any (·.showsStack) := by
  induction es with
  | nil => rfl
  | cons e rest ih =>
    cases hremote : e.request.isRemote with
    | true => rw [remote_cons_of_isRemote hremote, List.any_cons, List.any_cons, ih]
    | false =>
      have hnone : e.showsStack = false := by
        obtain ⟨request, answer⟩ := e
        cases request <;> first | rfl | cases hremote
      rw [remote_cons_of_not_isRemote hremote, List.any_cons, hnone, Bool.false_or, ih]

/-! ## Pairs of answers -/

namespace TargetStack

variable {t : TargetStack} {isCreate : Bool} {es : List Exchange} {reference : String}
  {st : ConditionStatus}

@[simp] theorem changeSetLookup_inj {a b : CloudAnswer (Option ChangeSetDescription)} :
    t.changeSetLookup a = t.changeSetLookup b ↔ a = b :=
  ⟨fun h => eq_of_heq (Exchange.mk.inj h).2, fun h => h ▸ rfl⟩

/-- The stack was found as one to create, or as one to update. -/
def FoundFor (isCreate : Bool) (found : Option StackDescription) : Prop :=
  match isCreate with
  | true => ∀ s, found = some s → s.phase = .notCreated
  | false => ∃ s, found = some s ∧ (s.phase = .success ∨ s.phase = .recoverableFailure)

theorem foundFor_iff {found : Option StackDescription} :
    FoundFor isCreate found ↔
      ∃ recovering, StackMove.ofFound found = .changeSet isCreate recovering := by
  constructor
  · intro h
    cases isCreate with
    | true =>
      cases found with
      | none => exact ⟨false, rfl⟩
      | some s =>
        refine ⟨false, ?_⟩
        show s.move = _
        unfold StackDescription.move
        rw [h s rfl]
    | false =>
      obtain ⟨s, rfl, hphase | hphase⟩ := h
      · refine ⟨false, ?_⟩
        show s.move = _
        unfold StackDescription.move
        rw [hphase]
      · refine ⟨true, ?_⟩
        show s.move = _
        unfold StackDescription.move
        rw [hphase]
  · rintro ⟨recovering, hmove⟩
    cases isCreate with
    | true => exact StackMove.notCreated_of_create hmove
    | false => exact StackMove.created_of_update hmove

/-- The conversations with the cloud that a round over the target takes for a stack that is
ready. -/
inductive Verified (t : TargetStack) (isCreate : Bool) : List Exchange → Prop where
  | executed {found : Option StackDescription} {d : ChangeSetDescription} :
      FoundFor isCreate found → d.phase = .success →
      Verified t isCreate [t.stackLookup (.ok found), t.changeSetLookup (.ok (some d))]
  | empty {found : Option StackDescription} {d : ChangeSetDescription} :
      FoundFor isCreate found → d.phase = .empty →
      Verified t isCreate [t.stackLookup (.ok found), t.changeSetLookup (.ok (some d)),
        t.deletion d.handle (.ok ())]

theorem Verified.any_showsStack (h : t.Verified isCreate es) :
    es.any (·.showsStack) = !isCreate := by
  have hlookup : ∀ {found : Option StackDescription}, FoundFor isCreate found →
      (t.stackLookup (.ok found)).showsStack = !isCreate := by
    intro found hfound
    cases isCreate with
    | true =>
      cases found with
      | none => rfl
      | some s =>
        show (s.phase != .notCreated) = false
        rw [hfound s rfl]
        rfl
    | false =>
      obtain ⟨s, rfl, hphase⟩ := hfound
      show (s.phase != .notCreated) = true
      rcases hphase with hphase | hphase <;> rw [hphase] <;> rfl
  cases h with
  | executed hfound _ =>
    rw [List.any_cons, hlookup hfound]
    exact Bool.or_false _
  | empty hfound _ =>
    rw [List.any_cons, hlookup hfound]
    exact Bool.or_false _

theorem verified_of_pursuit (h : t.Pursuit es reference .true) :
    ∃ isCreate, t.Verified isCreate es := by
  cases h with
  | @changeSet found isCreate recovering _ _ _ hmove hpursuit =>
    refine ⟨isCreate, ?_⟩
    have hfound : FoundFor isCreate found := foundFor_iff.2 ⟨recovering, hmove⟩
    cases hpursuit with
    | @executed d hready =>
      have hphase := d.phase_of_move
      rw [hready] at hphase
      exact .executed hfound hphase
    | @emptyDropped d hempty =>
      have hphase := d.phase_of_move
      rw [hempty] at hphase
      exact .empty hfound hphase
    | missing _ hsubmitted => cases hsubmitted

/-- What follows the look-up of a change set that was executed, or that is empty, is no other
verdict. -/
theorem eq_true_of_changeSetPursuit {d : ChangeSetDescription} {rest : List Exchange}
    (hfound : d.phase = .success ∨ d.phase = .empty ∧ rest = [t.deletion d.handle (.ok ())])
    (h : t.ChangeSetPursuit isCreate es reference st)
    (hes : es = t.changeSetLookup (.ok (some d)) :: rest) : st = .true := by
  have hphase := d.phase_of_move
  have hfirst : ∀ {d' : ChangeSetDescription} {more : List Exchange},
      t.changeSetLookup (.ok (some d')) :: more = t.changeSetLookup (.ok (some d)) :: rest →
      d' = d ∧ more = rest := by
    intro d' more heq
    obtain ⟨hlookup, hmore⟩ := List.cons.inj heq
    rw [changeSetLookup_inj] at hlookup
    exact ⟨Option.some.inj (Except.ok.inj hlookup), hmore⟩
  cases h with
  | unseen =>
    have hlookup := (List.cons.inj hes).1
    rw [changeSetLookup_inj] at hlookup
    cases hlookup
  | @missing found _ _ _ hmissing _ =>
    have hlookup := (List.cons.inj hes).1
    rw [changeSetLookup_inj] at hlookup
    obtain rfl := Except.ok.inj hlookup
    rw [show d.move = .create from hmissing] at hphase
    rcases hfound with hdone | ⟨hempty, -⟩ <;> simp_all
  | waiting hmove | unexpected hmove | executing hmove | notExecuted hmove | failedDeletion hmove =>
    obtain ⟨rfl, -⟩ := hfirst hes
    rw [hmove] at hphase
    rcases hfound with hdone | ⟨hempty, -⟩ <;> simp_all
  | executed _ | emptyDropped _ => rfl
  | emptyKept hmove =>
    obtain ⟨rfl, hrest⟩ := hfirst hes
    rw [hmove] at hphase
    rcases hfound with hdone | ⟨-, hdeleted⟩
    · simp_all
    · rw [hdeleted] at hrest
      cases (List.cons.inj hrest).1

theorem Verified.eq_true (h : t.Verified isCreate es) (hpursuit : t.Pursuit es reference st) :
    st = .true := by
  have hboth : ∀ {found : Option StackDescription} {d : ChangeSetDescription}
      {rest : List Exchange},
      (d.phase = .success ∨ d.phase = .empty ∧ rest = [t.deletion d.handle (.ok ())]) →
      es = t.stackLookup (.ok found) :: t.changeSetLookup (.ok (some d)) :: rest → st = .true := by
    intro found d rest hfound hes
    cases hpursuit with
    | unseen | waiting _ | unexpected _ => cases (List.cons.inj hes).2
    | rollingBack _ | deleting _ => cases (List.cons.inj (List.cons.inj hes).2).1
    | changeSet _ hchangeSet =>
      exact eq_true_of_changeSetPursuit hfound hchangeSet (List.cons.inj hes).2
  cases h with
  | executed _ hphase => exact hboth (.inl hphase) rfl
  | empty _ hphase => exact hboth (.inr ⟨hphase, rfl⟩) rfl

end TargetStack

/-! ## Ready -/

namespace Operator

variable {o : Operator} {m : Manifest} {time : String} {es : List Exchange} {out : Outcome}

/-- The round has loaded a template, and what the cloud has said makes its target ready. -/
def Verified (o : Operator) (m : Manifest) (isCreate : Bool) (es : List Exchange) : Prop :=
  ∃ revision body, o.Loaded m es revision body ∧
    (o.targetOf m revision body).Verified isCreate (remote es)

theorem Verified.showsStack {isCreate : Bool} (h : o.Verified m isCreate es) :
    es.any (·.showsStack) = !isCreate := by
  obtain ⟨revision, body, -, hverified⟩ := h
  rw [← any_showsStack_remote]
  exact hverified.any_showsStack

theorem saysReady_iff (h : Ran (o.reconcile time m) es out) :
    out.SaysReady ↔ ∃ isCreate, o.Verified m isCreate es := by
  have hsilent : remote es = [] → ¬ ∃ isCreate, o.Verified m isCreate es := by
    rintro hnil ⟨isCreate, revision, body, -, hverified⟩
    rw [hnil] at hverified
    cases hverified
  cases passage_of_reconcile h with
  | idle _ hnil hnone =>
    refine iff_of_false ?_ (hsilent hnil)
    rintro ⟨d, -, hd, -⟩
    rw [hnone] at hd
    cases hd
  | stopped hnil _ _ hwrites =>
    exact iff_of_false (fun hready => by cases hwrites.saysReady_iff.1 hready) (hsilent hnil)
  | tornDown _ htorn hunready =>
    refine iff_of_false (Unready.not_saysReady hunready) ?_
    rintro ⟨isCreate, revision, body, -, hverified⟩
    -- a round that tears down looks up no change set
    generalize remote es = told at htorn hverified
    have hlooked : (sorts told)[1]? = some .changeSetLookup := by cases hverified <;> rfl
    cases htorn <;> cases hlooked
  | @pursued revision body reference _ _ st _ hloaded hpursuit _ _ hwrites =>
    rw [hwrites.saysReady_iff]
    constructor
    · rintro rfl
      obtain ⟨isCreate, hverified⟩ := TargetStack.verified_of_pursuit hpursuit
      exact ⟨isCreate, revision, body, hloaded, hverified⟩
    · rintro ⟨isCreate, revision', body', hloaded', hverified⟩
      obtain ⟨rfl, rfl⟩ := loaded_unique h hloaded hloaded'
      exact hverified.eq_true hpursuit

/-- A round says ready of a stack it was told of exactly if that was in a phase to update and the
change set was executed or was empty and removed; and it says ready of a stack that it was told is
not there, or not created yet, exactly if the change set was executed or empty all the same. -/
theorem ready_iff_verified (h : Ran (o.reconcile time m) es out) :
    (out.SaysReady ∧ es.any (·.showsStack) = true ↔ o.Verified m false es) ∧
    (out.SaysReady ∧ es.any (·.showsStack) = false ↔ o.Verified m true es) := by
  have hshown : ∀ isCreate, (out.SaysReady ∧ es.any (·.showsStack) = !isCreate) ↔
      o.Verified m isCreate es := by
    intro isCreate
    rw [saysReady_iff h]
    constructor
    · rintro ⟨⟨isCreate', hverified⟩, hstack⟩
      rw [hverified.showsStack] at hstack
      rwa [Bool.not_inj hstack] at hverified
    · intro hverified
      exact ⟨⟨isCreate, hverified⟩, hverified.showsStack⟩
  exact ⟨hshown false, hshown true⟩

end Operator

/-! ## A forgotten stack -/

namespace Sample

/-- The stack is deployed, and the next answer about it is that there is none. -/
def forgotten : Stage :=
  { deployed with world := { deployed.world with
      overrides := { Overrides.none with describeStack := [none] } } }

theorem forgotten_ran : Ran (operator.reconcile (forgotten.visit "a" true).time forgotten.object)
    (forgotten.visit "a" true).exchanges (forgotten.visit "a" true).outcome :=
  (supply "a").ran deployed_reached.spec deployed_reached.duty

theorem forgotten_ready : (forgotten.visit "a" true).outcome.SaysReady :=
  exists_ready (by decide +kernel)

theorem forgotten_unseen : (forgotten.visit "a" true).exchanges.any (·.showsStack) = false := by
  rfl

end Sample

open Sample in
theorem ready_iff_verified_forgotten :
    operator.Verified forgotten.object true (forgotten.visit "a" true).exchanges :=
  (Operator.ready_iff_verified forgotten_ran).2.1 ⟨forgotten_ready, forgotten_unseen⟩

open Sample in
/-- A round can say ready although it was told that there is no stack. -/
theorem not_always_ready_of_stack : ¬ ∀ (o : Operator) (time : String) (m : Manifest)
    (es : List Exchange) (out : Outcome), Ran (o.reconcile time m) es out → out.SaysReady →
    es.any (·.showsStack) = true := by
  intro always
  have hseen := always operator _ _ _ _ forgotten_ran forgotten_ready
  rw [forgotten_unseen] at hseen
  cases hseen

end StackSync
