import StackSync.Proofs.Cloud.Frame
import StackSync.Proofs.Reconcile.Justification
import StackSync.Proofs.Reconcile.Readiness
import StackSync.Proofs.Reconcile.Retrying

/-!
# One change set at a time, executed once

Two things are in the way of an update being rolled out twice: a second change set beside the first,
and a second execution of the same one. Both have to hold at every moment, and a round may be cut
short anywhere, so the statement here is about moments of a course and not only about what lies
between two rounds.

Executing twice is prevented by the cloud alone. An execution takes the change set from `AVAILABLE`
to `EXECUTE_COMPLETE`, nothing leads back, and the number in an ARN is never given out again; so an
ARN that has been executed is `Spent` for good. That the engine executes by ARN, and not by a name
that may come to stand for another change set, follows from where it has the handle from. There is
no second change set because there is none at rest (`Tracked`), and the moments in between differ
from one of the two rests in their logs only.
-/

namespace StackSync

open Program MemoryCloud

namespace MemoryCloud

variable {c c' c₁ : MemoryCloud} {es : List Exchange} {id : String}

/-! ## Moments of a replay -/

theorem Replay.answers_of_mem (h : Replay c es c') {e : Exchange} (he : e ∈ es) :
    ∃ c₁ c₂ : MemoryCloud, c₁.Answers e.request e.answer c₂ := by
  obtain ⟨before, after, rfl⟩ := List.append_of_mem he
  obtain ⟨c₁, -, hrest⟩ := replay_append_iff.1 h
  obtain ⟨c₂, hanswer, -⟩ := replay_cons_iff.1 hrest
  exact ⟨c₁, c₂, hanswer⟩

theorem Answers.sameStore {r : Request} {answer : r.Answer} (h : c.Answers r answer c')
    (hsort : r.sort? ≠ some .change) : SameStore c c' := by
  obtain ⟨edited, hedits, hs⟩ := h.edits
  cases hedits with
  | nothing => exact hs
  | create | update | erase | resume | execute | drop => exact absurd rfl hsort

theorem Replay.sameStore (h : Replay c es c') (hsorts : .change ∉ sorts es) : SameStore c c' := by
  induction h with
  | nil c => exact .refl c
  | @cons c c₁ c' e es hanswer _ ih =>
    have hnot : ∀ e' ∈ e :: es, e'.request.sort? ≠ some .change := fun e' he' hsort =>
      hsorts (List.mem_filterMap.2 ⟨e', he', hsort⟩)
    refine (hanswer.sameStore (hnot e List.mem_cons_self)).trans (ih fun hchange => ?_)
    obtain ⟨e', he', hsort⟩ := List.mem_filterMap.1 hchange
    exact hnot e' (List.mem_cons_of_mem e he') hsort

/-- With one change at most, every moment is like the start or like the end. -/
theorem Replay.sameStore_or {told rest : List Exchange} (htold : Replay c told c₁)
    (hrest : Replay c₁ rest c') (hsorts : (sorts (told ++ rest)).Sublist CallSort.order) :
    SameStore c c₁ ∨ SameStore c₁ c' := by
  by_cases hchange : .change ∈ sorts told
  · refine .inr (hrest.sameStore fun hagain => ?_)
    have hnodup : (sorts (told ++ rest)).Nodup := hsorts.nodup CallSort.nodup_order
    rw [sorts, List.filterMap_append, List.nodup_append] at hnodup
    exact hnodup.2.2 .change hchange .change hagain rfl
  · exact .inl (htold.sameStore hchange)

/-! ## Executions -/

/-- The ARN has been given out, and what is found under it cannot be executed. -/
def Spent (c : MemoryCloud) (id : String) : Prop :=
  Under (fun s => s.executionStatus ≠ some "AVAILABLE") c id

theorem Spent.answers (h : c.Spent id) {r : Request} {answer : r.Answer}
    (hanswer : c.Answers r answer c') : c'.Spent id := by
  have hkept : ∀ s : ChangeSetRecord, s.executionStatus ≠ some "AVAILABLE" →
      (executedRecord s).executionStatus ≠ some "AVAILABLE" := by
    intro s _
    show some "EXECUTE_COMPLETE" ≠ some "AVAILABLE"
    simp
  exact Under.answers h hkept hanswer

theorem Spent.of_eq (h : c.Spent id) (hsets : c'.changeSets = c.changeSets)
    (hissued : c'.issued = c.issued) : c'.Spent id :=
  Under.of_sublist h (hsets ▸ List.Sublist.refl _) hissued

theorem spent_execute (h : Coherent c) {s : ChangeSetRecord} (hmem : (id, s) ∈ c.changeSets)
    (key : StackKey) : (c.execute key id s).Spent id := by
  refine ⟨?_, fun s' hs' => ?_⟩
  · obtain ⟨k, hk, harn⟩ := h.arn _ hmem
    rw [issued_execute]
    exact ⟨s.region, s.name, k, hk, harn⟩
  · obtain ⟨r, -, hrecord⟩ := exists_of_mem_execute hs'
    dsimp only at hrecord
    rw [if_pos rfl] at hrecord
    subst hrecord
    exact show some "EXECUTE_COMPLETE" ≠ some "AVAILABLE" by simp

end MemoryCloud

/-- The ARN of the change set that the exchange has got executed. -/
def Program.Exchange.executed? : Exchange → Option String
  | ⟨.executeChangeSet _ _ h, Except.ok _⟩ => h.id
  | _ => none

/-- The ARNs that have been executed, in their order. -/
def executions (es : List Exchange) : List String := es.filterMap Exchange.executed?

/-- Whatever has been executed, it was by its ARN. -/
def ExecutesByArn (es : List Exchange) : Prop :=
  ∀ region name h done, ⟨.executeChangeSet region name h, Except.ok done⟩ ∈ es → h.id.isSome = true

namespace MemoryCloud

variable {c c' c₁ : MemoryCloud} {es : List Exchange} {id : String}

/-- An execution takes an ARN that is not spent, and spends it. -/
theorem Answers.executed {e : Exchange} (h : Coherent c) (hanswer : c.Answers e.request e.answer c')
    (hid : e.executed? = some id) : ¬ c.Spent id ∧ c'.Spent id := by
  obtain ⟨request, answer⟩ := e
  unfold Exchange.executed? at hid
  split at hid
  · next region name handle done heq =>
    obtain ⟨rfl, hanswered⟩ := Exchange.mk.inj heq
    obtain rfl := eq_of_heq hanswered
    rcases executeChangeSet_law hanswer with ⟨⟨e, he⟩, -⟩ | ⟨id', s, hfind, havailable, -, hs⟩
    · cases he
    · obtain ⟨hmem, hid' | ⟨hnone, -⟩⟩ := h.mem_of_find? hfind
      · obtain rfl : id' = id := Option.some.inj (hid'.symm.trans hid)
        refine ⟨fun hspent => hspent.only s hmem havailable, ?_⟩
        exact (spent_execute h hmem _).of_eq hs.changeSets hs.issued
      · rw [hid] at hnone
        cases hnone
  · cases hid

/-- However long a conversation with the cloud goes on, nothing gets executed that is spent: neither
what was before, nor what it has executed itself. -/
theorem Replay.executions (h : Coherent c) (hr : Replay c es c') {before : List String}
    (hnodup : before.Nodup) (hspent : ∀ id ∈ before, c.Spent id) :
    (executions es ++ before).Nodup ∧ ∀ id ∈ executions es ++ before, c'.Spent id := by
  induction hr generalizing before with
  | nil c => exact ⟨hnodup, hspent⟩
  | @cons c c₁ c' e es hanswer _ ih =>
    have hkept : ∀ id ∈ before, c₁.Spent id := fun id hid => (hspent id hid).answers hanswer
    cases hexecuted : e.executed? with
    | none =>
      have hcons : StackSync.executions (e :: es) = StackSync.executions es :=
        List.filterMap_cons_none hexecuted
      rw [hcons]
      exact ih (h.answers hanswer) hnodup hkept
    | some id =>
      have hcons : StackSync.executions (e :: es) = id :: StackSync.executions es :=
        List.filterMap_cons_some hexecuted
      obtain ⟨hunspent, hnow⟩ := hanswer.executed h hexecuted
      have hnodup' : (id :: before).Nodup :=
        List.nodup_cons.2 ⟨fun hid => hunspent (hspent id hid), hnodup⟩
      obtain ⟨hall, hspent'⟩ :=
        ih (h.answers hanswer) hnodup' (List.forall_mem_cons.2 ⟨hnow, hkept⟩)
      have hperm : (StackSync.executions es ++ id :: before).Perm
          (id :: (StackSync.executions es ++ before)) := List.perm_middle
      rw [hcons]
      exact ⟨hperm.nodup_iff.1 hall, fun i hi => hspent' i (hperm.mem_iff.2 hi)⟩

/-- A description that the cloud gives has the ARN of what it describes. -/
theorem Replay.described_id (hr : Replay c es c') {region name : String} {asked : ChangeSetHandle}
    {d : ChangeSetDescription}
    (hd : ⟨.describeChangeSet region name asked, .ok (some d)⟩ ∈ es) :
    d.handle.id.isSome = true := by
  obtain ⟨c₁, c₂, hanswer⟩ := hr.answers_of_mem hd
  obtain ⟨found, -, rfl⟩ :=
    Option.map_eq_some_iff.1 ((describeChangeSet_law hanswer).2 (some d) rfl).symm
  rfl

end MemoryCloud

namespace Visit

variable {v : Visit} {c c' : MemoryCloud}

/-- A round executes what has just been described to it, and goes by the ARN in the description. -/
theorem Valid.executesByArn (h : v.Valid c c') : ExecutesByArn v.exchanges := by
  intro region name handle done he
  obtain ⟨before, after, hsplit⟩ := List.append_of_mem he
  obtain ⟨haccounts, -⟩ := Operator.accounts_of_reconcile h.ran
  obtain ⟨-, asked, d, hd, rfl, -⟩ := haccounts.of_remote hsplit
  have htold : ⟨.describeChangeSet region name asked, .ok (some d)⟩ ∈ v.exchanges := by
    rw [hsplit]
    exact List.mem_append_left _ hd
  exact h.replay.described_id htold

theorem Valid.sorts (h : v.Valid c c') : (sorts v.exchanges).Sublist CallSort.order := by
  rw [← sorts_remote]
  exact (Operator.accounts_of_reconcile h.ran).2

end Visit

/-! ## Moments of a course -/

/-- A moment of a course, by the rounds that are over, the object, what the round under way has been
told so far and the cloud: between two rounds there is nothing told, and within a round some first
part of what it will have been told. -/
inductive Moment (p : Plan) (hist : List Visit) :
    Manifest → List Exchange → MemoryCloud → Prop where
  | resting {m : Manifest} {c : MemoryCloud} : Course p hist m c → Moment p hist m [] c
  | during {v : Visit} {c c₁ c' : MemoryCloud} {told rest : List Exchange} :
      Course p hist v.object c → p.allows v → v.Valid c c' → v.exchanges = told ++ rest →
      Replay c told c₁ → Replay c₁ rest c' → Moment p hist v.object told c₁

/-- Everything that the rounds so far have got executed, the newest round first. -/
def executedBy (hist : List Visit) : List String := hist.flatMap fun v => executions v.exchanges

/-- What has been executed is spent, each ARN having been executed once. -/
structure Expended (hist : List Visit) (c : MemoryCloud) : Prop where
  nodup : (executedBy hist).Nodup
  spent : ∀ id ∈ executedBy hist, c.Spent id
  byArn : ∀ v ∈ hist, ExecutesByArn v.exchanges

namespace Expended

variable {hist : List Visit} {c c' : MemoryCloud}

theorem nil (c : MemoryCloud) : Expended [] c :=
  ⟨List.nodup_nil, fun _ hid => absurd hid List.not_mem_nil,
    fun _ hv => absurd hv List.not_mem_nil⟩

theorem round (h : Expended hist c) {v : Visit} (hcoherent : Coherent c) (hvalid : v.Valid c c') :
    Expended (v :: hist) c' := by
  obtain ⟨hnodup, hspent⟩ := hvalid.replay.executions hcoherent h.nodup h.spent
  exact ⟨hnodup, hspent, List.forall_mem_cons.2 ⟨hvalid.executesByArn, h.byArn⟩⟩

theorem of_eq (h : Expended hist c) (hsets : c'.changeSets = c.changeSets)
    (hissued : c'.issued = c.issued) : Expended hist c' :=
  ⟨h.nodup, fun id hid => (h.spent id hid).of_eq hsets hissued, h.byArn⟩

end Expended

theorem Tracked.length_changeSetsOf {key : StackKey} {name : String} {handle : ChangeSetHandle}
    {lost : Prop} {c : MemoryCloud} (h : Tracked key name handle lost c) :
    (c.changeSetsOf key).length ≤ 1 := by
  have hnodup : (c.changeSetsOf key).Nodup := by
    have hall : c.changeSets.Nodup :=
      List.Pairwise.of_map Prod.fst (fun _ _ hne heq => hne (congrArg Prod.fst heq))
        h.coherent.nodup
    exact hall.sublist List.filter_sublist
  match hsets : c.changeSetsOf key with
  | [] => exact Nat.zero_le _
  | [_] => exact Nat.le_refl _
  | e :: e' :: rest =>
    have hmem : ∀ x ∈ c.changeSetsOf key, x ∈ c.changeSets ∧ x.2.belongsTo key = true :=
      fun x hx => List.mem_filter.1 hx
    rw [hsets] at hmem hnodup
    obtain ⟨he, hkey⟩ := hmem e (by simp)
    obtain ⟨he', hkey'⟩ := hmem e' (by simp)
    have hsame := h.single e he e' he' hkey hkey'
    simp [hsame] at hnodup

section

variable {s : OperatorSettings} {revision : String} {hist : List Visit} {m : Manifest}

theorem expended_of_course {c : MemoryCloud} (course : Course (retrying s revision) hist m c) :
    TracksAttempt s revision hist m c ∧ Expended hist c := by
  refine course.invariant (I := fun hist m c => TracksAttempt s revision hist m c ∧ Expended hist c)
    ?_ ?_ ?_
  · intro m c hstarts
    exact ⟨.start hstarts, .nil c⟩
  · rintro hist v c c' hallowed hvalid ⟨htracks, hexpended⟩
    exact ⟨htracks.round hallowed hvalid, hexpended.round htracks.coherent hvalid⟩
  · rintro hist m c m' c' hb ⟨htracks, hexpended⟩
    have hkeeps := hb
    obtain ⟨-, -, -, hsets, hissued⟩ := hkeeps
    exact ⟨htracks.between hb, hexpended.of_eq hsets hissued⟩

/-- Tried again and again with one generation and one revision, an attempt has at every moment one
change set at most, whatever fails, whatever is seeded between two rounds and whichever statuses get
lost. No change set is executed twice: each execution so far went by the ARN of what it executed,
and all these ARNs are different. -/
theorem one_change_set_executed_once {told : List Exchange} {c : MemoryCloud}
    (moment : Moment (retrying s revision) hist m told c) :
    (c.changeSetsOf (m.stackKey s)).length ≤ 1 ∧
      (executions told ++ executedBy hist).Nodup ∧
      ExecutesByArn told ∧ ∀ v ∈ hist, ExecutesByArn v.exchanges := by
  cases moment with
  | resting course =>
    obtain ⟨htracks, hexpended⟩ := expended_of_course course
    refine ⟨htracks.length_changeSetsOf, hexpended.nodup, ?_, hexpended.byArn⟩
    exact fun _ _ _ _ he => absurd he List.not_mem_nil
  | @during v c₀ c c' told rest course hallowed hvalid hsplit htold hrest =>
    obtain ⟨htracks, hexpended⟩ := expended_of_course course
    obtain ⟨hnodup, -⟩ := htold.executions htracks.coherent hexpended.nodup hexpended.spent
    refine ⟨?_, hnodup, ?_, hexpended.byArn⟩
    · have hsorts := hvalid.sorts
      rw [hsplit] at hsorts
      rcases htold.sameStore_or hrest hsorts with hs | hs
      · rw [hs.changeSetsOf]
        exact htracks.length_changeSetsOf
      · have hafter := (htracks.round hallowed hvalid).length_changeSetsOf
        rw [Visit.after_stackKey, hs.changeSetsOf] at hafter
        exact hafter
    · intro region name h done he
      refine hvalid.executesByArn region name h done ?_
      rw [hsplit]
      exact List.mem_append_left rest he

end

open Sample in
/-- From an empty cloud the first round makes a change set and the second one executes it; at the
end of the second there is still the one, and nothing else has been executed. -/
theorem one_change_set_executed_once_deployed :
    executions (created.visit "a" true).exchanges =
        ["arn:aws:cloudformation:eu-north-1:123456789012:changeSet/flux-1-a/1"] ∧
      (deployed.world.cloud.changeSetsOf (created.object.stackKey operator.settings)).length = 1 ∧
      (executions (created.visit "a" true).exchanges ++ executedBy created.visits).Nodup := by
  have hfirst : first.Reached repeated := by
    refine ⟨.start ⟨rfl, .empty, fun e he => ?_⟩, rfl, rfl, rfl⟩
    cases he
  have hcreated : created.Reached repeated :=
    hfirst.next (repeated_allows _ _) repeated_between rfl
  have hvalid : (created.visit "a" true).Valid created.world.cloud deployed.world.cloud :=
    hcreated.valid.1
  have hmoment : Moment repeated created.visits created.object (created.visit "a" true).exchanges
      deployed.world.cloud :=
    .during hcreated.course (repeated_allows created true) hvalid (List.append_nil _).symm
      hvalid.replay (.nil _)
  obtain ⟨-, hnodup, -, -⟩ := one_change_set_executed_once hmoment
  exact ⟨rfl, rfl, hnodup⟩

end StackSync
