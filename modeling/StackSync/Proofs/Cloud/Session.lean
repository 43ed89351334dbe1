import StackSync.Proofs.Cloud.Frame

/-!
# What the cloud in memory keeps in order

A session is any sequence of calls, with operations made to fail and healed in between. What holds
after every session is one invariant, `Orderly`, about the cloud and the ARNs that have been given
out so far. Two calls add a change set, and both make sure before that its name is free and that it
has a stack; the ARN is new since the number in it is. All other calls take change sets away or
execute one, which keeps its place, its name and its stack.

That a call which fails changes nothing but the log does not need the invariant, so it holds of
every cloud, however it came about.
-/

namespace StackSync

/-- A call of the service. -/
inductive ServiceCall where
  | describeStack (region name : String)
  | createStack (request : ChangeSetRequest)
  | updateStack (request : ChangeSetRequest)
  | deleteStack (region name : String)
  | continueUpdateRollback (region name : String)
  | describeChangeSet (region name : String) (handle : ChangeSetHandle)
  | executeChangeSet (region name : String) (handle : ChangeSetHandle)
  | deleteChangeSet (region name : String) (handle : ChangeSetHandle)
  deriving DecidableEq, Repr

namespace ServiceCall

def Result : ServiceCall → Type
  | .describeStack .. => Option StackDescription
  | .createStack _ => ChangeSetHandle
  | .updateStack _ => ChangeSetHandle
  | .deleteStack .. => Unit
  | .continueUpdateRollback .. => Unit
  | .describeChangeSet .. => Option ChangeSetDescription
  | .executeChangeSet .. => Unit
  | .deleteChangeSet .. => Unit

def act : (call : ServiceCall) → CloudAction call.Result
  | .describeStack region name => MemoryCloud.describeStack region name
  | .createStack r => MemoryCloud.createStack r
  | .updateStack r => MemoryCloud.updateStack r
  | .deleteStack region name => MemoryCloud.deleteStack region name
  | .continueUpdateRollback region name => MemoryCloud.continueUpdateRollback region name
  | .describeChangeSet region name h => MemoryCloud.describeChangeSet region name h
  | .executeChangeSet region name h => MemoryCloud.executeChangeSet region name h
  | .deleteChangeSet region name h => MemoryCloud.deleteChangeSet region name h

/-- The entry of the call in the log. -/
def logged : ServiceCall → LoggedCall
  | .describeStack _ name => ⟨.describeStack, name, none⟩
  | .createStack r => ⟨.createStack, r.stackName, some r.changeSetName⟩
  | .updateStack r => ⟨.updateStack, r.stackName, some r.changeSetName⟩
  | .deleteStack _ name => ⟨.deleteStack, name, none⟩
  | .continueUpdateRollback _ name => ⟨.continueUpdateRollback, name, none⟩
  | .describeChangeSet _ name h => ⟨.describeChangeSet, name, some h.reference⟩
  | .executeChangeSet _ name h => ⟨.executeChangeSet, name, some h.reference⟩
  | .deleteChangeSet _ name h => ⟨.deleteChangeSet, name, some h.reference⟩

/-- The call as a request of a round. -/
def request : ServiceCall → Request
  | .describeStack region name => .describeStack region name
  | .createStack r => .createStack r
  | .updateStack r => .updateStack r
  | .deleteStack region name => .deleteStack region name
  | .continueUpdateRollback region name => .continueRollback region name
  | .describeChangeSet region name h => .describeChangeSet region name h
  | .executeChangeSet region name h => .executeChangeSet region name h
  | .deleteChangeSet region name h => .deleteChangeSet region name h

theorem exists_answers (call : ServiceCall) (c : MemoryCloud) :
    ∃ answer, c.Answers call.request answer (call.act c).2 := by
  cases call <;> exact ⟨_, rfl⟩

end ServiceCall

/-- What happens to a cloud: it is called, or somebody makes an operation fail, or work again. -/
inductive Incident where
  | call (call : ServiceCall)
  | fail (op : CloudOperation) (detail : String)
  | heal
  deriving DecidableEq, Repr

namespace MemoryCloud

def meet (c : MemoryCloud) : Incident → MemoryCloud
  | .call call => (call.act c).2
  | .fail op detail => c.breakOperation op detail
  | .heal => c.heal

/-- The cloud after a session. -/
def after (c : MemoryCloud) (session : List Incident) : MemoryCloud := session.foldl meet c

/-- The ARN that an answer gives out. -/
def handed : CloudAnswer ChangeSetHandle → List String
  | .ok handle => handle.id.toList
  | .error _ => []

def givenBy (c : MemoryCloud) : Incident → List String
  | .call (.createStack r) => handed (createStack r c).1
  | .call (.updateStack r) => handed (updateStack r c).1
  | _ => []

/-- The ARNs that are given out in the course of a session. -/
def given (c : MemoryCloud) : List Incident → List String
  | [] => []
  | incident :: rest => c.givenBy incident ++ (c.meet incident).given rest

theorem after_append (c : MemoryCloud) (session more : List Incident) :
    c.after (session ++ more) = (c.after session).after more :=
  List.foldl_append

theorem given_append (c : MemoryCloud) (session more : List Incident) :
    c.given (session ++ more) = c.given session ++ (c.after session).given more := by
  induction session generalizing c with
  | nil => rfl
  | cons incident rest ih =>
    rw [List.cons_append, given, given, ih, List.append_assoc]
    rfl

/-! ## Failures -/

/-- An action that fails leaves the cloud alone. -/
def Atomic {α : Type} (act : CloudAction α) : Prop :=
  ∀ c e, (act c).1 = .error e → (act c).2 = c

theorem atomic_of_ok {α : Type} {act : CloudAction α} (h : ∀ c, ∃ a, (act c).1 = .ok a) :
    Atomic act := by
  intro c e he
  obtain ⟨a, ha⟩ := h c
  cases ha.symm.trans he

theorem atomic_unlessTaken {r : ChangeSetRequest} {act : CloudAction ChangeSetHandle}
    (h : Atomic act) : Atomic (unlessTaken r act) := by
  intro c e he
  unfold unlessTaken at he ⊢
  split
  · rfl
  · next hfree =>
    rw [if_neg hfree] at he
    exact h c e he

/-- A call that fails is logged, and that is all. -/
theorem perform_of_error {α : Type} {op : CloudOperation} {stack : String}
    {changeSet : Option String} {act : CloudAction α} (h : Atomic act) {c : MemoryCloud}
    {e : CloudError} (herror : (perform op stack changeSet act c).1 = .error e) :
    (perform op stack changeSet act c).2 =
      { c with calls := c.calls ++ [⟨op, stack, changeSet⟩] } := by
  unfold perform at herror ⊢
  dsimp only at herror ⊢
  split
  · rfl
  · next hworks =>
    rw [hworks] at herror
    exact h _ e herror

/-- In every operation the checks come before the first change. -/
theorem act_of_error {call : ServiceCall} {c : MemoryCloud} {e : CloudError}
    (h : (call.act c).1 = .error e) :
    (call.act c).2 = { c with calls := c.calls ++ [call.logged] } := by
  cases call with
  | describeStack region name => exact perform_of_error (atomic_of_ok fun _ => ⟨_, rfl⟩) h
  | createStack r =>
    exact perform_of_error (atomic_unlessTaken (atomic_of_ok fun _ => ⟨_, rfl⟩)) h
  | updateStack r =>
    refine perform_of_error (atomic_unlessTaken fun c e he => ?_) h
    cases hstack : c.stack? (r.region, r.stackName) with
    | none => rfl
    | some s =>
      rw [hstack] at he
      cases he
  | deleteStack region name => exact perform_of_error (atomic_of_ok fun _ => ⟨_, rfl⟩) h
  | continueUpdateRollback region name =>
    refine perform_of_error (fun c e he => ?_) h
    cases hstack : c.stack? (region, name) with
    | none => rfl
    | some s =>
      rw [hstack] at he
      cases he
  | describeChangeSet region name handle =>
    exact perform_of_error (atomic_of_ok fun _ => ⟨_, rfl⟩) h
  | executeChangeSet region name handle =>
    refine perform_of_error (fun c e he => ?_) h
    dsimp only at he ⊢
    cases hfind : (c.idOf? (region, name) handle).bind fun id => (c.changeSet? id).map (id, ·) with
    | none => rfl
    | some found =>
      rw [hfind] at he
      dsimp only at he ⊢
      split
      · rfl
      · next havailable =>
        rw [if_neg havailable] at he
        cases he
  | deleteChangeSet region name handle =>
    exact perform_of_error (atomic_of_ok fun _ => ⟨_, rfl⟩) h

/-! ## The invariant -/

/-- Region, stack and name of a change set. -/
def place (e : String × ChangeSetRecord) : String × String × String :=
  (e.2.region, e.2.stack, e.2.name)

theorem taken_iff_mem_place {c : MemoryCloud} {region stack name : String} :
    c.Taken (region, stack) name ↔ (region, stack, name) ∈ c.changeSets.map place := by
  rw [List.mem_map]
  constructor
  · rintro ⟨e, he, hkey, hname⟩
    rw [ChangeSetRecord.belongsTo, beq_iff_eq, Prod.mk.injEq] at hkey
    exact ⟨e, he, by rw [place, hkey.1, hkey.2, hname]⟩
  · rintro ⟨e, he, hplace⟩
    simp only [place, Prod.mk.injEq] at hplace
    obtain ⟨rfl, rfl, rfl⟩ := hplace
    exact ⟨e, he, beq_self_eq_true _, rfl⟩

theorem places_execute (c : MemoryCloud) (key : StackKey) (id : String) (s : ChangeSetRecord) :
    (c.execute key id s).changeSets.map place = c.changeSets.map place := by
  rw [changeSets_execute]
  show (c.changeSets.map _).map place = _
  rw [List.map_map]
  refine List.map_congr_left fun e _ => ?_
  simp only [Function.comp_apply]
  split <;> rfl

/-- A cloud that has given out these ARNs, one after another. -/
structure Orderly (ids : List String) (c : MemoryCloud) : Prop where
  coherent : Coherent c
  /-- Every change set has its stack, -/
  founded : Founded c
  /-- and no two have the same place. -/
  apart : (c.changeSets.map place).Nodup
  /-- No ARN has been given out twice: each has a number of its own, -/
  distinct : ids.Nodup
  numbered : ∀ id ∈ ids, ∃ region name, ∃ k ≤ c.issued, id = changeSetArn region name k
  /-- and the cloud knows no others. -/
  held : ∀ e ∈ c.changeSets, e.1 ∈ ids

namespace Orderly

variable {ids : List String} {c c' : MemoryCloud}

theorem empty : Orderly [] .empty where
  coherent := Reachable.empty.coherent
  founded := nofun
  apart := List.nodup_nil
  distinct := List.nodup_nil
  numbered := nofun
  held := nofun

theorem of_sublist (h : Orderly ids c) (founded : Founded c')
    (hsets : c'.changeSets.Sublist c.changeSets) (hissued : c'.issued = c.issued) :
    Orderly ids c' where
  coherent := h.coherent.of_sublist hsets hissued
  founded := founded
  apart := h.apart.sublist (hsets.map place)
  distinct := h.distinct
  numbered := by
    rw [hissued]
    exact h.numbered
  held := fun e he => h.held e (hsets.subset he)

theorem of_eq (h : Orderly ids c) (hrecords : c'.records = c.records)
    (hsets : c'.changeSets = c.changeSets) (hissued : c'.issued = c.issued) : Orderly ids c' :=
  h.of_sublist (h.founded.of_sublist hrecords (hsets ▸ List.Sublist.refl _))
    (hsets ▸ List.Sublist.refl _) hissued

theorem sameStore (h : Orderly ids c) (hs : SameStore c c') : Orderly ids c' :=
  h.of_eq hs.records hs.changeSets hs.issued

theorem putRecord (h : Orderly ids c) (key : StackKey) (s : StackRecord) :
    Orderly ids (c.putRecord key s) :=
  h.of_sublist (h.founded.putRecord key s) (List.Sublist.refl _) rfl

theorem execute (h : Orderly ids c) (key : StackKey) (id : String) (s : ChangeSetRecord) :
    Orderly ids (c.execute key id s) where
  coherent := h.coherent.execute key id s
  founded := h.founded.execute key id s
  apart := by
    rw [places_execute]
    exact h.apart
  distinct := h.distinct
  numbered := by
    rw [issued_execute]
    exact h.numbered
  held := by
    intro e he
    obtain ⟨r, hmem, -⟩ := exists_of_mem_execute he
    exact h.held (e.1, r) hmem

/-- A change set whose place is free and whose stack is there is added under the next ARN. -/
theorem addChangeSet (h : Orderly ids c) {s : ChangeSetRecord}
    (hfree : ¬ c.Taken (s.region, s.stack) s.name)
    (hstack : (c.stack? (s.region, s.stack)).isSome = true) :
    Orderly (ids ++ [changeSetArn s.region s.name (c.issued + 1)]) (c.addChangeSet s).2 where
  coherent := h.coherent.addChangeSet s
  founded := h.founded.addChangeSet hstack
  apart := by
    show ((c.changeSets ++ [_]).map place).Nodup
    rw [List.map_append, List.nodup_append]
    refine ⟨h.apart, by simp, ?_⟩
    rintro p hp _ hnew rfl
    obtain rfl := List.mem_singleton.1 hnew
    exact hfree (taken_iff_mem_place.2 hp)
  distinct := by
    rw [List.nodup_append]
    refine ⟨h.distinct, by simp, ?_⟩
    rintro id hid _ hnew rfl
    obtain ⟨region, name, k, hk, harn⟩ := h.numbered id hid
    have hindex := index_eq_of_changeSetArn_eq (harn.symm.trans (List.mem_singleton.1 hnew))
    omega
  numbered := by
    intro id hid
    rcases List.mem_append.1 hid with hid | hid
    · obtain ⟨region, name, k, hk, harn⟩ := h.numbered id hid
      exact ⟨region, name, k, Nat.le_succ_of_le hk, harn⟩
    · exact ⟨s.region, s.name, c.issued + 1, Nat.le_refl _, List.mem_singleton.1 hid⟩
  held := by
    intro e he
    rcases List.mem_append.1 he with he | he
    · exact List.mem_append_left _ (h.held e he)
    · obtain rfl := List.mem_singleton.1 he
      exact List.mem_append_right _ (List.mem_singleton_self _)

/-- Answers that give out nothing. -/
theorem of_answers (h : Orderly ids c) {r : Request} {answer : r.Answer}
    (hanswer : c.Answers r answer c') (hcreate : ∀ q, r ≠ .createStack q)
    (hupdate : ∀ q, r ≠ .updateStack q) : Orderly ids c' := by
  obtain ⟨edited, hedits, hs⟩ := hanswer.edits
  refine Orderly.sameStore ?_ hs
  cases hedits with
  | nothing => exact h
  | create q => exact absurd rfl (hcreate q)
  | update q => exact absurd rfl (hupdate q)
  | erase region name =>
    exact h.of_sublist (h.founded.eraseStack (region, name)) List.filter_sublist rfl
  | resume => exact h.putRecord _ _
  | execute => exact h.execute _ _ _
  | drop =>
    exact h.of_sublist (h.founded.of_sublist rfl List.filter_sublist) List.filter_sublist rfl

theorem createStack (h : Orderly ids c) {r : ChangeSetRequest}
    {answer : CloudAnswer ChangeSetHandle} (hrun : MemoryCloud.createStack r c = (answer, c')) :
    Orderly (ids ++ handed answer) c' := by
  rcases createStack_law hrun with ⟨_, -, rfl, hs⟩ | ⟨-, -, rfl, hs⟩ | ⟨-, hfree, rfl, hs⟩
  · simpa [handed] using h.sameStore hs
  · simpa [handed] using h.sameStore hs
  · have hput := h.putRecord (r.region, r.stackName) reservedStack
    have hstack : ((c.putRecord (r.region, r.stackName) reservedStack).stack?
        (r.region, r.stackName)).isSome = true := by
      rw [stack?_putRecord, if_pos rfl]
      rfl
    have hadded := hput.addChangeSet (s := recordOf r true) hfree hstack
    exact hadded.sameStore hs

theorem updateStack (h : Orderly ids c) {r : ChangeSetRequest}
    {answer : CloudAnswer ChangeSetHandle} (hrun : MemoryCloud.updateStack r c = (answer, c')) :
    Orderly (ids ++ handed answer) c' := by
  rcases updateStack_law hrun with
    ⟨_, -, rfl, hs⟩ | ⟨-, -, rfl, hs⟩ | ⟨-, -, -, rfl, hs⟩ | ⟨s, -, hfree, hstack, rfl, hs⟩
  · simpa [handed] using h.sameStore hs
  · simpa [handed] using h.sameStore hs
  · simpa [handed] using h.sameStore hs
  · have hadded := h.addChangeSet (s := updateRecord r s) (by simpa using hfree)
      (by simp [hstack])
    rw [updateRecord_region, updateRecord_name] at hadded
    exact hadded.sameStore hs

theorem meet (h : Orderly ids c) (incident : Incident) :
    Orderly (ids ++ c.givenBy incident) (c.meet incident) := by
  have hnothing : ids ++ [] = ids := List.append_nil ids
  cases incident with
  | call call =>
    obtain ⟨answer, hanswer⟩ := call.exists_answers c
    cases call with
    | createStack r => exact h.createStack rfl
    | updateStack r => exact h.updateStack rfl
    | _ => exact hnothing.symm ▸ h.of_answers hanswer nofun nofun
  | fail op detail => exact hnothing.symm ▸ h.of_eq rfl rfl rfl
  | heal => exact hnothing.symm ▸ h.of_eq rfl rfl rfl

theorem after (h : Orderly ids c) (session : List Incident) :
    Orderly (ids ++ c.given session) (c.after session) := by
  induction session generalizing ids c with
  | nil =>
    rw [given, List.append_nil]
    exact h
  | cons incident rest ih =>
    rw [given, ← List.append_assoc]
    exact ih (h.meet incident)

end Orderly

/-! ## What stays under an ARN -/

namespace Under

variable {P : ChangeSetRecord → Prop} {c : MemoryCloud} {id : String}

theorem meet (h : Under P c id) (hP : ∀ s, P s → P (executedRecord s)) (incident : Incident) :
    Under P (c.meet incident) id := by
  cases incident with
  | call call =>
    obtain ⟨answer, hanswer⟩ := call.exists_answers c
    exact h.answers hP hanswer
  | fail op detail => exact h.of_sublist (List.Sublist.refl _) rfl
  | heal => exact h.of_sublist (List.Sublist.refl _) rfl

theorem after (h : Under P c id) (hP : ∀ s, P s → P (executedRecord s))
    (session : List Incident) : Under P (c.after session) id := by
  induction session generalizing c with
  | nil => exact h
  | cons incident rest ih => exact ih (h.meet hP incident)

end Under

theorem exists_of_addChangeSet {base c : MemoryCloud} {s : ChangeSetRecord}
    (hs : SameStore (base.addChangeSet s).2 c) :
    ∃ e ∈ c.changeSets, e.1 = changeSetArn s.region s.name (base.issued + 1) := by
  refine ⟨(changeSetArn s.region s.name (base.issued + 1), s), ?_, rfl⟩
  rw [hs.changeSets]
  exact List.mem_append_right _ (List.mem_singleton_self _)

theorem exists_of_createStack {c c' : MemoryCloud} {r : ChangeSetRequest}
    {answer : CloudAnswer ChangeSetHandle} {id : String} (hrun : createStack r c = (answer, c'))
    (hid : id ∈ handed answer) : ∃ e ∈ c'.changeSets, e.1 = id := by
  rcases createStack_law hrun with ⟨_, -, rfl, -⟩ | ⟨-, -, rfl, -⟩ | ⟨-, -, rfl, hs⟩
  · cases hid
  · cases hid
  · have hstored := exists_of_addChangeSet hs
    rw [List.mem_singleton.1 hid]
    exact hstored

theorem exists_of_updateStack {c c' : MemoryCloud} {r : ChangeSetRequest}
    {answer : CloudAnswer ChangeSetHandle} {id : String} (hrun : updateStack r c = (answer, c'))
    (hid : id ∈ handed answer) : ∃ e ∈ c'.changeSets, e.1 = id := by
  rcases updateStack_law hrun with
    ⟨_, -, rfl, -⟩ | ⟨-, -, rfl, -⟩ | ⟨-, -, -, rfl, -⟩ | ⟨s, -, -, -, rfl, hs⟩
  · cases hid
  · cases hid
  · cases hid
  · have hstored := exists_of_addChangeSet hs
    rw [updateRecord_region, updateRecord_name] at hstored
    rw [List.mem_singleton.1 hid]
    exact hstored

/-- There is a change set under an ARN that has just been given out. -/
theorem exists_of_mem_givenBy {c : MemoryCloud} {incident : Incident} {id : String}
    (h : id ∈ c.givenBy incident) : ∃ e ∈ (c.meet incident).changeSets, e.1 = id := by
  cases incident with
  | call call =>
    cases call with
    | createStack r => exact exists_of_createStack rfl h
    | updateStack r => exact exists_of_updateStack rfl h
    | _ => cases h
  | fail op detail => cases h
  | heal => cases h

/-- The state of order after a session with a cloud that was empty. -/
structure InOrder (session : List Incident) : Prop where
  /-- No ARN is given out a second time, -/
  given_once : (empty.given session).Nodup
  /-- what is given out is new then and refers to a change set, -/
  fresh : ∀ before incident later, session = before ++ incident :: later →
    ∀ id ∈ (empty.after before).givenBy incident,
      (∀ e ∈ (empty.after before).changeSets, e.1 ≠ id) ∧
      ∃ e ∈ (empty.after (before ++ [incident])).changeSets, e.1 = id
  /-- and change sets have no other ARNs, each its own. -/
  held : ∀ e ∈ (empty.after session).changeSets, e.1 ∈ empty.given session
  distinct : ((empty.after session).changeSets.map (·.1)).Nodup
  /-- What has been under an ARN is still there as it was, but for its execution, or it is gone for
  good. -/
  kept : ∀ before later, session = before ++ later →
    ∀ e ∈ (empty.after before).changeSets, ∀ s, (e.1, s) ∈ (empty.after session).changeSets →
      s = e.2 ∨ s = executedRecord e.2
  gone : ∀ before later, session = before ++ later → ∀ id ∈ empty.given before,
    (∀ e ∈ (empty.after before).changeSets, e.1 ≠ id) →
      ∀ e ∈ (empty.after session).changeSets, e.1 ≠ id
  /-- No two change sets have region, stack and name in common, -/
  apart : ((empty.after session).changeSets.map fun e =>
    (e.2.region, e.2.stack, e.2.name)).Nodup
  /-- and each one's stack is there. -/
  founded : ∀ e ∈ (empty.after session).changeSets,
    ((empty.after session).stack? (e.2.region, e.2.stack)).isSome = true

theorem orderly_after (session : List Incident) :
    Orderly (empty.given session) (empty.after session) :=
  Orderly.empty.after session

theorem inOrder (session : List Incident) : InOrder session where
  given_once := (orderly_after session).distinct
  fresh := by
    rintro before incident later rfl id hid
    have h := orderly_after (before ++ [incident])
    have hgiven : empty.given (before ++ [incident]) =
        empty.given before ++ (empty.after before).givenBy incident := by
      rw [given_append, given, given, List.append_nil]
    refine ⟨fun e he heq => ?_, ?_⟩
    · have hdistinct := h.distinct
      rw [hgiven, List.nodup_append] at hdistinct
      exact hdistinct.2.2 e.1 ((orderly_after before).held e he) id hid heq
    · rw [after_append]
      exact exists_of_mem_givenBy hid
  held := (orderly_after session).held
  distinct := (orderly_after session).coherent.nodup
  kept := by
    rintro before later rfl e he s hs
    have h := orderly_after before
    have hunder : Under (fun r => r = e.2 ∨ r = executedRecord e.2) (empty.after before) e.1 := by
      refine ⟨?_, fun r hr => .inl ?_⟩
      · obtain ⟨k, hk, harn⟩ := h.coherent.arn e he
        exact ⟨_, _, k, hk, harn⟩
      · have hfound := h.coherent.changeSet?_eq_some_iff.2 hr
        rw [h.coherent.changeSet?_eq_some_iff.2 he] at hfound
        exact (Option.some.inj hfound).symm
    rw [after_append] at hs
    refine (hunder.after ?_ later).only s hs
    rintro r (rfl | rfl)
    · exact .inr rfl
    · exact .inr rfl
  gone := by
    rintro before later rfl id hid habsent e he rfl
    have hunder : Under (fun _ => False) (empty.after before) e.1 :=
      ⟨(orderly_after before).numbered _ hid, fun s hs => habsent (e.1, s) hs rfl⟩
    rw [after_append] at he
    exact (hunder.after (fun _ h => h) later).only e.2 he
  apart := (orderly_after session).apart
  founded := (orderly_after session).founded

/-- Every session leaves the cloud in order, and in every cloud a call that fails leaves nothing but
its entry in the log. -/
theorem sessions_in_order_and_failures_atomic :
    (∀ session, InOrder session) ∧
    ∀ (c : MemoryCloud) (call : ServiceCall) (e : CloudError), (call.act c).1 = .error e →
      (call.act c).2 = { c with calls := c.calls ++ [call.logged] } :=
  ⟨inOrder, fun _ _ _ h => act_of_error h⟩

namespace Sample

def revised (name template : String) : ChangeSetRequest :=
  ⟨"eu-north-1", "app", name, .body template, [], []⟩

/-- A stack is made, an update of it fails and is made again. -/
def session : List Incident := [
  .call (.createStack (revised "first" "{}")),
  .call (.executeChangeSet "eu-north-1" "app" ⟨"first", none⟩),
  .fail .updateStack "Throttling",
  .call (.updateStack (revised "second" "[]")),
  .heal,
  .call (.updateStack (revised "second" "[]"))]

end Sample

theorem sessions_in_order_and_failures_atomic_throttled :
    InOrder Sample.session ∧
      empty.given Sample.session =
        [changeSetArn "eu-north-1" "first" 1, changeSetArn "eu-north-1" "second" 2] ∧
      ((empty.breakOperation .updateStack "Throttling").meet
          (.call (.updateStack (Sample.revised "second" "[]")))).calls =
        [⟨.updateStack, "app", some "second"⟩] := by
  have hatomic := sessions_in_order_and_failures_atomic.2
    (empty.breakOperation .updateStack "Throttling")
    (.updateStack (Sample.revised "second" "[]")) (.api "Throttling") rfl
  exact ⟨sessions_in_order_and_failures_atomic.1 Sample.session, by decide +kernel,
    congrArg MemoryCloud.calls hatomic⟩

end MemoryCloud

end StackSync
