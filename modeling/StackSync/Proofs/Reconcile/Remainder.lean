import StackSync.Proofs.Reconcile.Loading
import StackSync.Proofs.Reconcile.Readiness
import StackSync.Proofs.Reconcile.Departure

/-!
# What a deleted object leaves behind

An object is released once the stack it names is gone. It names a stack by region and name, and both
may have been edited: a stack that was made under an earlier spec is not looked for any more,
neither when the spec changes nor when the object is deleted.

The history says what that comes to. `Standing` goes through the rounds and keeps the stacks that
one has made and no later one has cleared. This is what the cloud has (`Inventory`), and there are
no change sets besides; no status and no name of a change set matters for it. So at the release
nothing is left of the stack that the object names, and of the others exactly what is still
standing.
-/

namespace StackSync

open Program MemoryCloud

/-- The rounds so far, the latest first, have made the stack and not cleared it since. -/
def Standing : List Visit → StackKey → Prop
  | [], _ => False
  | v :: rest, key =>
    match v.change? with
    | some .made => key = v.key ∨ Standing rest key
    | some (.cleared cleared) => key ≠ cleared ∧ Standing rest key
    | _ => Standing rest key

section

variable {v : Visit} {hist : List Visit} {cleared key : StackKey}

theorem standing_made (h : v.change? = some .made) :
    Standing (v :: hist) key ↔ key = v.key ∨ Standing hist key := by
  rw [Standing, h]

theorem standing_cleared (h : v.change? = some (.cleared cleared)) :
    Standing (v :: hist) key ↔ key ≠ cleared ∧ Standing hist key := by
  rw [Standing, h]

theorem standing_cons (h : v.change? = none ∨ ∃ executed, v.change? = some (.executed executed)) :
    Standing (v :: hist) key ↔ Standing hist key := by
  rcases h with h | ⟨executed, h⟩
  · rw [Standing, h]
  · rw [Standing, h]

/-- What stands was made for a spec that one of the rounds has been run for. -/
theorem exists_visit_of_standing (h : Standing hist key) : ∃ w ∈ hist, w.key = key := by
  induction hist with
  | nil => exact h.elim
  | cons v rest ih =>
    have hrest : Standing rest key → ∃ w ∈ v :: rest, w.key = key := by
      intro hstanding
      obtain ⟨w, hw, hkey⟩ := ih hstanding
      exact ⟨w, List.mem_cons_of_mem v hw, hkey⟩
    cases hchange : v.change? with
    | none => exact hrest ((standing_cons (.inl hchange)).1 h)
    | some change =>
      cases change with
      | executed k => exact hrest ((standing_cons (.inr ⟨k, hchange⟩)).1 h)
      | cleared k => exact hrest ((standing_cleared hchange).1 h).2
      | made =>
        rcases (standing_made hchange).1 h with rfl | hstanding
        · exact ⟨v, List.mem_cons_self, rfl⟩
        · exact hrest hstanding

end

/-! ## The inventory -/

/-- The cloud has these stacks, none is only remembered as deleted, and every change set belongs to
one. -/
structure Inventory (standing : StackKey → Prop) (c : MemoryCloud) : Prop where
  extant : ∀ key, (c.stack? key).isSome = true ↔ standing key
  present : ∀ key s, c.stack? key = some s → s.status ≠ "DELETE_COMPLETE"
  founded : Founded c

namespace Inventory

variable {standing standing' : StackKey → Prop} {c c' : MemoryCloud} {key : StackKey}

theorem empty (hrecords : c.records = []) (hsets : c.changeSets = []) :
    Inventory (fun _ => False) c := by
  have hstack := records_eq_nil_iff.1 hrecords
  refine ⟨fun key => ?_, fun key s hs => ?_, fun e he => ?_⟩
  · rw [hstack, Option.isSome_none]
    exact ⟨Bool.noConfusion, False.elim⟩
  · rw [hstack] at hs
    cases hs
  · rw [hsets] at he
    cases he

theorem congr (h : Inventory standing c) (hiff : ∀ key, standing' key ↔ standing key) :
    Inventory standing' c :=
  ⟨fun key => (h.extant key).trans (hiff key).symm, h.present, h.founded⟩

theorem of_sublist (h : Inventory standing c) (hrecords : c'.records = c.records)
    (hsets : c'.changeSets.Sublist c.changeSets) : Inventory standing c' := by
  refine ⟨fun key => ?_, fun key s hs => ?_, h.founded.of_sublist hrecords hsets⟩
  · rw [stack?_congr hrecords]
    exact h.extant key
  · rw [stack?_congr hrecords] at hs
    exact h.present key s hs

theorem sameStore (h : Inventory standing c) (hs : SameStore c c') : Inventory standing c' :=
  h.of_sublist hs.records (hs.changeSets ▸ List.Sublist.refl _)

theorem putRecord (h : Inventory standing c) (key : StackKey) {s : StackRecord}
    (hpresent : s.status ≠ "DELETE_COMPLETE") :
    Inventory (fun k => k = key ∨ standing k) (c.putRecord key s) := by
  refine ⟨fun k => ?_, fun k s' hs' => ?_, h.founded.putRecord key s⟩
  · rw [stack?_putRecord]
    split
    · next hk => exact ⟨fun _ => .inl hk, fun _ => rfl⟩
    · next hk => rw [h.extant, or_iff_right hk]
  · rw [stack?_putRecord] at hs'
    split at hs'
    · rw [← Option.some.inj hs']
      exact hpresent
    · exact h.present k s' hs'

theorem eraseStack (h : Inventory standing c) (key : StackKey) :
    Inventory (fun k => k ≠ key ∧ standing k) (c.eraseStack key) := by
  refine ⟨fun k => ?_, fun k s hs => ?_, h.founded.eraseStack key⟩
  · rw [stack?_eraseStack]
    split
    · next hk => simp [hk]
    · next hk => rw [h.extant, and_iff_right hk]
  · rw [stack?_eraseStack] at hs
    split at hs
    · cases hs
    · exact h.present k s hs

theorem addChangeSet (h : Inventory standing c) {s : ChangeSetRecord}
    (hstack : standing (s.region, s.stack)) : Inventory standing (c.addChangeSet s).2 :=
  ⟨h.extant, h.present, h.founded.addChangeSet ((h.extant _).2 hstack)⟩

theorem execute (h : Inventory standing c) (key : StackKey) (id : String) (s : ChangeSetRecord) :
    Inventory standing (c.execute key id s) := by
  have hdeployed : (deployed s).status ≠ "DELETE_COMPLETE" := by
    unfold deployed
    cases s.isCreate
    · exact show "UPDATE_COMPLETE" ≠ "DELETE_COMPLETE" by simp
    · exact show "CREATE_COMPLETE" ≠ "DELETE_COMPLETE" by simp
  refine ⟨fun k => ?_, fun k s' hs' => ?_, h.founded.execute key id s⟩
  · rw [stack?_execute]
    split
    · next hk => rw [Option.isSome_map, h.extant, hk]
    · exact h.extant k
  · rw [stack?_execute] at hs'
    split at hs'
    · obtain ⟨-, -, rfl⟩ := Option.map_eq_some_iff.1 hs'
      exact hdeployed
    · exact h.present k s' hs'

/-- Replacing the record of a stack that is there. -/
theorem replaceRecord (h : Inventory standing c) (hkey : standing key) {s : StackRecord}
    (hpresent : s.status ≠ "DELETE_COMPLETE") : Inventory standing (c.putRecord key s) :=
  (h.putRecord key hpresent).congr fun _ => (or_iff_right_of_imp fun heq => heq ▸ hkey).symm

theorem standing_of_stack? (h : Inventory standing c) {s : StackRecord}
    (hs : c.stack? key = some s) : standing key := by
  rw [← h.extant, hs]
  rfl

theorem stack?_eq_none (h : Inventory standing c) (hnot : ¬ standing key) :
    c.stack? key = none := by
  rw [← h.extant, Option.not_isSome_iff_eq_none] at hnot
  exact hnot

theorem changeSetsOf_eq_nil (h : Inventory standing c) (hnot : ¬ standing key) :
    c.changeSetsOf key = [] := by
  refine List.filter_eq_nil_iff.2 fun e he hkey => hnot ?_
  rw [← show (e.2.region, e.2.stack) = key from beq_iff_eq.1 hkey, ← h.extant]
  exact h.founded e he

theorem eq_nil (h : Inventory standing c) (hnone : ∀ key, ¬ standing key) :
    c.records = [] ∧ c.changeSets = [] := by
  refine ⟨records_eq_nil_iff.2 fun key => h.stack?_eq_none (hnone key), ?_⟩
  exact List.eq_nil_iff_forall_not_mem.2 fun e he => hnone _ ((h.extant _).1 (h.founded e he))

end Inventory

/-! ## Rounds -/

/-- A round keeps the inventory of its history. -/
theorem Inventory.round {hist : List Visit} {v : Visit} {c c' : MemoryCloud}
    (h : Inventory (Standing hist) c) (hvalid : v.Valid c c') :
    Inventory (Standing (v :: hist)) c' := by
  cases hvalid.upshot with
  | quiet hchange hs _ => exact (h.sameStore hs).congr fun _ => standing_cons (.inl hchange)
  | cleared hchange hs _ =>
    exact ((h.eraseStack v.key).sameStore hs).congr fun _ => standing_cleared hchange
  | @pursued revision body reference base a st hloaded heffect _ _ _ =>
    generalize ht : v.operator.targetOf v.object revision body = t at heffect
    have hkey : t.key = v.key := by rw [← ht]; rfl
    have hremote : v.change? = StackSync.change? (remote v.exchanges) := Visit.change?_of_remote rfl
    cases heffect with
    | noted hchange hs _ _ =>
      exact (h.sameStore hs).congr fun _ => standing_cons (.inl (hremote.trans hchange))
    | upToDate hchange _ _ hs =>
      exact (h.sameStore hs).congr fun _ => standing_cons (.inl (hremote.trans hchange))
    | dropped hchange _ _ _ hs =>
      have hdropped : Inventory (Standing hist) (c.eraseChangeSet reference) :=
        h.of_sublist rfl List.filter_sublist
      exact (hdropped.sameStore hs).congr fun _ => standing_cons (.inl (hremote.trans hchange))
    | executed hchange _ _ hs =>
      exact ((h.execute t.key reference _).sameStore hs).congr fun _ =>
        standing_cons (.inr ⟨t.key, hremote.trans hchange⟩)
    | created hchange _ _ _ hs =>
      have hput := h.putRecord t.key (s := reservedStack) nofun
      have hmade := hput.addChangeSet (s := recordOf (t.request t.source) true) (.inl rfl)
      refine (hmade.sameStore hs).congr fun k => ?_
      rw [hkey]
      exact standing_made (hremote.trans hchange)
    | @updated stack _ hchange hstack _ _ _ hs =>
      have hstanding : Standing hist t.key := h.standing_of_stack? hstack
      have hmade := h.addChangeSet (s := updateRecord (t.request t.source) stack) (by
        rw [updateRecord_region, updateRecord_stack]
        exact hstanding)
      refine (hmade.sameStore hs).congr fun k => ?_
      rw [standing_made (hremote.trans hchange), ← hkey]
      exact or_iff_right_of_imp fun heq => heq ▸ hstanding
    | @resumed stack _ hchange hstack _ hs =>
      have hresumed : Inventory (Standing hist) (c.putRecord t.key (rolledBack stack)) :=
        h.replaceRecord (h.standing_of_stack? hstack)
          (show "UPDATE_ROLLBACK_COMPLETE" ≠ "DELETE_COMPLETE" by simp)
      exact (hresumed.sameStore hs).congr fun _ => standing_cons (.inl (hremote.trans hchange))
    | cleared hchange _ _ hs =>
      exact ((h.eraseStack t.key).sameStore hs).congr fun _ =>
        standing_cleared (hremote.trans hchange)

/-- The whole life of an object. There is nothing in the cloud at first, and nobody else changes
anything there. An edit of the spec raises the generation; the object keeps its name. -/
def lifelong (s : OperatorSettings) : Plan where
  starts _ c := c.records = [] ∧ c.changeSets = []
  allows v := v.operator.settings = s
  between m c m' c' :=
    m'.name = m.name ∧ m'.ns = m.ns ∧
    ((m'.spec = m.spec ∧ m'.generation = m.generation) ∨ m.generation < m'.generation) ∧
    c'.records = c.records ∧ c'.changeSets = c.changeSets ∧ c'.issued = c.issued

theorem inventory_of_course {s : OperatorSettings} {hist : List Visit} {m : Manifest}
    {c : MemoryCloud} (course : Course (lifelong s) hist m c) : Inventory (Standing hist) c := by
  refine course.invariant (I := fun hist _ c => Inventory (Standing hist) c) ?_ ?_ ?_
  · rintro m c ⟨hrecords, hsets⟩
    exact .empty hrecords hsets
  · intro hist v c c' _ hvalid h
    exact h.round hvalid
  · rintro hist m c m' c' ⟨-, -, -, hrecords, hsets, -⟩ h
    exact h.of_sublist hrecords (hsets ▸ List.Sublist.refl _)

/-! ## The release -/

namespace Operator

variable {o : Operator} {m : Manifest} {time : String} {es : List Exchange} {out : Outcome}

/-- An object that is deleted together with its stack is released after one look, at a stack that is
gone. -/
theorem gone_of_released (h : Ran (o.reconcile time m) es out) (hdeleting : m.isDeleting = true)
    (hactive : m.spec.suspend = false) (hdestroys : m.spec.destroyStackOnDeletion = true)
    (hremove : out.finalizer = .remove) : ∃ found, isGone found = true ∧ remote es =
      [⟨.describeStack (m.stackKey o.settings).1 (m.stackKey o.settings).2, .ok found⟩] := by
  cases hheld : m.hasFinalizer with
  | false =>
    have hduty : m.lifecycleFacts.choice.duty = none := by
      simp [Manifest.lifecycleFacts, LifecycleFacts.choice, hdeleting, hheld]
    unfold reconcile at h
    rw [hduty] at h
    obtain ⟨-, rfl⟩ := ran_pure_iff.1 h
    cases hremove
  | true =>
    exact (departure_of_reconcile ⟨hdeleting, hheld, hactive, hdestroys⟩ h).gone hremove

end Operator

/-- What lets the object go is that nothing stands any more where it says its stack is. -/
theorem Inventory.released {standing : StackKey → Prop} {v : Visit} {c c' : MemoryCloud}
    (h : Inventory standing c) (valid : v.Valid c c') (hdeleting : v.object.isDeleting = true)
    (hactive : v.object.spec.suspend = false)
    (hdestroys : v.object.spec.destroyStackOnDeletion = true)
    (hremove : v.outcome.finalizer = .remove) : Inventory standing c' ∧ ¬ standing v.key := by
  obtain ⟨found, hgone, hremote⟩ :=
    Operator.gone_of_released valid.ran hdeleting hactive hdestroys hremove
  have hreplay := valid.replay.remote
  rw [hremote] at hreplay
  obtain ⟨c₁, hanswer, hrest⟩ := replay_cons_iff.1 hreplay
  obtain rfl := replay_nil_iff.1 hrest
  obtain ⟨hs, hfound⟩ := describeStack_law hanswer
  refine ⟨h.sameStore hs, fun hstanding => ?_⟩
  obtain ⟨record, hrecord⟩ := Option.isSome_iff_exists.1 ((h.extant v.key).2 hstanding)
  have hdescribed : found = some (stackDescription v.key.1 v.key.2 record) :=
    (hfound found rfl).trans (congrArg (Option.map _) hrecord)
  subst hdescribed
  exact h.present v.key record hrecord (beq_iff_eq.1 hgone)

/-- When an object that is deleted together with its stack is released, the stack it names is gone
with all its change sets. Of the other stacks it has had, under other names or in other regions,
those are left that are still standing, and change sets only with them; so nothing is left at all if
it never had another one. -/
theorem remainder_of_release {s : OperatorSettings} {hist : List Visit} {v : Visit}
    {c c' : MemoryCloud} (course : Course (lifelong s) hist v.object c) (valid : v.Valid c c')
    (deleting : v.object.isDeleting = true) (active : v.object.spec.suspend = false)
    (destroys : v.object.spec.destroyStackOnDeletion = true)
    (released : v.outcome.finalizer = .remove) :
    c'.stack? v.key = none ∧ c'.changeSetsOf v.key = [] ∧
      (∀ key ≠ v.key, (c'.stack? key).isSome = true ↔ Standing hist key) ∧
      (∀ e ∈ c'.changeSets, (c'.stack? (e.2.region, e.2.stack)).isSome = true) ∧
      ((∀ w ∈ hist, w.key = v.key) → c'.records = [] ∧ c'.changeSets = []) := by
  obtain ⟨hleft, hnot⟩ :=
    (inventory_of_course course).released valid deleting active destroys released
  refine ⟨hleft.stack?_eq_none hnot, hleft.changeSetsOf_eq_nil hnot, fun key _ => hleft.extant key,
    hleft.founded, fun hsame => hleft.eq_nil fun key hstanding => ?_⟩
  obtain ⟨w, hw, rfl⟩ := exists_visit_of_standing hstanding
  exact hnot (hsame w hw ▸ hstanding)

/-! ## An object under two names

A round has made the stack of the sample object. Then the object is deleted, as it is or with
another name in its spec. -/

/-- A teardown loads no template. -/
theorem Operator.not_loaded_of_destroyStack {o : Operator} {m : Manifest} {time : String}
    {es : List Exchange} {out : Outcome} (hduty : m.lifecycleFacts.choice.duty = some .destroyStack)
    (h : Ran (o.reconcile time m) es out) (revision body : String) :
    ¬ o.Loaded m es revision body := by
  intro hloaded
  have htorn : o.reconcile time m = o.tearDown time m := by
    unfold reconcile
    rw [hduty]
  exact hloaded.countP_ne_zero ((tearDown_looksUpNone o time m).countP_eq_zero (htorn ▸ h))

namespace Sample

namespace Stage

def farewell (x : Stage) : Program Outcome :=
  operator.reconcile "2024-05-01T00:01:00+00:00" x.object

/-- The next round, once the object is deleted. -/
def parting (x : Stage) : Visit where
  operator := operator
  time := "2024-05-01T00:01:00+00:00"
  object := x.object
  exchanges := exchanges World.answer x.farewell x.world
  outcome := (run World.answer x.farewell x.world).1
  loaded := none
  written := true

def parted (x : Stage) : Stage where
  visits := x.parting :: x.visits
  object := x.parting.after
  world := (run World.answer x.farewell x.world).2

theorem parting_valid {x : Stage} (hduty : x.object.lifecycleFacts.choice.duty = some .destroyStack)
    (hoverrides : x.world.overrides = .none) :
    x.parting.Valid x.world.cloud x.parted.world.cloud ∧ x.parted.world.overrides = .none := by
  obtain ⟨hreplay, hnone⟩ := replay_of_run x.farewell x.world hoverrides
  have hran := ran_run World.answer x.farewell x.world
  refine ⟨⟨hran, hreplay, fun revision body => ?_⟩, hnone⟩
  constructor
  · exact fun hloaded => absurd hloaded (Operator.not_loaded_of_destroyStack hduty hran _ _)
  · intro hnothing
    cases hnothing

end Stage

/-- The object is deleted with its stack, under this name. -/
def condemned (stackName : String) : Stage where
  visits := created.visits
  object :=
    { created.object with
      metadata := { created.object.metadata with generation := some 2, deleting := true }
      spec := { created.object.spec with
        stackName := stackName
        destroyStackOnDeletion := true } }
  world := created.world

theorem condemned_course (stackName : String) :
    Course (lifelong operator.settings) (condemned stackName).visits (condemned stackName).object
      (condemned stackName).world.cloud := by
  have hgeneration : (first.visit "a" true).after.generation < 2 := rfl
  exact .round (.start ⟨rfl, rfl⟩) rfl first_reached.valid.1
    ⟨rfl, rfl, .inr hgeneration, rfl, rfl, rfl⟩

theorem condemned_duty (stackName : String) :
    (condemned stackName).object.lifecycleFacts.choice.duty = some .destroyStack := by
  rfl

end Sample

open Sample in
/-- Deleted under the name it has always had, the object is released by the second round, and
nothing is left of the stack that was there. -/
theorem remainder_of_release_sameName :
    (condemned "app-stack").world.cloud.records ≠ [] ∧
      (condemned "app-stack").parted.parting.outcome.finalizer = .remove ∧
      (condemned "app-stack").parted.parted.world.cloud.records = [] ∧
      (condemned "app-stack").parted.parted.world.cloud.changeSets = [] := by
  have hfirst := Stage.parting_valid (condemned_duty "app-stack") created_reached.overrides
  have hduty : (condemned "app-stack").parted.object.lifecycleFacts.choice.duty =
      some .destroyStack := rfl
  have hthere : (condemned "app-stack").world.cloud.records ≠ [] := nofun
  have hremove : (condemned "app-stack").parted.parting.outcome.finalizer = .remove := rfl
  have hsame : ∀ w ∈ (condemned "app-stack").parted.visits,
      w.key = (condemned "app-stack").parted.parting.key := by decide +kernel
  have course : Course (lifelong operator.settings) (condemned "app-stack").parted.visits
      (condemned "app-stack").parted.parting.object (condemned "app-stack").parted.world.cloud :=
    .round (condemned_course "app-stack") rfl hfirst.1 ⟨rfl, rfl, .inl ⟨rfl, rfl⟩, rfl, rfl, rfl⟩
  obtain ⟨-, -, -, -, hnothing⟩ := remainder_of_release course
    (Stage.parting_valid hduty hfirst.2).1 rfl rfl rfl hremove
  exact ⟨hthere, hremove, hnothing hsame⟩

open Sample in
/-- Deleted under another name, the object is released by the first round, and the stack stays. -/
theorem not_always_nothing_left : ¬ ∀ (s : OperatorSettings) (hist : List Visit) (v : Visit)
    (c c' : MemoryCloud), Course (lifelong s) hist v.object c → (lifelong s).allows v →
    v.Valid c c' → v.object.isDeleting = true → v.object.spec.suspend = false →
    v.object.spec.destroyStackOnDeletion = true → v.outcome.finalizer = .remove →
    c'.records = [] ∧ c'.changeSets = [] := by
  intro always
  have hremove : (condemned "other-stack").parting.outcome.finalizer = .remove := rfl
  have hleft : (condemned "other-stack").parted.world.cloud.records ≠ [] := nofun
  have hvalid := Stage.parting_valid (condemned_duty "other-stack") created_reached.overrides
  exact hleft (always operator.settings _ (condemned "other-stack").parting _ _
    (condemned_course "other-stack") rfl hvalid.1 rfl rfl rfl hremove).1

end StackSync
