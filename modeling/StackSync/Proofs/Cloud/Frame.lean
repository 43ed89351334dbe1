import StackSync.Proofs.Cloud.Replay

/-!
# What a call leaves alone

A stack is known by its region and name, and every operation of the cloud in memory is about one of
them. But an ARN is looked up without asking whose it is, so an operation on a change set stays
within its stack only if the ARN it goes by belongs to that stack. `Owned` says so, now and for as
long as the cloud lives: the number in an ARN is never given out again, so what is under it later is
what was under it before, or nothing (`Owned.answers`). With that, whatever the cloud answers leaves
all the other stacks as they were (`frame_of_answers`).
-/

namespace StackSync.MemoryCloud

variable {c c' c'' : MemoryCloud} {key : StackKey}

/-- The stack and its change sets are the same in both clouds. -/
structure SameAt (key : StackKey) (c c' : MemoryCloud) : Prop where
  stack? : c'.stack? key = c.stack? key
  changeSetsOf : c'.changeSetsOf key = c.changeSetsOf key

theorem SameAt.refl (key : StackKey) (c : MemoryCloud) : SameAt key c c := ⟨rfl, rfl⟩

theorem SameAt.trans (h : SameAt key c c') (h' : SameAt key c' c'') : SameAt key c c'' :=
  ⟨h'.stack?.trans h.stack?, h'.changeSetsOf.trans h.changeSetsOf⟩

/-- All the stacks but one are the same. -/
def Frame (key : StackKey) (c c' : MemoryCloud) : Prop := ∀ other ≠ key, SameAt other c c'

theorem SameStore.changeSetsOf (h : SameStore c c') (key : StackKey) :
    c'.changeSetsOf key = c.changeSetsOf key := by
  rw [MemoryCloud.changeSetsOf, MemoryCloud.changeSetsOf, h.changeSets]

theorem not_belongsTo_of_ne {s : ChangeSetRecord} {other : StackKey} (h : s.belongsTo key = true)
    (hne : other ≠ key) : s.belongsTo other = false := by
  rw [ChangeSetRecord.belongsTo, beq_iff_eq] at h
  rw [ChangeSetRecord.belongsTo, h, beq_eq_false_iff_ne]
  exact hne.symm

/-- Changing only what is filtered out does not show. -/
theorem filter_map_of_fixed {α : Type} {l : List α} {p : α → Bool} {g : α → α}
    (hp : ∀ a ∈ l, p (g a) = p a) (hg : ∀ a ∈ l, p a = true → g a = a) :
    (l.map g).filter p = l.filter p := by
  have hsame : l.filter (p ∘ g) = l.filter p := List.filter_congr hp
  have hfixed : ∀ a ∈ l.filter p, g a = id a := by
    intro a ha
    obtain ⟨hmem, hpa⟩ := List.mem_filter.1 ha
    exact hg a hmem hpa
  rw [List.filter_map, hsame, List.map_congr_left hfixed, List.map_id]

namespace Frame

theorem of_sameStore (h : SameStore c c') : Frame key c c' :=
  fun other _ => ⟨h.stack? other, h.changeSetsOf other⟩

theorem trans (h : Frame key c c') (h' : Frame key c' c'') : Frame key c c'' :=
  fun other hother => (h other hother).trans (h' other hother)

theorem putRecord (s : StackRecord) : Frame key c (c.putRecord key s) := by
  intro other hother
  refine ⟨?_, rfl⟩
  rw [stack?_putRecord, if_neg hother]

theorem eraseStack : Frame key c (c.eraseStack key) := by
  intro other hother
  refine ⟨by rw [stack?_eraseStack, if_neg hother], ?_⟩
  show (c.changeSets.filter fun e => !e.2.belongsTo key).filter (fun e => e.2.belongsTo other) = _
  rw [List.filter_filter]
  refine List.filter_congr fun e _ => ?_
  obtain ⟨id, s⟩ := e
  show (s.belongsTo other && !s.belongsTo key) = s.belongsTo other
  cases hkey : s.belongsTo key with
  | true => rw [not_belongsTo_of_ne hkey hother, Bool.false_and]
  | false => rw [Bool.not_false, Bool.and_true]

theorem addChangeSet {s : ChangeSetRecord} (h : s.belongsTo key = true) :
    Frame key c (c.addChangeSet s).2 := by
  intro other hother
  refine ⟨rfl, ?_⟩
  show (c.changeSets ++ [(changeSetArn s.region s.name (c.issued + 1), s)]).filter
    (fun e => e.2.belongsTo other) = _
  rw [List.filter_append, List.filter_cons_of_neg (by simp [not_belongsTo_of_ne h hother]),
    List.filter_nil, List.append_nil]
  rfl

end Frame

/-! ## What stays true of an ARN -/

/-- The ARN has been given out, and a change set that is found under it is like this. -/
structure Under (P : ChangeSetRecord → Prop) (c : MemoryCloud) (id : String) : Prop where
  issued : ∃ region name, ∃ k ≤ c.issued, id = changeSetArn region name k
  only : ∀ s, (id, s) ∈ c.changeSets → P s

namespace Under

variable {P : ChangeSetRecord → Prop} {id : String}

theorem of_sublist (h : Under P c id) (hsets : c'.changeSets.Sublist c.changeSets)
    (hissued : c'.issued = c.issued) : Under P c' id := by
  refine ⟨?_, fun s hs => h.only s (hsets.subset hs)⟩
  rw [hissued]
  exact h.issued

theorem sameStore (h : Under P c id) (hs : SameStore c c') : Under P c' id :=
  h.of_sublist (hs.changeSets ▸ List.Sublist.refl _) hs.issued

/-- The next ARN is another one. -/
theorem addChangeSet (h : Under P c id) (s : ChangeSetRecord) :
    Under P (c.addChangeSet s).2 id := by
  obtain ⟨region, name, k, hk, hid⟩ := h.issued
  refine ⟨⟨region, name, k, Nat.le_succ_of_le hk, hid⟩, fun s' hs' => ?_⟩
  rcases List.mem_append.1 hs' with hs' | hs'
  · exact h.only s' hs'
  · obtain ⟨harn, -⟩ := Prod.mk.inj (List.mem_singleton.1 hs')
    have hindex := index_eq_of_changeSetArn_eq (hid.symm.trans harn)
    omega

theorem execute (h : Under P c id) (hP : ∀ s, P s → P (executedRecord s)) (key : StackKey)
    (id' : String) (s : ChangeSetRecord) : Under P (c.execute key id' s) id := by
  refine ⟨?_, fun s' hs' => ?_⟩
  · rw [issued_execute]
    exact h.issued
  · obtain ⟨r, hmem, hrecord⟩ := exists_of_mem_execute hs'
    dsimp only at hrecord
    rw [hrecord]
    split
    · exact hP r (h.only r hmem)
    · exact h.only r hmem

theorem edits (h : Under P c id) (hP : ∀ s, P s → P (executedRecord s)) {r : Request}
    (hedits : c.Edits r c') : Under P c' id := by
  cases hedits with
  | nothing => exact h
  | create r =>
    have hput : Under P (c.putRecord (r.region, r.stackName) reservedStack) id :=
      h.of_sublist (List.Sublist.refl _) rfl
    exact hput.addChangeSet _
  | update => exact h.addChangeSet _
  | erase => exact h.of_sublist List.filter_sublist rfl
  | resume => exact h.of_sublist (List.Sublist.refl _) rfl
  | execute => exact h.execute hP _ _ _
  | drop => exact h.of_sublist List.filter_sublist rfl

/-- Whatever the cloud answers, to whomever, what execution keeps stays true of an ARN. -/
theorem answers (h : Under P c id) (hP : ∀ s, P s → P (executedRecord s)) {r : Request}
    {answer : r.Answer} (hanswer : c.Answers r answer c') : Under P c' id := by
  obtain ⟨edited, hedits, hs⟩ := hanswer.edits
  exact (h.edits hP hedits).sameStore hs

end Under

/-! ## ARNs of a stack -/

/-- The ARN has been given out, and a change set that is found under it is one of this stack. -/
structure Owned (c : MemoryCloud) (key : StackKey) (id : String) : Prop where
  issued : ∃ region name, ∃ k ≤ c.issued, id = changeSetArn region name k
  only : ∀ s, (id, s) ∈ c.changeSets → s.belongsTo key = true

namespace Owned

variable {id : String}

theorem iff_under : Owned c key id ↔ Under (·.belongsTo key = true) c id :=
  ⟨fun h => ⟨h.issued, h.only⟩, fun h => ⟨h.issued, h.only⟩⟩

theorem of_sublist (h : Owned c key id) (hsets : c'.changeSets.Sublist c.changeSets)
    (hissued : c'.issued = c.issued) : Owned c' key id :=
  iff_under.2 ((iff_under.1 h).of_sublist hsets hissued)

theorem sameStore (h : Owned c key id) (hs : SameStore c c') : Owned c' key id :=
  iff_under.2 ((iff_under.1 h).sameStore hs)

/-- It belongs to the stack it has been made for. -/
theorem of_addChangeSet (h : Coherent c) {s : ChangeSetRecord} (hkey : s.belongsTo key = true) :
    Owned (c.addChangeSet s).2 key (changeSetArn s.region s.name (c.issued + 1)) := by
  refine ⟨⟨s.region, s.name, c.issued + 1, Nat.le_refl _, rfl⟩, fun s' hs' => ?_⟩
  rcases List.mem_append.1 hs' with hs' | hs'
  · exact absurd rfl (h.fresh s.region s.name _ hs')
  · rw [(Prod.mk.inj (List.mem_singleton.1 hs')).2]
    exact hkey

theorem of_mem (h : Coherent c) {s : ChangeSetRecord} (hs : (id, s) ∈ c.changeSets)
    (hkey : s.belongsTo key = true) : Owned c key id := by
  obtain ⟨k, hk, harn⟩ := h.arn _ hs
  refine ⟨⟨s.region, s.name, k, hk, harn⟩, fun s' hs' => ?_⟩
  have hsame := (h.changeSet?_eq_some_iff.2 hs).symm.trans (h.changeSet?_eq_some_iff.2 hs')
  rw [← Option.some.inj hsame]
  exact hkey

/-- Whatever the cloud answers, to whomever, an ARN stays with its stack. -/
theorem answers (h : Owned c key id) {r : Request} {answer : r.Answer}
    (hanswer : c.Answers r answer c') : Owned c' key id :=
  iff_under.2 ((iff_under.1 h).answers (fun _ hkey => hkey) hanswer)

/-- A handle finds nothing but change sets of the stack, if its ARN is one of the stack. -/
theorem of_find? (h : Coherent c) {handle : ChangeSetHandle} {s : ChangeSetRecord}
    (howned : ∀ i ∈ handle.id, Owned c key i) (hfind : c.find? key handle = some (id, s)) :
    Owned c key id := by
  obtain ⟨hmem, hid | ⟨-, hkey, -⟩⟩ := h.mem_of_find? hfind
  · exact howned id hid
  · exact of_mem h hmem hkey

theorem of_idOf? (h : Coherent c) {handle : ChangeSetHandle}
    (howned : ∀ i ∈ handle.id, Owned c key i) (hid : c.idOf? key handle = some id) :
    Owned c key id := by
  cases hs : c.changeSet? id with
  | some s => exact of_find? h howned (by rw [find?, hid, Option.bind_some, hs, Option.map_some])
  | none =>
    unfold idOf? at hid
    split at hid
    · split at hid
      · next hsome =>
        obtain rfl := Option.some.inj hid
        rw [hs] at hsome
        cases hsome
      · cases hid
    · obtain ⟨e, hfirst, rfl⟩ := Option.map_eq_some_iff.1 hid
      rw [h.changeSet?_eq_some_iff.2 (List.mem_of_find?_eq_some hfirst)] at hs
      cases hs

end Owned

/-- What belongs to a stack in one cloud belongs to it in the other. -/
def KeepsOwners (c c' : MemoryCloud) : Prop := ∀ key id, Owned c key id → Owned c' key id

theorem KeepsOwners.of_changeSets_eq (hsets : c'.changeSets = c.changeSets)
    (hissued : c'.issued = c.issued) : KeepsOwners c c' :=
  fun _ _ howned => howned.of_sublist (hsets ▸ List.Sublist.refl _) hissued

theorem Answers.keepsOwners {r : Request} {answer : r.Answer} (h : c.Answers r answer c') :
    KeepsOwners c c' :=
  fun _ _ howned => howned.answers h

/-! ## Requests about a stack -/

namespace Frame

variable {id : String}

theorem updateChangeSet (h : Owned c key id) {f : ChangeSetRecord → ChangeSetRecord}
    (hkey : ∀ s other, (f s).belongsTo other = s.belongsTo other) :
    Frame key c (c.updateChangeSet id f) := by
  intro other hother
  refine ⟨rfl, filter_map_of_fixed ?_ ?_⟩
  · rintro ⟨i, s⟩ -
    dsimp only
    split
    · exact hkey s other
    · rfl
  · -- what is changed is not among the change sets of the other stack
    rintro ⟨i, s⟩ hmem hbelongs
    refine if_neg fun hi => ?_
    subst hi
    exact absurd hbelongs (by simp [not_belongsTo_of_ne (h.only s hmem) hother])

theorem eraseChangeSet (h : Owned c key id) : Frame key c (c.eraseChangeSet id) := by
  intro other hother
  refine ⟨rfl, ?_⟩
  show (c.changeSets.filter _).filter _ = c.changeSets.filter _
  rw [List.filter_filter]
  refine List.filter_congr ?_
  rintro ⟨i, s⟩ hmem
  show (s.belongsTo other && decide (i ≠ id)) = s.belongsTo other
  by_cases hi : i = id
  · subst hi
    rw [not_belongsTo_of_ne (h.only s hmem) hother, Bool.false_and]
  · rw [decide_eq_true hi, Bool.and_true]

theorem execute (h : Owned c key id) (s : ChangeSetRecord) : Frame key c (c.execute key id s) := by
  have hupdate : Frame key c (c.updateChangeSet id executedRecord) :=
    .updateChangeSet h fun _ _ => rfl
  unfold MemoryCloud.execute
  split
  · exact hupdate.trans (.putRecord _)
  · exact hupdate

end Frame

end StackSync.MemoryCloud

namespace StackSync

open MemoryCloud

variable {c c' : MemoryCloud} {key : StackKey}

/-- What the request may change is of this stack; an ARN it goes by has to be. -/
def Request.Within (c : MemoryCloud) (key : StackKey) : Request → Prop
  | .createStack r | .updateStack r => (r.region, r.stackName) = key
  | .deleteStack region name | .continueRollback region name => (region, name) = key
  | .executeChangeSet region name h | .deleteChangeSet region name h =>
    (region, name) = key ∧ ∀ id ∈ h.id, Owned c key id
  | _ => True

namespace MemoryCloud

theorem frame_of_edits (h : Coherent c) {r : Request} (hwithin : r.Within c key)
    (hedits : c.Edits r c') : Frame key c c' := by
  cases hedits with
  | nothing => exact .of_sameStore (.refl c)
  | create r =>
    have hkey : (r.region, r.stackName) = key := hwithin
    subst hkey
    exact (Frame.putRecord _).trans (.addChangeSet (beq_self_eq_true _))
  | update r s =>
    have hkey : (r.region, r.stackName) = key := hwithin
    subst hkey
    refine .addChangeSet ?_
    rw [ChangeSetRecord.belongsTo, updateRecord_region, updateRecord_stack, beq_self_eq_true]
  | erase region name =>
    have hkey : (region, name) = key := hwithin
    subst hkey
    exact .eraseStack
  | resume region name s =>
    have hkey : (region, name) = key := hwithin
    subst hkey
    exact .putRecord _
  | execute hfind =>
    obtain ⟨rfl, howned⟩ := hwithin
    exact .execute (.of_find? h howned hfind) _
  | drop hid =>
    obtain ⟨rfl, howned⟩ := hwithin
    exact .eraseChangeSet (.of_idOf? h howned hid)

/-- An answer leaves all the stacks alone that the request is not about. -/
theorem frame_of_answers (h : Coherent c) {r : Request} {answer : r.Answer}
    (hwithin : r.Within c key) (hanswer : c.Answers r answer c') : Frame key c c' := by
  obtain ⟨edited, hedits, hs⟩ := hanswer.edits
  exact (frame_of_edits h hwithin hedits).trans (.of_sameStore hs)

end MemoryCloud

end StackSync
