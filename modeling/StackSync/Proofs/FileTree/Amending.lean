import StackSync.FileTree.Edit
import StackSync.Proofs.Cloud.Store
import StackSync.Proofs.FileTree.Walk

/-!
# What edits leave alone

No edit takes a directory away, and none makes a link that it has not been given. So along any row of
edits directories stay directories, and the links that there are in the end are those of the
beginning and those that were put there. `Amends` says both of the trees before and after.
-/

namespace StackSync.FileTree

variable {t t' u : FileTree} {l : Location} {n : Node} {fresh : List UInt8 → Prop}

/-! ## Single nodes -/

theorem node?_insert (hl : l ≠ []) (other : Location) :
    (t.insert l n).node? other = if other = l then some n else t.node? other := by
  have hlookup : (t.insert l n).entries.lookup other =
      if other = l then some n else t.entries.lookup other :=
    MemoryCloud.lookup_cons_filter_ne t.entries l other n
  rw [node?, node?, hlookup]
  by_cases hnil : other = []
  · rw [if_pos hnil, if_pos hnil, if_neg (hnil ▸ Ne.symm hl)]
  · rw [if_neg hnil, if_neg hnil]

theorem node?_erase (hl : l ≠ []) (other : Location) :
    (t.erase l).node? other = if other = l then none else t.node? other := by
  have hlookup : (t.erase l).entries.lookup other =
      if other = l then none else t.entries.lookup other :=
    MemoryCloud.lookup_filter_ne t.entries l other
  rw [node?, node?, hlookup]
  by_cases hnil : other = []
  · rw [if_pos hnil, if_pos hnil, if_neg (hnil ▸ Ne.symm hl)]
  · rw [if_neg hnil, if_neg hnil]

/-- Puts a link where a file or a link may stand. -/
def relink (t : FileTree) (l : Location) (target : List UInt8) : Except FileFault FileTree :=
  match t.addLink l target with
  | .error .exists => do (← t.remove l).addLink l target
  | result => result

/-! ## Trees before and after -/

/-- Directories stay, and a link of the later tree was there before, or it is a fresh one. -/
structure Amends (t t' : FileTree) (fresh : List UInt8 → Prop) : Prop where
  directories : ∀ l, t.node? l = some .directory → t'.node? l = some .directory
  links : ∀ l target, t'.node? l = some (.link target) →
    fresh target ∨ ∃ l', t.node? l' = some (.link target)

namespace Amends

theorem refl (t : FileTree) (fresh : List UInt8 → Prop) : t.Amends t fresh :=
  ⟨fun _ h => h, fun l _ h => .inr ⟨l, h⟩⟩

theorem trans (h : t.Amends t' fresh) (h' : t'.Amends u fresh) : t.Amends u fresh where
  directories l hl := h'.directories l (h.directories l hl)
  links l target hl := by
    rcases h'.links l target hl with hfresh | ⟨l', hl'⟩
    · exact .inl hfresh
    · exact h.links l' target hl'

theorem insert (hfree : t.node? l = none) (hn : ∀ target, n = .link target → fresh target) :
    t.Amends (t.insert l n) fresh := by
  have hl : l ≠ [] := by
    rintro rfl
    cases hfree
  constructor
  · intro other hother
    rw [node?_insert hl, if_neg, hother]
    rintro rfl
    rw [hfree] at hother
    cases hother
  · intro other target hother
    rw [node?_insert hl] at hother
    split at hother
    · exact .inl (hn target (Option.some.inj hother))
    · exact .inr ⟨other, hother⟩

theorem erase (hl : t.node? l ≠ some .directory) : t.Amends (t.erase l) fresh := by
  have hne : l ≠ [] := by
    rintro rfl
    exact hl rfl
  constructor
  · intro other hother
    rw [node?_erase hne, if_neg, hother]
    rintro rfl
    exact hl hother
  · intro other target hother
    rw [node?_erase hne] at hother
    split at hother
    · cases hother
    · exact .inr ⟨other, hother⟩

/-! ## The edits -/

theorem add (h : t.add l n = .ok t') (hn : ∀ target, n = .link target → fresh target) :
    t.Amends t' fresh := by
  unfold FileTree.add at h
  cases hplace : t.place l with
  | error fault => simp [hplace, bind, Except.bind] at h
  | ok place =>
    simp only [hplace, bind, Except.bind] at h
    split at h
    · cases h
    · next hfree =>
      obtain rfl := Except.ok.inj h
      exact .insert (by simpa using hfree) hn

theorem addLink {target : List UInt8} (h : t.addLink l target = .ok t') (htarget : fresh target) :
    t.Amends t' fresh := by
  unfold FileTree.addLink at h
  split at h
  · cases h
  · split at h
    · cases h
    · exact .add h fun _ heq => Node.link.inj heq ▸ htarget

theorem remove (h : t.remove l = .ok t') : t.Amends t' fresh := by
  unfold FileTree.remove at h
  cases hplace : t.place l with
  | error fault => simp [hplace, bind, Except.bind] at h
  | ok place =>
    simp only [hplace, bind, Except.bind] at h
    split at h
    · cases h
    · cases h
    · next hfile hnode =>
      obtain rfl := Except.ok.inj h
      exact .erase fun hdirectory => hfile (Option.some.inj (hnode.symm.trans hdirectory))

theorem replace (h : t.replace l n = .ok t') (hn : ∀ target, n ≠ .link target) :
    t.Amends t' fresh := by
  have hadd : ∀ {u u' : FileTree}, u.add l n = .ok u' → u.Amends u' fresh :=
    fun hu => .add hu fun target heq => absurd heq (hn target)
  unfold FileTree.replace at h
  split at h
  · cases hremove : t.remove l with
    | error fault => simp [hremove, bind, Except.bind] at h
    | ok u =>
      simp only [hremove, bind, Except.bind] at h
      exact (remove hremove).trans (hadd h)
  · exact hadd h

theorem withDirectories (t : FileTree) (l : Location) (fresh : List UInt8 → Prop) :
    t.Amends (t.withDirectories l) fresh := by
  unfold FileTree.withDirectories
  generalize List.range l.length = steps
  induction steps generalizing t with
  | nil => exact .refl t fresh
  | cons i rest ih =>
    refine trans ?_ (ih _)
    dsimp only
    split
    · exact .refl t fresh
    · next hfree => exact .insert (by simpa using hfree) fun _ heq => by cases heq

theorem relink {target : List UInt8} (h : t.relink l target = .ok t') (htarget : fresh target) :
    t.Amends t' fresh := by
  unfold FileTree.relink at h
  split at h
  · cases hremove : t.remove l with
    | error fault => simp [hremove, bind, Except.bind] at h
    | ok u =>
      simp only [hremove, bind, Except.bind] at h
      exact (remove hremove).trans (addLink h htarget)
  · exact addLink h htarget

theorem addDirectory (h : t.addDirectory l = .ok t') : t.Amends t' fresh := by
  unfold FileTree.addDirectory at h
  split at h
  · split at h
    · split at h
      · obtain rfl := Except.ok.inj h
        exact .refl t fresh
      · cases h
    · cases h
  · exact .add h fun _ heq => by cases heq

theorem addName {source : Location} (h : t.addName source l = .ok t') : t.Amends t' fresh := by
  unfold FileTree.addName at h
  cases hnode : t.inspect source with
  | error fault => simp [hnode, bind, Except.bind] at h
  | ok n =>
    -- what is copied is a node of the tree
    have hn : ∃ place, t.node? place = some n := by
      unfold FileTree.inspect at hnode
      cases hplace : t.place source with
      | error fault => simp [hplace, bind, Except.bind] at hnode
      | ok place =>
        simp only [hplace, bind, Except.bind] at hnode
        split at hnode
        · next found hfound =>
          obtain rfl := Except.ok.inj hnode
          exact ⟨place, hfound⟩
        · cases hnode
    obtain ⟨place, hplace⟩ := hn
    simp only [hnode, bind, Except.bind] at h
    split at h
    · cases h
    · have hadd : t.Amends t' fun target => ∃ l', t.node? l' = some (.link target) :=
        .add h fun target heq => ⟨place, heq ▸ hplace⟩
      refine ⟨hadd.directories, fun l target hl => .inr ?_⟩
      exact (hadd.links l target hl).elim id id

end Amends

theorem Settled.amends (hl : t.Settled l) (h : t.Amends t' fresh) : t'.Settled l := by
  induction hl with
  | root => exact .root
  | enter _ hproper hadmits hnode ih => exact .enter ih hproper hadmits (h.directories _ hnode)

/-- A settled directory is where its names say. -/
theorem Settled.canonical (h : t.Settled l) (hnul : l.any hasNul = false) :
    t.canonical l = .ok l := by
  have hwalk := walk_append_of_settled h maxLinks []
  rw [List.append_nil, walk_nil] at hwalk
  rw [FileTree.canonical, hnul]
  exact hwalk

/-- So is every place in it, whatever is there. -/
theorem Settled.place_concat {name : FileName} (h : t.Settled l)
    (hnul : (l ++ [name]).any hasNul = false) (hadmits : admits l name = true) :
    t.place (l ++ [name]) = .ok (l ++ [name]) := by
  have hwalk := walk_append_of_settled h maxLinks [[]]
  rw [walk_stay (.inl rfl), walk_nil] at hwalk
  simp only [admits, Bool.and_eq_true, decide_eq_true_eq] at hadmits
  unfold FileTree.place
  rw [List.getLast?_concat, List.dropLast_concat, hwalk]
  dsimp only
  rw [hnul, if_neg Bool.false_ne_true, if_neg (by omega)]
  dsimp only [bind, Except.bind]
  rw [if_neg (by omega)]
  rfl

theorem Settled.place (h : t.Settled l) (hnul : l.any hasNul = false) : t.place l = .ok l := by
  cases h with
  | root => rfl
  | enter hd _ hadmits _ => exact hd.place_concat hnul hadmits

theorem Settled.inspect (h : t.Settled l) (hnul : l.any hasNul = false) :
    t.inspect l = .ok .directory := by
  unfold FileTree.inspect
  rw [h.place hnul]
  dsimp only [bind, Except.bind]
  rw [h.node?]
  rfl

end StackSync.FileTree
