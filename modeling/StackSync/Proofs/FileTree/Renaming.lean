import Mathlib.Logic.Function.Basic
import StackSync.Proofs.FileTree.Amending
import StackSync.Proofs.FileTree.Walk

/-!
# Renaming what is in a file tree

A file system does not care what a directory is called, as long as nobody spells the name out. Here a
renaming is a map of names, applied to every location at once. It is an honest one if names that
mean something are left alone and no name gets longer (`Renaming`), and the tree does not notice it
if no link in it mentions a name that changes (`SparesLinks`). Then every operation on the renamed
tree, asked about renamed locations, does what it did before, and its faults stay the same.

Each lemma says this of one operation, in the form of an equation: renaming first and renaming last
are the same.
-/

namespace StackSync

structure Renaming (ρ : FileName → FileName) : Prop where
  injective : Function.Injective ρ
  empty : ρ [] = []
  here : ρ .here = .here
  above : ρ .above = .above
  length : ∀ name, (ρ name).length = name.length
  nul : ∀ name, hasNul (ρ name) = hasNul name

/-- The renaming does not concern these names. -/
def Spares (ρ : FileName → FileName) (names : List FileName) : Prop := names.map ρ = names

namespace Renaming

variable {ρ : FileName → FileName}

theorem map_injective (h : Renaming ρ) : Function.Injective (List.map ρ) :=
  fun _ _ => (List.map_inj_right fun _ _ heq => h.injective heq).1

theorem isPrefixOf_map (h : Renaming ρ) (l l' : Location) :
    (l.map ρ).isPrefixOf (l'.map ρ) = l.isPrefixOf l' := by
  rw [Bool.eq_iff_iff, List.isPrefixOf_iff_prefix, List.isPrefixOf_iff_prefix,
    List.prefix_map_iff]
  constructor
  · rintro ⟨below, hbelow, heq⟩
    rwa [h.map_injective heq]
  · intro hleads
    exact ⟨l, hleads, rfl⟩

theorem eq_iff (h : Renaming ρ) {name fixed : FileName} (hfixed : ρ fixed = fixed) :
    ρ name = fixed ↔ name = fixed := by
  constructor
  · intro heq
    exact h.injective (heq.trans hfixed.symm)
  · rintro rfl
    exact hfixed

theorem properName_iff (h : Renaming ρ) (name : FileName) :
    ProperName (ρ name) ↔ ProperName name := by
  simp only [ProperName, ne_eq, h.eq_iff h.empty, h.eq_iff h.here, h.eq_iff h.above]

theorem length_path (h : Renaming ρ) (l : Location) :
    (Location.path (l.map ρ)).length = (Location.path l).length := by
  have hjoined : ([0x2F].intercalate (l.map ρ)).length = ([0x2F].intercalate l).length := by
    induction l with
    | nil => rfl
    | cons name rest ih =>
      cases rest with
      | nil => simp [h.length]
      | cons next more =>
        simp only [List.map_cons, List.intercalate_cons_cons, List.length_append, h.length]
        simp only [List.map_cons] at ih
        rw [ih]
  simp only [Location.path, List.length_cons, hjoined]

theorem any_hasNul (h : Renaming ρ) (l : Location) : (l.map ρ).any hasNul = l.any hasNul := by
  rw [List.any_map]
  congr 1
  funext name
  exact h.nul name

theorem admits (h : Renaming ρ) (l : Location) (name : FileName) :
    StackSync.admits (l.map ρ) (ρ name) = StackSync.admits l name := by
  have hmap : l.map ρ ++ [ρ name] = (l ++ [name]).map ρ := by simp
  rw [StackSync.admits, StackSync.admits, hmap, h.length_path, h.length]

end Renaming

namespace FileTree

def rename (ρ : FileName → FileName) (t : FileTree) : FileTree :=
  ⟨t.entries.map fun e => (e.1.map ρ, e.2)⟩

/-- No link of the tree mentions a name that is changed. -/
def SparesLinks (ρ : FileName → FileName) (t : FileTree) : Prop :=
  ∀ l target, t.node? l = some (.link target) → Spares ρ (pathNames target)

variable {ρ : FileName → FileName} {t : FileTree}

/-! ## Single nodes -/

theorem node?_rename (h : Renaming ρ) (t : FileTree) (l : Location) :
    (t.rename ρ).node? (l.map ρ) = t.node? l := by
  have hlookup : (t.rename ρ).entries.lookup (l.map ρ) = t.entries.lookup l := by
    unfold rename
    induction t.entries with
    | nil => rfl
    | cons e rest ih =>
      rw [List.map_cons, List.lookup_cons, List.lookup_cons, ih]
      have heq : (l.map ρ == e.1.map ρ) = (l == e.1) := by
        rw [Bool.eq_iff_iff, beq_iff_eq, beq_iff_eq, h.map_injective.eq_iff]
      rw [heq]
  simp only [node?, List.map_eq_nil_iff, hlookup]

theorem filter_rename (h : Renaming ρ) (t : FileTree) (l : Location) :
    (t.entries.map fun e => (e.1.map ρ, e.2)).filter (·.1 ≠ l.map ρ) =
      (t.entries.filter (·.1 ≠ l)).map fun e => (e.1.map ρ, e.2) := by
  rw [List.filter_map]
  congr 1
  refine List.filter_congr fun e _ => ?_
  simp [h.map_injective.eq_iff]

theorem insert_rename (h : Renaming ρ) (t : FileTree) (l : Location) (n : Node) :
    (t.rename ρ).insert (l.map ρ) n = (t.insert l n).rename ρ := by
  simp only [insert, rename, filter_rename h, List.map_cons]

theorem erase_rename (h : Renaming ρ) (t : FileTree) (l : Location) :
    (t.rename ρ).erase (l.map ρ) = (t.erase l).rename ρ := by
  simp only [erase, rename, filter_rename h]

theorem isDirectory_rename (h : Renaming ρ) (t : FileTree) (l : Location) :
    (t.rename ρ).isDirectory (l.map ρ) = t.isDirectory l := by
  rw [isDirectory, isDirectory, node?_rename h]

theorem withDirectories_rename (h : Renaming ρ) (t : FileTree) (l : Location) :
    (t.rename ρ).withDirectories (l.map ρ) = (t.withDirectories l).rename ρ := by
  unfold withDirectories
  rw [List.length_map]
  induction List.range l.length generalizing t with
  | nil => rfl
  | cons i rest ih =>
    dsimp only [List.foldl_cons]
    rw [← List.map_take, node?_rename h, insert_rename h]
    split
    · exact ih t
    · exact ih _

theorem node?_rename_concat (h : Renaming ρ) (t : FileTree) (l : Location) (name : FileName) :
    (t.rename ρ).node? (l.map ρ ++ [ρ name]) = t.node? (l ++ [name]) := by
  have hnode := node?_rename h t (l ++ [name])
  rwa [List.map_append, List.map_singleton] at hnode

/-! ## Walks -/

theorem walk_rename (h : Renaming ρ) (hlinks : t.SparesLinks ρ) (links : Nat) (l : Location)
    (names : List FileName) :
    (t.rename ρ).walk links (l.map ρ) (names.map ρ) = (t.walk links l names).map (List.map ρ) := by
  -- where one walk looks a name up, so does the other, and finds the same
  have hproper' : ∀ {name : FileName}, ProperName name → ProperName (ρ name) :=
    fun {name} hproper => (h.properName_iff name).2 hproper
  have hadmits' : ∀ {l : Location} {name : FileName}, admits l name = true →
      admits (l.map ρ) (ρ name) = true := fun hadmits => by rwa [h.admits]
  have hnode' : ∀ {l : Location} {name : FileName} {found : Option Node},
      t.node? (l ++ [name]) = found → (t.rename ρ).node? (l.map ρ ++ [ρ name]) = found := fun hnode =>
    (node?_rename_concat h t _ _).trans hnode
  induction links, l, names using walk_induction t with
  | nil links l =>
    rw [List.map_nil, walk_nil, walk_nil]
    rfl
  | stay links l name rest hstay ih =>
    rw [List.map_cons, walk_stay hstay, ← ih, walk_stay]
    rwa [h.eq_iff h.empty, h.eq_iff h.here]
  | up links l rest ih =>
    rw [List.map_cons, h.above, walk_up, walk_up, ← ih, List.map_dropLast]
  | refused links l name rest hproper hrefused =>
    rw [List.map_cons, walk_refused hproper hrefused,
      walk_refused (hproper' hproper) (by rwa [h.admits])]
    rfl
  | missing links l name rest hproper hadmits hnode =>
    rw [List.map_cons, walk_missing hproper hadmits hnode,
      walk_missing (hproper' hproper) (hadmits' hadmits) (hnode' hnode)]
    rfl
  | enter links l name rest hproper hadmits hnode ih =>
    rw [List.map_cons, walk_enter hproper hadmits hnode,
      walk_enter (hproper' hproper) (hadmits' hadmits) (hnode' hnode), ← ih, List.map_append,
      List.map_singleton]
  | file links l name rest content hproper hadmits hnode =>
    rw [List.map_cons, walk_file hproper hadmits hnode,
      walk_file (hproper' hproper) (hadmits' hadmits) (hnode' hnode), List.isEmpty_map]
    split
    · show Except.ok (l.map ρ ++ [ρ name]) = .ok ((l ++ [name]).map ρ)
      rw [List.map_append, List.map_singleton]
    · rfl
  | exhausted l name rest target hproper hadmits hnode =>
    rw [List.map_cons, walk_exhausted hproper hadmits hnode,
      walk_exhausted (hproper' hproper) (hadmits' hadmits) (hnode' hnode)]
    rfl
  | follow links l name rest target hproper hadmits hnode ih =>
    have hspared : (pathNames target).map ρ = pathNames target := hlinks _ target hnode
    have hstart : (if isAbsolute target = true then [] else l).map ρ =
        if isAbsolute target = true then [] else l.map ρ := by
      split <;> rfl
    rw [List.map_append, hspared, hstart] at ih
    rw [List.map_cons, walk_follow hproper hadmits hnode,
      walk_follow (hproper' hproper) (hadmits' hadmits) (hnode' hnode), ih]

theorem place_rename (h : Renaming ρ) (hlinks : t.SparesLinks ρ) (l : Location) :
    (t.rename ρ).place (l.map ρ) = (t.place l).map (List.map ρ) := by
  unfold place
  rw [List.getLast?_map]
  cases hlast : l.getLast? with
  | none => rfl
  | some name =>
    have hwalk := walk_rename h hlinks maxLinks [] (l.dropLast ++ [[]])
    rw [List.map_append, List.map_singleton, h.empty, List.map_dropLast, List.map_nil] at hwalk
    dsimp only [Option.map_some]
    rw [h.any_hasNul, h.length_path, h.length, hwalk]
    split
    · rfl
    · split
      · rfl
      · cases t.walk maxLinks [] (l.dropLast ++ [[]]) with
        | error fault => rfl
        | ok directory =>
          dsimp only [Except.map, bind, Except.bind]
          split
          · rfl
          · simp [pure, Except.pure]

theorem inspect_rename (h : Renaming ρ) (hlinks : t.SparesLinks ρ) (l : Location) :
    (t.rename ρ).inspect (l.map ρ) = t.inspect l := by
  unfold inspect
  rw [place_rename h hlinks]
  cases t.place l with
  | error fault => rfl
  | ok place =>
    dsimp only [Except.map, bind, Except.bind]
    rw [node?_rename h]

theorem canonical_rename (h : Renaming ρ) (hlinks : t.SparesLinks ρ) (l : Location) :
    (t.rename ρ).canonical (l.map ρ) = (t.canonical l).map (List.map ρ) := by
  have hwalk := walk_rename h hlinks maxLinks [] l
  unfold canonical
  rw [h.any_hasNul]
  split
  · rfl
  · exact hwalk

theorem resolve_rename (h : Renaming ρ) (hlinks : t.SparesLinks ρ) {path : List UInt8}
    (hpath : Spares ρ (pathNames path)) (l : Location) :
    (t.rename ρ).resolve (l.map ρ) path = (t.resolve l path).map (List.map ρ) := by
  have hwalk := walk_rename h hlinks maxLinks (if isAbsolute path then [] else l) (pathNames path)
  rw [hpath] at hwalk
  unfold resolve
  split
  · rfl
  · rw [← hwalk]
    split <;> rfl

/-! ## Edits -/

theorem add_rename (h : Renaming ρ) (hlinks : t.SparesLinks ρ) (l : Location) (n : Node) :
    (t.rename ρ).add (l.map ρ) n = (t.add l n).map (rename ρ) := by
  unfold add
  rw [place_rename h hlinks]
  cases t.place l with
  | error fault => rfl
  | ok place =>
    dsimp only [Except.map, bind, Except.bind]
    rw [node?_rename h, insert_rename h]
    split <;> rfl

theorem addLink_rename (h : Renaming ρ) (hlinks : t.SparesLinks ρ) (l : Location)
    (target : List UInt8) :
    (t.rename ρ).addLink (l.map ρ) target = (t.addLink l target).map (rename ρ) := by
  unfold addLink
  rw [add_rename h hlinks]
  split
  · rfl
  · split <;> rfl

theorem remove_rename (h : Renaming ρ) (hlinks : t.SparesLinks ρ) (l : Location) :
    (t.rename ρ).remove (l.map ρ) = (t.remove l).map (rename ρ) := by
  unfold remove
  rw [place_rename h hlinks]
  cases t.place l with
  | error fault => rfl
  | ok place =>
    dsimp only [Except.map, bind, Except.bind]
    rw [node?_rename h, erase_rename h]
    cases t.node? place with
    | none => rfl
    | some n => cases n <;> rfl

theorem SparesLinks.amends {t' : FileTree} {fresh : List UInt8 → Prop} (hlinks : t.SparesLinks ρ)
    (h : t.Amends t' fresh) (hfresh : ∀ target, fresh target → Spares ρ (pathNames target)) :
    t'.SparesLinks ρ := by
  intro l target hl
  rcases h.links l target hl with htarget | ⟨l', hl'⟩
  · exact hfresh target htarget
  · exact hlinks l' target hl'

theorem replace_rename (h : Renaming ρ) (hlinks : t.SparesLinks ρ) (l : Location) (n : Node) :
    (t.rename ρ).replace (l.map ρ) n = (t.replace l n).map (rename ρ) := by
  unfold replace
  rw [add_rename h hlinks]
  cases t.add l n with
  | ok u => rfl
  | error fault =>
    cases fault with
    | «exists» =>
      dsimp only [Except.map]
      rw [remove_rename h hlinks]
      cases hremove : t.remove l with
      | error fault => rfl
      | ok u =>
        have hamends : t.Amends u fun _ => False := .remove hremove
        exact add_rename h (hlinks.amends hamends fun _ => False.elim) l n
    | _ => rfl

theorem relink_rename (h : Renaming ρ) (hlinks : t.SparesLinks ρ) (l : Location)
    (target : List UInt8) :
    (t.rename ρ).relink (l.map ρ) target = (t.relink l target).map (rename ρ) := by
  unfold relink
  rw [addLink_rename h hlinks]
  cases t.addLink l target with
  | ok u => rfl
  | error fault =>
    cases fault with
    | «exists» =>
      dsimp only [Except.map]
      rw [remove_rename h hlinks]
      cases hremove : t.remove l with
      | error fault => rfl
      | ok u =>
        have hamends : t.Amends u fun _ => False := .remove hremove
        exact addLink_rename h (hlinks.amends hamends fun _ => False.elim) l target
    | _ => rfl

theorem addDirectory_rename (h : Renaming ρ) (hlinks : t.SparesLinks ρ) (l : Location) :
    (t.rename ρ).addDirectory (l.map ρ) = (t.addDirectory l).map (rename ρ) := by
  unfold addDirectory
  rw [add_rename h hlinks]
  cases t.add l .directory with
  | ok u => rfl
  | error fault =>
    cases fault with
    | «exists» =>
      dsimp only [Except.map]
      rw [canonical_rename h hlinks]
      cases t.canonical l with
      | error fault => rfl
      | ok there =>
        dsimp only [Except.map]
        rw [isDirectory_rename h]
        split <;> rfl
    | _ => rfl

theorem addName_rename (h : Renaming ρ) (hlinks : t.SparesLinks ρ) (source l : Location) :
    (t.rename ρ).addName (source.map ρ) (l.map ρ) = (t.addName source l).map (rename ρ) := by
  unfold addName
  rw [inspect_rename h hlinks]
  cases t.inspect source with
  | error fault => rfl
  | ok n =>
    cases n with
    | directory => rfl
    | file content => exact add_rename h hlinks l _
    | link target => exact add_rename h hlinks l _

end FileTree

end StackSync
