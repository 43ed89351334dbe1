import StackSync.FileTree.Edit

/-!
# Walks

`FileTree.walk` is a function with a budget of links. `Walk` is the relation behind it: what it means
to go from name to name, without a budget, and with the links counted that are followed on the way.
The function finds exactly the walks within its budget (`walk_eq_ok_iff`).

A walk stands on solid ground at every step: `Settled` locations are directories with nothing but
directories above them, `Ended` ones may be a file below such a directory. So where a walk ends no
link is left, and the end is reached from the root again without following any.
-/

namespace StackSync

/-! ## Results with their faults read as others -/

theorem mapError_ok {ε ε' α : Type} (f : ε → ε') (a : α) :
    (Except.ok a).mapError f = .ok a := rfl

theorem mapError_error {ε ε' α : Type} (f : ε → ε') (e : ε) :
    (Except.error e : Except ε α).mapError f = .error (f e) := rfl

/-- A name that is looked up, and does not just mean to stay or to go up. -/
def ProperName (name : FileName) : Prop := name ≠ [] ∧ name ≠ .here ∧ name ≠ .above

instance (name : FileName) : Decidable (ProperName name) := inferInstanceAs (Decidable (_ ∧ _))

namespace FileTree

/-- From the directory, the names lead to the location, with so many links followed. -/
inductive Walk (t : FileTree) : Nat → Location → List FileName → Location → Prop where
  | done (l : Location) : Walk t 0 l [] l
  | stay {n : Nat} {l e : Location} {name : FileName} {rest : List FileName} :
      name = [] ∨ name = .here → Walk t n l rest e → Walk t n l (name :: rest) e
  | up {n : Nat} {l e : Location} {rest : List FileName} :
      Walk t n l.dropLast rest e → Walk t n l (.above :: rest) e
  | enter {n : Nat} {l e : Location} {name : FileName} {rest : List FileName} :
      ProperName name → admits l name = true → t.node? (l ++ [name]) = some .directory →
      Walk t n (l ++ [name]) rest e → Walk t n l (name :: rest) e
  | file {l : Location} {name : FileName} {content : ByteArray} :
      ProperName name → admits l name = true → t.node? (l ++ [name]) = some (.file content) →
      Walk t 0 l [name] (l ++ [name])
  | follow {n : Nat} {l e : Location} {name : FileName} {target : List UInt8}
      {rest : List FileName} :
      ProperName name → admits l name = true → t.node? (l ++ [name]) = some (.link target) →
      Walk t n (if isAbsolute target then [] else l) (pathNames target ++ rest) e →
      Walk t (n + 1) l (name :: rest) e

variable {t : FileTree} {n links : Nat} {l e : Location} {name : FileName}
  {names rest : List FileName}

/-! ## The function and the relation -/

theorem walk_nil : t.walk links l [] = .ok l := by
  rw [walk]

theorem walk_stay (h : name = [] ∨ name = .here) :
    t.walk links l (name :: rest) = t.walk links l rest := by
  rw [walk, if_pos h]

theorem walk_up : t.walk links l (.above :: rest) = t.walk links l.dropLast rest := by
  rw [walk, if_neg (by decide), if_pos rfl]

/-- A proper name is looked up, if the file system takes it. -/
theorem walk_proper (h : ProperName name) (hadmits : admits l name = true) :
    t.walk links l (name :: rest) =
      match t.node? (l ++ [name]) with
      | none => .error .notFound
      | some .directory => t.walk links (l ++ [name]) rest
      | some (.file _) => if rest.isEmpty then .ok (l ++ [name]) else .error .notDirectory
      | some (.link target) =>
        match links with
        | 0 => .error .tooManyLinks
        | links + 1 =>
          t.walk links (if isAbsolute target then [] else l) (pathNames target ++ rest) := by
  obtain ⟨hempty, hdot, hdots⟩ := h
  conv => lhs; rw [walk]
  rw [if_neg (by simp [hempty, hdot]), if_neg hdots, hadmits]
  rfl

theorem walk_refused (h : ProperName name) (hadmits : admits l name = false) :
    t.walk links l (name :: rest) = .error .nameTooLong := by
  obtain ⟨hempty, hdot, hdots⟩ := h
  rw [walk, if_neg (by simp [hempty, hdot]), if_neg hdots, hadmits]
  rfl

theorem walk_missing (h : ProperName name) (hadmits : admits l name = true)
    (hnode : t.node? (l ++ [name]) = none) : t.walk links l (name :: rest) = .error .notFound := by
  rw [walk_proper h hadmits, hnode]

theorem walk_enter (h : ProperName name) (hadmits : admits l name = true)
    (hnode : t.node? (l ++ [name]) = some .directory) :
    t.walk links l (name :: rest) = t.walk links (l ++ [name]) rest := by
  rw [walk_proper h hadmits, hnode]

theorem walk_file {content : ByteArray} (h : ProperName name) (hadmits : admits l name = true)
    (hnode : t.node? (l ++ [name]) = some (.file content)) :
    t.walk links l (name :: rest) =
      if rest.isEmpty then .ok (l ++ [name]) else .error .notDirectory := by
  rw [walk_proper h hadmits, hnode]

theorem walk_exhausted {target : List UInt8} (h : ProperName name) (hadmits : admits l name = true)
    (hnode : t.node? (l ++ [name]) = some (.link target)) :
    t.walk 0 l (name :: rest) = .error .tooManyLinks := by
  rw [walk_proper h hadmits, hnode]

theorem walk_follow {target : List UInt8} (h : ProperName name) (hadmits : admits l name = true)
    (hnode : t.node? (l ++ [name]) = some (.link target)) :
    t.walk (links + 1) l (name :: rest) =
      t.walk links (if isAbsolute target then [] else l) (pathNames target ++ rest) := by
  rw [walk_proper h hadmits, hnode]

/-- The recursion of a walk, with what is known of the next name in each of its cases. -/
@[elab_as_elim]
theorem walk_induction (t : FileTree) {motive : Nat → Location → List FileName → Prop}
    (nil : ∀ links l, motive links l [])
    (stay : ∀ links l (name : FileName) rest, name = [] ∨ name = .here → motive links l rest →
      motive links l (name :: rest))
    (up : ∀ links l rest, motive links l.dropLast rest → motive links l (.above :: rest))
    (refused : ∀ links l name rest, ProperName name → admits l name = false →
      motive links l (name :: rest))
    (missing : ∀ links l name rest, ProperName name → admits l name = true →
      t.node? (l ++ [name]) = none → motive links l (name :: rest))
    (enter : ∀ links l name rest, ProperName name → admits l name = true →
      t.node? (l ++ [name]) = some .directory → motive links (l ++ [name]) rest →
      motive links l (name :: rest))
    (file : ∀ links l name rest content, ProperName name → admits l name = true →
      t.node? (l ++ [name]) = some (.file content) → motive links l (name :: rest))
    (exhausted : ∀ l name rest target, ProperName name → admits l name = true →
      t.node? (l ++ [name]) = some (.link target) → motive 0 l (name :: rest))
    (follow : ∀ links l name rest target, ProperName name → admits l name = true →
      t.node? (l ++ [name]) = some (.link target) →
      motive links (if isAbsolute target then [] else l) (pathNames target ++ rest) →
      motive (links + 1) l (name :: rest))
    (links : Nat) (l : Location) (names : List FileName) : motive links l names := by
  have hproper : ∀ {name : FileName}, ¬ (name = [] ∨ name = .here) → name ≠ .above →
      ProperName name :=
    fun hstay hup => ⟨fun h => hstay (.inl h), fun h => hstay (.inr h), hup⟩
  have hadmitted : ∀ {l : Location} {name : FileName}, ¬ (!admits l name) = true →
      admits l name = true := fun h => by simpa using h
  induction links, l, names using walk.induct t with
  | case1 links l => exact nil links l
  | case2 links l name rest hstay ih => exact stay links l name rest hstay ih
  | case3 links l rest _ ih => exact up links l rest ih
  | case4 links l name rest hstay hup hadmits =>
    exact refused links l name rest (hproper hstay hup) (by simpa using hadmits)
  | case5 links l name rest hstay hup hadmits hnode =>
    exact missing links l name rest (hproper hstay hup) (hadmitted hadmits) hnode
  | case6 links l name rest hstay hup hadmits hnode ih =>
    exact enter links l name rest (hproper hstay hup) (hadmitted hadmits) hnode ih
  | case7 links l name rest hstay hup hadmits content hnode _ =>
    exact file links l name rest content (hproper hstay hup) (hadmitted hadmits) hnode
  | case8 links l name rest hstay hup hadmits content hnode _ =>
    exact file links l name rest content (hproper hstay hup) (hadmitted hadmits) hnode
  | case9 l name rest hstay hup hadmits target hnode =>
    exact exhausted l name rest target (hproper hstay hup) (hadmitted hadmits) hnode
  | case10 l name rest hstay hup hadmits target hnode links ih =>
    exact follow links l name rest target (hproper hstay hup) (hadmitted hadmits) hnode ih

theorem Walk.walk_eq (h : Walk t n l names e) (hlinks : n ≤ links) : t.walk links l names = .ok e := by
  induction h generalizing links with
  | done l => exact walk_nil
  | stay hstay _ ih => rw [walk_stay hstay, ih hlinks]
  | up _ ih => rw [walk_up, ih hlinks]
  | enter hproper hadmits hnode _ ih => rw [walk_enter hproper hadmits hnode, ih hlinks]
  | file hproper hadmits hnode =>
    rw [walk_file hproper hadmits hnode]
    rfl
  | follow hproper hadmits hnode _ ih =>
    obtain ⟨links, rfl⟩ : ∃ k, links = k + 1 := ⟨links - 1, by omega⟩
    rw [walk_follow hproper hadmits hnode]
    exact ih (Nat.le_of_succ_le_succ hlinks)

theorem exists_walk (links : Nat) (l : Location) (names : List FileName)
    (h : t.walk links l names = .ok e) : ∃ n ≤ links, Walk t n l names e := by
  induction links, l, names using walk_induction t with
  | nil links l =>
    rw [walk_nil, Except.ok.injEq] at h
    subst h
    exact ⟨0, Nat.zero_le _, .done _⟩
  | stay links l name rest hstay ih =>
    rw [walk_stay hstay] at h
    obtain ⟨n, hn, hwalk⟩ := ih h
    exact ⟨n, hn, .stay hstay hwalk⟩
  | up links l rest ih =>
    rw [walk_up] at h
    obtain ⟨n, hn, hwalk⟩ := ih h
    exact ⟨n, hn, .up hwalk⟩
  | refused links l name rest hproper hrefused => cases (walk_refused hproper hrefused).symm.trans h
  | missing links l name rest hproper hadmits hnode =>
    cases (walk_missing hproper hadmits hnode).symm.trans h
  | enter links l name rest hproper hadmits hnode ih =>
    rw [walk_enter hproper hadmits hnode] at h
    obtain ⟨n, hn, hwalk⟩ := ih h
    exact ⟨n, hn, .enter hproper hadmits hnode hwalk⟩
  | file links l name rest content hproper hadmits hnode =>
    rw [walk_file hproper hadmits hnode] at h
    split at h
    · next hlast =>
      obtain rfl := List.isEmpty_iff.1 hlast
      obtain rfl := Except.ok.inj h
      exact ⟨0, Nat.zero_le _, .file hproper hadmits hnode⟩
    · cases h
  | exhausted l name rest target hproper hadmits hnode =>
    cases (walk_exhausted hproper hadmits hnode).symm.trans h
  | follow links l name rest target hproper hadmits hnode ih =>
    rw [walk_follow hproper hadmits hnode] at h
    obtain ⟨n, hn, hwalk⟩ := ih h
    exact ⟨n + 1, Nat.succ_le_succ hn, .follow hproper hadmits hnode hwalk⟩

/-- The function finds the walks that stay within its budget of links, and no others. -/
theorem walk_eq_ok_iff : t.walk links l names = .ok e ↔ ∃ n ≤ links, Walk t n l names e := by
  constructor
  · exact exists_walk links l names
  · rintro ⟨n, hn, hwalk⟩
    exact hwalk.walk_eq hn

/-! ## Solid ground -/

/-- A directory of the tree, with nothing but directories above it. -/
inductive Settled (t : FileTree) : Location → Prop where
  | root : Settled t []
  | enter {l : Location} {name : FileName} : Settled t l → ProperName name → admits l name = true →
      t.node? (l ++ [name]) = some .directory → Settled t (l ++ [name])

/-- Where a walk can end: at a settled directory, or at a file in one. -/
inductive Ended (t : FileTree) : Location → Prop where
  | directory {l : Location} : Settled t l → Ended t l
  | file {l : Location} {name : FileName} {content : ByteArray} : Settled t l → ProperName name →
      admits l name = true → t.node? (l ++ [name]) = some (.file content) → Ended t (l ++ [name])

theorem Settled.node? (h : Settled t l) : t.node? l = some .directory := by
  cases h with
  | root => rfl
  | enter _ _ _ hnode => exact hnode

theorem Settled.dropLast (h : Settled t l) : Settled t l.dropLast := by
  cases h with
  | root => exact .root
  | enter hl => rwa [List.dropLast_concat]

theorem Settled.of_prefix {a : Location} (h : Settled t l) (ha : a <+: l) : Settled t a := by
  induction h with
  | root =>
    rw [List.prefix_nil.1 ha]
    exact .root
  | enter hl hproper hadmits hnode ih =>
    rcases List.prefix_concat_iff.1 ha with rfl | ha
    · exact .enter hl hproper hadmits hnode
    · exact ih ha

theorem Walk.ended (h : Walk t n l names e) (hl : Settled t l) : Ended t e := by
  induction h with
  | done l => exact .directory hl
  | stay _ _ ih => exact ih hl
  | up _ ih => exact ih hl.dropLast
  | enter hproper hadmits hnode _ ih => exact ih (hl.enter hproper hadmits hnode)
  | file hproper hadmits hnode => exact .file hl hproper hadmits hnode
  | follow _ _ _ _ ih =>
    refine ih ?_
    split
    · exact .root
    · exact hl

theorem Ended.ne_link {a : Location} (h : Ended t l) (ha : a <+: l) (target : List UInt8) :
    t.node? a ≠ some (.link target) := by
  intro hlink
  cases h with
  | directory hl =>
    rw [(hl.of_prefix ha).node?] at hlink
    cases hlink
  | file hl _ _ hnode =>
    rcases List.prefix_concat_iff.1 ha with rfl | ha
    · rw [hnode] at hlink
      cases hlink
    · rw [(hl.of_prefix ha).node?] at hlink
      cases hlink

theorem Ended.settled (h : Ended t l) (hl : t.node? l = some .directory) : Settled t l := by
  cases h with
  | directory hl => exact hl
  | file _ _ _ hnode =>
    rw [hnode] at hl
    cases hl

/-- A walk can start at the root of the tree instead of at a settled directory. -/
theorem walk_append_of_settled (h : Settled t l) (links : Nat) (names : List FileName) :
    t.walk links [] (l ++ names) = t.walk links l names := by
  induction h generalizing names with
  | root => rfl
  | enter _ hproper hadmits hnode ih =>
    rw [List.append_assoc, ih, List.singleton_append, walk_proper hproper hadmits, hnode]

/-- The end of a walk is found from the root as well, and without following a link. -/
theorem Ended.walk_eq (h : Ended t l) : t.walk 0 [] l = .ok l := by
  cases h with
  | directory hl =>
    have happend := walk_append_of_settled hl 0 []
    rwa [List.append_nil, walk_nil] at happend
  | file hl hproper hadmits hnode =>
    rw [walk_append_of_settled hl, walk_proper hproper hadmits, hnode]
    rfl

/-! ## Paths -/

/-- Walking the path from the directory ends at the location, within what the platform allows. -/
def Reaches (t : FileTree) (start : Location) (path : List UInt8) (l : Location) : Prop :=
  hasNul path = false ∧
    ∃ n ≤ maxLinks, Walk t n (if isAbsolute path then [] else start) (pathNames path) l

theorem resolve_eq_ok_iff {path : List UInt8} : t.resolve l path = .ok e ↔ t.Reaches l path e := by
  unfold resolve Reaches
  cases hasNul path with
  | true => simp
  | false => simp [walk_eq_ok_iff]

theorem Reaches.ended {path : List UInt8} (h : t.Reaches l path e) (hl : Settled t l) :
    Ended t e := by
  obtain ⟨-, n, -, hwalk⟩ := h
  refine hwalk.ended ?_
  split
  · exact .root
  · exact hl

theorem ended_of_canonical (h : t.canonical l = .ok e) : Ended t e := by
  unfold canonical at h
  split at h
  · cases h
  · obtain ⟨n, -, hwalk⟩ := walk_eq_ok_iff.1 h
    exact hwalk.ended .root

end FileTree

end StackSync
