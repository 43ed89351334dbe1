import StackSync.Artifact.InnerPath
import StackSync.Proofs.FileTree.Walk

/-!
# What is found below a root

A path from a manifest is looked up in a tree from an archive, links and all. `Inner` is what is
asked of the path alone. The rest is about where its walk ends: the links of the tree may lead
anywhere on the way, out of the root and in again, and only the end is compared with the root. That
suffices because an end has no link above it, so that a location with the names of the root in front
is below the root and not only spelled like it.
-/

namespace StackSync

namespace InnerPath

/-- Once trimmed, the path is not empty, it does not start at the top, and no name in it leads up. -/
structure Inner (path : String) : Prop where
  nonempty : Text.trim path ≠ ""
  relative : (Text.utf8 (Text.trim path)).head? ≠ some 0x2F
  straight : FileName.above ∉ pathNames (Text.utf8 (Text.trim path))

theorem objection?_eq_none_iff (path : String) : objection? path = none ↔ Inner path := by
  unfold objection?
  dsimp only
  constructor
  · intro h
    split at h
    · cases h
    · next hempty =>
      split at h
      · cases h
      · next hrelative =>
        split at h
        · cases h
        · next hstraight =>
          refine ⟨fun htrim => hempty (by rw [htrim]; rfl), ?_, ?_⟩
          · simpa [isAbsolute] using hrelative
          · simpa using hstraight
  · rintro ⟨hempty, hrelative, hstraight⟩
    simp [isAbsolute, hempty, hrelative, hstraight]

theorem locate_of_objection {path reason : String} (h : objection? path = some reason)
    (t : FileTree) (root : Location) : locate t root path = .error (.invalidPath path reason) := by
  unfold locate
  rw [h]
  rfl

variable {t : FileTree} {root r p : Location} {path : String}

/-- Once the path is sound and the root has been found, three things are left to go wrong. -/
theorem locate_of_inner (hroot : t.canonical root = .ok r) (h : Inner path) :
    locate t root path =
      match t.resolve r (Text.utf8 (Text.trim path)) with
      | .error fault => .error (.read path fault.message)
      | .ok found =>
        if r <+: found then
          match t.node? found with
          | some (.file _) => .ok found
          | _ => .error (.invalidPath path "path is not a regular file")
        else .error (.invalidPath path escapes) := by
  have hsound := (objection?_eq_none_iff path).2 h
  cases hfound : t.resolve r (Text.utf8 (Text.trim path)) with
  | error fault =>
    simp only [locate, hsound, hroot, mapError_ok, mapError_error, bind, Except.bind, hfound]
  | ok found =>
    simp only [locate, hsound, hroot, mapError_ok, bind, Except.bind, hfound]
    by_cases hbelow : r <+: found
    · rw [List.isPrefixOf_iff_prefix.2 hbelow, if_pos hbelow]
      rfl
    · have hleads : r.isPrefixOf found = false := by
        simpa [← List.isPrefixOf_iff_prefix] using hbelow
      rw [hleads, if_neg hbelow]
      rfl

theorem locate_eq_ok_iff_resolve (hroot : t.canonical root = .ok r) (h : Inner path) :
    locate t root path = .ok p ↔ t.resolve r (Text.utf8 (Text.trim path)) = .ok p ∧ r <+: p ∧
      ∃ content, t.node? p = some (.file content) := by
  rw [locate_of_inner hroot h]
  cases t.resolve r (Text.utf8 (Text.trim path)) with
  | error fault => simp
  | ok found =>
    dsimp only
    by_cases hbelow : r <+: found
    · rw [if_pos hbelow]
      split
      · next content hnode =>
        constructor
        · rintro heq
          obtain rfl := Except.ok.inj heq
          exact ⟨rfl, hbelow, content, hnode⟩
        · rintro ⟨hfound, -⟩
          exact congrArg _ (Except.ok.inj hfound)
      · next hnode =>
        refine iff_of_false (by simp) ?_
        rintro ⟨hfound, -, content, hfile⟩
        obtain rfl := Except.ok.inj hfound
        exact hnode content hfile
    · rw [if_neg hbelow]
      refine iff_of_false (by simp) ?_
      rintro ⟨hfound, hp, -⟩
      obtain rfl := Except.ok.inj hfound
      exact hbelow hp

theorem inner_of_locate_eq_ok (h : locate t root path = .ok p) : Inner path := by
  rw [← objection?_eq_none_iff]
  cases hreason : objection? path with
  | none => rfl
  | some reason =>
    rw [locate_of_objection hreason] at h
    cases h

/-- Below a root directory exactly the inner paths are found whose walk ends at a regular file below
it, and that file is found, at a location without links. Other paths are invalid in every tree. -/
theorem locate_below_root (path : String) (hroot : t.canonical root = .ok r)
    (hdirectory : t.node? r = some .directory) :
    (∀ p, locate t root path = .ok p ↔ Inner path ∧ t.Reaches r (Text.utf8 (Text.trim path)) p ∧
      r <+: p ∧ ∃ content, t.node? p = some (.file content)) ∧
    (∀ p, locate t root path = .ok p → t.walk 0 [] p = .ok p ∧
      ∀ above, above <+: p → ∀ target, t.node? above ≠ some (.link target)) ∧
    (¬ Inner path → ∀ t root, ∃ reason, locate t root path = .error (.invalidPath path reason)) := by
  have hiff : ∀ p, locate t root path = .ok p ↔
      Inner path ∧ t.Reaches r (Text.utf8 (Text.trim path)) p ∧ r <+: p ∧ ∃ content, t.node? p = some (.file content) := by
    intro p
    constructor
    · intro h
      have hinner := inner_of_locate_eq_ok h
      rw [locate_eq_ok_iff_resolve hroot hinner, FileTree.resolve_eq_ok_iff] at h
      exact ⟨hinner, h⟩
    · rintro ⟨hinner, h⟩
      rwa [locate_eq_ok_iff_resolve hroot hinner, FileTree.resolve_eq_ok_iff]
  refine ⟨hiff, ?_, ?_⟩
  · intro p h
    obtain ⟨-, hreaches, -⟩ := (hiff p).1 h
    have hended := hreaches.ended ((FileTree.ended_of_canonical hroot).settled hdirectory)
    exact ⟨hended.walk_eq, fun _ habove => hended.ne_link habove⟩
  · intro hnot t root
    cases hreason : objection? path with
    | none => exact absurd ((objection?_eq_none_iff path).1 hreason) hnot
    | some reason => exact ⟨reason, locate_of_objection hreason t root⟩

end InnerPath

/-! ## Through two links -/

namespace Sample

/-- A location by the texts of its names. -/
def location (names : List String) : Location := names.map Text.utf8

/-- The root is behind a link, and so is the template in it. -/
def linkedTree : FileTree where
  entries := [
    (location ["current"], .link (Text.utf8 "/releases/v2")),
    (location ["releases"], .directory),
    (location ["releases", "v2"], .directory),
    (location ["releases", "v2", "live.yaml"], .link (Text.utf8 "../v2/stack.yaml")),
    (location ["releases", "v2", "stack.yaml"], .file "A".toUTF8)]

theorem canonical_linkedTree :
    linkedTree.canonical (location ["current"]) = .ok (location ["releases", "v2"]) := by
  have hnul : (location ["current"]).any hasNul = false := by decide
  have htarget : isAbsolute (Text.utf8 "/releases/v2") = true ∧
      pathNames (Text.utf8 "/releases/v2") = location ["", "releases", "v2"] := by decide
  have hwalk : linkedTree.Walk 0 [] (location ["", "releases", "v2"])
      (location ["releases", "v2"]) :=
    .stay (by decide) (.enter (by decide) (by decide) rfl
      (.enter (by decide) (by decide) rfl (.done _)))
  have hfollowed : linkedTree.Walk 1 [] (location ["current"]) (location ["releases", "v2"]) := by
    refine .follow (by decide) (by decide) rfl ?_
    rw [htarget.1, htarget.2]
    exact hwalk
  unfold FileTree.canonical
  rw [hnul]
  exact hfollowed.walk_eq (by simp [maxLinks])

theorem reaches_linkedTree : linkedTree.Reaches (location ["releases", "v2"])
    (Text.utf8 (Text.trim " ./live.yaml\n")) (location ["releases", "v2", "stack.yaml"]) := by
  have htrim : Text.trim " ./live.yaml\n" = "./live.yaml" := rfl
  have hpath : hasNul (Text.utf8 "./live.yaml") = false ∧
      isAbsolute (Text.utf8 "./live.yaml") = false ∧
      pathNames (Text.utf8 "./live.yaml") = location [".", "live.yaml"] := by decide
  have htarget : isAbsolute (Text.utf8 "../v2/stack.yaml") = false ∧
      pathNames (Text.utf8 "../v2/stack.yaml") = location ["..", "v2", "stack.yaml"] := by decide
  rw [htrim, FileTree.Reaches, hpath.2.1, hpath.2.2]
  refine ⟨hpath.1, 1, by simp [maxLinks], ?_⟩
  refine .stay (by decide) (.follow (by decide) (by decide) rfl ?_)
  rw [htarget.1, htarget.2]
  exact .up (.enter (by decide) (by decide) rfl (.file (by decide) (by decide) rfl))

end Sample

open Sample in
theorem locate_below_root_linked :
    InnerPath.locate linkedTree (location ["current"]) " ./live.yaml\n" =
      .ok (location ["releases", "v2", "stack.yaml"]) ∧
    linkedTree.walk 0 [] (location ["releases", "v2", "stack.yaml"]) =
      .ok (location ["releases", "v2", "stack.yaml"]) := by
  have hinner : InnerPath.Inner " ./live.yaml\n" := ⟨by decide, by decide, by decide⟩
  obtain ⟨hiff, hplain, -⟩ := InnerPath.locate_below_root " ./live.yaml\n" canonical_linkedTree rfl
  have hfound := (hiff (location ["releases", "v2", "stack.yaml"])).2
    ⟨hinner, reaches_linkedTree, by decide, _, rfl⟩
  exact ⟨hfound, (hplain _ hfound).1⟩

end StackSync
