import Mathlib.Logic.Equiv.Basic
import StackSync.Proofs.Artifact.Single

/-!
# What an archive is unpacked into

Every attempt at a template unpacks the archive into a directory with a new name, and what comes of
the attempt goes into a status that should be the same as long as the artifact is. Two names of one
length are exchanged by a renaming, so the trees the two attempts see differ by it and so do their
faults. The template is read from below the directory, by a path that mentions neither name, and
there nothing is left of the difference. What is left is in the texts of the faults of unpacking:
all of them quote the directory, except the one about an archive that cannot be read on.
-/

namespace StackSync

/-- A proper name that nothing in the file system has or refers to. -/
structure FreshName (s : FileTree) (name : FileName) : Prop where
  proper : ProperName name
  nul : hasNul name = false
  locations : ∀ e ∈ s.entries, name ∉ e.1
  links : ∀ e ∈ s.entries, ∀ target, e.2 = .link target → name ∉ pathNames target

/-- A member of the archive is called so, or refers to the name. -/
def Archive.Mentions (s : Archive.Stream) (name : FileName) : Prop :=
  ∃ m ∈ (Archive.Tar.members s).1, name ∈ m.names ∨ name ∈ pathNames m.target

/-! ## Exchanging two names -/

theorem spares_swap {a b : FileName} {names : List FileName} (ha : a ∉ names) (hb : b ∉ names) :
    Spares (Equiv.swap a b) names := by
  have hfixed : ∀ name ∈ names, Equiv.swap a b name = name := fun name hname =>
    Equiv.swap_apply_of_ne_of_ne (fun h => ha (h ▸ hname)) fun h => hb (h ▸ hname)
  exact (List.map_congr_left hfixed).trans (List.map_id names)

theorem renaming_swap {s : FileTree} {a b : FileName} (ha : FreshName s a) (hb : FreshName s b)
    (hlength : a.length = b.length) : Renaming (Equiv.swap a b) := by
  have hcases : ∀ name, Equiv.swap a b name = name ∨ (name = a ∧ Equiv.swap a b name = b) ∨
      (name = b ∧ Equiv.swap a b name = a) := by
    intro name
    by_cases hna : name = a
    · exact .inr (.inl ⟨hna, by rw [hna, Equiv.swap_apply_left]⟩)
    · by_cases hnb : name = b
      · exact .inr (.inr ⟨hnb, by rw [hnb, Equiv.swap_apply_right]⟩)
      · exact .inl (Equiv.swap_apply_of_ne_of_ne hna hnb)
  refine ⟨(Equiv.swap a b).injective, ?_, ?_, ?_, fun name => ?_, fun name => ?_⟩
  · exact Equiv.swap_apply_of_ne_of_ne ha.proper.1.symm hb.proper.1.symm
  · exact Equiv.swap_apply_of_ne_of_ne ha.proper.2.1.symm hb.proper.2.1.symm
  · exact Equiv.swap_apply_of_ne_of_ne ha.proper.2.2.symm hb.proper.2.2.symm
  · rcases hcases name with h | ⟨rfl, h⟩ | ⟨rfl, h⟩ <;> rw [h]
    · exact hlength.symm
    · exact hlength
  · rcases hcases name with h | ⟨rfl, h⟩ | ⟨rfl, h⟩
    · rw [h]
    · rw [h, ha.nul, hb.nul]
    · rw [h, ha.nul, hb.nul]

theorem rename_swap {s : FileTree} {a b : FileName} (ha : FreshName s a) (hb : FreshName s b) :
    s.rename (Equiv.swap a b) = s := by
  obtain ⟨entries⟩ := s
  have hfixed : ∀ e ∈ entries, (e.1.map (Equiv.swap a b), e.2) = e := fun e he =>
    Prod.ext (spares_swap (ha.locations e he) (hb.locations e he)) rfl
  rw [FileTree.rename]
  exact congrArg FileTree.mk ((List.map_congr_left hfixed).trans (List.map_id entries))

/-! ## Reading from a renamed tree -/

variable {ρ : FileName → FileName} {t : FileTree} {root : Location} {path : String}

theorem InnerPath.locate_rename (h : Renaming ρ) (hlinks : t.SparesLinks ρ)
    (hroot : t.canonical root = .ok root)
    (hpath : Spares ρ (pathNames (Text.utf8 (Text.trim path)))) :
    locate (t.rename ρ) (root.map ρ) path = (locate t root path).map (List.map ρ) := by
  cases hreason : objection? path with
  | some reason =>
    rw [locate_of_objection hreason, locate_of_objection hreason]
    rfl
  | none =>
    have hinner := (objection?_eq_none_iff path).1 hreason
    have hroot' : (t.rename ρ).canonical (root.map ρ) = .ok (root.map ρ) := by
      rw [FileTree.canonical_rename h hlinks, hroot]
      rfl
    rw [locate_of_inner hroot hinner, locate_of_inner hroot' hinner,
      FileTree.resolve_rename h hlinks hpath]
    cases t.resolve root (Text.utf8 (Text.trim path)) with
    | error fault => rfl
    | ok found =>
      have hleads : root.map ρ <+: found.map ρ ↔ root <+: found := by
        rw [← List.isPrefixOf_iff_prefix, ← List.isPrefixOf_iff_prefix, h.isPrefixOf_map]
      dsimp only [Except.map]
      simp only [hleads, FileTree.node?_rename h]
      split
      · cases t.node? found with
        | none => rfl
        | some n => cases n <;> rfl
      · rfl

theorem readTemplate_rename (h : Renaming ρ) (t : FileTree) (l : Location) (path : String) :
    readTemplate (t.rename ρ) (l.map ρ) path = readTemplate t l path := by
  unfold readTemplate
  rw [FileTree.node?_rename h]

/-! ## Two workspaces -/

/-- The two names are as good as each other for a directory in the parent: the directory is not
behind a link, and neither the file system nor the archive nor the path mentions them. -/
structure Interchangeable (s : FileTree) (parent : Location) (archive : ByteArray)
    (path : String) (a b : FileName) : Prop where
  left : FreshName s a
  right : FreshName s b
  length : a.length = b.length
  settled : (Workspace.tree ⟨s, parent ++ [a]⟩).Settled (parent ++ [a])
  nul : parent.any hasNul = false
  unnamedAbove : a ∉ parent ∧ b ∉ parent
  unmentioned : ¬ Archive.Mentions (Archive.Gzip.decode archive) a ∧
    ¬ Archive.Mentions (Archive.Gzip.decode archive) b
  unnamedBelow : a ∉ pathNames (Text.utf8 (Text.trim path)) ∧
    b ∉ pathNames (Text.utf8 (Text.trim path))

namespace Interchangeable

variable {s : FileTree} {parent : Location} {archive : ByteArray} {a b : FileName}

theorem spared (h : Interchangeable s parent archive path a b) :
    ∀ m ∈ (Archive.Tar.members (Archive.Gzip.decode archive)).1, m.Spared (Equiv.swap a b) := by
  intro m hm
  have hunnamed : ∀ {name}, ¬ Archive.Mentions (Archive.Gzip.decode archive) name →
      name ∉ m.names ∧ name ∉ pathNames m.target :=
    fun hnot => ⟨fun h' => hnot ⟨m, hm, .inl h'⟩, fun h' => hnot ⟨m, hm, .inr h'⟩⟩
  obtain ⟨hnames, htarget⟩ := hunnamed h.unmentioned.1
  obtain ⟨hnames', htarget'⟩ := hunnamed h.unmentioned.2
  exact ⟨spares_swap hnames hnames', spares_swap htarget htarget'⟩

theorem spares_parent (h : Interchangeable s parent archive path a b) :
    Spares (Equiv.swap a b) parent := spares_swap h.unnamedAbove.1 h.unnamedAbove.2

theorem directory (h : Interchangeable s parent archive path a b) :
    (parent ++ [a]).map (Equiv.swap a b) = parent ++ [b] := by
  rw [List.map_append, h.spares_parent, List.map_singleton, Equiv.swap_apply_left]

theorem tree (h : Interchangeable s parent archive path a b) :
    Workspace.tree ⟨s, parent ++ [b]⟩ =
      (Workspace.tree ⟨s, parent ++ [a]⟩).rename (Equiv.swap a b) := by
  unfold Workspace.tree
  rw [← FileTree.withDirectories_rename (renaming_swap h.left h.right h.length),
    rename_swap h.left h.right, h.directory]

theorem sparesLinks (h : Interchangeable s parent archive path a b) :
    (Workspace.tree ⟨s, parent ++ [a]⟩).SparesLinks (Equiv.swap a b) := by
  have hs : s.SparesLinks (Equiv.swap a b) := by
    intro l target hl
    unfold FileTree.node? at hl
    split at hl
    · cases hl
    · obtain ⟨before, after, hentries, -⟩ := List.lookup_eq_some_iff.1 hl
      have hmem : (l, Node.link target) ∈ s.entries := by
        rw [hentries]
        exact List.mem_append_right _ List.mem_cons_self
      exact spares_swap (h.left.links _ hmem target rfl) (h.right.links _ hmem target rfl)
  exact hs.amends (.withDirectories s (parent ++ [a]) fun _ => False) fun _ => False.elim

theorem directory_nul (h : Interchangeable s parent archive path a b) :
    (parent ++ [a]).any hasNul = false := by
  rw [List.any_append, h.nul, List.any_cons, h.left.nul]
  rfl

/-- Once the archive is unpacked, the name of the directory makes no difference. -/
theorem read_eq {t : FileTree} (h : Interchangeable s parent archive path a b)
    (hall : Archive.Unpack.all (Workspace.tree ⟨s, parent ++ [a]⟩) (parent ++ [a])
      (Archive.Gzip.decode archive) = .ok t) :
    templateInArchive ⟨s, parent ++ [b]⟩ archive path =
      templateInArchive ⟨s, parent ++ [a]⟩ archive path := by
  have hrenaming := renaming_swap h.left h.right h.length
  have hrenamed := Archive.Unpack.all_rename hrenaming h.sparesLinks h.spared (parent ++ [a])
  have hlinks := Archive.Unpack.sparesLinks_of_all h.spared h.sparesLinks hall
  have hroot := (Archive.Unpack.settled_of_all h.settled hall).canonical h.directory_nul
  have hlocate := InnerPath.locate_rename hrenaming hlinks hroot
    (spares_swap h.unnamedBelow.1 h.unnamedBelow.2)
  rw [hall, ← h.tree, h.directory] at hrenamed
  rw [h.directory] at hlocate
  rw [templateInArchive_eq, templateInArchive_eq, hrenamed, hall]
  dsimp only [Archive.renamed, Except.map, mapError_ok, mapError_error]
  rw [hlocate]
  cases InnerPath.locate t (parent ++ [a]) path with
  | error e => rfl
  | ok l => exact readTemplate_rename hrenaming t l path

/-- Under two names that are shown differently, the attempts come to the same unless unpacking fails
over a member. -/
theorem templateInArchive_eq_iff (h : Interchangeable s parent archive path a b)
    (hne : Text.ofBytesLossy a ≠ Text.ofBytesLossy b) :
    templateInArchive ⟨s, parent ++ [a]⟩ archive path =
      templateInArchive ⟨s, parent ++ [b]⟩ archive path ↔
    ∀ f, Archive.Unpack.all (Workspace.tree ⟨s, parent ++ [a]⟩) (parent ++ [a])
      (Archive.Gzip.decode archive) = .error f → f = .unreadable := by
  cases hall : Archive.Unpack.all (Workspace.tree ⟨s, parent ++ [a]⟩) (parent ++ [a])
    (Archive.Gzip.decode archive) with
  | ok t => simp [h.read_eq hall]
  | error f =>
    have hrenamed := Archive.Unpack.all_rename (renaming_swap h.left h.right h.length) h.sparesLinks
      h.spared (parent ++ [a])
    rw [hall, ← h.tree, h.directory] at hrenamed
    rw [templateInArchive_eq, templateInArchive_eq, hall, hrenamed]
    dsimp only [Archive.renamed, Except.map, mapError_ok, mapError_error]
    rw [Except.error.injEq, ArtifactError.extract.injEq]
    constructor
    · rintro heq f' hf'
      obtain rfl := Except.error.inj hf'
      rcases Archive.Unpack.quotes_of_all h.settled h.directory_nul h.spared hall with
        hbroken | hquotes
      · exact hbroken
      · have hname : Text.ofBytesLossy (Equiv.swap a b a) ≠ Text.ofBytesLossy a := by
          rw [Equiv.swap_apply_left]
          exact hne.symm
        exact absurd heq.symm (hquotes.message_ne h.spares_parent hname)
    · intro hbroken
      rw [hbroken f rfl]
      rfl

end Interchangeable

/-! ## A link to nothing -/

namespace Sample

open Archive

/-- The header of a hard link to a file that the archive does not have. -/
def danglingHeader : List UInt8 :=
  Tar.Header.standard "copy.yaml" "00000000000" "011561" "1" "stack.yaml"

/-- The archive with this member only. -/
def dangling : ByteArray := Gzip.stored (Tar.single danglingHeader [])

def temporary : FileTree := ⟨[(location ["tmp"], .directory)]⟩

def extraction (name : FileName) : Workspace := ⟨temporary, location ["tmp"] ++ [name]⟩

theorem plain_danglingHeader :
    (Tar.Header.ofBytes danglingHeader).Plain ([] : List UInt8).length :=
  .ofBytes (by decide +kernel) (by decide +kernel) (by decide +kernel) (by decide +kernel)
    (by decide +kernel)

theorem members_dangling : ∃ m, (Tar.members (Gzip.decode dangling)).1 = [m] ∧
    m.names = location ["copy.yaml"] ∧ m.target = Text.utf8 "stack.yaml" ∧ m.kind = '1' := by
  have hbytes : (Gzip.decode dangling).bytes.toList =
      Tar.single (Tar.Header.ofBytes danglingHeader).block.toList [] := by
    rw [Tar.Header.toList_ofBytes]
    exact Gzip.bytes_stored (by decide +kernel)
  have hmembers := (Tar.members_of_single plain_danglingHeader (by decide) hbytes).1
  exact ⟨_, congrArg Prod.fst hmembers, by decide +kernel, by decide +kernel, by decide +kernel⟩

/-- The names of two attempts. -/
def attempted : List FileName := [Text.utf8 ".tmp1a", Text.utf8 ".tmp2b"]

theorem left_mem_attempted : Text.utf8 ".tmp1a" ∈ attempted := List.mem_cons_self

theorem right_mem_attempted : Text.utf8 ".tmp2b" ∈ attempted :=
  List.mem_cons_of_mem _ List.mem_cons_self

theorem eq_or_eq_of_mem_attempted {name : FileName} (h : name ∈ attempted) :
    name = Text.utf8 ".tmp1a" ∨ name = Text.utf8 ".tmp2b" := by
  simpa [attempted] using h

theorem freshName_attempted {name : FileName} (h : name ∈ attempted) :
    FreshName temporary name := by
  have hlocations : name ∉ location ["tmp"] ∧ ProperName name ∧ hasNul name = false := by
    rcases eq_or_eq_of_mem_attempted h with rfl | rfl <;> decide
  refine ⟨hlocations.2.1, hlocations.2.2, ?_, ?_⟩
  · intro e he
    rw [List.mem_singleton.1 he]
    exact hlocations.1
  · intro e he target hlink
    rw [List.mem_singleton.1 he] at hlink
    cases hlink

/-- The file the link refers to is not there. -/
theorem freeIn_attempted {name : FileName} (h : name ∈ attempted) :
    FreeIn (extraction name).tree (location ["tmp"] ++ [name]) (Text.utf8 "stack.yaml") := by
  rcases eq_or_eq_of_mem_attempted h with rfl | rfl <;>
    exact ⟨.enter (.enter (l := []) .root (by decide) (by decide) rfl) (by decide) (by decide) rfl,
      by decide, by decide, by decide, rfl⟩

theorem all_dangling {name : FileName} (h : name ∈ attempted) :
    Unpack.all (extraction name).tree (location ["tmp"] ++ [name]) (Gzip.decode dangling) =
      .error (.unpack (location ["tmp"] ++ [name] ++ location ["copy.yaml"])) := by
  obtain ⟨m, hmembers, hnames, htarget, hkind⟩ := members_dangling
  have hfree := freeIn_attempted h
  have hfiles : Unpack.files (Gzip.decode dangling) = [m] := by
    rw [Unpack.files, hmembers]
    simp [hkind]
  have hmissing : (extraction name).tree.resolve (location ["tmp"] ++ [name]) m.target =
      .error .notFound := by
    have hpath : hasNul (Text.utf8 "stack.yaml") = false ∧
        isAbsolute (Text.utf8 "stack.yaml") = false ∧
        pathNames (Text.utf8 "stack.yaml") = [Text.utf8 "stack.yaml"] := by decide
    rw [htarget, FileTree.resolve, hpath.1, hpath.2.1, hpath.2.2, if_neg Bool.false_ne_true,
      if_neg Bool.false_ne_true, FileTree.walk_missing hfree.proper hfree.admits hfree.free]
  have hcopy : Text.utf8 "copy.yaml" ≠ FileName.above := by decide
  rw [Unpack.all_eq, hfiles, Unpack.foldlM_cons_eq,
    Unpack.member_of_singleton hfree.settled hfree.nul_parts.1 hnames hcopy,
    Unpack.write_of_missing hkind hmissing]
  rfl

theorem interchangeable_dangling : Interchangeable temporary (location ["tmp"]) dangling "copy.yaml"
    (Text.utf8 ".tmp1a") (Text.utf8 ".tmp2b") := by
  obtain ⟨m, hmembers, hnames, htarget, -⟩ := members_dangling
  have hunmentioned : ∀ name ∈ attempted, ¬ Mentions (Gzip.decode dangling) name := by
    rintro name hname ⟨m', hm', hmentions⟩
    rw [hmembers] at hm'
    obtain rfl := List.mem_singleton.1 hm'
    rw [hnames, htarget] at hmentions
    revert hmentions
    rcases eq_or_eq_of_mem_attempted hname with rfl | rfl <;> decide
  exact ⟨freshName_attempted left_mem_attempted, freshName_attempted right_mem_attempted, rfl,
    (freeIn_attempted left_mem_attempted).settled, by decide, by decide,
    ⟨hunmentioned _ left_mem_attempted, hunmentioned _ right_mem_attempted⟩, by decide⟩

theorem shown_attempted :
    Text.ofBytesLossy (Text.utf8 ".tmp1a") ≠ Text.ofBytesLossy (Text.utf8 ".tmp2b") := by
  rw [Text.ofBytesLossy_utf8, Text.ofBytesLossy_utf8]
  decide

end Sample

open Sample in
theorem templateInArchive_ne_dangling :
    templateInArchive (extraction (Text.utf8 ".tmp1a")) dangling "copy.yaml" ≠
      templateInArchive (extraction (Text.utf8 ".tmp2b")) dangling "copy.yaml" := by
  intro heq
  have hbroken := (interchangeable_dangling.templateInArchive_eq_iff shown_attempted).1 heq _
    (all_dangling left_mem_attempted)
  cases hbroken

open Sample in
/-- The text of the fault is another one with every attempt. -/
theorem not_always_same_result : ¬ ∀ (s : FileTree) (parent : Location) (archive : ByteArray)
    (path : String) (a b : FileName), Interchangeable s parent archive path a b →
    templateInArchive ⟨s, parent ++ [a]⟩ archive path =
      templateInArchive ⟨s, parent ++ [b]⟩ archive path := by
  intro always
  have hfails : ∀ name ∈ attempted, templateInArchive (extraction name) dangling "copy.yaml" =
      .error (.extract (Archive.UnpackFault.unpack
        (location ["tmp"] ++ [name] ++ location ["copy.yaml"])).message) := by
    intro name hname
    rw [templateInArchive_eq,
      show (extraction name).directory = location ["tmp"] ++ [name] from rfl, all_dangling hname]
  have hsame : templateInArchive (extraction (Text.utf8 ".tmp1a")) dangling "copy.yaml" =
      templateInArchive (extraction (Text.utf8 ".tmp2b")) dangling "copy.yaml" :=
    always _ _ _ _ _ _ interchangeable_dangling
  rw [hfails _ left_mem_attempted, hfails _ right_mem_attempted, Except.error.injEq,
    ArtifactError.extract.injEq] at hsame
  revert hsame
  decide +kernel

end StackSync
