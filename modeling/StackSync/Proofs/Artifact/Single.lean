import StackSync.Artifact.Template
import StackSync.Proofs.Archive.Plain
import StackSync.Proofs.Archive.Unpacking
import StackSync.Proofs.Artifact.InnerPath
import StackSync.Proofs.Text.Cutting

/-!
# An archive with one file

What comes of an archive is decided in three steps (`templateInArchive_eq`): it is unpacked, the path
is looked up in what is there now, and the file is read. In a fresh directory none of them can go
wrong for an archive with one file, asked for by its name, so its text is what comes of it
(`templateInArchive_of_onlyFile`).
-/

namespace StackSync

open Archive

theorem templateInArchive_eq (w : Workspace) (archive : ByteArray) (path : String) :
    templateInArchive w archive path =
      match Unpack.all w.tree w.directory (Gzip.decode archive) with
      | .error f => .error (.extract f.message)
      | .ok t =>
        match InnerPath.locate t w.directory path with
        | .error e => .error e
        | .ok l => readTemplate t l path := by
  unfold templateInArchive
  cases Unpack.all w.tree w.directory (Gzip.decode archive) with
  | error f => rfl
  | ok t =>
    dsimp only [mapError_ok, mapError_error, bind, Except.bind]
    cases InnerPath.locate t w.directory path <;> rfl

/-- One regular file at the top, and nothing else. -/
def Archive.OnlyFile (s : Stream) (name : FileName) (content : ByteArray) : Prop :=
  ∃ m, Tar.members s = ([m], none) ∧ m.kind = '0' ∧ m.isStandard = true ∧ m.names = [name] ∧
    Unpack.content? s m.chunks = some content

/-- The directory is not behind a link, and the name can still be given in it. -/
structure FreeIn (t : FileTree) (l : Location) (name : FileName) : Prop where
  settled : t.Settled l
  proper : ProperName name
  nul : (l ++ [name]).any hasNul = false
  admits : admits l name = true
  free : t.node? (l ++ [name]) = none

variable {t : FileTree} {l : Location} {name : FileName} {content : ByteArray}

theorem FreeIn.nul_parts (h : FreeIn t l name) : l.any hasNul = false ∧ hasNul name = false := by
  have hnul := h.nul
  rwa [List.any_append, Bool.or_eq_false_iff, List.any_cons, List.any_nil, Bool.or_false] at hnul

theorem Archive.OnlyFile.of_single {s : Stream} {h : Tar.Header} {data : List UInt8}
    (h' : h.Plain data.length) (hdata : data.length < 65536)
    (hbytes : s.bytes.toList = Tar.single h.block.toList data) (hkind : h.kind = '0')
    (hstandard : h.isStandard = true)
    (hnames : (pathNames h.path).filter (fun n => n ≠ [] ∧ n ≠ FileName.here) = [name]) :
    OnlyFile s name ⟨data.toArray⟩ := by
  obtain ⟨hmembers, hread⟩ := Tar.members_of_single h' hdata hbytes
  refine ⟨_, hmembers, hkind, hstandard, hnames, ?_⟩
  have hnothing : ByteArray.empty ++ ⟨data.toArray⟩ = (⟨data.toArray⟩ : ByteArray) :=
    ByteArray.empty_append
  show Unpack.content? s [.data Tar.blockSize data.length] = _
  simp only [Unpack.content?, List.foldlM_cons, List.foldlM_nil, hread, Option.map_some, hnothing]
  rfl

theorem Archive.OnlyFile.all_eq {s : Stream} (h : OnlyFile s name content)
    (hfree : FreeIn t l name) :
    Unpack.all t l s = .ok (t.insert (l ++ [name]) (.file content)) := by
  obtain ⟨m, hmembers, hkind, hstandard, hnames, hcontent⟩ := h
  have hfiles : Unpack.files s = [m] ∧ Unpack.directories s = [] := by
    rw [Unpack.files, Unpack.directories, hmembers]
    simp [hkind]
  have hplace := hfree.settled.place_concat hfree.nul hfree.admits
  rw [Unpack.all_eq, hfiles.1, hfiles.2, hmembers, Unpack.foldlM_cons_eq,
    Unpack.member_of_singleton hfree.settled hfree.nul_parts.1 hnames hfree.proper.2.2,
    Unpack.write_of_file hkind hstandard hcontent hplace hfree.free]
  rfl

/-- Once it is trimmed, the path is the name and nothing else. -/
structure Names (path : String) (name : FileName) : Prop where
  trimmed : Text.utf8 (Text.trim path) = name
  single : 0x2F ∉ name

theorem Names.pathNames_eq {path : String} (h : Names path name) : pathNames name = [name] :=
  Text.pieces_of_not_mem h.single

theorem Names.inner {path : String} (h : Names path name) (hproper : ProperName name) :
    InnerPath.Inner path := by
  refine ⟨?_, ?_, ?_⟩
  · intro hempty
    have hname := h.trimmed
    rw [hempty] at hname
    exact hproper.1 hname.symm
  · intro hslash
    rw [h.trimmed] at hslash
    exact h.single (List.mem_of_mem_head? hslash)
  · rw [h.trimmed, h.pathNames_eq, List.mem_singleton]
    exact hproper.2.2.symm

/-- A file that is put at the root is found there by its name. -/
theorem FreeIn.locate_insert {path : String} (h : FreeIn t l name) (hnames : Names path name) :
    InnerPath.locate (t.insert (l ++ [name]) (.file content)) l path = .ok (l ++ [name]) := by
  obtain ⟨hnul, hname⟩ := h.nul_parts
  have hnode : (t.insert (l ++ [name]) (.file content)).node? (l ++ [name]) =
      some (.file content) := by
    rw [FileTree.node?_insert (by simp), if_pos rfl]
  have hamends : t.Amends (t.insert (l ++ [name]) (.file content)) fun _ => False :=
    .insert h.free fun _ heq => by cases heq
  have hroot := (h.settled.amends hamends).canonical hnul
  have habsolute : isAbsolute name = false := by
    have hrelative := (hnames.inner h.proper).relative
    rw [hnames.trimmed] at hrelative
    simpa [isAbsolute] using hrelative
  have hresolve : (t.insert (l ++ [name]) (.file content)).resolve l name = .ok (l ++ [name]) := by
    rw [FileTree.resolve, hname, habsolute, hnames.pathNames_eq, if_neg Bool.false_ne_true,
      if_neg Bool.false_ne_true, FileTree.walk_file h.proper h.admits hnode]
    rfl
  refine (InnerPath.locate_eq_ok_iff_resolve hroot (hnames.inner h.proper)).2
    ⟨?_, ?_, content, hnode⟩
  · rw [hnames.trimmed, hresolve]
  · exact List.prefix_append _ _

/-- In a fresh directory, an archive with one file gives the text of the file to whoever asks for
its name. -/
theorem templateInArchive_of_onlyFile {w : Workspace} {archive : ByteArray} {path text : String}
    (hfree : FreeIn w.tree w.directory name) (honly : OnlyFile (Gzip.decode archive) name content)
    (hnames : Names path name) (htext : String.fromUTF8? content = some text) :
    templateInArchive w archive path = .ok text := by
  rw [templateInArchive_eq, honly.all_eq hfree]
  dsimp only
  rw [hfree.locate_insert hnames]
  dsimp only
  rw [readTemplate, FileTree.node?_insert (by simp), if_pos rfl]
  dsimp only
  rw [htext]

end StackSync
