import StackSync.Archive.Unpack
import StackSync.Proofs.FileTree.Renaming
import StackSync.Proofs.Text.Lossy

/-!
# Unpacking under another name

An archive is unpacked below a directory whose name it does not know. So the name cannot matter for
what is written, and it does not: with the directory renamed, everything is as it was, one name
apart (`all_rename`). The faults are renamed too, and this is where it shows, because most of them
quote a place. Which places these are is the other half: they all start at the destination
(`quotes_of_all`), so that of all faults only the one about a broken archive stays the same.

What is used of a tree from member to member is that its links mention no name that changes, and
that the destination is still where it was; both follow from `Amends`.
-/

namespace StackSync.Archive

/-- The member mentions no name that is changed. -/
structure Tar.Member.Spared (ρ : FileName → FileName) (m : Tar.Member) : Prop where
  names : Spares ρ m.names
  target : Spares ρ (pathNames m.target)

namespace UnpackFault

def rename (ρ : FileName → FileName) : UnpackFault → UnpackFault
  | .unreadable => .unreadable
  | .unpack place => .unpack (place.map ρ)
  | .create directory => .create (directory.map ρ)
  | .outside destination => .outside (destination.map ρ)
  | .unresolved fault directory => .unresolved fault (directory.map ρ)

/-- The fault quotes the destination, or a place below it that has no changing name behind it. -/
def Quotes (ρ : FileName → FileName) (destination : Location) (f : UnpackFault) : Prop :=
  ∃ below, Spares ρ below ∧ (f = .unpack (destination ++ below) ∨ f = .create (destination ++ below) ∨
    f = .outside (destination ++ below) ∨ ∃ fault, f = .unresolved fault (destination ++ below))

end UnpackFault

def renamed (ρ : FileName → FileName) (x : Except UnpackFault FileTree) :
    Except UnpackFault FileTree :=
  (x.mapError (·.rename ρ)).map (·.rename ρ)

namespace Unpack

variable {ρ : FileName → FileName} {t t' : FileTree} {destination l : Location} {s : Stream}
  {m : Tar.Member} {f : UnpackFault}

/-! ## Rows of steps -/

section Steps

variable {α : Type} {steps : List α} {step step' : FileTree → α → Except UnpackFault FileTree}
  {I : FileTree → Prop}

theorem foldlM_cons_eq (a : α) :
    (a :: steps).foldlM step t = (match step t a with
      | .error f => .error f
      | .ok u => steps.foldlM step u) := by
  rw [List.foldlM_cons]
  cases step t a <;> rfl

theorem foldlM_rename (hkeeps : ∀ a ∈ steps, ∀ t t', I t → step t a = .ok t' → I t')
    (hstep : ∀ a ∈ steps, ∀ t, I t → step' (t.rename ρ) a = renamed ρ (step t a)) (ht : I t) :
    steps.foldlM step' (t.rename ρ) = renamed ρ (steps.foldlM step t) := by
  induction steps generalizing t with
  | nil => rfl
  | cons a steps ih =>
    rw [foldlM_cons_eq, foldlM_cons_eq, hstep a List.mem_cons_self t ht]
    cases hrun : step t a with
    | error f => rfl
    | ok u =>
      exact ih (fun b hb => hkeeps b (List.mem_cons_of_mem _ hb))
        (fun b hb => hstep b (List.mem_cons_of_mem _ hb)) (hkeeps a List.mem_cons_self t u ht hrun)

theorem foldlM_keeps (hkeeps : ∀ a ∈ steps, ∀ t t', I t → step t a = .ok t' → I t') (ht : I t)
    (h : steps.foldlM step t = .ok t') : I t' := by
  induction steps generalizing t with
  | nil =>
    obtain rfl := Except.ok.inj h
    exact ht
  | cons a steps ih =>
    rw [foldlM_cons_eq] at h
    cases hrun : step t a with
    | error f =>
      rw [hrun] at h
      cases h
    | ok u =>
      rw [hrun] at h
      exact ih (fun b hb => hkeeps b (List.mem_cons_of_mem _ hb))
        (hkeeps a List.mem_cons_self t u ht hrun) h

/-- A row of steps fails because one of them does. -/
theorem exists_of_foldlM_error (hkeeps : ∀ a ∈ steps, ∀ t t', I t → step t a = .ok t' → I t')
    (ht : I t) (h : steps.foldlM step t = .error f) :
    ∃ a ∈ steps, ∃ u, I u ∧ step u a = .error f := by
  induction steps generalizing t with
  | nil => cases h
  | cons a steps ih =>
    rw [foldlM_cons_eq] at h
    cases hrun : step t a with
    | error f' =>
      rw [hrun] at h
      obtain rfl := Except.error.inj h
      exact ⟨a, List.mem_cons_self, t, ht, hrun⟩
    | ok u =>
      rw [hrun] at h
      obtain ⟨b, hb, v, hv, hfails⟩ := ih (fun b hb => hkeeps b (List.mem_cons_of_mem _ hb))
        (hkeeps a List.mem_cons_self t u ht hrun) h
      exact ⟨b, List.mem_cons_of_mem _ hb, v, hv, hfails⟩

end Steps

/-! ## What members leave alone -/

theorem mapError_eq_ok {ε ε' α : Type} {x : Except ε α} {g : ε → ε'} {a : α}
    (h : x.mapError g = .ok a) : x = .ok a := by
  cases x with
  | error e => cases h
  | ok b => rw [Except.ok.inj h]

theorem amends_of_makeDirectory {here : Location} {fresh : List UInt8 → Prop}
    (h : (do
      (checkInside t destination here.dropLast).mapError fun _ => UnpackFault.create l
      (t.addDirectory here).mapError fun _ => UnpackFault.create l) = .ok t') :
    t.Amends t' fresh := by
  cases hinside : checkInside t destination here.dropLast with
  | error f' =>
    rw [hinside] at h
    cases h
  | ok _ =>
    rw [hinside] at h
    exact .addDirectory (mapError_eq_ok h)

theorem amends_of_makeDirectories {fresh : List UInt8 → Prop}
    (h : makeDirectories destination l t = .ok t') : t.Amends t' fresh := by
  unfold makeDirectories at h
  refine foldlM_keeps (I := (t.Amends · fresh)) ?_ (.refl t fresh) h
  intro here _ u u' hu hrun
  exact hu.trans (amends_of_makeDirectory hrun)

theorem amends_of_writeHardLink {place : Location} {target : List UInt8} {fresh : List UInt8 → Prop}
    (h : writeHardLink t destination place target = .ok t') : t.Amends t' fresh := by
  unfold writeHardLink at h
  dsimp only at h
  cases hfound : t.resolve destination target with
  | error fault =>
    rw [hfound] at h
    cases h
  | ok found =>
    rw [hfound] at h
    dsimp only [mapError_ok, mapError_error, bind, Except.bind] at h
    split at h
    · cases h
    · cases hsource : linkSource t destination target with
      | error fault =>
        rw [hsource] at h
        cases h
      | ok source =>
        rw [hsource] at h
        exact .addName (mapError_eq_ok h)

theorem amends_of_write {place : Location} (h : write s m destination place t = .ok t') :
    t.Amends t' (· = m.target) := by
  unfold write at h
  dsimp only at h
  split at h
  · exact .addDirectory (mapError_eq_ok h)
  · split at h
    · cases h
    · exact amends_of_writeHardLink h
  · split at h
    · cases h
    · exact .relink (mapError_eq_ok h) rfl
  iterate 4
    · obtain rfl := Except.ok.inj h
      exact .refl t _
  · split at h
    · exact .addDirectory (mapError_eq_ok h)
    · split at h
      · cases h
      · exact .replace (mapError_eq_ok h) fun _ heq => by cases heq

theorem amends_of_member (h : member s destination t m = .ok t') :
    t.Amends t' (· = m.target) := by
  unfold member at h
  split at h
  · obtain rfl := Except.ok.inj h
    exact .refl t _
  · dsimp only at h
    cases hmade : makeDirectories destination (destination ++ m.names).dropLast t with
    | error f' =>
      rw [hmade] at h
      cases h
    | ok u =>
      rw [hmade] at h
      dsimp only [bind, Except.bind] at h
      cases hinside : checkInside u destination (destination ++ m.names).dropLast with
      | error f' =>
        rw [hinside] at h
        cases h
      | ok _ =>
        rw [hinside] at h
        exact (amends_of_makeDirectories hmade).trans (amends_of_write h)

/-! ## Renaming -/

theorem checkInside_rename (h : Renaming ρ) (hlinks : t.SparesLinks ρ) (destination l : Location) :
    checkInside (t.rename ρ) (destination.map ρ) (l.map ρ) =
      (checkInside t destination l).mapError (·.rename ρ) := by
  unfold checkInside
  rw [FileTree.canonical_rename h hlinks, FileTree.canonical_rename h hlinks]
  cases t.canonical l with
  | error fault => rfl
  | ok here =>
    cases t.canonical destination with
    | error fault => rfl
    | ok root =>
      dsimp only [Except.map, mapError_ok, mapError_error, bind, Except.bind]
      rw [h.isPrefixOf_map]
      split <;> rfl

theorem missing_rename (h : Renaming ρ) (hlinks : t.SparesLinks ρ) (l : Location) :
    missing (t.rename ρ) (l.map ρ) = (missing t l).map (List.map ρ) := by
  have htakes : ((List.range (l.length + 1)).reverse.map ((l.map ρ).take ·)) =
      ((List.range (l.length + 1)).reverse.map (l.take ·)).map (List.map ρ) := by
    rw [List.map_map]
    exact List.map_congr_left fun _ _ => List.map_take.symm
  have hinspect : ∀ here : Location, (t.rename ρ).inspect (here.map ρ) = t.inspect here :=
    fun here => FileTree.inspect_rename h hlinks here
  unfold missing
  rw [List.length_map, htakes, List.takeWhile_map]
  simp only [Function.comp_def, hinspect, List.map_reverse]

theorem makeDirectories_rename (h : Renaming ρ) (hlinks : t.SparesLinks ρ)
    (destination l : Location) :
    makeDirectories (destination.map ρ) (l.map ρ) (t.rename ρ) =
      renamed ρ (makeDirectories destination l t) := by
  unfold makeDirectories
  rw [missing_rename h hlinks, List.foldlM_map]
  refine foldlM_rename (I := (·.SparesLinks ρ)) ?_ ?_ hlinks
  · intro here _ t t' ht hrun
    exact ht.amends (amends_of_makeDirectory hrun) fun _ => False.elim
  · intro here _ t ht
    rw [← List.map_dropLast, checkInside_rename h ht, FileTree.addDirectory_rename h ht]
    cases checkInside t destination here.dropLast with
    | error f => rfl
    | ok _ => cases t.addDirectory here <;> rfl

theorem linkSource_rename (h : Renaming ρ) (hlinks : t.SparesLinks ρ) {target : List UInt8}
    (htarget : Spares ρ (pathNames target)) (destination : Location) :
    linkSource (t.rename ρ) (destination.map ρ) target =
      (linkSource t destination target).map (List.map ρ) := by
  have hdirectory : (pathNames target).dropLast.map ρ = (pathNames target).dropLast := by
    rw [List.map_dropLast, htarget]
  have hlast : ρ ((pathNames target).getLast?.getD []) = (pathNames target).getLast?.getD [] := by
    cases hl : (pathNames target).getLast? with
    | none => exact h.empty
    | some name =>
      have hmap := List.getLast?_map (f := ρ) (l := pathNames target)
      rw [htarget, hl] at hmap
      exact (Option.some.inj hmap).symm
  have hwalk := FileTree.walk_rename h hlinks maxLinks (if isAbsolute target then [] else destination)
    (pathNames target).dropLast
  have hstart : (if isAbsolute target = true then [] else destination).map ρ =
      if isAbsolute target = true then [] else destination.map ρ := by
    split <;> rfl
  rw [hdirectory, hstart] at hwalk
  unfold linkSource
  dsimp only
  rw [hwalk]
  cases t.walk maxLinks (if isAbsolute target then [] else destination)
    (pathNames target).dropLast with
  | error fault => rfl
  | ok directory =>
    dsimp only [Except.map, bind, Except.bind]
    simp [pure, Except.pure, hlast]

theorem writeHardLink_rename (h : Renaming ρ) (hlinks : t.SparesLinks ρ) {target : List UInt8}
    (htarget : Spares ρ (pathNames target)) (destination place : Location) :
    writeHardLink (t.rename ρ) (destination.map ρ) (place.map ρ) target =
      renamed ρ (writeHardLink t destination place target) := by
  unfold writeHardLink
  dsimp only
  rw [FileTree.resolve_rename h hlinks htarget, linkSource_rename h hlinks htarget]
  cases t.resolve destination target with
  | error fault => rfl
  | ok found =>
    dsimp only [Except.map, mapError_ok, mapError_error, bind, Except.bind]
    rw [h.isPrefixOf_map]
    split
    · rfl
    · cases linkSource t destination target with
      | error fault => rfl
      | ok source =>
        dsimp only [mapError_ok]
        rw [FileTree.addName_rename h hlinks]
        cases t.addName source place <;> rfl

theorem renamed_unpack (ρ : FileName → FileName) (x : Except FileFault FileTree)
    (place : Location) :
    ((x.map (·.rename ρ)).mapError fun _ => UnpackFault.unpack (place.map ρ)) =
      renamed ρ (x.mapError fun _ => .unpack place) := by
  cases x <;> rfl

theorem write_rename (h : Renaming ρ) (hlinks : t.SparesLinks ρ) (hm : m.Spared ρ)
    (s : Stream) (destination place : Location) :
    write s m (destination.map ρ) (place.map ρ) (t.rename ρ) =
      renamed ρ (write s m destination place t) := by
  unfold write
  dsimp only
  split
  · rw [FileTree.addDirectory_rename h hlinks]
    exact renamed_unpack ρ _ place
  · split
    · rfl
    · exact writeHardLink_rename h hlinks hm.target destination place
  · split
    · rfl
    · have hrelink := FileTree.relink_rename h hlinks place m.target
      show ((t.rename ρ).relink (place.map ρ) m.target).mapError _ =
        renamed ρ ((t.relink place m.target).mapError _)
      rw [hrelink]
      exact renamed_unpack ρ _ place
  iterate 4
    · rfl
  · split
    · rw [FileTree.addDirectory_rename h hlinks]
      exact renamed_unpack ρ _ place
    · split
      · rfl
      · rw [FileTree.replace_rename h hlinks]
        exact renamed_unpack ρ _ place

theorem member_rename (h : Renaming ρ) (hlinks : t.SparesLinks ρ) (hm : m.Spared ρ)
    (s : Stream) (destination : Location) :
    member s (destination.map ρ) (t.rename ρ) m = renamed ρ (member s destination t m) := by
  have hplace : destination.map ρ ++ m.names = (destination ++ m.names).map ρ := by
    rw [List.map_append, hm.names]
  unfold member
  split
  · rfl
  · dsimp only
    rw [hplace, ← List.map_dropLast, makeDirectories_rename h hlinks]
    cases hmade : makeDirectories destination (destination ++ m.names).dropLast t with
    | error f' => rfl
    | ok u =>
      have hu : u.SparesLinks ρ := by
        have hamends : t.Amends u fun _ => False := amends_of_makeDirectories hmade
        exact hlinks.amends hamends fun _ => False.elim
      show (checkInside (u.rename ρ) _ _ >>= fun _ => _) = renamed ρ (checkInside u _ _ >>= fun _ => _)
      rw [checkInside_rename h hu]
      cases checkInside u destination (destination ++ m.names).dropLast with
      | error f' => rfl
      | ok _ => exact write_rename h hu hm s destination _

/-! ## What faults quote -/

theorem mapError_eq_error {ε ε' α : Type} {x : Except ε α} {g : ε → ε'} {e : ε'}
    (h : x.mapError g = .error e) : ∃ e', x = .error e' ∧ e = g e' := by
  cases x with
  | error e' => exact ⟨e', rfl, (Except.error.inj h).symm⟩
  | ok a => cases h

theorem quotes_of_checkInside {below : Location}
    (hdestination : t.canonical destination = .ok destination) (hbelow : Spares ρ below)
    (h : checkInside t destination (destination ++ below) = .error f) :
    f.Quotes ρ destination := by
  unfold checkInside at h
  rw [hdestination] at h
  cases hhere : t.canonical (destination ++ below) with
  | error fault =>
    rw [hhere] at h
    obtain rfl := (Except.error.inj h)
    exact ⟨below, hbelow, .inr (.inr (.inr ⟨fault, rfl⟩))⟩
  | ok here =>
    rw [hhere] at h
    dsimp only [mapError_ok, mapError_error, bind, Except.bind] at h
    split at h
    · obtain rfl := (Except.error.inj h)
      exact ⟨[], rfl, .inr (.inr (.inl (by rw [List.append_nil])))⟩
    · cases h

theorem eq_of_makeDirectories (h : makeDirectories destination l t = .error f) : f = .create l := by
  unfold makeDirectories at h
  obtain ⟨here, -, u, -, hfails⟩ := exists_of_foldlM_error (I := fun _ => True)
    (fun _ _ _ _ _ _ => trivial) trivial h
  cases hinside : checkInside u destination here.dropLast with
  | error f' =>
    rw [hinside] at hfails
    exact (Except.error.inj hfails).symm
  | ok _ =>
    rw [hinside] at hfails
    obtain ⟨-, -, heq⟩ := mapError_eq_error hfails
    exact heq

theorem eq_of_writeHardLink {place : Location} {target : List UInt8}
    (h : writeHardLink t destination place target = .error f) : f = .unpack place := by
  unfold writeHardLink at h
  dsimp only at h
  cases hfound : t.resolve destination target with
  | error fault =>
    rw [hfound] at h
    exact (Except.error.inj h).symm
  | ok found =>
    rw [hfound] at h
    dsimp only [mapError_ok, mapError_error, bind, Except.bind] at h
    split at h
    · exact (Except.error.inj h).symm
    · cases hsource : linkSource t destination target with
      | error fault =>
        rw [hsource] at h
        exact (Except.error.inj h).symm
      | ok source =>
        rw [hsource] at h
        obtain ⟨-, -, heq⟩ := mapError_eq_error h
        exact heq

theorem eq_of_write {place : Location} (h : write s m destination place t = .error f) :
    f = .unpack place := by
  have hmapped : ∀ {x : Except FileFault FileTree},
      (x.mapError fun _ => UnpackFault.unpack place) = .error f → f = .unpack place := by
    intro x hx
    obtain ⟨-, -, heq⟩ := mapError_eq_error hx
    exact heq
  unfold write at h
  dsimp only at h
  split at h
  · exact hmapped h
  · split at h
    · exact (Except.error.inj h).symm
    · exact eq_of_writeHardLink h
  · split at h
    · exact (Except.error.inj h).symm
    · exact hmapped h
  iterate 4
    · cases h
  · split at h
    · exact hmapped h
    · split at h
      · exact (Except.error.inj h).symm
      · exact hmapped h

theorem quotes_of_member (ht : t.Settled destination) (hnul : destination.any hasNul = false)
    (hm : Spares ρ m.names) (h : member s destination t m = .error f) :
    f.Quotes ρ destination := by
  have hlast : Spares ρ m.names.dropLast := by
    rw [Spares, List.map_dropLast, hm]
  unfold member at h
  split at h
  · cases h
  · next hnames =>
    have hne : m.names ≠ [] := fun hnil => hnames (.inr (by rw [hnil]; rfl))
    dsimp only at h
    rw [List.dropLast_append_of_ne_nil hne] at h
    cases hmade : makeDirectories destination (destination ++ m.names.dropLast) t with
    | error f' =>
      rw [hmade] at h
      obtain rfl := Except.error.inj h
      exact ⟨_, hlast, .inr (.inl (eq_of_makeDirectories hmade))⟩
    | ok u =>
      rw [hmade] at h
      dsimp only [bind, Except.bind] at h
      have hamends : t.Amends u fun _ => False := amends_of_makeDirectories hmade
      cases hinside : checkInside u destination (destination ++ m.names.dropLast) with
      | error f' =>
        rw [hinside] at h
        obtain rfl := Except.error.inj h
        exact quotes_of_checkInside ((ht.amends hamends).canonical hnul) hlast hinside
      | ok _ =>
        rw [hinside] at h
        exact ⟨m.names, hm, .inl (eq_of_write h)⟩

/-! ## Members at the top of the archive -/

theorem missing_of_settled (ht : t.Settled l) (hnul : l.any hasNul = false) : missing t l = [] := by
  unfold missing
  rw [List.range_succ, List.reverse_append, List.reverse_singleton, List.singleton_append,
    List.map_cons, List.take_length, List.takeWhile_cons_of_neg, List.reverse_nil]
  rw [ht.inspect hnul]
  exact Bool.false_ne_true

theorem checkInside_of_settled (ht : t.Settled l) (hnul : l.any hasNul = false) :
    checkInside t l l = .ok () := by
  unfold checkInside
  rw [ht.canonical hnul]
  dsimp only [mapError_ok, mapError_error, bind, Except.bind]
  rw [List.isPrefixOf_iff_prefix.2 (List.prefix_refl l)]
  rfl

theorem member_of_singleton {name : FileName} (ht : t.Settled destination)
    (hnul : destination.any hasNul = false) (hnames : m.names = [name]) (hname : name ≠ .above) :
    member s destination t m = write s m destination (destination ++ [name]) t := by
  unfold member
  rw [hnames, if_neg (by simp [hname.symm])]
  dsimp only
  rw [List.dropLast_concat, makeDirectories, missing_of_settled ht hnul]
  show (checkInside t destination destination >>= fun _ => _) = _
  rw [checkInside_of_settled ht hnul]
  rfl

/-- A hard link to something that cannot be found does not get unpacked. -/
theorem write_of_missing {place : Location} {fault : FileFault} (hkind : m.kind = '1')
    (hmissing : t.resolve destination m.target = .error fault) :
    write s m destination place t = .error (.unpack place) := by
  have hwrite : write s m destination place t =
      if m.target.isEmpty then .error (.unpack place)
      else writeHardLink t destination place m.target := by
    simp only [write, hkind]
  rw [hwrite]
  split
  · rfl
  · unfold writeHardLink
    rw [hmissing]
    rfl

/-- A file is put where nothing stands. -/
theorem write_of_file {place : Location} {content : ByteArray} (hkind : m.kind = '0')
    (hstandard : m.isStandard = true) (hcontent : content? s m.chunks = some content)
    (hplace : t.place place = .ok place) (hfree : t.node? place = none) :
    write s m destination place t = .ok (t.insert place (.file content)) := by
  have hadd : t.add place (.file content) = .ok (t.insert place (.file content)) := by
    unfold FileTree.add
    rw [hplace]
    dsimp only [bind, Except.bind]
    rw [hfree]
    rfl
  simp only [write, hkind, hstandard, hcontent, FileTree.replace, hadd]
  rfl

/-! ## The whole archive -/

/-- The members that are unpacked first, and those that are unpacked last. -/
def files (s : Stream) : List Tar.Member := (Tar.members s).1.filter (·.kind ≠ '5')

def directories (s : Stream) : List Tar.Member :=
  ((Tar.members s).1.filter (·.kind = '5')).mergeSort fun a b => bytesBefore b.path a.path

theorem mem_members_of_mem_files (h : m ∈ files s) : m ∈ (Tar.members s).1 :=
  (List.mem_filter.1 h).1

theorem mem_members_of_mem_directories (h : m ∈ directories s) : m ∈ (Tar.members s).1 :=
  (List.mem_filter.1 (List.mem_mergeSort.1 h)).1

theorem all_eq (t : FileTree) (destination : Location) (s : Stream) :
    all t destination s =
      match (files s).foldlM (member s destination) t with
      | .error f => .error f
      | .ok u =>
        if (Tar.members s).2.isSome then .error .unreadable
        else (directories s).foldlM (member s destination) u := by
  unfold all files directories
  dsimp only
  cases ((Tar.members s).1.filter (·.kind ≠ '5')).foldlM (member s destination) t with
  | error f' => rfl
  | ok u =>
    dsimp only [bind, Except.bind]
    split <;> rfl

theorem all_keeps {I : FileTree → Prop} (hkeeps : ∀ m ∈ (Tar.members s).1, ∀ t t', I t →
    member s destination t m = .ok t' → I t') (ht : I t) (h : all t destination s = .ok t') :
    I t' := by
  rw [all_eq] at h
  split at h
  · cases h
  · next u hfiles =>
    have hu := foldlM_keeps (fun m hm => hkeeps m (mem_members_of_mem_files hm)) ht hfiles
    split at h
    · cases h
    · exact foldlM_keeps (fun m hm => hkeeps m (mem_members_of_mem_directories hm)) hu h

theorem settled_of_all (ht : t.Settled destination) (h : all t destination s = .ok t') :
    t'.Settled destination :=
  all_keeps (I := (·.Settled destination)) (fun _ _ _ _ hu hrun => hu.amends (amends_of_member hrun))
    ht h

theorem sparesLinks_of_all (hspared : ∀ m ∈ (Tar.members s).1, m.Spared ρ) (ht : t.SparesLinks ρ)
    (h : all t destination s = .ok t') : t'.SparesLinks ρ :=
  all_keeps (I := (·.SparesLinks ρ)) (fun m hm _ _ hu hrun =>
    hu.amends (amends_of_member hrun) fun _ heq => heq ▸ (hspared m hm).target) ht h

/-- Unpacking fails because the archive is broken, or with a fault that quotes where it unpacks. -/
theorem quotes_of_all (ht : t.Settled destination) (hnul : destination.any hasNul = false)
    (hspared : ∀ m ∈ (Tar.members s).1, m.Spared ρ) (h : all t destination s = .error f) :
    f = .unreadable ∨ f.Quotes ρ destination := by
  have hkeeps : ∀ m, ∀ t t' : FileTree, t.Settled destination →
      member s destination t m = .ok t' → t'.Settled destination :=
    fun _ _ _ hu hrun => hu.amends (amends_of_member hrun)
  have hquotes : ∀ {steps : List Tar.Member} {u : FileTree}, (∀ m ∈ steps, m ∈ (Tar.members s).1) →
      u.Settled destination → steps.foldlM (member s destination) u = .error f →
      f.Quotes ρ destination := by
    intro steps u hsteps hu hrun
    obtain ⟨m, hm, v, hv, hfails⟩ := exists_of_foldlM_error (I := (·.Settled destination))
      (fun m _ => hkeeps m) hu hrun
    exact quotes_of_member hv hnul (hspared m (hsteps m hm)).names hfails
  rw [all_eq] at h
  split at h
  · next hrun =>
    obtain rfl := Except.error.inj h
    exact .inr (hquotes (fun _ => mem_members_of_mem_files) ht hrun)
  · next u hrun =>
    split at h
    · exact .inl (Except.error.inj h).symm
    · have hu := foldlM_keeps (I := (·.Settled destination)) (fun m _ => hkeeps m) ht hrun
      exact .inr (hquotes (fun _ => mem_members_of_mem_directories) hu h)

/-- With its destination renamed, an archive that mentions neither name is unpacked to the same tree
but for the name, or it fails with the same fault but for the name. -/
theorem all_rename (h : Renaming ρ) (hlinks : t.SparesLinks ρ)
    (hspared : ∀ m ∈ (Tar.members s).1, m.Spared ρ) (destination : Location) :
    all (t.rename ρ) (destination.map ρ) s = renamed ρ (all t destination s) := by
  have hkeeps : ∀ m ∈ (Tar.members s).1, ∀ t t' : FileTree, t.SparesLinks ρ →
      member s destination t m = .ok t' → t'.SparesLinks ρ :=
    fun m hm _ _ hu hrun => hu.amends (amends_of_member hrun) fun _ heq => heq ▸ (hspared m hm).target
  have hsteps : ∀ {steps : List Tar.Member} {u : FileTree}, (∀ m ∈ steps, m ∈ (Tar.members s).1) →
      u.SparesLinks ρ → steps.foldlM (member s (destination.map ρ)) (u.rename ρ) =
        renamed ρ (steps.foldlM (member s destination) u) := fun hmem hu =>
    foldlM_rename (I := (·.SparesLinks ρ)) (fun m hm => hkeeps m (hmem m hm))
      (fun m hm _ hv => member_rename h hv (hspared m (hmem m hm)) s destination) hu
  rw [all_eq, all_eq, hsteps (fun _ => mem_members_of_mem_files) hlinks]
  cases hrun : (files s).foldlM (member s destination) t with
  | error f' => rfl
  | ok u =>
    have hu := foldlM_keeps (I := (·.SparesLinks ρ))
      (fun m hm => hkeeps m (mem_members_of_mem_files hm)) hlinks hrun
    dsimp only [renamed, Except.map, mapError_ok, mapError_error]
    split
    · rfl
    · exact hsteps (fun _ => mem_members_of_mem_directories) hu

end Unpack

/-! ## The text of a fault -/

/-- A fault that quotes the destination says so: renamed, it has another text. -/
theorem UnpackFault.Quotes.message_ne {ρ : FileName → FileName} {parent : Location}
    {name : FileName} {f : UnpackFault} (h : f.Quotes ρ (parent ++ [name])) (hparent : Spares ρ parent)
    (hname : Text.ofBytesLossy (ρ name) ≠ Text.ofBytesLossy name) :
    (f.rename ρ).message ≠ f.message := by
  obtain ⟨below, hbelow, hf⟩ := h
  have hmap : (parent ++ [name] ++ below).map ρ = parent ++ ρ name :: below := by
    rw [List.map_append, List.map_append, hparent, hbelow]
    simp
  have htext : Location.text ((parent ++ [name] ++ below).map ρ) ≠
      Location.text (parent ++ [name] ++ below) := by
    rw [hmap, List.append_assoc]
    exact Location.text_ne_of_ne hname parent below
  rcases hf with rfl | rfl | rfl | ⟨fault, rfl⟩
  · exact fun heq => htext ((String.append_right_inj _).1 ((String.append_left_inj _).1 heq))
  · exact fun heq => htext ((String.append_right_inj _).1 ((String.append_left_inj _).1 heq))
  · exact fun heq => htext ((String.append_right_inj _).1 heq)
  · exact fun heq => htext ((String.append_right_inj _).1 heq)

end StackSync.Archive
