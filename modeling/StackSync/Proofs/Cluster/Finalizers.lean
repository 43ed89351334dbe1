import StackSync.Cluster.Round
import StackSync.Proofs.Cloud.Store
import StackSync.Proofs.Reconcile.Finalizer
import StackSync.Proofs.Reconcile.Writers
import StackSync.Reconcile.Persist

/-!
# The finalizers of other controllers

A round adds its finalizer, or takes it away, by a merge patch of the whole list, and it makes that list from
the snapshot it was given. A merge patch replaces lists. So the list that is stored afterwards is the one of
the snapshot with that one change, whatever other controllers have stored by then: a finalizer that was added
since the snapshot is lost, and one that was taken away since is there again. The main theorem says exactly
which stored lists come out as they should.
-/

namespace StackSync

/-! ## Merge patches of one field -/

namespace Json

theorem field?_eq_get? (object : Json) (key : String) :
    object.field? key = Fields.get? key (fieldsOf object) := by
  cases object <;> rfl

/-- A patch of one field merges into that field and leaves the others as they are. -/
theorem field?_mergePatch_record (object change : Json) (key other : String) (h : change ≠ .null) :
    (object.mergePatch (.record [(key, change)])).field? other =
      if key = other then some (((object.field? key).getD .null).mergePatch change)
      else object.field? other := by
  have hrecord : Json.record [(key, change)] = .object [(key, change)] := rfl
  have hfields : mergeFields (fieldsOf object) [(key, change)] =
      Fields.insert key (((object.field? key).getD .null).mergePatch change) (fieldsOf object) := by
    rw [field?_eq_get?]
    cases change with
    | null => exact absurd rfl h
    | _ => rfl
  rw [hrecord, mergePatch, hfields, field?, Fields.get?_insert, field?_eq_get? object other]

def text? : Json → Option String
  | .string text => some text
  | _ => none

/-- The list of an object's finalizers; what is not a text in it names no finalizer. -/
def finalizers (object : Json) : List String :=
  match (object.field? "metadata").bind (·.field? "finalizers") with
  | some (.array items) => items.filterMap text?
  | _ => []

/-- The list in the patch is the list in the object. -/
theorem finalizers_mergePatch (object : Json) (names : List String) :
    (object.mergePatch (Cluster.finalizersPatch names)).finalizers = names := by
  have hlist : ∀ metadata : Json, (metadata.mergePatch
      (.record [("finalizers", .array (names.map .string))])).field? "finalizers" =
        some (.array (names.map .string)) := by
    intro metadata
    rw [field?_mergePatch_record metadata (.array _) _ _ nofun, if_pos rfl]
    rfl
  rw [finalizers, Cluster.finalizersPatch, field?_mergePatch_record object (.record _) _ _ nofun,
    if_pos rfl, Option.bind_some, hlist]
  show (names.map Json.string).filterMap text? = names
  rw [List.filterMap_map]
  exact List.filterMap_some

end Json

/-! ## The stored list -/

namespace Cluster

namespace Server

variable (s : Server) (path : String) (object : Json)

/-- The finalizers that an object is stored with; an object that is gone has none. -/
def finalizers : List String := ((s.object? path).map Json.finalizers).getD []

theorem object?_put : (s.put path object).object? path = some object :=
  (MemoryCloud.lookup_cons_filter_ne s.objects path path object).trans (if_pos rfl)

theorem object?_erase : (s.erase path).object? path = none :=
  (MemoryCloud.lookup_filter_ne s.objects path path).trans (if_pos rfl)

/-- An object goes away only when nothing holds it. -/
theorem finalizers_of_isReleased {object : Json} (h : isReleased object = true) :
    object.finalizers = [] := by
  rw [isReleased, Bool.and_eq_true, Bool.not_eq_true'] at h
  have hheld := h.2
  cases hmetadata : object.field? "metadata" with
  | none => rw [Json.finalizers, hmetadata]; rfl
  | some metadata =>
    rw [hmetadata, Option.getD_some] at hheld
    rw [Json.finalizers, hmetadata, Option.bind_some]
    cases hfield : metadata.field? "finalizers" with
    | none => rfl
    | some value =>
      rw [hfield] at hheld
      cases value with
      | array items =>
        have hempty : (!items.isEmpty) = false := hheld
        rw [Bool.not_eq_false', List.isEmpty_iff] at hempty
        rw [hempty]
        rfl
      | _ => rfl

/-- What is read back is what was stored, even if storing it made the object go away. -/
theorem finalizers_store : (s.store path object).finalizers path = object.finalizers := by
  unfold store
  split
  · next hreleased =>
    rw [finalizers, object?_erase, finalizers_of_isReleased hreleased]
    rfl
  · rw [finalizers, object?_put]
    rfl

variable {s path object}

theorem patch_of_object? (change : Json) (hrule : s.failure? .patch path = none)
    (hobject : s.object? path = some object) :
    s.patch path change = (.ok (object.mergePatch change),
      (s.logged (.object .patch path (some change))).store path (object.mergePatch change)) := by
  have hrule' : (s.logged (.object .patch path (some change))).failure? .patch path = none := hrule
  have hobject' : (s.logged (.object .patch path (some change))).object? path = some object := hobject
  rw [patch, serve, String.append_empty]
  simp only [hrule', hobject']

end Server

/-! ## Writing an edit -/

/-- A patch of the object is applied to what is stored at its path. -/
structure Patchable (c : Cluster) (m : Manifest) (ns path : String) (stored : Json) : Prop where
  address : requestPath .stack ns m.name = .ok path
  unhindered : c.server.failure? .patch path = none
  found : c.server.object? path = some stored

variable {c : Cluster} {m : Manifest} {ns path : String} {stored : Json}

theorem requestPath_of_plain (r : Resource) {ns name : String} (hname : name.isEmpty = false)
    (hpath : (r.path ns name).toList.all isPathChar = true) :
    requestPath r ns name = .ok (r.path ns name) := by
  rw [requestPath, hname, hpath]
  rfl

theorem server_patchObject (h : c.Patchable m ns path stored) (change : Json) :
    (patchObject m ns change c).2.server = (c.server.patch path change).2 := by
  unfold patchObject
  simp only [h.address]
  rfl

/-- Both edits write the list of the snapshot, edited. -/
theorem writeFinalizer_snd (m : Manifest) (ns : String) (c : Cluster) {edit : FinalizerEdit}
    (h : edit ≠ .keep) :
    (writeFinalizer m ns edit c).2 =
      (patchObject m ns (finalizersPatch ((edit.apply m.metadata.finalizers).getD [])) c).2 := by
  cases edit with
  | keep => exact absurd rfl h
  | add => rfl
  | remove =>
    have hpatch : removeFinalizerPatch m = finalizersPatch
        ((FinalizerEdit.remove.apply m.metadata.finalizers).getD []) := rfl
    rw [← hpatch]
    simp only [writeFinalizer]
    split
    · next hfailed => rw [hfailed]
    · rfl

theorem finalizers_writeFinalizer (h : c.Patchable m ns path stored) {edit : FinalizerEdit}
    (hedit : edit ≠ .keep) :
    (writeFinalizer m ns edit c).2.server.finalizers path =
      (edit.apply m.metadata.finalizers).getD [] := by
  rw [writeFinalizer_snd m ns c hedit, server_patchObject h,
    Server.patch_of_object? _ h.unhindered h.found, Server.finalizers_store,
    Json.finalizers_mergePatch]

/-- An outcome without a status has nothing but its edit to write. -/
theorem write_snd_of_status (m : Manifest) (ns : String) (c : Cluster) {out : Outcome}
    (h : out.status = none) : (write m ns out c).2 = (writeFinalizer m ns out.finalizer c).2 := by
  unfold write
  split
  · next hfailed => rw [hfailed]
  · next hdone =>
    rw [hdone]
    simp only [h]

end Cluster

/-! ## What is lost and what comes back -/

/-- The edit has been made to a list, and no finalizer of another controller is gone or new. -/
def FinalizerEdit.MadeTo (edit : FinalizerEdit) (before after : List String) : Prop :=
  ∀ f, f ∈ after ↔ if f = finalizerName then edit = .add else f ∈ before

theorem FinalizerEdit.madeTo_apply {edit : FinalizerEdit} (h : edit ≠ .keep)
    (list : Option (List String)) : edit.MadeTo (list.getD []) ((edit.apply list).getD []) := by
  intro f
  cases edit with
  | keep => exact absurd rfl h
  | add => by_cases hf : f = finalizerName <;> simp [FinalizerEdit.apply, hf]
  | remove => by_cases hf : f = finalizerName <;> simp [FinalizerEdit.apply, hf]

/-- The edit is made to one list by what makes it to another exactly if the two agree about the
finalizers of others. -/
theorem FinalizerEdit.MadeTo.congr_iff {edit : FinalizerEdit} {list before after : List String}
    (h : edit.MadeTo list after) :
    edit.MadeTo before after ↔ ∀ f, f ≠ finalizerName → (f ∈ list ↔ f ∈ before) := by
  constructor
  · intro hbefore f hf
    have hboth := (h f).symm.trans (hbefore f)
    rwa [if_neg hf, if_neg hf] at hboth
  · intro hagree f
    rw [h f]
    by_cases hf : f = finalizerName
    · rw [if_pos hf, if_pos hf]
    · rw [if_neg hf, if_neg hf, hagree f hf]

namespace Operator

open Program Cluster

variable {o : Operator} {time : String} {m : Manifest} {es : List Exchange} {out : Outcome}

theorem status_of_edit (ran : Ran (o.reconcile time m) es out) (edits : out.finalizer ≠ .keep) :
    out.status = none := by
  cases hstatus : out.status with
  | none => rfl
  | some d => exact absurd (keep_of_reconcile ran hstatus) edits

/-- Writing a finalizer edit stores the snapshot's list with the edit made to it. That is the stored
list with the edit made to it if, and only if, nobody has added or taken away another finalizer since
the snapshot. -/
theorem foreign_finalizers_kept_iff (ran : Ran (o.reconcile time m) es out)
    (edits : out.finalizer ≠ .keep) {c : Cluster} {ns path : String} {stored : Json}
    (patchable : c.Patchable m ns path stored) :
    (write m ns out c).2.server.finalizers path =
        (out.finalizer.apply m.metadata.finalizers).getD [] ∧
      (out.finalizer.MadeTo (c.server.finalizers path) ((write m ns out c).2.server.finalizers path) ↔
        ∀ f, f ≠ finalizerName → (f ∈ m.finalizers ↔ f ∈ c.server.finalizers path)) := by
  have hafter : (write m ns out c).2.server.finalizers path =
      (out.finalizer.apply m.metadata.finalizers).getD [] := by
    rw [write_snd_of_status m ns c (status_of_edit ran edits), finalizers_writeFinalizer patchable edits]
  refine ⟨hafter, ?_⟩
  rw [hafter]
  exact (FinalizerEdit.madeTo_apply edits m.metadata.finalizers).congr_iff

/-- An object as its snapshot has it, held by one other controller. -/
def heldByBackup : Manifest where
  metadata := { (default : Metadata) with name := some "app", finalizers := some ["example.com/backup"] }
  spec := default
  status := none

/-- The object as it is stored by then: that controller has let go, and another one holds it. -/
def heldByAudit : Json :=
  .record [("metadata", .record [("finalizers", .array [.string "example.com/audit"])])]

def clusterHeldByAudit : Cluster where
  server := ⟨[(Resource.stack.path "infra" "app", heldByAudit)], [], []⟩
  recorder := default
  world := default

theorem patchable_heldByAudit : clusterHeldByAudit.Patchable heldByBackup "infra"
    (Resource.stack.path "infra" "app") heldByAudit :=
  ⟨requestPath_of_plain .stack rfl rfl, rfl, rfl⟩

theorem foreign_finalizers_kept_iff_held :
    ∃ es out, Ran (bareOperator.reconcile "2024-05-01T00:00:00Z" heldByBackup) es out ∧
      out.finalizer = .add ∧
        (write heldByBackup "infra" out clusterHeldByAudit).2.server.finalizers
          (Resource.stack.path "infra" "app") = ["example.com/backup", finalizerName] := by
  have ran :=
    ran_run World.answer (bareOperator.reconcile "2024-05-01T00:00:00Z" heldByBackup) default
  have hadd : (run World.answer (bareOperator.reconcile "2024-05-01T00:00:00Z" heldByBackup)
      default).1.finalizer = .add := rfl
  refine ⟨_, _, ran, hadd, ?_⟩
  rw [(foreign_finalizers_kept_iff ran (by simp [hadd]) patchable_heldByAudit).1, hadd]
  rfl

/-- The finalizer that was stored is gone, and the one that had been taken away is back. -/
theorem not_always_foreign_finalizers_kept :
    ¬ ∀ (o : Operator) (time : String) (m : Manifest) (es : List Exchange) (out : Outcome)
      (c : Cluster) (ns path : String) (stored : Json),
      Ran (o.reconcile time m) es out → out.finalizer ≠ .keep → c.Patchable m ns path stored →
      out.finalizer.MadeTo (c.server.finalizers path)
        ((write m ns out c).2.server.finalizers path) := by
  intro h
  have hmade := h bareOperator "2024-05-01T00:00:00Z" heldByBackup _ _ clusterHeldByAudit _ _ _
    (ran_run World.answer _ default) nofun patchable_heldByAudit "example.com/audit"
  exact absurd hmade nofun

end Operator

end StackSync
