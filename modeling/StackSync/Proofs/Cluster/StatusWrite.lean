import StackSync.Proofs.Cluster.Finalizers
import StackSync.Proofs.Resource.Encoding

/-!
# Writing a status

A status is written by a merge patch of the status alone onto the object that is stored. If the patch
has every field of the stored status, and something holds the object, then the object that is read back
afterwards is the same object with the status of the patch (`Stored.writeStatus_of_some`); and where
nothing but times would change, writing comes down to a look at the object
(`Stored.writeStatus_of_none`).
-/

namespace StackSync

open Json

/-! ## Objects and what they are read as -/

theorem Json.required_eq_ok_iff {α : Type} {name : String} {value : Option α} {a : α} :
    required name value = .ok a ↔ value = some a := by
  cases value with
  | none => exact ⟨nofun, nofun⟩
  | some b =>
    exact ⟨fun h => congrArg some (Except.ok.inj h), fun h => congrArg Except.ok (Option.some.inj h)⟩

theorem Json.filterMap_text?_of_mapM {texts : List Json} {names : List String}
    (h : texts.mapM asString = .ok names) : texts.filterMap text? = names := by
  induction texts generalizing names with
  | nil =>
    cases h
    rfl
  | cons text rest ih =>
    rw [List.mapM_cons] at h
    obtain ⟨name, hname, h⟩ := bind_eq_ok_iff.1 h
    obtain ⟨more, hmore, h⟩ := bind_eq_ok_iff.1 h
    cases h
    cases text with
    | string s =>
      cases hname
      exact congrArg (List.cons name) (ih hmore)
    | _ => cases hname

/-- Of a metadata that is read, the finalizers are read as an optional list. -/
theorem Metadata.optional_finalizers {fields : Fields} {metadata : Metadata}
    (h : byName fields = .ok metadata) :
    Json.optional fields "finalizers" (asArray asString) = .ok metadata.finalizers := by
  simp only [byName, bind_eq_ok_iff, pure_eq_ok_iff] at h
  obtain ⟨_, -, _, -, _, -, _, -, list, hlist, _, -, _, -, _, -, _, -, _, -, _, -, _, -, _, -, _, -,
    _, -, rfl⟩ := h
  exact hlist

namespace Manifest

variable {m : Manifest} {fields : Fields} {object : Json}

theorem byName_eq_ok_iff : byName fields = .ok m ↔
    present? fields "metadata" Metadata.decode = .ok (some m.metadata) ∧
      present? fields "spec" Spec.decode = .ok (some m.spec) ∧
      Json.optional fields "status" Status.decode = .ok m.status := by
  simp only [byName, bind_eq_ok_iff, pure_eq_ok_iff, required_eq_ok_iff]
  constructor
  · rintro ⟨_, hmetadata, _, hspec, _, hstatus, _, rfl, _, rfl, rfl⟩
    exact ⟨hmetadata, hspec, hstatus⟩
  · rintro ⟨hmetadata, hspec, hstatus⟩
    exact ⟨_, hmetadata, _, hspec, _, hstatus, _, rfl, _, rfl, rfl⟩

theorem exists_metadata_of_decode (h : Manifest.decode (.object fields) = .ok m) :
    ∃ metadata, Fields.get? "metadata" fields = some (.object metadata) ∧
      Metadata.byName metadata = .ok m.metadata := by
  obtain ⟨metadata, hget, hread⟩ := present?_eq_some_iff.1 (byName_eq_ok_iff.1 h).1
  cases metadata with
  | object metadata => exact ⟨metadata, hget, hread⟩
  | _ => cases hread

theorem finalizers_of_decode (h : Manifest.decode (.object fields) = .ok m) :
    (Json.object fields).finalizers = m.finalizers := by
  obtain ⟨metadata, hget, hread⟩ := exists_metadata_of_decode h
  have hfield : ((Json.object fields).field? "metadata").bind (·.field? "finalizers") =
      Fields.get? "finalizers" metadata := by
    rw [field?, hget]
    rfl
  rw [Json.finalizers, hfield, Manifest.finalizers]
  have hlist := Metadata.optional_finalizers hread
  rcases optional_eq_ok_iff.1 hlist with ⟨hnone, hread⟩ | ⟨items, hitems, hread⟩
  · rw [hnone, hread]
    rfl
  · rw [hitems]
    cases items with
    | null =>
      rw [← Except.ok.inj hread]
      rfl
    | array texts =>
      have hread : some <$> texts.mapM asString = .ok m.metadata.finalizers := hread
      obtain ⟨names, htexts, hsome⟩ := map_eq_ok_iff.1 hread
      rw [← hsome]
      exact filterMap_text?_of_mapM htexts
    | _ => cases hread

end Manifest

/-! ## The status of an object -/

/-- The object as it is stored once a status has been merged into its own. -/
def Json.restated (object : Json) (s : Status) : Json :=
  object.mergePatch (.record [("status", s.toJson)])

/-- The object with a status that has been written over its own. -/
def Manifest.restated (m : Manifest) (s : Status) : Manifest := { m with status := some s }

section

variable {fields : Fields} {object : Json} {m : Manifest} {s : Status}

theorem field?_restated (object : Json) (s : Status) (key : String) :
    (object.restated s).field? key = if "status" = key then
      some (((object.field? "status").getD .null).mergePatch s.toJson) else object.field? key :=
  field?_mergePatch_record object s.toJson "status" key nofun

/-- Merging a status leaves the other fields of an object alone. -/
theorem Manifest.decode_restated (hread : Manifest.decode (.object fields) = .ok m)
    (hcovers : s.Covers m.base) :
    Manifest.decode ((Json.object fields).restated s) = .ok (m.restated s) := by
  obtain ⟨patched, hpatched⟩ : ∃ patched, (Json.object fields).restated s = .object patched := ⟨_, rfl⟩
  have hfield : ∀ key, Fields.get? key patched = if "status" = key then
      some (((Fields.get? "status" fields).getD .null).mergePatch s.toJson) else
        Fields.get? key fields := by
    intro key
    have hpatch := field?_restated (.object fields) s key
    rw [hpatched] at hpatch
    exact hpatch
  obtain ⟨hmetadata, hspec, hstatus⟩ := byName_eq_ok_iff.1 hread
  rw [hpatched]
  refine byName_eq_ok_iff.2 ⟨?_, ?_, ?_⟩
  · rw [present?_congr (hfield "metadata")]
    exact hmetadata
  · rw [present?_congr (hfield "spec")]
    exact hspec
  · exact Status.optional_status_mergePatch hstatus hcovers (hfield "status")

/-- Only what has fields of its own is still an object with a metadata once a status has been merged
into it. -/
theorem exists_fields_of_restated (h : Manifest.decode (object.restated s) = .ok m) :
    ∃ fields, object = .object fields := by
  obtain ⟨patched, hpatched⟩ : ∃ patched, object.restated s = .object patched := ⟨_, rfl⟩
  have hfield := field?_restated object s "metadata"
  rw [hpatched] at h hfield
  obtain ⟨metadata, hget, -⟩ := Manifest.exists_metadata_of_decode h
  have hsome : object.field? "metadata" = some (.object metadata) := hfield.symm.trans hget
  cases object with
  | object fields => exact ⟨fields, rfl⟩
  | _ => cases hsome

end

/-! ## The stored object -/

namespace Cluster

variable {k : Cluster} {ns name : String} {object : Json} {m : Manifest} {d merged : Status}

/-- There is such an object under the name of a stack, and it can be looked up and read. -/
structure Stored (k : Cluster) (ns name : String) (object : Json) (m : Manifest) : Prop where
  address : requestPath .stack ns name = .ok (Resource.stack.path ns name)
  unhindered : k.server.failure? .get (Resource.stack.path ns name) = none
  found : k.server.object? (Resource.stack.path ns name) = some object
  read : Manifest.decode object = .ok m

/-- The cluster once the stack has been looked up: nothing but the log has changed. -/
def looked (k : Cluster) (ns name : String) : Cluster :=
  { k with server := k.server.logged (.object .get (Resource.stack.path ns name) none) }

theorem path_of_requestPath {r : Resource} {path : String} (h : requestPath r ns name = .ok path) :
    path = r.path ns name := by
  unfold requestPath at h
  split at h
  · cases h
  · split at h
    · cases h
    · exact (Except.ok.inj h).symm

theorem get_server (s : Server) (path : String) :
    Server.get path s = (((s.failure? .get path).map fun e => Except.error (.response e)).getD
      (((s.object? path).map Except.ok).getD (.error (.response (Server.absent path)))),
      s.logged (.object .get path none)) := by
  have hlogged : (s.logged (.object .get path none)).failure? .get path = s.failure? .get path := rfl
  have hobject : (s.logged (.object .get path none)).object? path = s.object? path := rfl
  rw [Server.get, Server.serve, String.append_empty]
  simp only [hlogged, hobject]
  cases s.failure? .get path with
  | some e => rfl
  | none => cases s.object? path <;> rfl

theorem readStack_eq_ok_iff : readStack object = .ok m ↔ Manifest.decode object = .ok m := by
  unfold readStack
  cases Manifest.decode object with
  | error e => exact ⟨nofun, nofun⟩
  | ok m' =>
    constructor <;>
    · intro h
      cases h
      rfl

theorem Stored.findStack (h : k.Stored ns name object m) :
    findStack ns name k = (.ok (some m), k.looked ns name) := by
  have hget : Server.get (Resource.stack.path ns name) k.server =
      (.ok object, k.server.logged (.object .get (Resource.stack.path ns name) none)) := by
    rw [get_server, h.unhindered, h.found]
    rfl
  have hobject : getObject .stack ns name k = (.ok object, k.looked ns name) := by
    simp only [getObject, h.address, ask, hget]
    rfl
  simp only [Cluster.findStack, getIfPresent, hobject]
  show ((readStack object >>= fun m => pure (some m)), _) = _
  rw [readStack_eq_ok_iff.2 h.read]
  rfl

/-- Looking a stack up leaves it there to be looked up. -/
theorem Stored.looked (h : k.Stored ns name object m) : (k.looked ns name).Stored ns name object m :=
  ⟨h.address, h.unhindered, h.found, h.read⟩

theorem exists_stored (h : (findStack ns name k).1 = .ok (some m)) :
    ∃ object, k.Stored ns name object m := by
  unfold findStack at h
  obtain ⟨found, hfound, h⟩ := bind_eq_ok_iff.1 h
  cases found with
  | none => cases h
  | some object =>
    obtain ⟨read, hread, heq⟩ := bind_eq_ok_iff.1 h
    cases heq
    have hdecoded : Manifest.decode object = .ok m := readStack_eq_ok_iff.1 hread
    unfold getIfPresent getObject at hfound
    cases haddress : requestPath .stack ns name with
    | error e =>
      simp only [haddress] at hfound
      split at hfound <;> cases hfound
    | ok path =>
      obtain rfl := path_of_requestPath haddress
      simp only [haddress, ask, get_server] at hfound
      cases hrule : k.server.failure? .get (Resource.stack.path ns name) with
      | some e =>
        simp only [hrule, Option.map_some, Option.getD_some] at hfound
        split at hfound <;> cases hfound
      | none =>
        cases hobject : k.server.object? (Resource.stack.path ns name) with
        | none =>
          simp only [hrule, hobject, Option.map_none, Option.getD_none] at hfound
          split at hfound <;> cases hfound
        | some object' =>
          simp only [hrule, hobject, Option.map_none, Option.getD_none, Option.map_some,
            Option.getD_some] at hfound
          cases hfound
          exact ⟨object, haddress, hrule, hobject, hdecoded⟩

/-! ## Writing -/

theorem mergeOnto_of_statusToWrite? {stored : Option Status}
    (h : statusToWrite? stored d = some merged) : d.mergeOnto stored = merged := by
  unfold statusToWrite? at h
  dsimp only at h
  split at h
  · exact Option.some.inj h
  · cases h

theorem statusToWrite?_eq_none_iff {stored : Status} :
    statusToWrite? (some stored) d = none ↔ stored.timeless = (d.mergeOnto (some stored)).timeless := by
  unfold statusToWrite?
  dsimp only
  split
  · next hneeds =>
    exact ⟨nofun, fun hsame => absurd hsame ((Status.needsWrite_some_iff _ _).1 hneeds)⟩
  · next hspared =>
    have hsame := Decidable.not_not.1 (mt (Status.needsWrite_some_iff _ _).2 hspared)
    exact ⟨fun _ => hsame, fun _ => rfl⟩

/-- Where nothing but times would change, nothing is written. -/
theorem Stored.writeStatus_of_none (h : k.Stored ns name object m)
    (hnone : statusToWrite? m.status d = none) :
    writeStatus ns name d k = (.ok (), k.looked ns name) := by
  simp only [writeStatus, h.findStack, hnone]

theorem patchStatus_of_failure {s : Server} {path : String} {e : ErrorResponse} (change : Json)
    (h : s.failure? .patch (path ++ "/status") = some e) :
    (s.patchStatus path change).1 = .error (.response e) := by
  have hlogged : (s.logged (.object .patch (path ++ "/status") (some change))).failure? .patch
      (path ++ "/status") = some e := h
  simp only [Server.patchStatus, Server.serve, hlogged]

theorem patchStatus_of_object? {s : Server} {path : String} (merged : Status)
    (hrule : s.failure? .patch (path ++ "/status") = none) (hobject : s.object? path = some object) :
    s.patchStatus path (statusPatch merged) =
      (.ok (object.restated merged),
        (s.logged (.object .patch (path ++ "/status") (some (statusPatch merged)))).store path
          (object.restated merged)) := by
  let logged := s.logged (.object .patch (path ++ "/status") (some (statusPatch merged)))
  have hrule' : logged.failure? .patch (path ++ "/status") = none := hrule
  have hobject' : logged.object? path = some object := hobject
  simp only [Server.patchStatus, Server.serve, logged] at hrule' hobject' ⊢
  simp only [hrule', hobject']
  rfl

theorem failure?_store (s : Server) (path : String) (object : Json) (method : Method) (other : String) :
    (s.store path object).failure? method other = s.failure? method other := by
  unfold Server.store
  split <;> rfl

/-- An object that something holds stays where it is, whatever is stored in its place. -/
theorem object?_store_of_held (s : Server) (path : String) {fields : Fields}
    (hread : Manifest.decode (.object fields) = .ok m) (hheld : m.hasFinalizer = true) :
    (s.store path (.object fields)).object? path = some (.object fields) := by
  have hkept : Server.isReleased (.object fields) = false := by
    cases hreleased : Server.isReleased (.object fields) with
    | false => rfl
    | true =>
      have hnone := Server.finalizers_of_isReleased hreleased
      rw [Manifest.finalizers_of_decode hread] at hnone
      rw [Manifest.hasFinalizer, hnone] at hheld
      cases hheld
  rw [Server.store, hkept]
  exact Server.object?_put _ _ _

/-- A status that is written, and that covers the stored one, is what is stored afterwards. -/
theorem Stored.writeStatus_of_some (h : k.Stored ns name object m) (hheld : m.hasFinalizer = true)
    (hcovers : merged.Covers m.base) (hsome : statusToWrite? m.status d = some merged)
    (hdone : (writeStatus ns name d k).1 = .ok ()) :
    (writeStatus ns name d k).2.Stored ns name (object.restated merged) (m.restated merged) := by
  simp only [writeStatus, h.findStack, hsome, ask] at hdone ⊢
  have hobject : (k.looked ns name).server.object? (Resource.stack.path ns name) = some object := h.found
  cases hrule : (k.looked ns name).server.failure? .patch (Resource.stack.path ns name ++ "/status") with
  | some e =>
    rw [patchStatus_of_failure _ hrule] at hdone
    cases hdone
  | none =>
    rw [patchStatus_of_object? merged hrule hobject] at hdone ⊢
    obtain ⟨m', hread⟩ : ∃ m', readStack (object.restated merged) = .ok m' := by
      cases hread : readStack (object.restated merged) with
      | ok m' => exact ⟨m', rfl⟩
      | error e =>
        have hfailed : (readStack (object.restated merged)).map (fun _ => ()) = .ok () := hdone
        rw [hread] at hfailed
        cases hfailed
    obtain ⟨fields, rfl⟩ := exists_fields_of_restated (readStack_eq_ok_iff.1 hread)
    have hdecoded := Manifest.decode_restated h.read hcovers
    exact ⟨h.address, (failure?_store ..).trans h.unhindered,
      object?_store_of_held _ _ hdecoded hheld, hdecoded⟩

end Cluster

end StackSync
