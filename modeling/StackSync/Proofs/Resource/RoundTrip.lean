import StackSync.Proofs.Json.Parsing
import StackSync.Proofs.Resource.Encoding

/-!
# Specs and statuses, written and read

Each record is written from a table of its fields, and all there is to know about what has been
written is what stands in the table under a key. So a record is read back field by field, one lemma
a way of reading: what must be there is there, and what may be absent is left out exactly if it is
what the decoder fills in. The other direction is about objects that somebody else has written: the
decoder reads nothing but the keys of the table, and an absent one as its default.
-/

namespace StackSync

namespace Json

variable {α : Type} {keys : List String} {defaults a b : Fields} {item : Json → Decoded α}

/-! ## What a decoder looks at -/

/-- Under each of the keys the same is found, or nothing in the one and the default in the other. -/
def AgreesUpTo (defaults : Fields) (keys : List String) (a b : Fields) : Prop :=
  ∀ key ∈ keys, Fields.get? key b = Fields.get? key a ∨
    Fields.get? key a = none ∧ Fields.get? key b = Fields.get? key defaults

namespace AgreesUpTo

variable (h : AgreesUpTo defaults keys a b) (key : String) (hkey : key ∈ keys)

include h hkey

theorem present? (hdefault : Fields.get? key defaults = none) :
    present? b key item = present? a key item := by
  refine present?_congr ?_
  rcases h key hkey with hsame | ⟨hnone, hfilled⟩
  · exact hsame
  · rw [hfilled, hdefault, hnone]

theorem optional (hdefault : Fields.get? key defaults = some .null) :
    optional b key item = optional a key item := by
  rcases h key hkey with hsame | ⟨hnone, hfilled⟩
  · simp only [Json.optional, present?_congr hsame]
  · have hb : Json.optional b key item = .ok none :=
      optional_eq_ok_iff.2 (.inr ⟨.null, hfilled.trans hdefault, rfl⟩)
    have ha : Json.optional a key item = .ok none := optional_eq_ok_iff.2 (.inl ⟨hnone, rfl⟩)
    rw [hb, ha]

theorem orDefault {v : Json} {default : α} (hdefault : Fields.get? key defaults = some v)
    (hitem : item v = .ok default) :
    orDefault b key default item = orDefault a key default item := by
  rcases h key hkey with hsame | ⟨hnone, hfilled⟩
  · simp only [Json.orDefault, present?_congr hsame]
  · have hb : Json.present? b key item = .ok (some default) :=
      present?_eq_some_iff.2 ⟨v, hfilled.trans hdefault, hitem⟩
    have ha : Json.present? a key item = .ok none := by simp only [Json.present?, hnone]
    simp only [Json.orDefault, hb, ha]
    rfl

theorem switch (hdefault : Fields.get? key defaults = some (.bool false)) :
    Json.orDefault b key false asBool = Json.orDefault a key false asBool :=
  h.orDefault key hkey hdefault rfl

theorem list (hdefault : Fields.get? key defaults = some (.array [])) :
    Json.orDefault b key [] (asArray item) = Json.orDefault a key [] (asArray item) :=
  h.orDefault key hkey hdefault rfl

end AgreesUpTo

/-! ## Records by position -/

namespace Positions

variable {β : Type} {n : Nat} {rest : List Json} {v : Json} {x : α}

theorem run_bind {p : Positions α} {f : α → Positions β} {st st' : Nat × List Json}
    {r : Decoded (β × Nat × List Json)} (hp : p.run st = .ok (x, st')) (hf : (f x).run st' = r) :
    (p >>= f).run st = r := by
  rw [StateT.run_bind, hp]
  exact hf

theorem run_next? (h : item v = .ok x) :
    (next? item).run (n, v :: rest) = .ok (some x, (n + 1, rest)) := by
  simp only [next?, StateT.run_bind, StateT.run_get, pure_bind, h]
  rfl

theorem run_next (h : item v = .ok x) {expected : String} :
    (next expected item).run (n, v :: rest) = .ok (x, (n + 1, rest)) :=
  run_bind (run_next? h) rfl

theorem run_nextOr (h : item v = .ok x) {default : α} :
    (nextOr default item).run (n, v :: rest) = .ok (x, (n + 1, rest)) :=
  run_bind (run_next? h) rfl

end Positions

theorem asRecord_array {name : String} {byName : Fields → Decoded α} {byPosition : Positions α}
    {items : List Json} {x : α} {n : Nat} (h : byPosition.run (0, items) = .ok (x, (n, []))) :
    asRecord name byName byPosition (.array items) = .ok x := by
  simp only [asRecord, h]
  rfl

/-! ## Records that are written from a table -/

theorem regular_recordOf {table : List (String × Option Json)}
    (h : ∀ e ∈ table, ∀ v ∈ e.2, Regular v) : Regular (recordOf table) := by
  refine .object (Fields.sorted_ofList _) fun e he => ?_
  have hmem := Fields.mem_ofList he
  obtain ⟨⟨key, value⟩, hentry, hvalue⟩ := List.mem_filterMap.1 hmem
  obtain ⟨v, hv, rfl⟩ := Option.map_eq_some_iff.1 hvalue
  exact h _ hentry v hv

/-- What stands under the keys, in their order, and the default where nothing does. -/
def positional (keys : List String) (defaults : Fields) (j : Json) : List Json :=
  keys.map fun key => (j.field? key).getD ((Fields.get? key defaults).getD .null)

/-- What JSON does with a record. -/
structure Lossless (decode : Json → Decoded α) (toJson : α → Json) (keys : List String)
    (defaults : Fields) : Prop where
  /-- A record that is written is read back, -/
  back : ∀ x, decode (toJson x) = .ok x
  /-- whose text denotes what has been written, -/
  text : ∀ x, parse? (print (toJson x)) = some (toJson x)
  /-- and from an array of its fields with the defaults filled in. -/
  ordered : ∀ x, decode (.array (positional keys defaults (toJson x))) = .ok x
  /-- What has been read, from any JSON, is written and read again without a change. -/
  again : ∀ j x, decode j = .ok x → decode (toJson x) = .ok x
  /-- Nothing is written under other keys, -/
  known : ∀ x key, key ∉ keys → (toJson x).field? key = none
  /-- and of an object nothing but the keys is read, an absent one as its default. -/
  lenient : ∀ a b, AgreesUpTo defaults keys a b → decode (.object b) = decode (.object a)

theorem lookup_of_mem {β : Type} {table : List (String × β)} (hnodup : (table.map (·.1)).Nodup)
    {e : String × β} (he : e ∈ table) : table.lookup e.1 = some e.2 := by
  induction table with
  | nil => cases he
  | cons first rest ih =>
    obtain ⟨hfresh, hrest⟩ := List.nodup_cons.1 hnodup
    rw [List.lookup_cons]
    rcases List.mem_cons.1 he with rfl | he
    · rw [beq_self_eq_true]
    · have hne : e.1 ≠ first.1 := fun heq => hfresh (List.mem_map.2 ⟨e, he, heq⟩)
      rw [beq_false_of_ne hne]
      exact ih hrest he

theorem positional_recordOf {table : List (String × Option Json)}
    (hnodup : (table.map (·.1)).Nodup) :
    positional (table.map (·.1)) defaults (recordOf table) =
      table.map fun e => e.2.getD ((Fields.get? e.1 defaults).getD .null) := by
  rw [positional, List.map_map]
  refine List.map_congr_left fun e he => ?_
  simp only [Function.comp_apply, get?_recordOf hnodup, lookup_of_mem hnodup he, Option.join_some]

theorem lossless_of_table {decode : Json → Decoded α} {toJson : α → Json}
    {table : α → List (String × Option Json)} (hjson : ∀ x, toJson x = recordOf (table x))
    (hkeys : ∀ x, (table x).map (·.1) = keys) (hnodup : keys.Nodup)
    (back : ∀ x, decode (toJson x) = .ok x)
    (ordered : ∀ x, decode (.array ((table x).map fun e =>
      e.2.getD ((Fields.get? e.1 defaults).getD .null))) = .ok x)
    (regular : ∀ x, ∀ e ∈ table x, ∀ v ∈ e.2, Regular v)
    (lenient : ∀ a b, AgreesUpTo defaults keys a b → decode (.object b) = decode (.object a)) :
    Lossless decode toJson keys defaults where
  back := back
  text := fun x => parse?_print (hjson x ▸ regular_recordOf (regular x))
  ordered := by
    intro x
    rw [hjson, ← hkeys x, positional_recordOf ((hkeys x).symm ▸ hnodup)]
    exact ordered x
  again := fun _ x _ => back x
  known := by
    intro x key hkey
    rw [hjson, get?_recordOf ((hkeys x).symm ▸ hnodup), lookup_eq_none_of_notMem (by rwa [hkeys])]
    rfl
  lenient := lenient

/-! ## Fields -/

theorem asString_string (text : String) : asString (.string text) = .ok text := rfl

theorem asBool_bool (value : Bool) : asBool (.bool value) = .ok value := rfl

theorem asOptional_getD {write : α → Json} (hitem : ∀ x, asOptional item (write x) = .ok (some x))
    (value : Option α) : asOptional item ((value.map write).getD .null) = .ok value := by
  cases value with
  | none => rfl
  | some x => exact hitem x

theorem asArray_getD {write : α → Json} (hitem : ∀ x, item (write x) = .ok x) (values : List α) :
    asArray item ((nonEmpty? (values.map write)).getD (.array [])) = .ok values := by
  cases values with
  | nil => rfl
  | cons x rest => exact asArray_map hitem (x :: rest)

theorem present?_string {fields : Fields} {key text : String}
    (hget : Fields.get? key fields = some (.string text)) :
    present? fields key asString = .ok (some text) :=
  present?_eq_some_iff.2 ⟨_, hget, rfl⟩

theorem orDefault_of_some {fields : Fields} {key : String} {default x : α} {v : Json}
    (hget : Fields.get? key fields = some v) (hitem : item v = .ok x) :
    orDefault fields key default item = .ok x := by
  rw [orDefault, present?_eq_some_iff.2 ⟨v, hget, hitem⟩]
  rfl

theorem regular_string (text : String) : ∀ v ∈ some (Json.string text), Regular v := by
  rintro v ⟨⟩
  exact .string text

theorem regular_bool (value : Bool) : ∀ v ∈ some (Json.bool value), Regular v := by
  rintro v ⟨⟩
  exact .bool value

theorem regular_map {write : α → Json} (h : ∀ x, Regular (write x)) (value : Option α) :
    ∀ v ∈ value.map write, Regular v := by
  intro v hv
  obtain ⟨x, -, rfl⟩ := Option.map_eq_some_iff.1 hv
  exact h x

theorem regular_nonEmpty {write : α → Json} (h : ∀ x, Regular (write x)) (values : List α) :
    ∀ v ∈ nonEmpty? (values.map write), Regular v := by
  intro v hv
  unfold nonEmpty? at hv
  split at hv
  · cases hv
  · cases hv
    refine .array fun item hitem => ?_
    obtain ⟨x, -, rfl⟩ := List.mem_map.1 hitem
    exact h x

theorem regular_ofInt64 (n : Int64) : Regular (ofInt64 n) := by
  have hmin := n.le_toInt
  have hmax := n.toInt_lt
  exact .integer ⟨by omega, by omega⟩

end Json

open Json Positions

/-! ## The records of a spec -/

namespace KeyValue

def keys : List String := ["key", "value"]

def written (kv : KeyValue) : List (String × Option Json) :=
  [("key", some (.string kv.key)), ("value", some (.string kv.value))]

theorem decode_toJson (kv : KeyValue) : decode kv.toJson = .ok kv := by
  refine decode_recordOf kv.written (by simp [written]) fun fields hget => ?_
  show byName fields = .ok kv
  simp only [byName, present?_string (hget "key"), present?_string (hget "value")]
  rfl

theorem ordered (kv : KeyValue) : decode (.array (kv.written.map fun e =>
    e.2.getD ((Fields.get? e.1 []).getD .null))) = .ok kv :=
  asRecord_array <| run_bind (run_next (asString_string _)) <|
    run_bind (run_next (asString_string _)) rfl

theorem regular_written (kv : KeyValue) : ∀ e ∈ kv.written, ∀ v ∈ e.2, Regular v := by
  simp only [written, List.forall_mem_cons]
  exact ⟨regular_string _, regular_string _, List.forall_mem_nil _⟩

theorem lossless : Lossless decode toJson keys [] := by
  refine lossless_of_table (fun _ => rfl) (fun _ => rfl) (by decide) decode_toJson ordered
    regular_written fun a b h => ?_
  show byName b = byName a
  simp only [byName, h.present? "key" (by decide) rfl,
    h.present? "value" (by decide) rfl]

end KeyValue

namespace SourceRef

def keys : List String := ["kind", "name", "namespace"]

def written (r : SourceRef) : List (String × Option Json) := [
  ("kind", some (.string r.kind)), ("name", some (.string r.name)),
  ("namespace", r.ns.map .string)]

def defaults : Fields := [("namespace", .null)]

theorem decode_toJson (r : SourceRef) : decode r.toJson = .ok r := by
  refine decode_recordOf r.written (by simp [written]) fun fields hget => ?_
  have hnamespace : optional fields "namespace" asString = .ok r.ns :=
    optional_of_get? asOptional_string (hget _)
  show byName fields = .ok r
  simp only [byName, present?_string (hget "kind"), present?_string (hget "name"), hnamespace]
  rfl

theorem ordered (r : SourceRef) : decode (.array (r.written.map fun e =>
    e.2.getD ((Fields.get? e.1 defaults).getD .null))) = .ok r :=
  asRecord_array <| run_bind (run_next (asString_string _)) <|
    run_bind (run_next (asString_string _)) <|
    run_bind (run_nextOr (asOptional_getD asOptional_string _)) rfl

theorem regular_written (r : SourceRef) : ∀ e ∈ r.written, ∀ v ∈ e.2, Regular v := by
  simp only [written, List.forall_mem_cons]
  exact ⟨regular_string _, regular_string _, regular_map .string _, List.forall_mem_nil _⟩

theorem lossless : Lossless decode toJson keys defaults := by
  refine lossless_of_table (fun _ => rfl) (fun _ => rfl) (by decide) decode_toJson ordered
    regular_written fun a b h => ?_
  show byName b = byName a
  simp only [byName, h.present? "kind" (by decide) rfl, h.present? "name" (by decide) rfl,
    h.optional "namespace" (by decide) rfl]

end SourceRef

namespace DependencyRef

def keys : List String := ["name", "namespace"]

def written (r : DependencyRef) : List (String × Option Json) :=
  [("name", some (.string r.name)), ("namespace", r.ns.map .string)]

def defaults : Fields := [("namespace", .null)]

theorem decode_toJson (r : DependencyRef) : decode r.toJson = .ok r := by
  refine decode_recordOf r.written (by simp [written]) fun fields hget => ?_
  have hnamespace : optional fields "namespace" asString = .ok r.ns :=
    optional_of_get? asOptional_string (hget _)
  show byName fields = .ok r
  simp only [byName, present?_string (hget "name"), hnamespace]
  rfl

theorem ordered (r : DependencyRef) : decode (.array (r.written.map fun e =>
    e.2.getD ((Fields.get? e.1 defaults).getD .null))) = .ok r :=
  asRecord_array <| run_bind (run_next (asString_string _)) <|
    run_bind (run_nextOr (asOptional_getD asOptional_string _)) rfl

theorem regular_written (r : DependencyRef) : ∀ e ∈ r.written, ∀ v ∈ e.2, Regular v := by
  simp only [written, List.forall_mem_cons]
  exact ⟨regular_string _, regular_map .string _, List.forall_mem_nil _⟩

theorem lossless : Lossless decode toJson keys defaults := by
  refine lossless_of_table (fun _ => rfl) (fun _ => rfl) (by decide) decode_toJson ordered
    regular_written fun a b h => ?_
  show byName b = byName a
  simp only [byName, h.present? "name" (by decide) rfl, h.optional "namespace" (by decide) rfl]

end DependencyRef

namespace Spec

def keys : List String := ["stackName", "region", "templatePath", "sourceRef", "interval",
  "pollInterval", "retryInterval", "suspend", "destroyStackOnDeletion", "dependsOn",
  "stackParameters", "stackTags"]

def written (s : Spec) : List (String × Option Json) := [
  ("stackName", some (.string s.stackName)),
  ("region", s.region.map .string),
  ("templatePath", some (.string s.templatePath)),
  ("sourceRef", some s.sourceRef.toJson),
  ("interval", some (.string s.interval)),
  ("pollInterval", s.pollInterval.map .string),
  ("retryInterval", s.retryInterval.map .string),
  ("suspend", some (.bool s.suspend)),
  ("destroyStackOnDeletion", some (.bool s.destroyStackOnDeletion)),
  ("dependsOn", Json.nonEmpty? (s.dependsOn.map (·.toJson))),
  ("stackParameters", Json.nonEmpty? (s.stackParameters.map (·.toJson))),
  ("stackTags", Json.nonEmpty? (s.stackTags.map (·.toJson)))]

def defaults : Fields := [("region", .null), ("pollInterval", .null), ("retryInterval", .null),
  ("suspend", .bool false), ("destroyStackOnDeletion", .bool false), ("dependsOn", .array []),
  ("stackParameters", .array []), ("stackTags", .array [])]

theorem decode_toJson (s : Spec) : decode s.toJson = .ok s := by
  refine decode_recordOf s.written (by simp [written]) fun fields hget => ?_
  have hregion : optional fields "region" asString = .ok s.region :=
    optional_of_get? asOptional_string (hget _)
  have hsource : present? fields "sourceRef" SourceRef.decode = .ok (some s.sourceRef) :=
    present?_eq_some_iff.2 ⟨_, hget _, s.sourceRef.decode_toJson⟩
  have hpoll : optional fields "pollInterval" asString = .ok s.pollInterval :=
    optional_of_get? asOptional_string (hget _)
  have hretry : optional fields "retryInterval" asString = .ok s.retryInterval :=
    optional_of_get? asOptional_string (hget _)
  have hsuspend : orDefault fields "suspend" false asBool = .ok s.suspend :=
    orDefault_of_some (hget _) rfl
  have hdestroy :
      orDefault fields "destroyStackOnDeletion" false asBool = .ok s.destroyStackOnDeletion :=
    orDefault_of_some (hget _) rfl
  have hdepends : orDefault fields "dependsOn" [] (asArray DependencyRef.decode) = .ok s.dependsOn :=
    orDefault_of_get? DependencyRef.decode_toJson (hget _)
  have hparameters :
      orDefault fields "stackParameters" [] (asArray KeyValue.decode) = .ok s.stackParameters :=
    orDefault_of_get? KeyValue.decode_toJson (hget _)
  have htags : orDefault fields "stackTags" [] (asArray KeyValue.decode) = .ok s.stackTags :=
    orDefault_of_get? KeyValue.decode_toJson (hget _)
  show byName fields = .ok s
  simp only [byName, present?_string (hget "stackName"), hregion,
    present?_string (hget "templatePath"), hsource, present?_string (hget "interval"), hpoll,
    hretry, hsuspend, hdestroy, hdepends, hparameters, htags]
  rfl

theorem ordered (s : Spec) : decode (.array (s.written.map fun e =>
    e.2.getD ((Fields.get? e.1 defaults).getD .null))) = .ok s := by
  have hoptional := asOptional_getD asOptional_string
  have hdepends := asArray_getD DependencyRef.decode_toJson s.dependsOn
  have hpairs := asArray_getD KeyValue.decode_toJson
  exact asRecord_array <| run_bind (run_next (asString_string _)) <|
    run_bind (run_nextOr (hoptional _)) <| run_bind (run_next (asString_string _)) <|
    run_bind (run_next s.sourceRef.decode_toJson) <| run_bind (run_next (asString_string _)) <|
    run_bind (run_nextOr (hoptional _)) <| run_bind (run_nextOr (hoptional _)) <|
    run_bind (run_nextOr (asBool_bool _)) <| run_bind (run_nextOr (asBool_bool _)) <|
    run_bind (run_nextOr hdepends) <| run_bind (run_nextOr (hpairs _)) <|
    run_bind (run_nextOr (hpairs _)) rfl

theorem regular_written (s : Spec) : ∀ e ∈ s.written, ∀ v ∈ e.2, Regular v := by
  have hsource : ∀ v ∈ some s.sourceRef.toJson, Regular v := by
    rintro v ⟨⟩
    exact regular_recordOf s.sourceRef.regular_written
  have hdepends := regular_nonEmpty (fun r : DependencyRef => regular_recordOf r.regular_written)
  have hpairs := regular_nonEmpty (fun kv : KeyValue => regular_recordOf kv.regular_written)
  simp only [written, List.forall_mem_cons]
  exact ⟨regular_string _, regular_map .string _, regular_string _, hsource, regular_string _,
    regular_map .string _, regular_map .string _, regular_bool _, regular_bool _, hdepends _,
    hpairs _, hpairs _, List.forall_mem_nil _⟩

theorem lossless : Lossless decode toJson keys defaults := by
  refine lossless_of_table (fun _ => rfl) (fun _ => rfl) (by decide) decode_toJson ordered
    regular_written fun a b h => ?_
  show byName b = byName a
  simp only [byName, h.present? "stackName" (by decide) rfl, h.optional "region" (by decide) rfl,
    h.present? "templatePath" (by decide) rfl, h.present? "sourceRef" (by decide) rfl,
    h.present? "interval" (by decide) rfl, h.optional "pollInterval" (by decide) rfl,
    h.optional "retryInterval" (by decide) rfl, h.switch "suspend" (by decide) rfl,
    h.switch "destroyStackOnDeletion" (by decide) rfl, h.list "dependsOn" (by decide) rfl,
    h.list "stackParameters" (by decide) rfl, h.list "stackTags" (by decide) rfl]

end Spec

/-! ## The records of a status -/

namespace Condition

def keys : List String :=
  ["type", "status", "reason", "message", "observedGeneration", "lastTransitionTime"]

def defaults : Fields := [("reason", .null), ("message", .null), ("observedGeneration", .null),
  ("lastTransitionTime", .null)]

theorem ordered (c : Condition) : decode (.array (c.written.map fun e =>
    e.2.getD ((Fields.get? e.1 defaults).getD .null))) = .ok c := by
  have hoptional := asOptional_getD asOptional_string
  have hgeneration := asOptional_getD asOptional_ofInt64 c.observedGeneration
  exact asRecord_array <| run_bind (run_next (asString_string _)) <|
    run_bind (run_next c.status.decode_text) <| run_bind (run_next (hoptional _)) <|
    run_bind (run_next (hoptional _)) <| run_bind (run_next hgeneration) <|
    run_bind (run_next (hoptional _)) rfl

theorem regular_written (c : Condition) : ∀ e ∈ c.written, ∀ v ∈ e.2, Regular v := by
  simp only [written, List.forall_mem_cons]
  exact ⟨regular_string _, regular_string _, regular_map .string _, regular_map .string _,
    regular_map regular_ofInt64 _, regular_map .string _, List.forall_mem_nil _⟩

theorem lossless : Lossless decode toJson keys defaults := by
  refine lossless_of_table (fun _ => rfl) (fun _ => rfl) (by decide) decode_toJson ordered
    regular_written fun a b h => ?_
  show byName b = byName a
  simp only [byName, h.present? "type" (by decide) rfl, h.present? "status" (by decide) rfl,
    h.optional "reason" (by decide) rfl, h.optional "message" (by decide) rfl,
    h.optional "observedGeneration" (by decide) rfl,
    h.optional "lastTransitionTime" (by decide) rfl]

end Condition

namespace Status

def keys : List String := ["observedGeneration", "conditions", "lastAttemptedRevision",
  "lastAppliedRevision", "lastAttemptedChangeSet", "lastAppliedChangeSet", "stackName"]

def defaults : Fields := [("observedGeneration", .null), ("conditions", .array []),
  ("lastAttemptedRevision", .null), ("lastAppliedRevision", .null),
  ("lastAttemptedChangeSet", .null), ("lastAppliedChangeSet", .null), ("stackName", .null)]

theorem ordered (s : Status) : decode (.array (s.written.map fun e =>
    e.2.getD ((Fields.get? e.1 defaults).getD .null))) = .ok s := by
  have hoptional := asOptional_getD asOptional_string
  have hgeneration := asOptional_getD asOptional_ofInt64 s.observedGeneration
  have hconditions := asArray_getD Condition.decode_toJson s.conditions
  exact asRecord_array <| run_bind (run_next hgeneration) <| run_bind (run_nextOr hconditions) <|
    run_bind (run_next (hoptional _)) <| run_bind (run_next (hoptional _)) <|
    run_bind (run_next (hoptional _)) <| run_bind (run_next (hoptional _)) <|
    run_bind (run_next (hoptional _)) rfl

theorem regular_written (s : Status) : ∀ e ∈ s.written, ∀ v ∈ e.2, Regular v := by
  have hconditions := regular_nonEmpty (fun c : Condition => regular_recordOf c.regular_written)
  simp only [written, List.forall_mem_cons]
  exact ⟨regular_map regular_ofInt64 _, hconditions _, regular_map .string _,
    regular_map .string _, regular_map .string _, regular_map .string _, regular_map .string _,
    List.forall_mem_nil _⟩

theorem lossless : Lossless decode toJson keys defaults := by
  refine lossless_of_table (fun _ => rfl) (fun _ => rfl) (by decide) decode_toJson ordered
    regular_written fun a b h => ?_
  show byName b = byName a
  simp only [byName, h.optional "observedGeneration" (by decide) rfl,
    h.list "conditions" (by decide) rfl, h.optional "lastAttemptedRevision" (by decide) rfl,
    h.optional "lastAppliedRevision" (by decide) rfl,
    h.optional "lastAttemptedChangeSet" (by decide) rfl,
    h.optional "lastAppliedChangeSet" (by decide) rfl, h.optional "stackName" (by decide) rfl]

end Status

/-- Specs and statuses come through JSON unchanged, and so do the records they are made of. -/
theorem spec_and_status_lossless :
    Lossless Spec.decode Spec.toJson Spec.keys Spec.defaults ∧
      Lossless Status.decode Status.toJson Status.keys Status.defaults ∧
      Lossless SourceRef.decode SourceRef.toJson SourceRef.keys SourceRef.defaults ∧
      Lossless DependencyRef.decode DependencyRef.toJson DependencyRef.keys
        DependencyRef.defaults ∧
      Lossless KeyValue.decode KeyValue.toJson KeyValue.keys [] ∧
      Lossless Condition.decode Condition.toJson Condition.keys Condition.defaults :=
  ⟨Spec.lossless, Status.lossless, SourceRef.lossless, DependencyRef.lossless, KeyValue.lossless,
    Condition.lossless⟩

end StackSync
