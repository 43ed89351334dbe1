import StackSync.Proofs.Artifact.Advertised
import StackSync.Proofs.Artifact.Single
import StackSync.Proofs.Reconcile.Loading

/-!
# Rounds there are

What is proved of visits is worth something only if there are visits, and this module makes them. An
active object that depends on nothing, whose spec can be read and whose template can be fetched, has
a round in every world for rehearsals, with everything the cloud of that world answers;
`Supply.valid` says that it is a visit. A sample supply at the end is small enough to be looked at
round by round.
-/

namespace StackSync

open Program MemoryCloud

/-! ## Rounds from their template on -/

namespace Operator

def pursue (o : Operator) (r : Round) (revision body : String) : Program Outcome := do
  let r := r.withRevision revision
  let t := o.target r revision body
  let (r, out) ← advanceStack (r.withChangeSet t.changeSet) t
  r.close out

/-- The exchange in which the source of an object answers with an artifact. -/
def artifactFound (m : Manifest) (artifact : Artifact) : Exchange :=
  ⟨.findArtifact m.spec.sourceRef.kind (m.spec.sourceRef.ns.getD m.ns) m.spec.sourceRef.name,
      .ok (some artifact)⟩

/-- A round goes on to its source if no dependency blocks it. -/
theorem reconcile_eq_bind (o : Operator) {m : Manifest} {intervals : Intervals}
    (hduty : m.lifecycleFacts.choice.duty = some .reconcile)
    (hreads : Intervals.ofSpec m.spec = .ok intervals) (time : String) :
    ∃ f, o.reconcile time m = dependencyGate m >>= f ∧
      f none = o.advanceSource (observeGeneration (Round.start m intervals time)) >>=
        fun x => x.1.close x.2 := by
  have hmanifest := (fresh_observeGeneration m intervals time).manifest
  unfold reconcile keepInSync
  rw [hduty]
  dsimp only
  rw [hreads]
  dsimp only
  unfold advance
  dsimp only
  rw [hmanifest, bind_bind]
  exact ⟨_, rfl, rfl⟩

theorem advanceArtifact_eq_bind (o : Operator) (r : Round) (artifact : Artifact) (body : String) :
    ∃ f, (o.advanceArtifact r artifact >>= fun x => x.1.close x.2) =
      fetchTemplate o.download o.workspace artifact r.manifest.spec.templatePath >>= f ∧
      f (.ok body) = o.pursue r artifact.revision body := by
  unfold advanceArtifact
  dsimp only
  rw [bind_bind]
  exact ⟨_, rfl, rfl⟩

variable {o : Operator} {m : Manifest} {time : String} {artifact : Artifact}
  {loading es : List Exchange} {body : String} {out : Outcome}

theorem ran_reconcile {intervals : Intervals}
    (hduty : m.lifecycleFacts.choice.duty = some .reconcile)
    (hreads : Intervals.ofSpec m.spec = .ok intervals) (hgate : m.spec.dependsOn = [])
    (hfetched : Ran (fetchTemplate o.download o.workspace artifact m.spec.templatePath)
      loading (.ok body))
    (hpursued : Ran (o.pursue (observeGeneration (Round.start m intervals time))
      artifact.revision body) es out) :
    Ran (o.reconcile time m) (artifactFound m artifact :: (loading ++ es)) out := by
  have hopen : dependencyGate m = pure none := by
    rw [dependencyGate, hgate]
    rfl
  have hmanifest := (fresh_observeGeneration m intervals time).manifest
  obtain ⟨f, hf, hnone⟩ := o.reconcile_eq_bind hduty hreads time
  rw [hf, hopen, pure_bind, hnone]
  generalize observeGeneration (Round.start m intervals time) = r at hmanifest hpursued
  subst hmanifest
  obtain ⟨f', hf', hok⟩ := o.advanceArtifact_eq_bind r artifact body
  unfold advanceSource
  dsimp only
  rw [bind_bind, request_bind]
  refine .ask ?_
  dsimp only
  rw [hf']
  exact ran_bind_iff.2 ⟨loading, es, .ok body, rfl, hfetched, hok ▸ hpursued⟩

end Operator

/-! ## Supplies -/

/-- What it takes for rounds over objects with a spec to load a template. -/
structure Supply (o : Operator) (spec : Spec) where
  intervals : Intervals
  artifact : Artifact
  loading : List Exchange
  body : String
  reads : Intervals.ofSpec spec = .ok intervals
  gateless : spec.dependsOn = []
  fetched : Ran (fetchTemplate o.download o.workspace artifact spec.templatePath) loading (.ok body)

namespace Supply

variable {o : Operator} {spec : Spec}

/-- What a round over an object does once it is supplied. -/
def program (s : Supply o spec) (time : String) (m : Manifest) : Program Outcome :=
  o.pursue (Operator.observeGeneration (Round.start m s.intervals time)) s.artifact.revision s.body

def visit (s : Supply o spec) (time : String) (m : Manifest) (w : World) (written : Bool) :
    Visit where
  operator := o
  time := time
  object := m
  exchanges := Operator.artifactFound m s.artifact ::
      (s.loading ++ exchanges World.answer (s.program time m) w)
  outcome := (run World.answer (s.program time m) w).1
  loaded := some (s.artifact.revision, s.body)
  written := written

def world (s : Supply o spec) (time : String) (m : Manifest) (w : World) : World :=
  (run World.answer (s.program time m) w).2

theorem ran (s : Supply o spec) {time : String} {m : Manifest} {w : World} {written : Bool}
    (hspec : m.spec = spec) (hduty : m.lifecycleFacts.choice.duty = some .reconcile) :
    Ran (o.reconcile time m) (s.visit time m w written).exchanges
      (s.visit time m w written).outcome := by
  subst hspec
  exact Operator.ran_reconcile hduty s.reads s.gateless s.fetched
    (ran_run World.answer (s.program time m) w)

theorem valid (s : Supply o spec) {time : String} {m : Manifest} {w : World} {written : Bool}
    (hspec : m.spec = spec)
    (hduty : m.lifecycleFacts.choice.duty = some .reconcile) (hw : w.overrides = .none) :
    (s.visit time m w written).Valid w.cloud (s.world time m w).cloud ∧
    (s.world time m w).overrides = .none := by
  subst hspec
  obtain ⟨hreplay, hoverrides⟩ := replay_of_run (s.program time m) w hw
  have hran : Ran (o.reconcile time m) (s.visit time m w written).exchanges
      (s.visit time m w written).outcome := s.ran rfl hduty
  refine ⟨⟨hran, ?_, Operator.loaded_iff hran ?_⟩, hoverrides⟩
  · refine .cons rfl (replay_append_iff.2 ⟨w.cloud, ?_, hreplay⟩)
    exact replay_of_remote_eq_nil (remote_of_fetchTemplate s.fetched)
  · exact ⟨s.artifact, s.loading, rfl, s.fetched, [], _, rfl⟩

/-- What is loaded does not depend on the name of the stack. -/
def named (s : Supply o spec) (stackName : String) :
    Supply o { spec with stackName := stackName } where
  intervals := s.intervals
  artifact := s.artifact
  loading := s.loading
  body := s.body
  reads := s.reads
  gateless := s.gateless
  fetched := s.fetched

end Supply

/-! ## A sample

Two templates are published, one of them under the revision `b`. The artifact of a revision is an
archive that holds its template and nothing else. -/

namespace Sample

/-- The template of a revision. -/
def body (revision : String) : String := if revision = "b" then "B" else "A"

/-- The header of the template's file, whichever of the two it is. -/
def templateHeader : List UInt8 :=
  Archive.Tar.Header.standard "stack.yaml" "00000000001" "007725" "0" ""

def archive (revision : String) : ByteArray :=
  Archive.Gzip.stored (Archive.Tar.single templateHeader (Text.utf8 (body revision)))

def checksum (revision : String) : String := Digest.Algorithm.sha256.hexDigest (archive revision)

def artifact (revision : String) : Artifact :=
  ⟨"http://[::1]/", revision, none, some (checksum revision)⟩

def url : Url := ⟨"http", "", none, some (.ipv6 [0, 0, 0, 0, 0, 0, 0, 1]), none, .segments
    [""], none, none⟩

def operator : Operator where
  settings := ⟨"eu-north-1", some "templates", [], .ofSeconds 30⟩
  download := ⟨none, 0, 60⟩
  workspace := ⟨.empty, location ["work"]⟩

def object : Manifest where
  metadata := { (default : Metadata) with
    name := some "app"
    ns := some "infra"
    generation := some 1
    finalizers := some [finalizerName] }
  spec := { (default : Spec) with
    stackName := "app-stack"
    templatePath := "stack.yaml"
    interval := "5m" }
  status := none

theorem body_eq (revision : String) : body revision = "A" ∨ body revision = "B" := by
  unfold body
  split
  · exact .inr rfl
  · exact .inl rfl

theorem plain_templateHeader : (Archive.Tar.Header.ofBytes templateHeader).Plain 1 :=
  .ofBytes (by decide +kernel) (by decide +kernel) (by decide +kernel) (by decide +kernel)
    (by decide +kernel)

theorem onlyFile_archive (revision : String) : Archive.OnlyFile
    (Archive.Gzip.decode (archive revision)) (Text.utf8 "stack.yaml")
    ⟨(Text.utf8 (body revision)).toArray⟩ := by
  have hsizes : (Text.utf8 (body revision)).length = 1 ∧
      (Archive.Tar.single templateHeader (Text.utf8 (body revision))).length < 65536 := by
    rcases body_eq revision with h | h <;> rw [h] <;> decide +kernel
  have hbytes : (Archive.Gzip.decode (archive revision)).bytes.toList = Archive.Tar.single
      (Archive.Tar.Header.ofBytes templateHeader).block.toList (Text.utf8 (body revision)) := by
    rw [Archive.Tar.Header.toList_ofBytes]
    exact Archive.Gzip.bytes_stored hsizes.2
  exact .of_single (hsizes.1.symm ▸ plain_templateHeader) (by omega) hbytes (by decide +kernel)
    (by decide +kernel) (by decide +kernel)

theorem template (revision : String) :
    templateInArchive operator.workspace (archive revision) object.spec.templatePath =
      .ok (body revision) := by
  have hfree : FreeIn operator.workspace.tree operator.workspace.directory
      (Text.utf8 "stack.yaml") :=
    ⟨.enter (l := []) .root (by decide) (by decide) rfl, by decide, by decide, by decide, rfl⟩
  have hnames : Names object.spec.templatePath (Text.utf8 "stack.yaml") := ⟨rfl, by decide⟩
  exact templateInArchive_of_onlyFile hfree (onlyFile_archive revision) hnames
    (Text.fromUTF8?_utf8 _)

theorem downloadUrl (revision : String) :
    operator.download.downloadUrl (artifact revision).url = .ok url := by
  have hsome : (operator.download.downloadUrl "http://[::1]/").toOption =
      some url := rfl
  show operator.download.downloadUrl "http://[::1]/" = _
  cases hparsed : operator.download.downloadUrl "http://[::1]/" with
  | error e =>
    rw [hparsed] at hsome
    cases hsome
  | ok parsed =>
    rw [hparsed] at hsome
    exact congrArg _ (Option.some.inj hsome)

theorem advertises_checksum (revision : String) :
    (artifact revision).Advertises .sha256 (checksum revision) := by
  refine .checksum List.mem_cons_self rfl fun hempty => ?_
  have hlength := Digest.Algorithm.length_hexDigest_sha256 (archive revision)
  rw [show Digest.Algorithm.sha256.hexDigest (archive revision) = "" from hempty] at hlength
  cases hlength

theorem fetched (revision : String) :
    Ran (fetchTemplate operator.download operator.workspace
      (artifact revision) object.spec.templatePath)
      [⟨.download url, .response 200 (.ok (archive revision))⟩] (.ok (body revision)) := by
  have hscheme : (!downloadSchemes.contains url.scheme || !url.hasHost) = false := rfl
  unfold fetchTemplate
  rw [Artifact.requiredDigest_of_advertises (advertises_checksum revision), checksum,
    Digest.Algorithm.toAsciiLower_hexDigest]
  dsimp only
  rw [downloadUrl]
  refine ran_bind_iff.2 ⟨_, [], .ok (archive revision), (List.append_nil _).symm, ?_, ?_⟩
  · unfold download
    rw [hscheme, if_neg Bool.false_ne_true]
    refine ran_bind_iff.2
      ⟨_, [], .ok (archive revision), (List.append_nil _).symm, .ask (.done _), ?_⟩
    dsimp only
    rw [if_pos rfl]
    exact .done _
  · show Ran (pure (templateInArchive operator.workspace (archive revision)
      object.spec.templatePath)) [] _
    rw [template]
    exact .done _

def supply (revision : String) : Supply operator object.spec where
  intervals := ⟨.ofSeconds 300, .ofSeconds 5, .ofSeconds 60⟩
  artifact := artifact revision
  loading := [⟨.download url, .response 200 (.ok (archive revision))⟩]
  body := body revision
  reads := by
    have hread : (Intervals.ofSpec object.spec).toOption = some ⟨.ofSeconds 300, .ofSeconds 5,
        .ofSeconds 60⟩ := by
      decide +kernel
    cases hparsed : Intervals.ofSpec object.spec with
    | error e =>
      rw [hparsed] at hread
      cases hread
    | ok intervals =>
      rw [hparsed] at hread
      exact congrArg _ (Option.some.inj hread)
  gateless := rfl
  fetched := fetched revision

/-- What some rounds over the object have come to: the visits, the latest first, the object and the
world. -/
structure Stage where
  visits : List Visit
  object : Manifest
  world : World

namespace Stage

/-- The next round, with the revision that is published then. -/
def visit (x : Stage) (revision : String) (written : Bool) : Visit :=
  (supply revision).visit "2024-05-01T00:00:00+00:00" x.object x.world written

def next (x : Stage) (revision : String) (written : Bool) : Stage where
  visits := x.visit revision written :: x.visits
  object := (x.visit revision written).after
  world := (supply revision).world "2024-05-01T00:00:00+00:00" x.object x.world

/-- A course leads to the stage, and another round can follow. -/
structure Reached (p : Plan) (x : Stage) : Prop where
  course : Course p x.visits x.object x.world.cloud
  spec : x.object.spec = Sample.object.spec
  duty : x.object.lifecycleFacts.choice.duty = some .reconcile
  overrides : x.world.overrides = .none

variable {p : Plan} {x : Stage} {revision : String} {written : Bool}

theorem Reached.valid (h : x.Reached p) :
    (x.visit revision written).Valid x.world.cloud (x.next revision written).world.cloud ∧
      (x.next revision written).world.overrides = .none :=
  (supply revision).valid h.spec h.duty h.overrides

theorem Reached.next (h : x.Reached p) (hallowed : p.allows (x.visit revision written))
    (hbetween : ∀ m c, p.between m c m c)
    (hduty : (x.next revision written).object.lifecycleFacts.choice.duty = some .reconcile) :
    (x.next revision written).Reached p where
  course := .round h.course hallowed h.valid.1 (hbetween _ _)
  spec := (Visit.after_spec _).trans h.spec
  duty := hduty
  overrides := h.valid.2

end Stage

end Sample

end StackSync
