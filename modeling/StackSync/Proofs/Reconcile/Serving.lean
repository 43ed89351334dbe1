import StackSync.Proofs.Reconcile.Rounds
import StackSync.Proofs.Reconcile.Turn
import StackSync.Simulation.Rehearsal

/-!
# Worlds that serve an object

A round asks others before it comes to the cloud: the stacks it depends on, its source, the server
of its artifact. A world serves an object if all of these answer as they should, as often as they
are asked. No request of a round changes that (`SameSurroundings`), so what a world serves it serves
in every later round, and each of these rounds comes to pursue the same template.
-/

namespace StackSync

open Program MemoryCloud

namespace Program

variable {σ α β : Type}

/-- A handler that gives the answers of a conversation whenever it is asked brings the program to
the result of that conversation. -/
theorem run_of_ran {h : Handler σ} {I : σ → Prop} {p : Program α} {es : List Exchange} {a : α}
    (hran : Ran p es a)
    (hanswers : ∀ s, I s → ∀ e ∈ es, (h e.request s).1 = e.answer ∧ I (h e.request s).2) {s : σ}
    (hs : I s) : (run h p s).1 = a := by
  induction hran generalizing s with
  | done a => rfl
  | ask _ ih =>
    obtain ⟨hanswer, hnext⟩ := hanswers s hs _ List.mem_cons_self
    rw [run, hanswer]
    exact ih (fun s hs e he => hanswers s hs e (List.mem_cons_of_mem _ he)) hnext

end Program

/-! ## Observing a generation -/

namespace Operator

theorem attempt_observeGeneration (r : Round) : (observeGeneration r).attempt = r.attempt := by
  unfold observeGeneration
  dsimp only
  split <;> rfl

theorem observed_observeGeneration (m : Manifest) (intervals : Intervals) (time : String) :
    (observeGeneration (Round.start m intervals time)).current.observedGeneration =
      newest m.base.observedGeneration m.metadata.generation := by
  unfold observeGeneration
  dsimp only
  split
  · next hseen =>
    rw [← show m.base.observedGeneration = m.metadata.generation from hseen, newest, ite_self]
    rfl
  · rfl

end Operator

namespace World

/-- Everything but the cloud, the stored templates and the logs is the same. -/
structure SameSurroundings (w w' : World) : Prop where
  sources : w'.sources = w.sources
  sourceFailure : w'.sourceFailure = w.sourceFailure
  manifests : w'.manifests = w.manifests
  stackFailure : w'.stackFailure = w.stackFailure
  uploads : w'.templates.failure = w.templates.failure
  isOnline : w'.network.isOnline = w.network.isOnline
  replies : w'.network.replies = w.network.replies

namespace SameSurroundings

variable {w w' w'' : World}

theorem refl (w : World) : SameSurroundings w w := ⟨rfl, rfl, rfl, rfl, rfl, rfl, rfl⟩

theorem trans (h : SameSurroundings w w') (h' : SameSurroundings w' w'') :
    SameSurroundings w w'' :=
  ⟨h'.sources.trans h.sources, h'.sourceFailure.trans h.sourceFailure,
    h'.manifests.trans h.manifests, h'.stackFailure.trans h.stackFailure,
    h'.uploads.trans h.uploads, h'.isOnline.trans h.isOnline, h'.replies.trans h.replies⟩

theorem answer (r : Request) (w : World) : SameSurroundings w (World.answer r w).2 := by
  cases r with
  | download url =>
    simp only [World.answer, Network.attempt]
    split
    · exact refl w
    · split <;> exact ⟨rfl, rfl, rfl, rfl, rfl, rfl, rfl⟩
  | uploadTemplate bucket region key body =>
    simp only [World.answer, World.uploadTemplate, MemoryTemplates.upload]
    split
    · exact refl w
    · exact ⟨rfl, rfl, rfl, rfl, rfl, rfl, rfl⟩
  | _ => exact ⟨rfl, rfl, rfl, rfl, rfl, rfl, rfl⟩

theorem run {α : Type} (p : Program α) (w : World) :
    SameSurroundings w (Program.run World.answer p w).2 := by
  induction p generalizing w with
  | done a => exact refl w
  | ask r next ih => exact (answer r w).trans (ih _ _)

theorem findStack (h : SameSurroundings w w') (ns name : String) :
    w'.findStack ns name = w.findStack ns name := by
  rw [World.findStack, World.findStack, h.stackFailure, h.manifests]

theorem findArtifact (h : SameSurroundings w w') (kind ns name : String) :
    w'.findArtifact kind ns name = w.findArtifact kind ns name := by
  rw [World.findArtifact, World.findArtifact, h.sourceFailure, h.sources]

/-- Where uploads work, none of a conversation fails. -/
theorem not_failsUpload {α : Type} (p : Program α) (huploads : w.templates.failure = none) :
    ∀ e ∈ exchanges World.answer p w, e.failsUpload = false := by
  induction p generalizing w with
  | done a => exact fun e he => absurd he List.not_mem_nil
  | ask r next ih =>
    have hlater := ih (World.answer r w).1 (w := (World.answer r w).2)
      ((answer r w).uploads.trans huploads)
    intro e he
    rcases List.mem_cons.1 he with rfl | he
    · cases r with
      | uploadTemplate bucket region key body =>
        simp only [World.answer, World.uploadTemplate, MemoryTemplates.upload, huploads]
        rfl
      | _ => rfl
    · exact hlater e he

end SameSurroundings

/-- The stacks an object depends on are ready, its source has an artifact, and the artifact leads to
the template however often it has been downloaded before. -/
structure Serves (w : World) (o : Operator) (m : Manifest) (revision body : String) : Prop where
  dependencies : ∀ d ∈ m.spec.dependsOn, ¬ (d.ns.getD m.ns = m.ns ∧ d.name = m.name) ∧
    ∃ found, w.findStack (d.ns.getD m.ns) d.name = .ok (some found) ∧ found.notReady? = none
  template : ∃ artifact, artifact.revision = revision ∧
    w.findArtifact m.spec.sourceRef.kind (m.spec.sourceRef.ns.getD m.ns) m.spec.sourceRef.name =
      .ok (some artifact) ∧
    ∀ w', SameSurroundings w w' →
      (run World.answer (fetchTemplate o.download o.workspace artifact m.spec.templatePath) w').1 =
        .ok body

variable {w w' : World} {o : Operator} {m m' : Manifest} {revision body : String}

theorem Serves.of_same (h : w.Serves o m revision body) (hs : SameSurroundings w w') :
    w'.Serves o m revision body where
  dependencies d hd := by
    rw [hs.findStack]
    exact h.dependencies d hd
  template := by
    obtain ⟨artifact, hrevision, hfound, hloads⟩ := h.template
    refine ⟨artifact, hrevision, ?_, fun w'' hs' => hloads w'' (hs.trans hs')⟩
    rw [hs.findArtifact]
    exact hfound

/-- Serving depends on the name and the spec of the object only. -/
theorem Serves.of_object (h : w.Serves o m revision body) (hspec : m'.spec = m.spec)
    (hns : m'.ns = m.ns) (hname : m'.name = m.name) : w.Serves o m' revision body := by
  obtain ⟨hdependencies, htemplate⟩ := h
  rw [← hspec, ← hns, ← hname] at hdependencies
  rw [← hspec, ← hns] at htemplate
  exact ⟨hdependencies, htemplate⟩

/-! ## A served round -/

theorem run_firstBlocked (ds : List DependencyRef)
    (h : ∀ d ∈ ds, ¬ (d.ns.getD m.ns = m.ns ∧ d.name = m.name) ∧
      ∃ found, w.findStack (d.ns.getD m.ns) d.name = .ok (some found) ∧ found.notReady? = none) :
    (run World.answer (firstBlocked m ds) w).1 = none := by
  induction ds with
  | nil => rfl
  | cons d rest ih =>
    obtain ⟨hother, found, hfound, hready⟩ := h d List.mem_cons_self
    have hwhy : run World.answer (whyBlocked m (d.ns.getD m.ns) d.name) w = (none, w) := by
      unfold whyBlocked
      rw [if_neg hother, request_bind, Program.run]
      simp only [World.answer, hfound]
      exact congrArg (·, w) hready
    show (run World.answer (whyBlocked m (d.ns.getD m.ns) d.name >>= _) w).1 = none
    rw [run_bind, hwhy]
    exact ih fun d' hd' => h d' (List.mem_cons_of_mem _ hd')

/-- With its source at hand and its template loaded, a round goes on in a world with the same
surroundings, and it has said nothing to the cloud yet. -/
theorem run_advanceSource {r : Round} {artifact : Artifact}
    (hfound : w.findArtifact r.manifest.spec.sourceRef.kind
      (r.manifest.spec.sourceRef.ns.getD r.manifest.ns) r.manifest.spec.sourceRef.name =
      .ok (some artifact))
    (hfetched : (run World.answer (fetchTemplate o.download o.workspace artifact
      r.manifest.spec.templatePath) w).1 = .ok body) :
    ∃ before w', SameSurroundings w w' ∧ remote before = [] ∧
      let p := o.advanceSource r >>= fun x => x.1.close x.2
      run World.answer p w = run World.answer (o.pursue r artifact.revision body) w' ∧
      exchanges World.answer p w =
        before ++ exchanges World.answer (o.pursue r artifact.revision body) w' := by
  obtain ⟨f, hf, hok⟩ := o.advanceArtifact_eq_bind r artifact body
  have hanswer : World.answer (.findArtifact r.manifest.spec.sourceRef.kind
      (r.manifest.spec.sourceRef.ns.getD r.manifest.ns) r.manifest.spec.sourceRef.name) w =
      (.ok (some artifact), w) := congrArg (·, w) hfound
  have hlocal := remote_of_fetchTemplate (ran_run World.answer
    (fetchTemplate o.download o.workspace artifact r.manifest.spec.templatePath) w)
  refine ⟨Operator.artifactFound r.manifest artifact :: exchanges World.answer
    (fetchTemplate o.download o.workspace artifact r.manifest.spec.templatePath) w,
    (run World.answer
      (fetchTemplate o.download o.workspace artifact r.manifest.spec.templatePath) w).2,
    .run _ _, (remote_cons_of_not_isRemote rfl).trans hlocal, ?_⟩
  unfold Operator.advanceSource
  dsimp only
  rw [bind_bind, request_bind, run, exchanges, hanswer]
  dsimp only
  rw [hf, run_bind, exchanges_bind, hfetched, hok]
  exact ⟨rfl, rfl⟩

/-- A served round comes to pursue its template in a world with the same surroundings, and it has
said nothing to the cloud before. -/
theorem Serves.pursue {intervals : Intervals} (h : w.Serves o m revision body)
    (hduty : m.lifecycleFacts.choice.duty = some .reconcile)
    (hreads : Intervals.ofSpec m.spec = .ok intervals) (time : String) :
    ∃ before w', SameSurroundings w w' ∧ remote before = [] ∧
      let p := o.pursue (Operator.observeGeneration (Round.start m intervals time)) revision body
      run World.answer (o.reconcile time m) w = run World.answer p w' ∧
      exchanges World.answer (o.reconcile time m) w = before ++ exchanges World.answer p w' := by
  obtain ⟨artifact, rfl, hfound, hloads⟩ := h.template
  obtain ⟨f, hf, hopen⟩ := o.reconcile_eq_bind hduty hreads time
  have hmanifest := (Operator.fresh_observeGeneration m intervals time).manifest
  generalize Operator.observeGeneration (Round.start m intervals time) = r at hmanifest hopen ⊢
  subst hmanifest
  have hgate : (run World.answer (dependencyGate r.manifest) w).1 = none :=
    run_firstBlocked r.manifest.spec.dependsOn h.dependencies
  have hquiet := remote_of_dependencyGate (ran_run World.answer (dependencyGate r.manifest) w)
  have hsame := SameSurroundings.run (dependencyGate r.manifest) w
  rw [← hsame.findArtifact] at hfound
  obtain ⟨before, w', hsame', hlocal, hrun, hexchanges⟩ :=
    run_advanceSource hfound (hloads _ hsame)
  refine ⟨exchanges World.answer (dependencyGate r.manifest) w ++ before, w',
    hsame.trans hsame', ?_, ?_⟩
  · rw [remote_append, hquiet, hlocal, List.append_nil]
  · rw [hf, run_bind, exchanges_bind, hgate, hopen]
    refine ⟨hrun, ?_⟩
    rw [hexchanges, List.append_assoc]

/-- A served round pursues the target of its template, and the generation it has observed before
that is the newest one it knows. -/
theorem Serves.pursuit {intervals : Intervals} (h : w.Serves o m revision body)
    (hduty : m.lifecycleFacts.choice.duty = some .reconcile)
    (hreads : Intervals.ofSpec m.spec = .ok intervals) (time : String) :
    ∃ reference st s,
      (o.targetOf m revision body).Pursuit
        (remote (exchanges World.answer (o.reconcile time m) w)) reference st ∧
      s.observedGeneration = newest m.base.observedGeneration m.metadata.generation ∧
      (run World.answer (o.reconcile time m) w).1.Writes s
        ⟨m.metadata.generation, some m.spec.stackName, some revision, some reference, time⟩ st := by
  obtain ⟨before, w', -, hlocal, hrun, hexchanges⟩ := h.pursue hduty hreads time
  have hfresh := Operator.fresh_observeGeneration m intervals time
  have hran := ran_run World.answer
    (o.pursue (Operator.observeGeneration (Round.start m intervals time)) revision body) w'
  rw [← hrun] at hran
  obtain ⟨first, rest, ⟨r, out⟩, hsplit, hadvanced, hclosed⟩ := ran_bind_iff.1 hran
  obtain ⟨hquiet, hout⟩ := remote_of_close hclosed
  have htarget := o.target_eq_targetOf (r := (Operator.observeGeneration
    (Round.start m intervals time)).withRevision revision) hfresh.manifest
    hfresh.current.lastAttemptedChangeSet revision body
  rw [htarget] at hadvanced
  obtain ⟨reference, st, hpursuit, hwrites⟩ := Operator.pursuit_of_advanceStack rfl hadvanced
  refine ⟨reference, st, _, ?_, Operator.observed_observeGeneration m intervals time, ?_⟩
  · rw [hexchanges, remote_append, hlocal, List.nil_append, hsplit, remote_append, hquiet,
      List.append_nil]
    exact hpursuit
  · rw [hout]
    unfold Round.attemptOn Round.withChangeSet Round.withRevision at hwrites
    dsimp only at hwrites
    rw [Operator.attempt_observeGeneration] at hwrites
    exact hwrites

end World

end StackSync
