import StackSync.Proofs.Reconcile.Pursuit

/-!
# What one round comes to

A round over an object passes in one of four ways: it does nothing about the stack, it tears the
stack down, it is stopped before a template is loaded, or it loads a template and pursues it.
`passage_of_reconcile` reads this off the program; with it come the exchanges with the cloud and the
move the status makes.
-/

namespace StackSync

open Program

namespace Manifest

def base (m : Manifest) : Status := m.status.getD .empty

/-- An attempt of a round over the object is at the object's generation; revision and change set come
to it as the round gets that far. -/
structure Attempts (m : Manifest) (a : Attempt) (revision changeSet : Option String) : Prop where
  generation : a.generation = m.metadata.generation
  revision : a.revision = revision
  changeSet : a.changeSet = changeSet

theorem attempts_start (m : Manifest) (intervals : Intervals) (time : String) :
    m.Attempts (Round.start m intervals time).attempt none none := ⟨rfl, rfl, rfl⟩

/-- The status once the present generation has been observed: the stored one, or one progressing
move on. -/
def Observed (m : Manifest) (s : Status) : Prop :=
  s = m.base ∨ ∃ a, m.Attempts a none none ∧ m.base.Moves a .unknown s

theorem Observed.foreign {m : Manifest} {s : Status} (h : m.Observed s) :
    s.foreign = m.base.foreign := by
  rcases h with rfl | ⟨a, -, hmoves⟩
  · rfl
  · exact hmoves.foreign

theorem Observed.lastAttemptedChangeSet {m : Manifest} {s : Status} (h : m.Observed s) :
    s.lastAttemptedChangeSet = m.base.lastAttemptedChangeSet := by
  rcases h with rfl | ⟨a, hattempts, hmoves⟩
  · rfl
  · rw [hmoves.lastAttemptedChangeSet, hattempts.changeSet]
    rfl

end Manifest

/-! ## Regions -/

/-- The region is that of the spec without the white space around it, or the default if there is
nothing else in it. -/
structure Spec.Resides (spec : Spec) (default region : String) : Prop where
  given : ∀ given, spec.region = some given → Text.trim given ≠ "" → region = Text.trim given
  fallback : (∀ given, spec.region = some given → Text.trim given = "") → region = default

theorem Spec.Resides.unique {spec : Spec} {default region region' : String}
    (h : spec.Resides default region) (h' : spec.Resides default region') : region = region' := by
  by_cases hgiven : ∃ given, spec.region = some given ∧ Text.trim given ≠ ""
  · obtain ⟨given, hspec, hne⟩ := hgiven
    rw [h.given given hspec hne, h'.given given hspec hne]
  · have hblank : ∀ given, spec.region = some given → Text.trim given = "" :=
      fun given hspec => Decidable.not_not.1 fun hne => hgiven ⟨given, hspec, hne⟩
    rw [h.fallback hblank, h'.fallback hblank]

/-- Where a target of the spec is. -/
theorem Spec.resides_regionOr (spec : Spec) (default : String) :
    spec.Resides default (spec.regionOr default) where
  given given hspec hne := by
    have hnonempty : (Text.trim given).isEmpty = false := by
      rw [Bool.eq_false_iff, Ne, String.isEmpty_iff]
      exact hne
    simp [regionOr, hspec, Text.nonBlank?, hnonempty]
  fallback hblank := by
    cases hspec : spec.region with
    | none => simp [regionOr, hspec]
    | some given => simp [regionOr, hspec, Text.nonBlank?, hblank given hspec]

namespace Operator

/-- Where a deletion looks for the stack. -/
theorem resides_regionOf (o : Operator) (m : Manifest) :
    m.spec.Resides o.settings.defaultRegion (o.regionOf m) where
  given given hspec hne := by
    have hnonempty : (Text.trim given).isEmpty = false := by
      rw [Bool.eq_false_iff, Ne, String.isEmpty_iff]
      exact hne
    simp [regionOf, hspec, Option.filter, hnonempty]
  fallback hblank := by
    cases hspec : m.spec.region with
    | none => simp [regionOf, hspec]
    | some given => simp [regionOf, hspec, Option.filter, hblank given hspec]

/-- The region of a deletion and that of a target are computed apart and agree. -/
theorem regionOf_eq_regionOr (o : Operator) (m : Manifest) :
    o.regionOf m = m.spec.regionOr o.settings.defaultRegion :=
  (o.resides_regionOf m).unique (m.spec.resides_regionOr o.settings.defaultRegion)

def targetOf (o : Operator) (m : Manifest) (revision body : String) : TargetStack :=
  o.target (Round.start m .fallback "") revision body

theorem target_eq_targetOf (o : Operator) {r : Round} {m : Manifest} (hm : r.manifest = m)
    (hlast : r.current.lastAttemptedChangeSet = m.base.lastAttemptedChangeSet)
    (revision body : String) :
    o.target r revision body = o.targetOf m revision body := by
  subst hm
  simp only [target, targetOf, hlast]
  rfl

/-- Within the exchanges, the source has answered with an artifact of the revision, and the
downloads that follow have led to the template. -/
def Loaded (o : Operator) (m : Manifest) (es : List Exchange) (revision body : String) : Prop :=
  ∃ (artifact : Artifact) (loading : List Exchange), artifact.revision = revision ∧
    Ran (fetchTemplate o.download o.workspace artifact m.spec.templatePath) loading (.ok body) ∧
    ⟨.findArtifact m.spec.sourceRef.kind (m.spec.sourceRef.ns.getD m.ns) m.spec.sourceRef.name,
      .ok (some artifact)⟩ :: loading <:+: es

inductive TornDown (o : Operator) (m : Manifest) : List Exchange → Prop where
  | looked {answer : CloudAnswer (Option StackDescription)} :
      TornDown o m [⟨.describeStack (m.spec.regionOr o.settings.defaultRegion) m.spec.stackName,
        answer⟩]
  | deleted {answer : CloudAnswer (Option StackDescription)} {deletion : CloudAnswer Unit} :
      TornDown o m [⟨.describeStack (m.spec.regionOr o.settings.defaultRegion) m.spec.stackName,
        answer⟩,
        ⟨.deleteStack (m.spec.regionOr o.settings.defaultRegion) m.spec.stackName, deletion⟩]

/-- The ways a round can pass, by its exchanges and its outcome. -/
inductive Passage (o : Operator) (m : Manifest) (es : List Exchange) (out : Outcome) : Prop where
  | idle : m.lifecycleFacts.choice.duty ≠ some .reconcile → remote es = [] → out.status = none →
      Passage o m es out
  | tornDown : m.lifecycleFacts.choice.duty = some .destroyStack → o.TornDown m (remote es) →
      (∀ d, out.status = some d →
        ∃ a st, m.Attempts a none none ∧ st ≠ .true ∧ m.base.Moves a st d) →
      Passage o m es out
  | stopped {s : Status} {a : Attempt} {revision : Option String} : remote es = [] →
      m.Observed s → m.Attempts a revision none → out.Writes s a .false → Passage o m es out
  | pursued {revision body reference : String} {s : Status} {a : Attempt} {st : ConditionStatus} :
      m.lifecycleFacts.choice.duty = some .reconcile → o.Loaded m es revision body →
      (o.targetOf m revision body).Pursuit (remote es) reference st → m.Observed s →
      m.Attempts a (some revision) (some reference) → out.Writes s a st → Passage o m es out

variable {o : Operator} {time : String} {m : Manifest} {es : List Exchange} {x : Round × Outcome}
    {out : Outcome}

/-! ## Tearing down -/

/-- Apart from what it says, a round that tears down writes a failure or that it waits. -/
def Unready (m : Manifest) (out : Outcome) : Prop :=
  ∀ d, out.status = some d → ∃ a st, m.Attempts a none none ∧ st ≠ .true ∧ m.base.Moves a st d

theorem unready_of_writes {a : Attempt} {st : ConditionStatus} (hattempts : m.Attempts a none none)
    (hst : st ≠ .true) (h : out.Writes m.base a st) : Unready m out := by
  intro d hd
  obtain ⟨d', hd', hmoves⟩ := h
  rw [hd, Option.some.injEq] at hd'
  subst hd'
  exact ⟨a, st, hattempts, hst, hmoves⟩

theorem unready_of_status_none (h : out.status = none) : Unready m out := by
  intro d hd
  rw [h] at hd
  cases hd

theorem remote_of_deletion {r : Round} {region name : String} (hcurrent : r.current = m.base)
    (hattempts : m.Attempts r.attempt none none)
    (h : Ran (Program.request (.deleteStack region name) >>= fun answer =>
      match answer with
      | .error e => pure (r, r.failByCall "delete stack" e)
      | .ok () => pure (r, r.wait ("Deleting stack " ++ name))) es x) :
    (∃ answer, remote es = [⟨.deleteStack region name, answer⟩]) ∧ Unready m x.2 := by
  obtain ⟨answer, rest, rfl, hrest⟩ := ran_request_bind_iff.1 h
  cases answer with
  | error e =>
    obtain ⟨rfl, rfl⟩ := ran_pure_iff.1 hrest
    exact ⟨⟨_, rfl⟩, unready_of_writes hattempts (by simp) (hcurrent ▸ r.failByCall_writes _ e)⟩
  | ok done =>
    obtain ⟨rfl, rfl⟩ := ran_pure_iff.1 hrest
    exact ⟨⟨_, rfl⟩, unready_of_writes hattempts (by simp) (hcurrent ▸ r.wait_writes _)⟩

theorem remote_of_destroy {r : Round} {region : String} {s : StackDescription}
    (hcurrent : r.current = m.base) (hattempts : m.Attempts r.attempt none none)
    (h : Ran (destroy r region s) es x) :
    (∃ answer, remote es = [⟨.deleteStack region r.manifest.spec.stackName, answer⟩]) ∧
    Unready m x.2 := by
  unfold destroy at h
  dsimp only at h
  split at h
  · obtain ⟨first, rest, r', rfl, hemit, hrest⟩ := ran_bind_iff.1 h
    obtain ⟨hquiet, rfl⟩ := remote_of_emit hemit
    rw [remote_append, hquiet, List.nil_append]
    exact remote_of_deletion (r := { r with emitted := true }) hcurrent hattempts hrest
  · exact remote_of_deletion hcurrent hattempts h

theorem tornDown_of_advanceDeletion {intervals : Intervals}
    (h : Ran (o.advanceDeletion (Round.start m intervals time)) es x) :
    o.TornDown m (remote es) ∧ Unready m x.2 := by
  unfold advanceDeletion at h
  rw [show (Round.start m intervals time).manifest = m from rfl, regionOf_eq_regionOr] at h
  obtain ⟨answer, rest, rfl, hrest⟩ := ran_request_bind_iff.1 h
  rw [remote_cons_of_isRemote rfl]
  cases answer with
  | error e =>
    obtain ⟨rfl, rfl⟩ := ran_pure_iff.1 hrest
    exact ⟨.looked, unready_of_writes (m.attempts_start ..) (by simp)
        ((Round.start m intervals time).failByCall_writes _ e)⟩
  | ok found =>
    cases found with
    | none =>
      obtain ⟨rfl, rfl⟩ := ran_pure_iff.1 hrest
      exact ⟨.looked, unready_of_status_none rfl⟩
    | some s =>
      dsimp only at hrest
      split at hrest
      · obtain ⟨rfl, rfl⟩ := ran_pure_iff.1 hrest
        exact ⟨.looked, unready_of_status_none rfl⟩
      · split at hrest
        · obtain ⟨rfl, rfl⟩ := ran_pure_iff.1 hrest
          exact ⟨.looked, unready_of_writes (m.attempts_start ..) (by simp)
              ((Round.start m intervals time).wait_writes _)⟩
        · obtain ⟨⟨answer, hremote⟩, hunready⟩ := remote_of_destroy (m := m) rfl (m.attempts_start ..) hrest
          rw [hremote]
          exact ⟨.deleted, hunready⟩

theorem passage_of_tearDown (hduty : m.lifecycleFacts.choice.duty = some .destroyStack)
    (h : Ran (o.tearDown time m) es out) : Passage o m es out := by
  unfold tearDown at h
  obtain ⟨first, rest, ⟨r, out'⟩, rfl, hdeletion, hclose⟩ := ran_bind_iff.1 h
  obtain ⟨hquiet, rfl⟩ := remote_of_close hclose
  obtain ⟨htorn, hunready⟩ := tornDown_of_advanceDeletion hdeletion
  refine .tornDown hduty ?_ hunready
  rw [remote_append, hquiet, List.append_nil]
  exact htorn

/-! ## Keeping in sync -/

theorem passage_of_invalidSpec {message : String} (h : Ran (invalidSpec m time message) es out) :
    Passage o m es out := by
  have hwrites : (Round.outcome ((Round.start m .fallback time).current.notReady
      (Round.start m .fallback time).attempt Reason.invalidSpec message) none).Writes m.base
      (Round.start m .fallback time).attempt .false := ⟨_, rfl, .notReady _ _⟩
  unfold invalidSpec at h
  dsimp only at h
  split at h
  · obtain ⟨rfl, rfl⟩ := ran_pure_iff.1 h
    exact .stopped rfl (.inl rfl) (m.attempts_start ..) hwrites
  · obtain ⟨first, rest, r, rfl, hemit, hrest⟩ := ran_bind_iff.1 h
    obtain ⟨rfl, rfl⟩ := ran_pure_iff.1 hrest
    refine .stopped ?_ (.inl rfl) (m.attempts_start ..) hwrites
    rw [remote_append, (remote_of_emit hemit).1, remote_nil, List.append_nil]

/-- A round that knows the present generation and has not attempted a change set yet. -/
structure Fresh (m : Manifest) (r : Round) : Prop where
  manifest : r.manifest = m
  current : m.Observed r.current
  attempt : m.Attempts r.attempt none none

theorem fresh_observeGeneration (m : Manifest) (intervals : Intervals) (time : String) :
    Fresh m (observeGeneration (Round.start m intervals time)) := by
  unfold observeGeneration
  dsimp only
  split
  · exact ⟨rfl, .inl rfl, m.attempts_start intervals time⟩
  · exact ⟨rfl, .inr ⟨_, m.attempts_start intervals time, .progressing _⟩,
      m.attempts_start intervals time⟩

theorem Loaded.of_infix {es more : List Exchange} {revision body : String}
    (h : o.Loaded m es revision body) (hes : es <:+: more) : o.Loaded m more revision body := by
  obtain ⟨artifact, loading, hrevision, hran, hloading⟩ := h
  exact ⟨artifact, loading, hrevision, hran, hloading.trans hes⟩

/-- Exchanges that stay away from the cloud do not change how a round passes. -/
theorem Passage.around {before after : List Exchange} (h : Passage o m es out)
    (hbefore : remote before = [])
    (hafter : remote after = []) : Passage o m (before ++ es ++ after) out := by
  have hremote : remote (before ++ es ++ after) = remote es := by
    rw [remote_append, remote_append, hbefore, hafter, List.nil_append, List.append_nil]
  cases h with
  | idle hduty hquiet hnone => exact .idle hduty (hremote.trans hquiet) hnone
  | tornDown hduty htorn hunready => exact .tornDown hduty (hremote ▸ htorn) hunready
  | stopped hquiet hobserved hattempts hwrites =>
      exact .stopped (hremote.trans hquiet) hobserved hattempts hwrites
  | pursued hduty hloaded hpursuit hobserved hattempts hwrites =>
    exact .pursued hduty (hloaded.of_infix ⟨before, after, rfl⟩)
        (hremote ▸ hpursuit) hobserved hattempts hwrites

theorem passage_of_advanceSource {r : Round}
    (hduty : m.lifecycleFacts.choice.duty = some .reconcile)
    (hr : Fresh m r) (h : Ran (o.advanceSource r) es x) : Passage o m es x.2 := by
  obtain ⟨rfl, hobserved, hattempts⟩ := hr
  unfold advanceSource at h
  obtain ⟨answer, rest, rfl, hrest⟩ := ran_request_bind_iff.1 h
  cases answer with
  | error e =>
    obtain ⟨rfl, rfl⟩ := ran_pure_iff.1 hrest
    exact .stopped rfl hobserved hattempts (r.fail_writes _ _)
  | ok found =>
    cases found with
    | none =>
      obtain ⟨rfl, rfl⟩ := ran_pure_iff.1 hrest
      exact .stopped rfl hobserved hattempts (r.fail_writes _ _)
    | some artifact =>
      dsimp only at hrest
      unfold advanceArtifact at hrest
      obtain ⟨loading, more, result, rfl, hloading, hmore⟩ := ran_bind_iff.1 hrest
      have hlocal := remote_of_fetchTemplate hloading
      cases result with
      | error e =>
        obtain ⟨rfl, rfl⟩ := ran_pure_iff.1 hmore
        refine .stopped (a := (r.withRevision artifact.revision).attempt) ?_ hobserved
          ⟨hattempts.generation, rfl, hattempts.changeSet⟩
          ((r.withRevision artifact.revision).fail_writes _ _)
        rw [remote_cons_of_not_isRemote rfl, remote_append, hlocal, remote_nil, List.append_nil]
      | ok body =>
        dsimp only at hmore
        have htarget : o.target (r.withRevision artifact.revision) artifact.revision body =
            o.targetOf r.manifest artifact.revision body :=
          o.target_eq_targetOf rfl hobserved.lastAttemptedChangeSet artifact.revision body
        rw [htarget] at hmore
        obtain ⟨ref, st, hpursuit, hwrites⟩ := pursuit_of_advanceStack rfl hmore
        have htried : r.manifest.Attempts (((r.withRevision artifact.revision).withChangeSet
            (o.targetOf r.manifest artifact.revision body).changeSet).attemptOn ref)
            (some artifact.revision) (some ref) := ⟨hattempts.generation, rfl, rfl⟩
        refine .pursued hduty ⟨artifact, loading, rfl, hloading, [], more, rfl⟩
            ?_ hobserved htried hwrites
        rw [remote_cons_of_not_isRemote rfl, remote_append, hlocal, List.nil_append]
        exact hpursuit

theorem passage_of_advance {intervals : Intervals}
    (hduty : m.lifecycleFacts.choice.duty = some .reconcile)
    (h : Ran (o.advance (Round.start m intervals time)) es x) : Passage o m es x.2 := by
  have hfresh := fresh_observeGeneration m intervals time
  unfold advance at h
  dsimp only at h
  generalize observeGeneration (Round.start m intervals time) = r at h hfresh
  obtain ⟨gate, rest, blocked?, rfl, hgate, hrest⟩ := ran_bind_iff.1 h
  have hquiet := remote_of_dependencyGate hgate
  cases blocked? with
  | some blocked =>
    obtain ⟨first, last, r', rfl, hemit, hlast⟩ := ran_bind_iff.1 hrest
    obtain ⟨hemitted, rfl⟩ := remote_of_emit hemit
    obtain ⟨rfl, rfl⟩ := ran_pure_iff.1 hlast
    refine .stopped ?_ hfresh.current hfresh.attempt ⟨_, rfl, .notReady _ _⟩
    rw [remote_append, hquiet, remote_append, hemitted, remote_nil, List.append_nil,
        List.append_nil]
  | none =>
    have hpassage := passage_of_advanceSource (o := o) hduty hfresh hrest
    have haround := hpassage.around hquiet remote_nil
    rwa [List.append_nil] at haround

theorem passage_of_keepInSync (hduty : m.lifecycleFacts.choice.duty = some .reconcile)
    (h : Ran (o.keepInSync time m) es out) : Passage o m es out := by
  unfold keepInSync at h
  split at h
  · exact passage_of_invalidSpec h
  · obtain ⟨first, rest, ⟨r, out'⟩, rfl, hadvance, hclose⟩ := ran_bind_iff.1 h
    obtain ⟨hquiet, rfl⟩ := remote_of_close hclose
    have hpassage := (passage_of_advance hduty hadvance).around remote_nil hquiet
    rwa [List.nil_append] at hpassage

theorem passage_of_reconcile (h : Ran (o.reconcile time m) es out) : Passage o m es out := by
  unfold reconcile at h
  split at h
  · next hduty =>
    obtain ⟨rfl, rfl⟩ := ran_pure_iff.1 h
    exact .idle (by simp [hduty]) rfl rfl
  · next hduty =>
    obtain ⟨rfl, rfl⟩ := ran_pure_iff.1 h
    exact .idle (by simp [hduty]) rfl rfl
  · next hduty =>
    obtain ⟨rfl, rfl⟩ := ran_pure_iff.1 h
    exact .idle (by simp [hduty]) rfl rfl
  · next hduty => exact passage_of_tearDown hduty h
  · next hduty => exact passage_of_keepInSync hduty h

theorem Passage.moves (h : Passage o m es out) {d : Status} (hd : out.status = some d) :
    ∃ s a st, m.Observed s ∧ a.generation = m.metadata.generation ∧ s.Moves a st d := by
  have of_writes : ∀ {s a st}, m.Observed s → a.generation = m.metadata.generation →
      out.Writes s a st →
      ∃ s a st, m.Observed s ∧ a.generation = m.metadata.generation ∧ s.Moves a st d := by
    rintro s a st hobserved hgeneration ⟨d', hd', hmoves⟩
    rw [hd, Option.some.injEq] at hd'
    subst hd'
    exact ⟨s, a, st, hobserved, hgeneration, hmoves⟩
  cases h with
  | idle _ _ hnone =>
    rw [hd] at hnone
    cases hnone
  | tornDown _ _ hunready =>
    obtain ⟨a, st, hattempts, -, hmoves⟩ := hunready d hd
    exact ⟨m.base, a, st, .inl rfl, hattempts.generation, hmoves⟩
  | stopped _ hobserved hattempts hwrites =>
    exact of_writes hobserved hattempts.generation hwrites
  | pursued _ _ _ hobserved hattempts hwrites =>
    exact of_writes hobserved hattempts.generation hwrites

end Operator

end StackSync
