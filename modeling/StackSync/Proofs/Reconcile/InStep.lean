import StackSync.Proofs.Reconcile.Justification

/-!
# Two rounds in step

Two rounds over one object, in a world that answers both alike, ask the same things as long as neither
changes anything. They need not say the same: what is announced depends on the status, and so does the
handle by which a change set is looked up. `InStep` relates programs that part in no other way, with any
relation between their results: it goes through programs step by step and through `bind` like an
equality does, and `InStep.results` says that conversations of such programs, answered alike, come to
related results.
-/

namespace StackSync

open Program MemoryCloud

/-! ## What is asked around -/

/-- It is about the cluster and the artifacts in it, not about the cloud. -/
def Request.isAround : Request → Bool
  | .findStack .. | .findArtifact .. | .download _ => true
  | _ => false

/-- What has been asked around, with the answers. -/
def around (es : List Exchange) : List Exchange := es.filter (·.request.isAround)

/-- As long as the same is asked, the same is answered. -/
def AnsweredAlike : List Exchange → List Exchange → Prop
  | e :: es, e' :: es' => e.request = e'.request → e = e' ∧ AnsweredAlike es es'
  | _, _ => True

/-- It changes a stack or a change set, or uploads a template. -/
def Request.isWrite (r : Request) : Bool := r.sort? = some .change || r.sort? = some .upload

/-- A conversation that has looked at things and left them as they were. -/
def OnlyLooks (es : List Exchange) : Prop := ∀ e ∈ es, e.request.isWrite = false

theorem onlyLooks_cons_iff {e : Exchange} {es : List Exchange} :
    OnlyLooks (e :: es) ↔ e.request.isWrite = false ∧ OnlyLooks es := List.forall_mem_cons

/-! ## The relation -/

variable {α β γ δ : Type}

/-- The programs ask the same, one after the other, and come to related results. What may differ is what
they announce, and the handle a change set is looked up by, if either finds the same in the cloud; and
once the first one writes, nothing is said of either. Only answers are considered that `heard` admits.
-/
inductive InStep (c : MemoryCloud) (heard : Exchange → Prop) (R : α → β → Prop) :
    Program α → Program β → Prop where
  | done {a : α} {b : β} : R a b → InStep c heard R (.done a) (.done b)
  | ask {r : Request} {next : r.Answer → Program α} {next' : r.Answer → Program β} :
      (∀ answer, heard ⟨r, answer⟩ → InStep c heard R (next answer) (next' answer)) →
      InStep c heard R (.ask r next) (.ask r next')
  | describe {region name : String} {h h' : ChangeSetHandle}
      {next : CloudAnswer (Option ChangeSetDescription) → Program α}
      {next' : CloudAnswer (Option ChangeSetDescription) → Program β} :
      c.find? (region, name) h' = c.find? (region, name) h →
      (∀ answer, InStep c heard R (next answer) (next' answer)) →
      InStep c heard R (.ask (.describeChangeSet region name h) next)
        (.ask (.describeChangeSet region name h') next')
  | write {r : Request} {next : r.Answer → Program α} {p' : Program β} : r.isWrite = true →
      InStep c heard R (.ask r next) p'
  | emitLeft {e : Event} {next : Unit → Program α} {p' : Program β} :
      InStep c heard R (next ()) p' → InStep c heard R (.ask (.emit e) next) p'
  | emitRight {e : Event} {p : Program α} {next' : Unit → Program β} :
      InStep c heard R p (next' ()) → InStep c heard R p (.ask (.emit e) next')

namespace InStep

variable {c : MemoryCloud} {heard : Exchange → Prop} {R : α → β → Prop} {Q : γ → δ → Prop}

theorem refl (p : Program α) : InStep c heard (· = ·) p p := by
  induction p with
  | done a => exact .done rfl
  | ask r next ih => exact .ask fun answer _ => ih answer

theorem bind {p : Program α} {p' : Program β} {f : α → Program γ} {f' : β → Program δ}
    (hp : InStep c heard R p p') (hf : ∀ a b, R a b → InStep c heard Q (f a) (f' b)) :
    InStep c heard Q (p >>= f) (p' >>= f') := by
  induction hp with
  | done h => exact hf _ _ h
  | ask _ ih => exact .ask ih
  | describe hfind _ ih => exact .describe hfind ih
  | write hwrite => exact .write hwrite
  | emitLeft _ ih => exact .emitLeft ih
  | emitRight _ ih => exact .emitRight ih

/-- Two programs that begin alike. -/
theorem bind_same (p : Program α) {f : α → Program γ} {f' : α → Program δ}
    (hf : ∀ a, InStep c heard Q (f a) (f' a)) : InStep c heard Q (p >>= f) (p >>= f') :=
  (refl p).bind fun a _ h => h ▸ hf a

/-- Two programs that begin with one question. -/
theorem request {r : Request} {f : r.Answer → Program γ} {f' : r.Answer → Program δ}
    (hf : ∀ answer, heard ⟨r, answer⟩ → InStep c heard Q (f answer) (f' answer)) :
    InStep c heard Q (request r >>= f) (request r >>= f') := .ask hf

end InStep

/-! ## Answers of one cloud -/

namespace MemoryCloud

variable {k k' k₁ k₁' : MemoryCloud} {region name : String}

/-- Two calls of one operation on clouds that differ in their logs are made to fail alike. -/
theorem perform_eq {op : CloudOperation} {stack : String} {changeSet changeSet' : Option String}
    {act act' : CloudAction α} {answer answer' : CloudAnswer α} (hs : SameStore k k')
    (hact : ∀ log, ∃ a, (act log).1 = .ok a) (hact' : ∀ log, ∃ a, (act' log).1 = .ok a)
    (hrun : perform op stack changeSet act k = (answer, k₁))
    (hrun' : perform op stack changeSet' act' k' = (answer', k₁'))
    (hfound : ∀ a a', answer = .ok a → answer' = .ok a' → a = a') : answer = answer' := by
  obtain ⟨log, -, hcase⟩ := perform_cases hrun
  obtain ⟨log', -, hcase'⟩ := perform_cases hrun'
  rw [hs.failures] at hcase'
  rcases hcase with ⟨detail, hfails, rfl, -⟩ | ⟨hworks, hdone⟩
  · rcases hcase' with ⟨detail', hfails', rfl, -⟩ | ⟨hworks', -⟩
    · rw [hfails, Option.some.injEq] at hfails'
      rw [hfails']
    · rw [hworks'] at hfails
      cases hfails
  · rcases hcase' with ⟨detail', hfails', -⟩ | ⟨-, hdone'⟩
    · rw [hworks] at hfails'
      cases hfails'
    · obtain ⟨a, ha⟩ := hact log
      obtain ⟨a', ha'⟩ := hact' log'
      rw [hdone] at ha
      rw [hdone'] at ha'
      rw [show answer = .ok a from ha, show answer' = .ok a' from ha', hfound a a' ha ha']

theorem describeStack_eq {answer answer' : CloudAnswer (Option StackDescription)} (hs : SameStore k k')
    (hrun : describeStack region name k = (answer, k₁))
    (hrun' : describeStack region name k' = (answer', k₁')) : answer = answer' := by
  refine perform_eq hs (fun _ => ⟨_, rfl⟩) (fun _ => ⟨_, rfl⟩) hrun hrun' fun found found' h h' => ?_
  rw [(describeStack_law hrun).2 found h, (describeStack_law hrun').2 found' h', hs.stack?]

theorem describeChangeSet_eq {answer answer' : CloudAnswer (Option ChangeSetDescription)}
    {h h' : ChangeSetHandle} (hs : SameStore k k')
    (hfind : k.find? (region, name) h' = k.find? (region, name) h)
    (hrun : describeChangeSet region name h k = (answer, k₁))
    (hrun' : describeChangeSet region name h' k' = (answer', k₁')) : answer = answer' := by
  refine perform_eq hs (fun _ => ⟨_, rfl⟩) (fun _ => ⟨_, rfl⟩) hrun hrun' fun found found' h h' => ?_
  rw [(describeChangeSet_law hrun).2 found h, (describeChangeSet_law hrun').2 found' h', hs.find?, hfind]

end MemoryCloud

theorem around_cons_of_isAround {e : Exchange} {es : List Exchange} (h : e.request.isAround = true) :
    around (e :: es) = e :: around es := List.filter_cons_of_pos h

/-- What goes on between the two conversations and the cloud, as far as they have got. -/
structure Alike (c : MemoryCloud) (heard : Exchange → Prop) (es es' : List Exchange) : Prop where
  looks : OnlyLooks es
  heard : ∀ e ∈ es, heard e
  around : AnsweredAlike (around es) (around es')
  replayed : ∃ k k₁, SameStore c k ∧ Replay k es k₁
  replayed' : ∃ k k₁, SameStore c k ∧ Replay k es' k₁

theorem MemoryCloud.SameStore.symm {c c' : MemoryCloud} (h : SameStore c c') : SameStore c' c :=
  ⟨h.records.symm, h.changeSets.symm, h.failures.symm, h.issued.symm⟩

namespace Alike

variable {c : MemoryCloud} {heard : Exchange → Prop} {es es' : List Exchange}

theorem emitLeft {e : Event} {answer : Unit} (h : Alike c heard (⟨.emit e, answer⟩ :: es) es') :
    Alike c heard es es' := by
  obtain ⟨k, k₁, hs, hr⟩ := h.replayed
  obtain ⟨k₂, hanswer, hrest⟩ := replay_cons_iff.1 hr
  obtain rfl : k₂ = k := hanswer
  exact ⟨(onlyLooks_cons_iff.1 h.looks).2, (List.forall_mem_cons.1 h.heard).2, h.around,
    ⟨k₂, k₁, hs, hrest⟩, h.replayed'⟩

theorem emitRight {e : Event} {answer : Unit} (h : Alike c heard es (⟨.emit e, answer⟩ :: es')) :
    Alike c heard es es' := by
  obtain ⟨k, k₁, hs, hr⟩ := h.replayed'
  obtain ⟨k₂, hanswer, hrest⟩ := replay_cons_iff.1 hr
  obtain rfl : k₂ = k := hanswer
  exact ⟨h.looks, h.heard, h.around, h.replayed, ⟨k₂, k₁, hs, hrest⟩⟩

theorem describe {region name : String} {handle handle' : ChangeSetHandle}
    {answer answer' : CloudAnswer (Option ChangeSetDescription)}
    (h : Alike c heard (⟨.describeChangeSet region name handle, answer⟩ :: es)
      (⟨.describeChangeSet region name handle', answer'⟩ :: es'))
    (hfind : c.find? (region, name) handle' = c.find? (region, name) handle) :
    answer = answer' ∧ Alike c heard es es' := by
  obtain ⟨k, k₁, hs, hr⟩ := h.replayed
  obtain ⟨k', k₁', hs', hr'⟩ := h.replayed'
  obtain ⟨k₂, hanswer, hrest⟩ := replay_cons_iff.1 hr
  obtain ⟨k₂', hanswer', hrest'⟩ := replay_cons_iff.1 hr'
  refine ⟨describeChangeSet_eq (hs.symm.trans hs') ?_ hanswer hanswer',
    (onlyLooks_cons_iff.1 h.looks).2, (List.forall_mem_cons.1 h.heard).2, h.around,
    ⟨k₂, k₁, hs.trans (describeChangeSet_law hanswer).1, hrest⟩,
    ⟨k₂', k₁', hs'.trans (describeChangeSet_law hanswer').1, hrest'⟩⟩
  rw [hs.find?, hs.find?, hfind]

/-- One question that is asked in both, and what is left of the conversations after it. -/
theorem ask {r : Request} {answer answer' : r.Answer}
    (h : Alike c heard (⟨r, answer⟩ :: es) (⟨r, answer'⟩ :: es')) :
    answer = answer' ∧ Alike c heard es es' := by
  have haround : r.isAround = true → answer = answer' ∧ Alike c heard es es' := by
    intro hr
    have hboth := h.around
    rw [around_cons_of_isAround hr, around_cons_of_isAround hr] at hboth
    obtain ⟨hsame, hmore⟩ := hboth rfl
    cases hsame
    have hkept : ∀ {k k₂ : MemoryCloud}, k.Answers r answer k₂ → k₂ = k := by
      intro k k₂ hanswer
      cases r <;> first | exact hanswer | cases hr
    obtain ⟨k, k₁, hs, hreplay⟩ := h.replayed
    obtain ⟨k', k₁', hs', hreplay'⟩ := h.replayed'
    obtain ⟨k₂, hanswer, hrest⟩ := replay_cons_iff.1 hreplay
    obtain ⟨k₂', hanswer', hrest'⟩ := replay_cons_iff.1 hreplay'
    rw [hkept hanswer] at hrest
    rw [hkept hanswer'] at hrest'
    exact ⟨rfl, (onlyLooks_cons_iff.1 h.looks).2, (List.forall_mem_cons.1 h.heard).2, hmore,
      ⟨k, k₁, hs, hrest⟩, ⟨k', k₁', hs', hrest'⟩⟩
  cases r with
  | findStack => exact haround rfl
  | findArtifact => exact haround rfl
  | download => exact haround rfl
  | emit => exact ⟨rfl, h.emitLeft.emitRight⟩
  | describeChangeSet => exact h.describe rfl
  | describeStack region name =>
    obtain ⟨k, k₁, hs, hr⟩ := h.replayed
    obtain ⟨k', k₁', hs', hr'⟩ := h.replayed'
    obtain ⟨k₂, hanswer, hrest⟩ := replay_cons_iff.1 hr
    obtain ⟨k₂', hanswer', hrest'⟩ := replay_cons_iff.1 hr'
    exact ⟨describeStack_eq (hs.symm.trans hs') hanswer hanswer',
      (onlyLooks_cons_iff.1 h.looks).2, (List.forall_mem_cons.1 h.heard).2, h.around,
      ⟨k₂, k₁, hs.trans (describeStack_law hanswer).1, hrest⟩,
      ⟨k₂', k₁', hs'.trans (describeStack_law hanswer').1, hrest'⟩⟩
  | _ => cases (onlyLooks_cons_iff.1 h.looks).1

end Alike

/-! ## The results -/

/-- Two conversations of programs in step, answered alike, come to related results. -/
theorem InStep.results {c : MemoryCloud} {heard : Exchange → Prop} {R : α → β → Prop} {p : Program α}
    {p' : Program β} {es es' : List Exchange} {a : α} {b : β} (h : InStep c heard R p p')
    (ran : Ran p es a) (ran' : Ran p' es' b) (alike : Alike c heard es es') : R a b := by
  induction h generalizing es es' with
  | done hab =>
    obtain ⟨rfl, rfl⟩ := ran_done_iff.1 ran
    obtain ⟨rfl, rfl⟩ := ran_done_iff.1 ran'
    exact hab
  | ask _ ih =>
    obtain ⟨answer, rest, rfl, hrest⟩ := ran_ask_iff.1 ran
    obtain ⟨answer', rest', rfl, hrest'⟩ := ran_ask_iff.1 ran'
    obtain ⟨rfl, halike⟩ := alike.ask
    exact ih answer (alike.heard _ List.mem_cons_self) hrest hrest' halike
  | describe hfind _ ih =>
    obtain ⟨answer, rest, rfl, hrest⟩ := ran_ask_iff.1 ran
    obtain ⟨answer', rest', rfl, hrest'⟩ := ran_ask_iff.1 ran'
    obtain ⟨rfl, halike⟩ := alike.describe hfind
    exact ih answer hrest hrest' halike
  | write hwrite =>
    obtain ⟨answer, rest, rfl, -⟩ := ran_ask_iff.1 ran
    rw [(onlyLooks_cons_iff.1 alike.looks).1] at hwrite
    cases hwrite
  | emitLeft _ ih =>
    obtain ⟨answer, rest, rfl, hrest⟩ := ran_ask_iff.1 ran
    exact ih hrest ran' alike.emitLeft
  | emitRight _ ih =>
    obtain ⟨answer, rest, rfl, hrest⟩ := ran_ask_iff.1 ran'
    exact ih ran hrest alike.emitRight

end StackSync
