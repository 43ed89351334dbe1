import Mathlib.Logic.Function.Basic
import StackSync.Proofs.Reconcile.Ledger
import StackSync.Proofs.Reconcile.Provenance

/-!
# Rounds over many objects at once

The rounds over different objects talk to one cloud, and their calls may come in any order. A `Flight` is a
round that is under way, a `Fleet` has the objects, the flights and the cloud, and a step is one call of one
flight, or something that no stack feels: a round is begun, finished or given up, an object is edited, or an
operation of the cloud is made to fail.

Two stacks that follow the same revision have change sets of the same name, and an ARN is looked up without
asking whose it is. What keeps the rounds apart is `Fleet.Sound`: every handle that a flight will use, from the
status or from an answer, is one of the stack it is about. One step keeps it (`Fleet.Step.sound`) and changes
no stack but that of the flight that calls (`Fleet.Step.sameAt`); `Fleet.undisturbed` says so of whole runs.
-/

namespace StackSync

open Program MemoryCloud ChangeSetHandle

/-! ## Flights -/

/-- After these exchanges the program is at this point. -/
inductive Program.Leads {α : Type} (p : Program α) : List Exchange → Program α → Prop where
  | start : Leads p [] p
  | ask {told : List Exchange} {r : Request} {next : r.Answer → Program α} {answer : r.Answer} :
      Leads p told (.ask r next) → Leads p (told ++ [⟨r, answer⟩]) (next answer)

theorem Program.Leads.ran {α : Type} {p q : Program α} {told more : List Exchange} {a : α}
    (h : p.Leads told q) (hq : Ran q more a) : Ran p (told ++ more) a := by
  induction h generalizing more with
  | start => exact hq
  | ask _ ih =>
    rw [List.append_assoc]
    exact ih (.ask hq)

/-- A round under way: the object as it was read, what has been answered so far, and how it goes on. -/
structure Flight where
  operator : Operator
  time : String
  object : Manifest
  told : List Exchange
  rest : Program Outcome
  underway : (operator.reconcile time object).Leads told rest

namespace Flight

def begin (o : Operator) (time : String) (m : Manifest) : Flight :=
  ⟨o, time, m, [], o.reconcile time m, .start⟩

def hear (f : Flight) {r : Request} {next : r.Answer → Program Outcome} (h : f.rest = .ask r next)
    (answer : r.Answer) : Flight where
  operator := f.operator
  time := f.time
  object := f.object
  told := f.told ++ [⟨r, answer⟩]
  rest := next answer
  underway := .ask (h ▸ f.underway)

variable {f : Flight}

theorem ran_of_done {out : Outcome} (h : f.rest = .done out) :
    Ran (f.operator.reconcile f.time f.object) f.told out := by
  have hrest : Ran f.rest [] out := by
    rw [h]
    exact .done out
  have ran := f.underway.ran hrest
  rwa [List.append_nil] at ran

/-- Every answer can be the next one of a whole conversation. -/
theorem exists_ran_of_ask {r : Request} {next : r.Answer → Program Outcome} (h : f.rest = .ask r next)
    (answer : r.Answer) : ∃ more out,
      Ran (f.operator.reconcile f.time f.object) (f.told ++ ⟨r, answer⟩ :: more) out := by
  obtain ⟨more, out, hmore⟩ : ∃ more out, Ran (next answer) more out :=
    ⟨_, _, ran_run World.answer (next answer) (.ofNetwork default)⟩
  have hrest : Ran f.rest (⟨r, answer⟩ :: more) out := by
    rw [h]
    exact .ask hmore
  exact ⟨more, out, f.underway.ran hrest⟩

end Flight

/-! ## Fleets -/

/-- The object is the same, or a later generation of it; metadata and status do not matter. -/
def Manifest.Precedes (m m' : Manifest) : Prop :=
  (m'.spec = m.spec ∧ m'.generation = m.generation) ∨ m.generation < m'.generation

/-- A change to the object from outside: the generation is raised when the spec is changed, and the record of
the last attempt is left to the rounds. -/
structure Manifest.Edited (m m' : Manifest) : Prop where
  record : m'.base.lastAttemptedChangeSet = m.base.lastAttemptedChangeSet
  raised : m.Precedes m'

structure Fleet (ι : Type) where
  objects : ι → Manifest
  flights : ι → Option Flight
  cloud : MemoryCloud

namespace Fleet

variable {ι : Type} [DecidableEq ι]

/-- What can be seen of a step: a request, by the round over which object and about which stack. -/
inductive Act (ι : Type) where
  | call (i : ι) (key : StackKey)
  | silent

/-- One step of a fleet under the settings. There is one round at a time over an object, with a region that
is written like one; operations of the cloud may be made to fail. -/
inductive Step (s : OperatorSettings) : Fleet ι → Act ι → Fleet ι → Prop where
  | begin {x : Fleet ι} {i : ι} {o : Operator} (time : String) : x.flights i = none → o.settings = s →
      (∀ ch ∈ ((x.objects i).stackKey s).1.toList, ch ≠ ':' ∧ ch ≠ '/') →
      Step s x .silent
        { x with flights := Function.update x.flights i (some (.begin o time (x.objects i))) }
  | call {x : Fleet ι} {i : ι} {f : Flight} {r : Request} {next : r.Answer → Program Outcome}
      {answer : r.Answer} {c' : MemoryCloud} : x.flights i = some f → (h : f.rest = .ask r next) →
      x.cloud.Answers r answer c' →
      Step s x (.call i (f.object.stackKey s))
        { x with flights := Function.update x.flights i (some (f.hear h answer)), cloud := c' }
  /-- What the round came to is written onto the object as it is by then. -/
  | finish {x : Fleet ι} {i : ι} {f : Flight} {out : Outcome} : x.flights i = some f →
      f.rest = .done out →
      Step s x .silent { x with
        objects := Function.update x.objects i ((x.objects i).persist out)
        flights := Function.update x.flights i none }
  /-- A round may end at any point without anything written. -/
  | giveUp {x : Fleet ι} (i : ι) :
      Step s x .silent { x with flights := Function.update x.flights i none }
  | edit {x : Fleet ι} {i : ι} {m' : Manifest} : (x.objects i).Edited m' →
      Step s x .silent { x with objects := Function.update x.objects i m' }
  | breakOperation {x : Fleet ι} (op : CloudOperation) (detail : String) :
      Step s x .silent { x with cloud := x.cloud.breakOperation op detail }
  | heal {x : Fleet ι} : Step s x .silent { x with cloud := x.cloud.heal }

/-- Steps one after another. -/
inductive Run (s : OperatorSettings) : Fleet ι → List (Act ι) → Fleet ι → Prop where
  | nil (x : Fleet ι) : Run s x [] x
  | cons {x y z : Fleet ι} {act : Act ι} {acts : List (Act ι)} :
      Step s x act y → Run s y acts z → Run s x (act :: acts) z

/-- The fleets that come about from objects without a record of an attempt, and an empty cloud. -/
inductive Reached (s : OperatorSettings) : Fleet ι → Prop where
  | start {objects : ι → Manifest} : (∀ i, (objects i).base.lastAttemptedChangeSet = none) →
      Reached s ⟨objects, fun _ => none, .empty⟩
  | step {x y : Fleet ι} {act : Act ι} : Reached s x → Step s x act y → Reached s y

end Fleet

/-! ## What flights go by -/

/-- The handle in the status of the object can be trusted. -/
def Manifest.Trusts (m : Manifest) (s : OperatorSettings) (c : MemoryCloud) : Prop :=
  ∀ recorded ∈ m.base.lastAttemptedChangeSet,
    (parse recorded).Trusted c (m.stackKey s) m.generation

namespace Manifest

variable {m m' m'' : Manifest} {s : OperatorSettings} {c c' : MemoryCloud}

theorem Precedes.refl (m : Manifest) : m.Precedes m := .inl ⟨rfl, rfl⟩

theorem Precedes.trans (h : m.Precedes m') (h' : m'.Precedes m'') : m.Precedes m'' := by
  rcases h with ⟨hspec, hgeneration⟩ | hlt
  · rcases h' with ⟨hspec', hgeneration'⟩ | hlt'
    · exact .inl ⟨hspec'.trans hspec, hgeneration'.trans hgeneration⟩
    · exact .inr (hgeneration ▸ hlt')
  · rcases h' with ⟨-, hgeneration'⟩ | hlt'
    · exact .inr (hgeneration' ▸ hlt)
    · exact .inr (Int64.lt_trans hlt hlt')

/-- What is trusted for an object is trusted for later generations of it. -/
theorem Precedes.trusted (h : m.Precedes m') {handle : ChangeSetHandle}
    (htrusted : handle.Trusted c (m.stackKey s) m.generation) :
    handle.Trusted c (m'.stackKey s) m'.generation := by
  rcases h with ⟨hspec, hgeneration⟩ | hlt
  · have hkey : m'.stackKey s = m.stackKey s := by rw [stackKey, stackKey, hspec]
    rw [hkey, hgeneration]
    exact htrusted
  · exact htrusted.later hlt (m'.stackKey s)

theorem Trusts.mono (h : m.Trusts s c) (hkeeps : KeepsOwners c c') : m.Trusts s c' :=
  fun recorded hrecorded => (h recorded hrecorded).mono hkeeps

theorem Edited.trusts (h : m.Edited m') (htrusts : m.Trusts s c) : m'.Trusts s c := by
  intro recorded hrecorded
  rw [h.record] at hrecorded
  exact h.raised.trusted (htrusts recorded hrecorded)

theorem precedes_persist (m : Manifest) (out : Outcome) : m.Precedes (m.persist out) :=
  .inl ⟨rfl, rfl⟩

end Manifest

namespace Flight

/-- The flight goes by handles of the stack that it is about. -/
structure Sound (f : Flight) (s : OperatorSettings) (c : MemoryCloud) : Prop where
  settings : f.operator.settings = s
  legible : Legible (f.object.stackKey s).1
  record : f.object.Trusts s c
  told : ∀ e ∈ f.told, ∀ h ∈ e.handle?, Issued c (f.object.stackKey s) f.object.generation h

namespace Sound

variable {f : Flight} {s : OperatorSettings} {c c' : MemoryCloud}

theorem mono (h : f.Sound s c) (hkeeps : KeepsOwners c c') : f.Sound s c' :=
  ⟨h.settings, h.legible, h.record.mono hkeeps,
    fun e he handle hhandle => (h.told e he handle hhandle).mono hkeeps⟩

/-- The next request is within the flight's stack, and what it is told is about that stack. -/
theorem hear (h : f.Sound s c) (hc : Coherent c) {r : Request} {next : r.Answer → Program Outcome}
    (hrest : f.rest = .ask r next) {answer : r.Answer} (hanswer : c.Answers r answer c') :
    (f.hear hrest answer).Sound s c' ∧ Frame (f.object.stackKey s) c c' := by
  obtain ⟨rfl, hlegible, hrecord, htold⟩ := h
  obtain ⟨more, out, ran⟩ := f.exists_ran_of_ask hrest answer
  obtain ⟨revision, body, haddressed⟩ :=
    Operator.exists_addresses_of_reconcile ran (List.mem_append_right f.told List.mem_cons_self)
  have hname : (f.object.handle revision).name = ChangeSetName.of f.object.generation revision :=
    f.object.handle_name revision
  -- the handle it asks with has the name of its own generation, so an ARN in it is of this stack
  have htrusted : (f.object.handle revision).Trusted c (f.object.stackKey f.operator.settings)
      f.object.generation := .attemptHandle hrecord _
  have hissued : ∀ h ∈ Exchange.handle? ⟨r, answer⟩,
      Issued c' (f.object.stackKey f.operator.settings) f.object.generation h :=
    TargetStack.issued_of_answers (t := f.operator.targetOf f.object revision body) hc hlegible hname
      (htrusted.owned hname) (readName_of_attemptHandle _ _) haddressed hanswer
  -- what it executes or deletes it has been told of before
  have hreason : f.object.Justifies f.told r :=
    (Operator.accounts_of_reconcile ran).1.of_remote (e := ⟨r, answer⟩) rfl
  have hwithin := TargetStack.within_of_justifies haddressed hreason htold
  refine ⟨⟨rfl, hlegible, hrecord.mono hanswer.keepsOwners, List.forall_mem_append.2 ⟨?_, ?_⟩⟩,
    frame_of_answers hc hwithin hanswer⟩
  · exact fun e he handle hhandle => (htold e he handle hhandle).mono hanswer.keepsOwners
  · exact List.forall_mem_singleton.2 hissued

/-- What a finished flight records about its stack can be trusted, also if the object has been edited
since. -/
theorem trusts_persist (h : f.Sound s c) {out : Outcome} (hdone : f.rest = .done out) {m : Manifest}
    (hprecedes : f.object.Precedes m) (htrusts : m.Trusts s c) : (m.persist out).Trusts s c := by
  have ran := f.ran_of_done hdone
  intro recorded hrecorded
  cases hstatus : out.status with
  | none =>
    rw [Manifest.base_persist_of_none hstatus] at hrecorded
    exact (m.precedes_persist out).trusted (htrusts recorded hrecorded)
  | some d =>
    rw [Manifest.base_persist_of_some hstatus, (d.lastAttempted_mergeOnto m.status).2] at hrecorded
    refine (hprecedes.trans (m.precedes_persist out)).trusted ?_
    rcases Operator.records_of_reconcile ran hstatus with hsame | ⟨revision, reference, hd, hrecords⟩
    · exact h.record recorded (hsame ▸ hrecorded)
    · obtain rfl : reference = recorded := Option.some.inj (hd.symm.trans hrecorded)
      rcases hrecords with rfl | ⟨e, he, handle, hhandle, rfl⟩
      · exact .reference h.record _ revision
      · exact (h.told e he handle hhandle).trusted

end Sound

end Flight

/-! ## Steps and runs -/

namespace Fleet

variable {ι : Type} {s : OperatorSettings}

/-- Every object and every flight goes by handles of its own stack. -/
structure Sound (x : Fleet ι) (s : OperatorSettings) : Prop where
  coherent : Coherent x.cloud
  objects : ∀ i, (x.objects i).Trusts s x.cloud
  flights : ∀ i, ∀ f ∈ x.flights i, f.Sound s x.cloud ∧ f.object.Precedes (x.objects i)

theorem Sound.start {objects : ι → Manifest}
    (h : ∀ i, (objects i).base.lastAttemptedChangeSet = none) :
    Sound ⟨objects, fun _ => none, .empty⟩ s := by
  refine ⟨Reachable.empty.coherent, fun i recorded hrecorded => ?_, fun i f hf => ?_⟩
  · rw [h i] at hrecorded
    cases hrecorded
  · cases hf

theorem Sound.of_keepsOwners {x : Fleet ι} (h : x.Sound s) {c' : MemoryCloud} (hcoherent : Coherent c')
    (hkeeps : KeepsOwners x.cloud c') : Sound { x with cloud := c' } s where
  coherent := hcoherent
  objects i := (h.objects i).mono hkeeps
  flights i f hf := ⟨(h.flights i f hf).1.mono hkeeps, (h.flights i f hf).2⟩

variable [DecidableEq ι] {x y : Fleet ι} {act : Act ι} {acts : List (Act ι)} {key : StackKey}

theorem Sound.updateFlight (h : x.Sound s) {i : ι} {flight : Option Flight}
    (hflight : ∀ f ∈ flight, f.Sound s x.cloud ∧ f.object.Precedes (x.objects i)) :
    Sound { x with flights := Function.update x.flights i flight } s where
  coherent := h.coherent
  objects := h.objects
  flights := (Function.forall_update_iff x.flights fun j flight =>
    ∀ f ∈ flight, f.Sound s x.cloud ∧ f.object.Precedes (x.objects j)).2
      ⟨hflight, fun j _ => h.flights j⟩

theorem Sound.updateObject (h : x.Sound s) {i : ι} {m : Manifest} (htrusts : m.Trusts s x.cloud)
    (hprecedes : (x.objects i).Precedes m) :
    Sound { x with objects := Function.update x.objects i m } s where
  coherent := h.coherent
  objects := (Function.forall_update_iff x.objects fun _ m => m.Trusts s x.cloud).2
    ⟨htrusts, fun j _ => h.objects j⟩
  flights j f hf := by
    obtain ⟨hsound, hbefore⟩ := h.flights j f hf
    refine ⟨hsound, ?_⟩
    show f.object.Precedes (Function.update x.objects i m j)
    by_cases hj : j = i
    · subst hj
      rw [Function.update_self]
      exact hbefore.trans hprecedes
    · rw [Function.update_of_ne hj]
      exact hbefore

theorem Step.sound (step : Step s x act y) (h : x.Sound s) : y.Sound s := by
  cases step with
  | @begin i o time hidle hsettings hplain =>
    refine h.updateFlight fun f hf => ?_
    obtain rfl := Option.some.inj hf
    exact ⟨⟨hsettings, legible_of_plain hplain, h.objects i, List.forall_mem_nil _⟩, .refl _⟩
  | @call i f r next answer c' hflight hrest hanswer =>
    obtain ⟨hsound, hprecedes⟩ := h.flights i f hflight
    have hanswered := h.of_keepsOwners (h.coherent.answers hanswer) hanswer.keepsOwners
    refine hanswered.updateFlight fun f' hf' => ?_
    obtain rfl := Option.some.inj hf'
    exact ⟨(hsound.hear h.coherent hrest hanswer).1, hprecedes⟩
  | @finish i f out hflight hdone =>
    obtain ⟨hsound, hprecedes⟩ := h.flights i f hflight
    have htrusts := hsound.trusts_persist hdone hprecedes (h.objects i)
    exact (h.updateObject htrusts (Manifest.precedes_persist _ out)).updateFlight fun f hf => nomatch hf
  | giveUp i => exact h.updateFlight fun f hf => nomatch hf
  | @edit i m' hedited => exact h.updateObject (hedited.trusts (h.objects i)) hedited.raised
  | breakOperation op detail =>
    exact h.of_keepsOwners (h.coherent.of_changeSets_eq rfl rfl) (.of_changeSets_eq rfl rfl)
  | heal =>
    exact h.of_keepsOwners (h.coherent.of_changeSets_eq rfl rfl) (.of_changeSets_eq rfl rfl)

theorem Reached.sound (reached : Reached s x) : x.Sound s := by
  induction reached with
  | start hstart => exact .start hstart
  | step _ hstep ih => exact hstep.sound ih

/-- A call is about the stack of the flight that makes it, and no other step does anything to the cloud's
stacks. -/
theorem Step.sameAt (step : Step s x act y) (h : x.Sound s)
    (apart : ∀ i called, act = .call i called → called ≠ key) : SameAt key x.cloud y.cloud := by
  cases step with
  | @call i f r next answer c' hflight hrest hanswer =>
    have hframe := ((h.flights i f hflight).1.hear h.coherent hrest hanswer).2
    exact hframe key (apart i _ rfl).symm
  | begin | finish | giveUp | edit => exact .refl key x.cloud
  | breakOperation | heal => exact ⟨rfl, rfl⟩

theorem Run.sameAt (run : Run s x acts y) (h : x.Sound s)
    (apart : ∀ i called, .call i called ∈ acts → called ≠ key) : SameAt key x.cloud y.cloud := by
  induction run with
  | nil x => exact .refl key x.cloud
  | cons step _ ih =>
    have hfirst := step.sameAt h fun i called hcall => apart i called (hcall ▸ List.mem_cons_self)
    have hrest := ih (step.sound h) fun i called hcall =>
      apart i called (List.mem_cons_of_mem _ hcall)
    exact hfirst.trans hrest

/-- In every interleaving of the rounds over some objects, the calls of rounds over other stacks leave a stack
and its change sets as they are. It does not matter whether an object shares its stack with another one. -/
theorem undisturbed (reached : Reached s x) (run : Run s x acts y)
    (apart : ∀ i called, .call i called ∈ acts → called ≠ key) :
    y.cloud.stack? key = x.cloud.stack? key ∧ y.cloud.changeSetsOf key = x.cloud.changeSetsOf key :=
  have hsame := run.sameAt reached.sound apart
  ⟨hsame.stack?, hsame.changeSetsOf⟩

/-! ## Rounds in one go -/

theorem Run.single (step : Step s x act y) : Run s x [act] y := .cons step (.nil y)

/-- A flight whose requests are all answered by the cloud, with nothing in between, comes to its end. -/
theorem Run.of_replay {i : ι} {f : Flight} {p : Program Outcome} {es : List Exchange} {out : Outcome}
    {c' : MemoryCloud} (ran : Ran p es out) (hrest : f.rest = p) (hflight : x.flights i = some f)
    (replay : Replay x.cloud es c') :
    ∃ acts, (∀ act ∈ acts, act = .silent ∨ act = .call i (f.object.stackKey s)) ∧
      Run s x acts ⟨Function.update x.objects i ((x.objects i).persist out),
        Function.update x.flights i none, c'⟩ := by
  induction ran generalizing x f with
  | done out =>
    obtain rfl := replay_nil_iff.1 replay
    exact ⟨[.silent], by simp, .single (.finish hflight hrest)⟩
  | @ask r next answer rest out _ ih =>
    obtain ⟨c₁, hanswer, hmore⟩ := replay_cons_iff.1 replay
    obtain ⟨acts, hacts, hrun⟩ := ih (f := f.hear hrest answer)
      (x := ⟨x.objects, Function.update x.flights i (some (f.hear hrest answer)), c₁⟩)
      rfl (Function.update_self ..) hmore
    rw [Function.update_idem] at hrun
    exact ⟨_, List.forall_mem_cons.2 ⟨.inr rfl, hacts⟩, .cons (.call hflight hrest hanswer) hrun⟩

/-- A whole round that nothing interrupts is a run. -/
theorem Run.round {i : ι} {o : Operator} {time : String} {es : List Exchange} {out : Outcome}
    {c' : MemoryCloud} (hidle : x.flights i = none) (hsettings : o.settings = s)
    (hplain : ∀ ch ∈ ((x.objects i).stackKey s).1.toList, ch ≠ ':' ∧ ch ≠ '/')
    (ran : Ran (o.reconcile time (x.objects i)) es out) (replay : Replay x.cloud es c') :
    ∃ acts, (∀ act ∈ acts, act = .silent ∨ act = .call i ((x.objects i).stackKey s)) ∧
      Run s x acts ⟨Function.update x.objects i ((x.objects i).persist out), x.flights, c'⟩ := by
  obtain ⟨acts, hacts, hrun⟩ := Run.of_replay (s := s) (i := i) (f := .begin o time (x.objects i))
    (x := ⟨x.objects, Function.update x.flights i (some (.begin o time (x.objects i))), x.cloud⟩)
    ran rfl (Function.update_self ..) replay
  have hlanded : Function.update x.flights i none = x.flights :=
    (Function.update_eq_self_iff).2 hidle.symm
  rw [Function.update_idem, hlanded] at hrun
  exact ⟨_, List.forall_mem_cons.2 ⟨.inl rfl, hacts⟩, .cons (.begin time hidle hsettings hplain) hrun⟩

/-- Among flights at any point, a whole round changes nothing but its own stack. -/
theorem Reached.frame_of_round (reached : Reached s x) {i : ι} {o : Operator} {time : String}
    {es : List Exchange} {out : Outcome} {c' : MemoryCloud} (hidle : x.flights i = none)
    (hsettings : o.settings = s)
    (hplain : ∀ ch ∈ ((x.objects i).stackKey s).1.toList, ch ≠ ':' ∧ ch ≠ '/')
    (ran : Ran (o.reconcile time (x.objects i)) es out) (replay : Replay x.cloud es c') :
    Frame ((x.objects i).stackKey s) x.cloud c' := by
  obtain ⟨acts, hacts, hrun⟩ := Run.round hidle hsettings hplain ran replay
  intro other hother
  refine hrun.sameAt reached.sound fun j called hcall => ?_
  rcases hacts _ hcall with hsilent | hcalled
  · cases hsilent
  · obtain ⟨-, rfl⟩ := Act.call.inj hcalled
    exact hother.symm

theorem Reached.run (reached : Reached s x) (run : Run s x acts y) : Reached s y := by
  induction run with
  | nil x => exact reached
  | cons step _ ih => exact ih (.step reached step)

end Fleet

/-! ## Two stacks that follow the same revision -/

namespace Sample

def neighbor : Manifest where
  metadata := { object.metadata with name := some "web" }
  spec := { object.spec with stackName := "web-stack" }
  status := none

/-- The first round over the neighbor, after the first one over the object. -/
def neighborVisit : Visit :=
  ((supply "a").named "web-stack").visit "2024-05-01T00:00:00+00:00" neighbor created.world true

def neighborWorld : World :=
  ((supply "a").named "web-stack").world "2024-05-01T00:00:00+00:00" neighbor created.world

theorem neighborVisit_valid : neighborVisit.Valid created.world.cloud neighborWorld.cloud := by
  have hduty : neighbor.lifecycleFacts.choice.duty = some .reconcile := rfl
  exact (((supply "a").named "web-stack").valid rfl hduty created_reached.overrides).1

def pair : Fleet Bool := ⟨fun i => if i then neighbor else object, fun _ => none, .empty⟩

/-- The pair once the change set of the first stack has been made. -/
def pairCreated : Fleet Bool where
  objects := Function.update pair.objects false (object.persist (first.visit "a" true).outcome)
  flights := pair.flights
  cloud := created.world.cloud

theorem pair_plain (i : Bool) :
    ∀ ch ∈ ((pair.objects i).stackKey operator.settings).1.toList, ch ≠ ':' ∧ ch ≠ '/' := by
  have hregion : ((pair.objects i).stackKey operator.settings).1 = "eu-north-1" := by
    cases i <;> rfl
  have hall : "eu-north-1".toList.all (fun ch => ch ≠ ':' ∧ ch ≠ '/') = true := rfl
  rw [hregion]
  exact fun ch hch => of_decide_eq_true (List.all_eq_true.1 hall ch hch)

theorem pairCreated_reached : Fleet.Reached operator.settings pairCreated := by
  have hfirst : (first.visit "a" true).Valid .empty created.world.cloud := first_reached.valid.1
  have hstart : Fleet.Reached operator.settings pair := .start fun i => by cases i <;> rfl
  obtain ⟨_, -, hrun⟩ := Fleet.Run.round (x := pair) rfl rfl (pair_plain false) hfirst.ran hfirst.replay
  exact hstart.run hrun

/-- The neighbor's round leaves the change set of the first stack, though its own has the same name. -/
theorem undisturbed_neighbor : ∃ (y : Fleet Bool) (acts : List (Fleet.Act Bool)),
    Fleet.Run operator.settings pairCreated acts y ∧
      (∀ i called, .call i called ∈ acts → called ≠ object.stackKey operator.settings) ∧
      (y.cloud.stack? (object.stackKey operator.settings) =
          pairCreated.cloud.stack? (object.stackKey operator.settings) ∧
        y.cloud.changeSetsOf (object.stackKey operator.settings) =
          pairCreated.cloud.changeSetsOf (object.stackKey operator.settings)) ∧
      [object, neighbor].map (fun m =>
          (y.cloud.changeSetsOf (m.stackKey operator.settings)).map (·.2.name)) =
        [["flux-1-a"], ["flux-1-a"]] := by
  obtain ⟨acts, hacts, hrun⟩ := Fleet.Run.round (x := pairCreated) (i := true) rfl rfl
    (pair_plain true) neighborVisit_valid.ran neighborVisit_valid.replay
  have hapart : ∀ i called, .call i called ∈ acts → called ≠ object.stackKey operator.settings := by
    intro i called hcall
    rcases hacts _ hcall with hsilent | hneighbor
    · cases hsilent
    · obtain ⟨-, rfl⟩ := Fleet.Act.call.inj hneighbor
      nofun
  exact ⟨_, acts, hrun, hapart, Fleet.undisturbed pairCreated_reached hrun hapart, rfl⟩

end Sample

end StackSync
