import StackSync.Proofs.Reconcile.Ending
import StackSync.Proofs.Reconcile.Rounds

/-!
# What the dependency gate lets through

A round looks its dependencies up in the order of declaration, and it stops at the first that is not
ready: at itself, at a stack that is missing or whose look-up fails, and at one that does not say of
its own generation that it is ready. `Met` is the condition on one dependency and the answer to its
look-up, and `Gated` what the loop over all of them comes to.

The answers are part of the statement: an entry is a dependency together with what its look-up comes
to, and a conversation is about the entries if its look-ups are answered by them, one after another.
So `gate_of_reconcile` speaks of every list of dependencies and of all ways to answer.
-/

namespace StackSync

open Program

/-- A declared dependency, and what its look-up comes to. -/
abbrev DependencyEntry := DependencyRef × Except String (Option Manifest)

/-- The answer to the look-up of a stack. -/
def Program.Exchange.told? : Exchange → Option (Except String (Option Manifest))
  | ⟨.findStack .., answer⟩ => some answer
  | _ => none

instance decidableEqExcept {ε α : Type} [DecidableEq ε] [DecidableEq α] : DecidableEq (Except ε α)
  | .ok a, .ok b => decidable_of_iff (a = b) ⟨congrArg _, Except.ok.inj⟩
  | .error a, .error b => decidable_of_iff (a = b) ⟨congrArg _, Except.error.inj⟩
  | .ok _, .error _ => isFalse fun h => by cases h
  | .error _, .ok _ => isFalse fun h => by cases h

/-- All that has been said about stacks that were looked up. -/
def told (es : List Exchange) : List (Except String (Option Manifest)) :=
  es.filterMap Exchange.told?

@[simp] theorem told_append (es more : List Exchange) : told (es ++ more) = told es ++ told more :=
  List.filterMap_append

def Request.isEmit : Request → Bool
  | .emit _ => true
  | _ => false

theorem Request.not_isFindStack_of_isEmit {r : Request} (h : r.isEmit = true) :
    r.isFindStack = false := by
  cases r <;> first | rfl | cases h

namespace Manifest

/-! ## One dependency -/

/-- By its status and the first `Ready` condition in it, the stack is ready at its own generation. -/
structure Steady (m : Manifest) (s : Status) (c : Condition) : Prop where
  status : m.status = some s
  conditions : s.conditions ≠ []
  generation : s.observedGeneration = m.metadata.generation
  ready : s.ready? = some c
  isTrue : c.status = .true

def IsSelf (m : Manifest) (d : DependencyRef) : Prop := d.ns.getD m.ns = m.ns ∧ d.name = m.name

instance (m : Manifest) (d : DependencyRef) : Decidable (m.IsSelf d) :=
  inferInstanceAs (Decidable (_ ∧ _))

/-- The dependency is another stack, and it was found ready. -/
def Met (m : Manifest) (x : DependencyEntry) : Prop :=
  ¬ m.IsSelf x.1 ∧ ∃ found s c, x.2 = .ok (some found) ∧ found.Steady s c

/-- What keeps a stack from going on, as far as one dependency is concerned. -/
def obstacle? (m : Manifest) (x : DependencyEntry) : Option NotReady :=
  if m.IsSelf x.1 then some .itself
  else
    match x.2 with
    | .ok (some found) => found.notReady?
    | .ok none => some .missing
    | .error detail => some (.lookupFailed detail)

/-- The exchanges of the look-ups: a stack does not look itself up. -/
def lookups (m : Manifest) (entries : List DependencyEntry) : List Exchange :=
  (entries.filter fun x => ¬ m.IsSelf x.1).map fun x =>
    ⟨.findStack (x.1.ns.getD m.ns) x.1.name, x.2⟩

theorem lookups_append (m : Manifest) (entries more : List DependencyEntry) :
    m.lookups (entries ++ more) = m.lookups entries ++ m.lookups more := by
  simp only [lookups, List.filter_append, List.map_append]

theorem notReady?_eq_none_iff (m : Manifest) : m.notReady? = none ↔ ∃ s c, m.Steady s c := by
  constructor
  · intro h
    cases hs : m.status with
    | none =>
      rw [notReady?, hs] at h
      cases h
    | some s =>
      obtain ⟨hgeneration, c, hready, htrue⟩ := of_notReady?_eq_none hs h
      refine ⟨s, c, hs, ?_, hgeneration, hready, beq_iff_eq.1 htrue⟩
      intro hnil
      rw [Status.ready?, hnil] at hready
      cases hready
  · rintro ⟨s, c, hs, hconditions, hgeneration, hready, htrue⟩
    have hfilter : m.status.filter (!·.conditions.isEmpty) = some s := by
      simp [hs, hconditions]
    have hc : c.isTrue = true := beq_iff_eq.2 htrue
    simp [notReady?, hfilter, hgeneration, hready, hc]

theorem obstacle?_eq_none_iff (m : Manifest) (x : DependencyEntry) :
    m.obstacle? x = none ↔ m.Met x := by
  obtain ⟨d, answer⟩ := x
  unfold obstacle? Met
  by_cases hself : m.IsSelf d
  · simp [hself]
  · cases answer with
    | error detail => simp [hself]
    | ok found? =>
      cases found? with
      | none => simp [hself]
      | some found => simp [hself, notReady?_eq_none_iff]

/-! ## The loop -/

def blockedBy (m : Manifest) (d : DependencyRef) (cause : NotReady) : Blocked :=
  ⟨d.ns.getD m.ns, d.name, cause⟩

/-- What the gate comes to, by the look-ups it has made: all dependencies are met, or it stops at the
first that is not. -/
inductive Gated (m : Manifest) (entries : List DependencyEntry) (es : List Exchange) :
    Option Blocked → Prop where
  | passed : (∀ x ∈ entries, m.Met x) → es = m.lookups entries → Gated m entries es none
  | blocked (met rest : List DependencyEntry) {x : DependencyEntry} {cause : NotReady} :
      entries = met ++ x :: rest → (∀ y ∈ met, m.Met y) → m.obstacle? x = some cause →
      es = m.lookups (met ++ [x]) → Gated m entries es (some (m.blockedBy x.1 cause))

variable {m : Manifest} {entries : List DependencyEntry} {es : List Exchange}

theorem Gated.cons {x : DependencyEntry} {blocked? : Option Blocked} (hx : m.Met x)
    (h : m.Gated entries es blocked?) : m.Gated (x :: entries) (m.lookups [x] ++ es) blocked? := by
  have hcons : ∀ {l : List DependencyEntry}, (∀ y ∈ l, m.Met y) → ∀ y ∈ x :: l, m.Met y :=
    fun hl y hy => (List.mem_cons.1 hy).elim (· ▸ hx) (hl y)
  cases h with
  | passed hall hes =>
    refine .passed (hcons hall) ?_
    rw [hes, ← lookups_append, List.singleton_append]
  | blocked met rest hentries hmet hcause hes =>
    refine .blocked (x :: met) rest (by rw [hentries, List.cons_append]) (hcons hmet) hcause ?_
    rw [hes, ← lookups_append, List.singleton_append, List.cons_append]

theorem told_lookups_singleton {x : DependencyEntry} (hother : ¬ m.IsSelf x.1) :
    told (m.lookups [x]) = [x.2] := by
  simp [told, lookups, hother, Exchange.told?]

/-- One step of the loop: the dependency is the stack itself, or it is looked up, and if anything has
been answered then this. -/
theorem whyBlocked_ends (m : Manifest) (x : DependencyEntry) :
    (whyBlocked m (x.1.ns.getD m.ns) x.1.name).Ends fun es cause? =>
      ∀ more answers, told es ++ more <+: x.2 :: answers →
        m.obstacle? x = cause? ∧ es = m.lookups [x] := by
  unfold whyBlocked
  split
  · next hself =>
    have hself : m.IsSelf x.1 := hself
    exact .pure fun _ _ _ => by simp [obstacle?, lookups, hself]
  · next hother =>
    have hother : ¬ m.IsSelf x.1 := hother
    refine .request_bind fun reply => ?_
    have hreply : ∀ more answers, reply :: more <+: x.2 :: answers → x.2 = reply :=
      fun _ _ hleads => (List.cons_prefix_cons.1 hleads).1.symm
    split <;>
    · refine .pure fun more answers hleads => ?_
      simp [obstacle?, lookups, hother, hreply more answers hleads]

theorem firstBlocked_ends (m : Manifest) (entries : List DependencyEntry) :
    (firstBlocked m (entries.map Prod.fst)).Ends fun es blocked? =>
      told es <+: entries.map Prod.snd → m.Gated entries es blocked? := by
  induction entries with
  | nil => exact .pure fun _ => .passed (by simp) rfl
  | cons x entries ih =>
    refine .bind (whyBlocked_ends m x) fun first cause? hfirst => ?_
    cases cause? with
    | some cause =>
      refine .pure fun hleads => ?_
      rw [told_append] at hleads
      obtain ⟨hcause, rfl⟩ := hfirst _ _ hleads
      rw [List.append_nil]
      exact .blocked [] entries rfl (by simp) hcause rfl
    | none =>
      refine ih.mono fun rest blocked? hrest hleads => ?_
      rw [told_append] at hleads
      obtain ⟨hclear, rfl⟩ := hfirst _ _ hleads
      have hmet := (m.obstacle?_eq_none_iff x).1 hclear
      rw [told_lookups_singleton hmet.1] at hleads
      exact (hrest (List.cons_prefix_cons.1 hleads).2).cons hmet

end Manifest

/-! ## The round -/

/-- What a status tells of the deployments that were attempted and applied. -/
def Status.deployments (s : Status) : List (Option String) :=
  [s.lastAttemptedRevision, s.lastAppliedRevision, s.lastAttemptedChangeSet,
    s.lastAppliedChangeSet]

theorem Status.Moves.deployments {s d : Status} {a : Attempt} {st : ConditionStatus}
    {m : Manifest} (h : s.Moves a st d) (hst : st ≠ .true) (hattempts : m.Attempts a none none) :
    d.deployments = s.deployments := by
  obtain ⟨happliedRevision, happliedChangeSet⟩ := h.lastApplied_of_unready hst
  unfold Status.deployments
  rw [h.lastAttemptedRevision, h.lastAttemptedChangeSet, hattempts.revision, hattempts.changeSet,
    happliedRevision, happliedChangeSet]
  rfl

theorem Manifest.Observed.deployments {m : Manifest} {s : Status} (h : m.Observed s) :
    s.deployments = m.base.deployments := by
  rcases h with rfl | ⟨a, hattempts, hmoves⟩
  · rfl
  · exact hmoves.deployments (by simp) hattempts

theorem emit_asks (r : Round) (event : Event) : (r.emit event).Asks (·.isEmit) := by
  intro es r' h e he
  obtain ⟨answer, rest, rfl, hrest⟩ := ran_ask_iff.1 h
  obtain ⟨rfl, -⟩ := ran_done_iff.1 hrest
  rw [List.mem_singleton.1 he]
  rfl

theorem close_asks (r : Round) (out : Outcome) : (r.close out).Asks (·.isEmit) := by
  unfold Round.close
  split
  · exact .pure _
  · split
    · exact .pure _
    · split
      · exact .pure _
      · exact .bind (emit_asks r _) fun _ => .pure _

namespace Operator

/-- The round goes past its gate, on to the source. -/
def Opened (m : Manifest) (entries : List DependencyEntry) (es : List Exchange) : Prop :=
  ∃ answer rest, es = m.lookups entries ++
    ⟨.findArtifact m.spec.sourceRef.kind (m.spec.sourceRef.ns.getD m.ns) m.spec.sourceRef.name,
      answer⟩ :: rest

/-- The round ends at its gate, because of the dependency that comes after those that are met. -/
structure HeldUp (o : Operator) (m : Manifest) (met : List DependencyEntry) (x : DependencyEntry)
    (es : List Exchange) (out : Outcome) : Prop where
  lookups : es.filter (·.request.isFindStack) = m.lookups (met ++ [x])
  quiet : ∀ e ∈ es, e.request.isFindStack = true ∨ e.request.isEmit = true
  refusal : ∃ d c cause, out = ⟨some d, some o.settings.dependencyRequeue, .keep, none⟩ ∧
    d.deployments = m.base.deployments ∧ d.ready? = some c ∧ c.status = .false ∧
    c.reason = some Reason.dependencyNotReady ∧ c.observedGeneration = m.metadata.generation ∧
    m.obstacle? x = some cause ∧ c.message = some ("dependency '" ++ x.1.ns.getD m.ns ++ "/" ++
      x.1.name ++ "' is not ready: " ++ cause.message)

variable {o : Operator} {m : Manifest} {time : String} {es : List Exchange} {out : Outcome}
  {entries met : List DependencyEntry} {x : DependencyEntry}

theorem heldUp_of_events {r : Round} {cause : NotReady} {events : List Exchange} (hr : Fresh m r)
    (hcause : m.obstacle? x = some cause) (hevents : ∀ e ∈ events, e.request.isEmit = true) :
    o.HeldUp m met x (m.lookups (met ++ [x]) ++ events)
      (Round.outcome (r.current.notReady r.attempt Reason.dependencyNotReady
        (m.blockedBy x.1 cause).message) (some o.settings.dependencyRequeue)) := by
  have hlookups : ∀ e ∈ m.lookups (met ++ [x]), e.request.isFindStack = true := by
    intro e he
    obtain ⟨y, -, rfl⟩ := List.mem_map.1 he
    rfl
  obtain ⟨c, hready, hstatus, hreason, hmessage, hgeneration⟩ := Status.ready?_apply r.current
    r.attempt .false Reason.dependencyNotReady (m.blockedBy x.1 cause).message
  refine ⟨?_, ?_, _, c, cause, rfl, ?_, hready, hstatus, hreason, ?_, hcause, ?_⟩
  · rw [List.filter_append, List.filter_eq_self.2 hlookups, List.filter_eq_nil_iff.2,
      List.append_nil]
    intro e he
    rw [Request.not_isFindStack_of_isEmit (hevents e he)]
    exact Bool.false_ne_true
  · intro e he
    exact (List.mem_append.1 he).imp (hlookups e) (hevents e)
  · have hmoves : r.current.Moves r.attempt .false (r.current.notReady r.attempt
        Reason.dependencyNotReady (m.blockedBy x.1 cause).message) := .notReady _ _
    rw [hmoves.deployments (by simp) hr.attempt, hr.current.deployments]
  · rw [hgeneration, hr.attempt.generation]
  · rw [hmessage, Blocked.message, Blocked.dependency]
    simp only [Manifest.blockedBy, String.append_assoc]

theorem opened_of_advanceSource {r : Round} {x : Round × Outcome} (hr : r.manifest = m)
    (h : Ran (o.advanceSource r) es x) : Opened m [] es := by
  subst hr
  unfold advanceSource at h
  obtain ⟨answer, rest, rfl, -⟩ := ran_request_bind_iff.1 h
  exact ⟨answer, rest, rfl⟩

theorem gated_of_advance {intervals : Intervals} {x : Round × Outcome}
    (hentries : entries.map Prod.fst = m.spec.dependsOn) (htold : told es <+: entries.map Prod.snd)
    (h : Ran (o.advance (Round.start m intervals time)) es x) :
    ((∀ y ∈ entries, m.Met y) ∧ Opened m entries es) ∨
      ∃ met y rest, entries = met ++ y :: rest ∧ (∀ z ∈ met, m.Met z) ∧ ¬ m.Met y ∧
        ∀ closing, (∀ e ∈ closing, e.request.isEmit = true) →
          o.HeldUp m met y (es ++ closing) x.2 := by
  have hfresh := fresh_observeGeneration m intervals time
  unfold advance at h
  dsimp only at h
  generalize observeGeneration (Round.start m intervals time) = r at h hfresh
  obtain ⟨gate, rest, blocked?, rfl, hgate, hrest⟩ := ran_bind_iff.1 h
  rw [hfresh.manifest, dependencyGate, ← hentries] at hgate
  have hleads := (List.prefix_append (told gate) (told rest)).trans (told_append gate rest ▸ htold)
  cases m.firstBlocked_ends entries gate blocked? hgate hleads with
  | passed hmet hes =>
    obtain ⟨answer, more, rfl⟩ := opened_of_advanceSource hfresh.manifest hrest
    exact .inl ⟨hmet, answer, more, hes ▸ rfl⟩
  | @blocked met more y cause hsplit hmet hcause hes =>
    refine .inr ⟨met, y, more, hsplit, hmet, ?_, ?_⟩
    · rw [← m.obstacle?_eq_none_iff, hcause]
      exact Option.some_ne_none cause
    · intro closing hclosing
      obtain ⟨first, last, r', rfl, hemit, hlast⟩ := ran_bind_iff.1 hrest
      obtain ⟨-, rfl⟩ := remote_of_emit hemit
      obtain ⟨rfl, rfl⟩ := ran_pure_iff.1 hlast
      rw [hes, List.append_nil, List.append_assoc]
      refine heldUp_of_events (r := r) hfresh hcause fun e he => ?_
      exact (List.mem_append.1 he).elim (emit_asks r _ first _ hemit e) (hclosing e)

/-- A round over an active object whose intervals can be read goes past its gate if all of its
dependencies are met, and otherwise ends there, because of the first that is not. -/
theorem opened_or_heldUp {intervals : Intervals}
    (hduty : m.lifecycleFacts.choice.duty = some .reconcile)
    (hreads : Intervals.ofSpec m.spec = .ok intervals)
    (hentries : entries.map Prod.fst = m.spec.dependsOn)
    (h : Ran (o.reconcile time m) es out) (htold : told es <+: entries.map Prod.snd) :
    ((∀ x ∈ entries, m.Met x) → Opened m entries es) ∧
    (¬ (∀ x ∈ entries, m.Met x) → ∃ met x rest, entries = met ++ x :: rest ∧
      (∀ y ∈ met, m.Met y) ∧ ¬ m.Met x ∧ o.HeldUp m met x es out) := by
  unfold reconcile keepInSync at h
  rw [hduty] at h
  dsimp only at h
  rw [hreads] at h
  obtain ⟨first, closing, x, rfl, hadvance, hclose⟩ := ran_bind_iff.1 h
  obtain ⟨-, rfl⟩ := remote_of_close hclose
  have hleads := (List.prefix_append (told first) (told closing)).trans
    (told_append first closing ▸ htold)
  rcases gated_of_advance hentries hleads hadvance with
    ⟨hall, answer, more, rfl⟩ | ⟨met, y, rest, hsplit, hmet, hunmet, hheld⟩
  · refine ⟨fun _ => ⟨answer, more ++ closing, by simp⟩, fun hnot => absurd hall hnot⟩
  · refine ⟨fun hall => ?_, fun _ => ?_⟩
    · exact absurd (hall y (hsplit ▸ List.mem_append_right _ List.mem_cons_self)) hunmet
    · exact ⟨met, y, rest, hsplit, hmet, hunmet, hheld closing (close_asks _ _ closing _ hclose)⟩

end Operator

/-! ## A stack that waits -/

namespace Sample

def foundation : Manifest where
  metadata := { (default : Metadata) with
    name := some "base"
    ns := some "infra"
    generation := some 2 }
  spec := default
  status := some (Status.empty.ready
    ⟨some 2, some "base-stack", some "main@sha1:1", none, "2024-05-01T00:00:00+00:00"⟩
    "Stack base-stack is up to date")

/-- The first dependency is in the namespace of the object, the second is not there. -/
def awaited : List DependencyEntry :=
  [(⟨"base", none⟩, .ok (some foundation)), (⟨"gone", some "ops"⟩, .ok none)]

def dependent (entries : List DependencyEntry) : Manifest :=
  { object with spec := { object.spec with dependsOn := entries.map Prod.fst } }

/-- Nothing else is there, not even the source. -/
def awaiting : World := (World.ofNetwork default).addStack foundation

def waits (entries : List DependencyEntry) : Program Outcome :=
  operator.reconcile "2024-05-01T00:00:00+00:00" (dependent entries)

theorem reads_dependent (entries : List DependencyEntry) :
    Intervals.ofSpec (dependent entries).spec =
      .ok ⟨.ofSeconds 300, .ofSeconds 5, .ofSeconds 60⟩ :=
  (supply "a").reads

theorem met_foundation (entries : List DependencyEntry) :
    (dependent entries).Met (⟨"base", none⟩, .ok (some foundation)) :=
  ⟨fun hself => absurd (show "base" = "app" from hself.2) (by simp), foundation, _, _, rfl, rfl,
    nofun, rfl, rfl, rfl⟩

end Sample

open Sample in
/-- With the foundation alone the gate is open; the missing stack closes it. -/
theorem opened_or_heldUp_awaiting :
    Operator.Opened (dependent (awaited.take 1)) (awaited.take 1)
      (exchanges World.answer (waits (awaited.take 1)) awaiting) ∧
    ∃ met x rest, awaited = met ++ x :: rest ∧ (∀ y ∈ met, (dependent awaited).Met y) ∧
      ¬ (dependent awaited).Met x ∧
      operator.HeldUp (dependent awaited) met x (exchanges World.answer (waits awaited) awaiting)
        (run World.answer (waits awaited) awaiting).1 := by
  have hduty : ∀ entries, (dependent entries).lifecycleFacts.choice.duty = some .reconcile := by
    intro entries
    show object.lifecycleFacts.choice.duty = _
    rfl
  refine ⟨(Operator.opened_or_heldUp (hduty _) (reads_dependent _) rfl
    (ran_run World.answer (waits (awaited.take 1)) awaiting) (by decide +kernel)).1 ?_,
    (Operator.opened_or_heldUp (hduty _) (reads_dependent _) rfl
    (ran_run World.answer (waits awaited) awaiting) (by decide +kernel)).2 ?_⟩
  · intro x hx
    rw [List.mem_singleton.1 hx]
    exact met_foundation _
  · intro hall
    obtain ⟨-, found, s, c, hfound, -⟩ := hall (⟨"gone", some "ops"⟩, .ok none)
      (List.mem_cons_of_mem _ List.mem_cons_self)
    cases hfound

end StackSync
