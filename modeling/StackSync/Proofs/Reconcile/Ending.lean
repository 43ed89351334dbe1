import StackSync.Proofs.Reconcile.Conversation
import StackSync.Proofs.Status.Moves
import StackSync.Reconcile.Operator

/-!
# How a round ends

The parts of a round have some twenty exits between them, and each builds an outcome. `Exit` lists
what these outcomes are, and for each which calls had failed: status, delay and error belong
together at every exit, and no exit is reached after a failure that it does not report. The other
thing an exit depends on is what has been announced by then. Most are reached in silence and leave
the announcement to the close of the round; the few that speak for themselves say the reason they
end with. The exception is a stack that recovers from a failed update: there the event comes first
and the exit later.

The walk along the program is made once, for both. `Program.Ends` speaks about exchanges and result
at the same time, so the lemma for a part is used where the part is called, with the exchanges
before it in front.
-/

namespace StackSync

open Program

/-- However the requests are answered, the exchanges and the result are like this. -/
def Program.Ends {α : Type} (p : Program α) (Q : List Exchange → α → Prop) : Prop :=
  ∀ es a, Ran p es a → Q es a

namespace Program.Ends

variable {α β : Type} {p : Program α} {P : List Exchange → α → Prop} {Q : List Exchange → β → Prop}

theorem mono {P' : List Exchange → α → Prop} (h : p.Ends P) (himp : ∀ es a, P es a → P' es a) :
    p.Ends P' :=
  fun es a hran => himp es a (h es a hran)

theorem pure {b : β} (h : Q [] b) : (Pure.pure b : Program β).Ends Q := by
  intro es a hran
  obtain ⟨rfl, rfl⟩ := ran_pure_iff.1 hran
  exact h

theorem request_bind {r : Request} {f : r.Answer → Program β}
    (hf : ∀ answer, (f answer).Ends fun rest b => Q (⟨r, answer⟩ :: rest) b) :
    (Program.request r >>= f).Ends Q := by
  intro es b hran
  obtain ⟨answer, rest, rfl, hrest⟩ := ran_request_bind_iff.1 hran
  exact hf answer rest b hrest

theorem bind {f : α → Program β} (hp : p.Ends P)
    (hf : ∀ first a, P first a → (f a).Ends fun rest b => Q (first ++ rest) b) :
    (p >>= f).Ends Q := by
  intro es b hran
  obtain ⟨first, rest, a, rfl, hfirst, hrest⟩ := ran_bind_iff.1 hran
  exact hf first a (hp first a hfirst) rest b hrest

theorem emit_bind {r : Round} {event : Event} {f : Round → Program β}
    (hf : (f { r with emitted := true }).Ends fun rest b =>
      Q (⟨.emit (r.details event), ()⟩ :: rest) b) : (r.emit event >>= f).Ends Q := by
  intro es b hran
  obtain ⟨answer, rest, rfl, hrest⟩ := ran_ask_iff.1 hran
  exact hf rest b hrest

end Program.Ends

/-! ## What exchanges tell -/

/-- The reason a round has to give for a call that the exchange shows to have failed. -/
def Program.Exchange.failure? : Exchange → Option String
  | ⟨.uploadTemplate .., Except.error _⟩ => some Reason.templateUploadFailed
  | ⟨.describeStack .., Except.error _⟩ | ⟨.createStack _, Except.error _⟩
  | ⟨.updateStack _, Except.error _⟩ | ⟨.deleteStack .., Except.error _⟩
  | ⟨.continueRollback .., Except.error _⟩ | ⟨.describeChangeSet .., Except.error _⟩
  | ⟨.executeChangeSet .., Except.error _⟩ | ⟨.deleteChangeSet .., Except.error _⟩ =>
    some Reason.apiCallFailed
  | _ => none

/-- The reason of the event that is emitted. -/
def Program.Exchange.said? : Exchange → Option String
  | ⟨.emit event, _⟩ => some event.reason
  | _ => none

/-- The stack is described as one whose last update has failed and been rolled back. -/
def Program.Exchange.showsRecovery : Exchange → Bool
  | ⟨.describeStack .., Except.ok (some s)⟩ => s.phase = .recoverableFailure
  | _ => false

def failures (es : List Exchange) : List String := es.filterMap Exchange.failure?

def said (es : List Exchange) : List String := es.filterMap Exchange.said?

def showRecovery (es : List Exchange) : Bool := es.any Exchange.showsRecovery

@[simp] theorem failures_append (es more : List Exchange) :
    failures (es ++ more) = failures es ++ failures more := List.filterMap_append

@[simp] theorem said_append (es more : List Exchange) : said (es ++ more) = said es ++ said more :=
  List.filterMap_append

@[simp] theorem showRecovery_append (es more : List Exchange) :
    showRecovery (es ++ more) = (showRecovery es || showRecovery more) := List.any_append

/-- The move goes on to the change set of a stack that recovers. -/
def StackMove.recovers : StackMove → Bool
  | .changeSet _ recovering => recovering
  | _ => false

theorem showRecovery_stackLookup (region name : String) (found : Option StackDescription) :
    showRecovery [⟨.describeStack region name, .ok found⟩] =
      (StackMove.ofFound found).recovers := by
  cases found with
  | none => rfl
  | some s =>
    show (decide (s.phase = .recoverableFailure) || false) = s.move.recovers
    unfold StackDescription.move
    cases s.phase <;> rfl

/-- The exchanges tell nothing of all this. -/
structure Uneventful (es : List Exchange) : Prop where
  failures : failures es = []
  said : said es = []
  settled : showRecovery es = false

theorem uneventful_of_asks {α : Type} {p : Program α} {sort : Request → Bool} (hp : p.Asks sort)
    (hsort : ∀ e : Exchange, sort e.request = true →
      e.failure? = none ∧ e.said? = none ∧ e.showsRecovery = false)
    {es : List Exchange} {a : α} (h : Ran p es a) : Uneventful es where
  failures := List.filterMap_eq_nil_iff.2 fun e he => (hsort e (hp es a h e he)).1
  said := List.filterMap_eq_nil_iff.2 fun e he => (hsort e (hp es a h e he)).2.1
  settled := List.any_eq_false.2 fun e he => by simp [(hsort e (hp es a h e he)).2.2]

theorem uneventful_of_dependencyGate {m : Manifest} {es : List Exchange} {found : Option Blocked}
    (h : Ran (dependencyGate m) es found) : Uneventful es := by
  refine uneventful_of_asks (firstBlocked_asks m m.spec.dependsOn) ?_ h
  rintro ⟨request, answer⟩ hsort
  cases request <;> first | exact ⟨rfl, rfl, rfl⟩ | cases hsort

theorem uneventful_of_fetchTemplate {s : DownloadSettings} {w : Workspace} {artifact : Artifact}
    {path : String} {es : List Exchange} {answer : Except ArtifactError String}
    (h : Ran (fetchTemplate s w artifact path) es answer) : Uneventful es := by
  refine uneventful_of_asks (fetchTemplate_asks s w artifact path) ?_ h
  rintro ⟨request, answer⟩ hsort
  cases request <;> first | exact ⟨rfl, rfl, rfl⟩ | cases hsort

@[simp] theorem Round.reason_details (r : Round) (e : Event) : (r.details e).reason = e.reason := by
  unfold details
  cases r.attempt.revision <;> cases r.attempt.changeSet <;> rfl

/-! ## Exits -/

/-- The reasons that an exit may have and that nobody gets to know while the stack recovers. -/
def Reason.unvoiced : List String := [succeeded, apiCallFailed, templateUploadFailed]

namespace Reason

@[simp] theorem succeeded_mem_unvoiced : succeeded ∈ unvoiced := by simp [unvoiced]

@[simp] theorem apiCallFailed_mem_unvoiced : apiCallFailed ∈ unvoiced := by simp [unvoiced]

@[simp] theorem templateUploadFailed_mem_unvoiced : templateUploadFailed ∈ unvoiced := by
  simp [unvoiced]

end Reason

namespace Operator

/-- The outcomes a round can end with in a state, by the failed calls and the reason it gives. -/
inductive Exit (o : Operator) (r : Round) : List String → String → Outcome → Prop where
  | waits (message : String) : Exit o r [] Reason.progressing (r.wait message)
  | succeeds (message : String) : Exit o r [] Reason.succeeded (r.succeed message)
  | fails {reason : String} (message : String) : reason ∈ [Reason.artifactFailed,
      Reason.templateUploadFailed, Reason.changeSetFailed, Reason.rollbackFailed,
      Reason.unrecoverable] → Exit o r [] reason (r.fail reason message)
  | unexpected (message : String) : Exit o r [] Reason.unexpectedStatus (r.failByStatus message)
  | callFails {reason : String} (message : String) :
      reason ∈ [Reason.apiCallFailed, Reason.templateUploadFailed] →
      Exit o r [reason] reason (r.failByCloud reason message)
  | blocked (message : String) : Exit o r [] Reason.dependencyNotReady
      (Round.outcome (r.current.notReady r.attempt Reason.dependencyNotReady message)
        (some o.settings.dependencyRequeue))

theorem Exit.byCall (o : Operator) (r : Round) (action : String) (e : CloudError) :
    o.Exit r [Reason.apiCallFailed] Reason.apiCallFailed (r.failByCall action e) :=
  .callFails _ List.mem_cons_self

theorem Exit.keeps {o : Operator} {r : Round} {fs : List String} {reason : String} {out : Outcome}
    (h : o.Exit r fs reason out) : out.finalizer = .keep := by
  cases h <;> rfl

/-- Where a part of a round has led to: the round is about the same object, and it ends by an exit
that reports what has failed. -/
structure Ending (o : Operator) (r : Round) (es : List Exchange) (x : Round × Outcome)
    (reason : String) : Prop where
  manifest : x.1.manifest = r.manifest
  intervals : x.1.intervals = r.intervals
  exit : o.Exit x.1 (failures es) reason x.2

theorem Ending.after {o : Operator} {r : Round} {first es : List Exchange} {x : Round × Outcome}
    {reason : String} (h : o.Ending r es x reason) (hfirst : failures first = []) :
    o.Ending r (first ++ es) x reason := by
  refine ⟨h.manifest, h.intervals, ?_⟩
  rw [failures_append, hfirst, List.nil_append]
  exact h.exit

theorem Ending.cons {o : Operator} {r : Round} {e : Exchange} {es : List Exchange}
    {x : Round × Outcome} {reason : String} (h : o.Ending r es x reason)
    (he : failures [e] = []) : o.Ending r (e :: es) x reason :=
  h.after he

/-! ## On the way to the change set -/

/-- What has been said, when nobody had looked at the stack: the reason, or nothing. -/
inductive Voice (r r' : Round) (reason : String) : List String → Prop where
  | silent : r'.emitted = r.emitted → reason ∈ Reason.progressing :: Reason.unvoiced →
      Voice r r' reason []
  | spoken : r'.emitted = true → reason ∉ Reason.unvoiced → Voice r r' reason [reason]

theorem Voice.of_emitted {r r' r'' : Round} {reason : String} {s : List String}
    (h : Voice r' r'' reason s) (hemitted : r'.emitted = r.emitted) : Voice r r'' reason s := by
  cases h with
  | silent hsame hreason => exact .silent (hsame.trans hemitted) hreason
  | spoken hspoken hreason => exact .spoken hspoken hreason

theorem Voice.event {r r' : Round} {event : Event} {reason : String}
    (hevent : event.reason = reason) (hreason : reason ∉ Reason.unvoiced) :
    Voice r { r' with emitted := true } reason [(r'.details event).reason] := by
  rw [Round.reason_details, hevent]
  exact .spoken rfl hreason

/-- The end of a part of a round that has a stack to go on with. -/
structure ChangeSetEnding (o : Operator) (r : Round) (es : List Exchange) (x : Round × Outcome)
    (reason : String) : Prop extends o.Ending r es x reason where
  voice : Voice r x.1 reason (said es)
  settled : showRecovery es = false

namespace ChangeSetEnding

variable {o : Operator} {r r' : Round} {es first : List Exchange} {x : Round × Outcome}
  {reason : String}

theorem after (h : o.ChangeSetEnding r es x reason) (hfirst : Uneventful first) :
    o.ChangeSetEnding r (first ++ es) x reason := by
  refine ⟨h.toEnding.after hfirst.failures, ?_, ?_⟩
  · rw [said_append, hfirst.said, List.nil_append]
    exact h.voice
  · rw [showRecovery_append, hfirst.settled, h.settled, Bool.or_false]

theorem cons {e : Exchange} (h : o.ChangeSetEnding r es x reason) (he : Uneventful [e]) :
    o.ChangeSetEnding r (e :: es) x reason :=
  h.after he

/-- What a round has attempted does not matter for how it ends. -/
theorem of_eq (h : o.ChangeSetEnding r' es x reason) (hmanifest : r'.manifest = r.manifest)
    (hintervals : r'.intervals = r.intervals) (hemitted : r'.emitted = r.emitted) :
    o.ChangeSetEnding r es x reason :=
  ⟨⟨h.manifest.trans hmanifest, h.intervals.trans hintervals, h.exit⟩, h.voice.of_emitted hemitted,
    h.settled⟩

end ChangeSetEnding

section

variable (o : Operator) (r : Round) (t : TargetStack) (isCreate : Bool)

theorem requestChangeSet_ends (template : TemplateSource) :
    (requestChangeSet r t isCreate template).Ends fun es x =>
      ∃ reason, o.ChangeSetEnding r es x reason := by
  unfold requestChangeSet
  cases isCreate <;>
  · refine .request_bind fun answer => ?_
    cases answer with
    | error e =>
      exact .pure ⟨_, ⟨rfl, rfl, .byCall o r _ e⟩, .silent rfl (by simp), rfl⟩
    | ok handle => exact .pure ⟨_, ⟨rfl, rfl, .waits _⟩, .silent rfl (by simp), rfl⟩

theorem submitTemplate_ends :
    (submitTemplate r t isCreate).Ends fun es x => ∃ reason, o.ChangeSetEnding r es x reason := by
  unfold submitTemplate
  split
  · next bucket _ =>
    refine .request_bind fun answer => ?_
    cases answer with
    | error e =>
      exact .pure ⟨_, ⟨rfl, rfl, .callFails _ (by simp)⟩, .silent rfl (by simp), rfl⟩
    | ok url =>
      refine (requestChangeSet_ends o r t isCreate _).mono fun es x hx => ?_
      obtain ⟨reason, hx⟩ := hx
      exact ⟨reason, hx.cons ⟨rfl, rfl, rfl⟩⟩
  · split
    · exact .pure ⟨_, ⟨rfl, rfl, .fails _ (by simp)⟩, .silent rfl (by simp), rfl⟩
    · exact requestChangeSet_ends o r t isCreate _

/-- What is done about a change set that has been looked up. -/
theorem advanceChangeSet_ends :
    (advanceChangeSet r t isCreate).Ends fun es x => ∃ reason, o.ChangeSetEnding r es x reason := by
  unfold advanceChangeSet
  refine .request_bind fun answer => ?_
  cases answer with
  | error e =>
    exact .pure ⟨_, ⟨rfl, rfl, .byCall o r _ e⟩, .silent rfl (by simp), rfl⟩
  | ok found =>
    dsimp only
    have hfollowed : ∀ r', r' = (if found.isSome then
        r.withChangeSet ((found.map (·.handle)).getD t.changeSet) else r) →
        r'.manifest = r.manifest ∧ r'.intervals = r.intervals ∧ r'.emitted = r.emitted := by
      rintro r' rfl
      split <;> exact ⟨rfl, rfl, rfl⟩
    generalize (if found.isSome then
      r.withChangeSet ((found.map (·.handle)).getD t.changeSet) else r) = r' at hfollowed ⊢
    obtain ⟨hmanifest, hintervals, hemitted⟩ := hfollowed r' rfl
    split
    · refine (submitTemplate_ends o r' t isCreate).mono fun es x hx => ?_
      obtain ⟨reason, hx⟩ := hx
      exact ⟨reason, (hx.of_eq hmanifest hintervals hemitted).cons ⟨rfl, rfl, rfl⟩⟩
    · refine .request_bind fun answer => ?_
      cases answer with
      | error e =>
        exact .pure ⟨_, ⟨hmanifest, hintervals, .byCall o r' _ e⟩, .silent hemitted (by simp),
          rfl⟩
      | ok done =>
        exact .pure ⟨_, ⟨hmanifest, hintervals, .succeeds _⟩, .silent hemitted (by simp), rfl⟩
    · refine .request_bind fun answer => ?_
      cases answer with
      | error e =>
        exact .pure ⟨_, ⟨hmanifest, hintervals, .byCall o r' _ e⟩, .silent hemitted (by simp),
          rfl⟩
      | ok done =>
        exact .emit_bind (.pure ⟨Reason.changeSetFailed, ⟨hmanifest, hintervals,
          .fails _ (by simp)⟩, .event rfl nofun, rfl⟩)
    · exact .pure ⟨_, ⟨hmanifest, hintervals, .waits _⟩, .silent hemitted (by simp), rfl⟩
    · exact .pure ⟨_, ⟨hmanifest, hintervals, .succeeds _⟩, .silent hemitted (by simp), rfl⟩
    · refine .request_bind fun answer => ?_
      cases answer with
      | error e =>
        exact .pure ⟨_, ⟨hmanifest, hintervals, .byCall o r' _ e⟩, .silent hemitted (by simp),
          rfl⟩
      | ok done =>
        exact .emit_bind (.pure ⟨_, ⟨hmanifest, hintervals, .waits _⟩, .event rfl nofun, rfl⟩)
    · exact .emit_bind (.pure ⟨_, ⟨hmanifest, hintervals, .unexpected _⟩, .event rfl nofun,
        rfl⟩)

end

/-! ## On the way to the stack and before -/

/-- What has been said of the reason a round ends with: nothing yet, or the reason itself. If the
stack recovers, it is the reasons of `unvoiced` that are not said, and the close will not make up
for it. -/
inductive Announces (r r' : Round) (reason : String) (es : List Exchange) : Prop where
  | later : said es = [] → r'.emitted = r.emitted → showRecovery es = false →
      Announces r r' reason es
  | itself : said es = [reason] → r'.emitted = true → showRecovery es = false →
      Announces r r' reason es
  | recovering : r'.emitted = true → showRecovery es = true →
      (reason ∈ said es ↔ reason ∉ Reason.unvoiced) → Announces r r' reason es

/-- The end of a part of a round that keeps a stack in sync. -/
structure SyncEnding (o : Operator) (r : Round) (es : List Exchange) (x : Round × Outcome)
    (reason : String) : Prop extends o.Ending r es x reason where
  announces : Announces r x.1 reason es

namespace SyncEnding

variable {o : Operator} {r r' : Round} {es first : List Exchange} {x : Round × Outcome}
  {reason : String}

theorem after (h : o.SyncEnding r es x reason) (hfirst : Uneventful first) :
    o.SyncEnding r (first ++ es) x reason := by
  have hsaid : said (first ++ es) = said es := by
    rw [said_append, hfirst.said, List.nil_append]
  have hrecovery : showRecovery (first ++ es) = showRecovery es := by
    rw [showRecovery_append, hfirst.settled, Bool.false_or]
  refine ⟨h.toEnding.after hfirst.failures, ?_⟩
  cases h.announces with
  | later hnone hsame hsettled => exact .later (hsaid.trans hnone) hsame (hrecovery.trans hsettled)
  | itself hself hspoken hsettled =>
    exact .itself (hsaid.trans hself) hspoken (hrecovery.trans hsettled)
  | recovering hspoken hshown hiff =>
    exact .recovering hspoken (hrecovery.trans hshown) (hsaid ▸ hiff)

theorem cons {e : Exchange} (h : o.SyncEnding r es x reason) (he : Uneventful [e]) :
    o.SyncEnding r (e :: es) x reason :=
  h.after he

theorem of_eq (h : o.SyncEnding r' es x reason) (hmanifest : r'.manifest = r.manifest)
    (hintervals : r'.intervals = r.intervals) (hemitted : r'.emitted = r.emitted) :
    o.SyncEnding r es x reason := by
  refine ⟨⟨h.manifest.trans hmanifest, h.intervals.trans hintervals, h.exit⟩, ?_⟩
  cases h.announces with
  | later hnone hsame hsettled => exact .later hnone (hsame.trans hemitted) hsettled
  | itself hself hspoken hsettled => exact .itself hself hspoken hsettled
  | recovering hspoken hshown hiff => exact .recovering hspoken hshown hiff

end SyncEnding

theorem ChangeSetEnding.sync {o : Operator} {r : Round} {es : List Exchange} {x : Round × Outcome}
    {reason : String} (h : o.ChangeSetEnding r es x reason) : o.SyncEnding r es x reason := by
  refine ⟨h.toEnding, ?_⟩
  have hvoice := h.voice
  generalize hsaid : said es = s at hvoice
  cases hvoice with
  | silent hsame _ => exact .later hsaid hsame h.settled
  | spoken hspoken _ => exact .itself hsaid hspoken h.settled

/-- The event about the recovery has been said first. It has the reason of a round that waits. -/
theorem ChangeSetEnding.recovering {o : Operator} {r : Round} {lookup emission : Exchange}
    {es : List Exchange} {x : Round × Outcome} {reason : String}
    (h : o.ChangeSetEnding { r with emitted := true } es x reason)
    (hlookup : showRecovery [lookup] = true) (hquiet : failures [lookup, emission] = [])
    (hsaid : said [lookup, emission] = [Reason.progressing]) :
    o.SyncEnding r (lookup :: emission :: es) x reason := by
  have hending : o.Ending r ([lookup, emission] ++ es) x reason :=
    Ending.after ⟨h.manifest, h.intervals, h.exit⟩ hquiet
  have hall : said (lookup :: emission :: es) = Reason.progressing :: said es := by
    rw [show lookup :: emission :: es = [lookup, emission] ++ es from rfl, said_append, hsaid]
    rfl
  have hshown : showRecovery (lookup :: emission :: es) = true := by
    rw [show lookup :: emission :: es = [lookup] ++ (emission :: es) from rfl, showRecovery_append,
      hlookup, Bool.true_or]
  refine ⟨hending, ?_⟩
  have hvoice := h.voice
  generalize said es = s at hvoice hall
  cases hvoice with
  | silent hsame hreason =>
    refine .recovering hsame hshown ?_
    rw [hall, List.mem_singleton]
    constructor
    · rintro rfl
      nofun
    · exact (List.mem_cons.1 hreason).resolve_right
  | spoken hspoken hreason =>
    refine .recovering hspoken hshown ⟨fun _ => hreason, fun _ => ?_⟩
    rw [hall]
    exact List.mem_cons_of_mem _ (List.mem_singleton_self reason)

section

variable (o : Operator) (r : Round) (t : TargetStack)

theorem advanceStack_ends :
    (advanceStack r t).Ends fun es x => ∃ reason, o.SyncEnding r es x reason := by
  unfold advanceStack
  refine .request_bind fun answer => ?_
  cases answer with
  | error e => exact .pure ⟨_, ⟨rfl, rfl, .byCall o r _ e⟩, .later rfl rfl rfl⟩
  | ok found =>
    dsimp only
    have hlookup := showRecovery_stackLookup t.region t.stackName found
    split
    · next isCreate hmove =>
      rw [hmove] at hlookup
      refine (advanceChangeSet_ends o r t isCreate).mono fun es x hx => ?_
      obtain ⟨reason, hx⟩ := hx
      exact ⟨reason, hx.sync.cons ⟨rfl, rfl, hlookup⟩⟩
    · next isCreate hmove =>
      rw [hmove] at hlookup
      refine .emit_bind ((advanceChangeSet_ends o _ t isCreate).mono fun es x hx => ?_)
      obtain ⟨reason, hx⟩ := hx
      exact ⟨reason, hx.recovering hlookup rfl (congrArg (fun said => [said]) (r.reason_details _))⟩
    · next message hmove =>
      rw [hmove] at hlookup
      exact .pure ⟨_, ⟨rfl, rfl, .waits _⟩, .later rfl rfl hlookup⟩
    · next hmove =>
      rw [hmove] at hlookup
      refine .request_bind fun answer => ?_
      cases answer with
      | error e => exact .pure ⟨_, ⟨rfl, rfl, .byCall o r _ e⟩, .later rfl rfl hlookup⟩
      | ok done =>
        exact .pure ⟨Reason.rollbackFailed, ⟨rfl, rfl, .fails _ (by simp)⟩,
          .later rfl rfl hlookup⟩
    · next message hmove =>
      rw [hmove] at hlookup
      refine .request_bind fun answer => ?_
      cases answer with
      | error e => exact .pure ⟨_, ⟨rfl, rfl, .byCall o r _ e⟩, .later rfl rfl hlookup⟩
      | ok done =>
        exact .pure ⟨Reason.unrecoverable, ⟨rfl, rfl, .fails _ (by simp)⟩,
          .later rfl rfl hlookup⟩
    · next message hmove =>
      rw [hmove] at hlookup
      exact .pure ⟨_, ⟨rfl, rfl, .unexpected _⟩, .later rfl rfl hlookup⟩

theorem advanceArtifact_ends (artifact : Artifact) :
    (o.advanceArtifact r artifact).Ends fun es x => ∃ reason, o.SyncEnding r es x reason := by
  unfold advanceArtifact
  dsimp only
  refine .bind (fun es answer h => uneventful_of_fetchTemplate h) fun first answer hfirst => ?_
  cases answer with
  | error e =>
    refine .pure ⟨Reason.artifactFailed, ?_⟩
    exact SyncEnding.after ⟨⟨rfl, rfl, .fails _ (by simp)⟩, .later rfl rfl rfl⟩ hfirst
  | ok body =>
    refine (advanceStack_ends o _ _).mono fun es x hx => ?_
    obtain ⟨reason, hx⟩ := hx
    have hending : o.SyncEnding r es x reason := hx.of_eq rfl rfl rfl
    exact ⟨reason, hending.after hfirst⟩

theorem advanceSource_ends :
    (o.advanceSource r).Ends fun es x => ∃ reason, o.SyncEnding r es x reason := by
  unfold advanceSource
  refine .request_bind fun answer => ?_
  split
  · exact .pure ⟨Reason.artifactFailed, ⟨rfl, rfl, .fails _ (by simp)⟩, .later rfl rfl rfl⟩
  · exact .pure ⟨Reason.artifactFailed, ⟨rfl, rfl, .fails _ (by simp)⟩, .later rfl rfl rfl⟩
  · next artifact =>
    refine (advanceArtifact_ends o r artifact).mono fun es x hx => ?_
    obtain ⟨reason, hx⟩ := hx
    exact ⟨reason, hx.cons ⟨rfl, rfl, rfl⟩⟩

theorem advance_ends :
    (o.advance r).Ends fun es x => ∃ reason, o.SyncEnding r es x reason := by
  unfold advance
  dsimp only
  have hobserved : (observeGeneration r).manifest = r.manifest ∧
      (observeGeneration r).intervals = r.intervals ∧
      (observeGeneration r).emitted = r.emitted := by
    unfold observeGeneration
    dsimp only
    split <;> exact ⟨rfl, rfl, rfl⟩
  generalize observeGeneration r = r' at hobserved ⊢
  obtain ⟨hmanifest, hintervals, hemitted⟩ := hobserved
  refine .bind (fun es found h => uneventful_of_dependencyGate h) fun first found hfirst => ?_
  cases found with
  | some blocked =>
    refine .emit_bind (.pure ⟨Reason.dependencyNotReady, SyncEnding.after ?_ hfirst⟩)
    refine ⟨⟨hmanifest, hintervals, .blocked _⟩, .itself ?_ rfl rfl⟩
    exact congrArg (fun reason => [reason]) (r'.reason_details _)
  | none =>
    refine (advanceSource_ends o r').mono fun es x hx => ?_
    obtain ⟨reason, hx⟩ := hx
    exact ⟨reason, (hx.of_eq hmanifest hintervals hemitted).after hfirst⟩

/-! ## Tearing down -/

theorem deletion_ends (region name : String) :
    (Program.request (.deleteStack region name) >>= fun answer =>
      match answer with
      | .error e => pure (r, r.failByCall "delete stack" e)
      | .ok () => pure (r, r.wait ("Deleting stack " ++ name))).Ends
      fun es x => ∃ reason, o.Ending r es x reason := by
  refine .request_bind fun answer => ?_
  cases answer with
  | error e => exact .pure ⟨_, rfl, rfl, .byCall o r _ e⟩
  | ok done => exact .pure ⟨_, rfl, rfl, .waits _⟩

theorem destroy_ends (region : String) (s : StackDescription) :
    (destroy r region s).Ends fun es x => ∃ reason, o.Ending r es x reason := by
  unfold destroy
  dsimp only
  split
  · refine .emit_bind fun es x hran => ?_
    obtain ⟨reason, hx⟩ := deletion_ends o { r with emitted := true } region _ es x hran
    exact ⟨reason, Ending.cons ⟨hx.manifest, hx.intervals, hx.exit⟩ rfl⟩
  · exact deletion_ends o r region _

/-- A teardown ends with the release of the object, or like any other round. -/
theorem advanceDeletion_ends :
    (o.advanceDeletion r).Ends fun es x =>
      (failures es = [] ∧ x.2 = .removeFinalizer) ∨ ∃ reason, o.Ending r es x reason := by
  unfold advanceDeletion
  refine .request_bind fun answer => ?_
  split
  · next e => exact .pure (.inr ⟨_, rfl, rfl, .byCall o r _ e⟩)
  · exact .pure (.inl ⟨rfl, rfl⟩)
  · next s =>
    split
    · exact .pure (.inl ⟨rfl, rfl⟩)
    · split
      · exact .pure (.inr ⟨_, rfl, rfl, .waits _⟩)
      · refine (destroy_ends o r _ s).mono fun es x hx => ?_
        obtain ⟨reason, hx⟩ := hx
        exact .inr ⟨reason, hx.cons rfl⟩

end

end Operator

end StackSync
