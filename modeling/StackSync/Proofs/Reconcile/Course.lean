import StackSync.Proofs.Reconcile.Effect
import StackSync.Proofs.Status.Merging
import StackSync.Reconcile.Persist

/-!
# Courses of rounds

What happens to one object over time is a course: rounds against the cloud in memory, each from the
object as it stands, and between two rounds whatever is allowed to happen. A `Visit` keeps of a
round all that can be seen of it, and a course keeps its visits, the newest first. What may happen
(where a course starts, which rounds are looked at, what goes on in between) is a `Plan`; statements
about courses name theirs.
-/

namespace StackSync

open Program MemoryCloud

namespace Manifest

def generation (m : Manifest) : Int64 := m.metadata.generation.getD 0

def stackKey (m : Manifest) (s : OperatorSettings) : StackKey :=
  (m.spec.regionOr s.defaultRegion, m.spec.stackName)

/-- Where the service is told to find a template: in the bucket, under a name of its own, or in the
request. -/
def source (m : Manifest) (s : OperatorSettings) (revision body : String) : TemplateSource :=
  match s.templateBucket with
  | some bucket =>
    .url (objectUrl bucket (m.stackKey s).1
      ("flux-" ++ m.ns ++ "-" ++ m.name ++ "-" ++ ChangeSetName.of m.generation revision ++
        ".template"))
  | none => .body body

def handle (m : Manifest) (revision : String) : ChangeSetHandle :=
  attemptHandle m.base.lastAttemptedChangeSet (ChangeSetName.of m.generation revision)

theorem handle_name (m : Manifest) (revision : String) :
    (m.handle revision).name = ChangeSetName.of m.generation revision := attemptHandle_name _ _

variable {m : Manifest} {out : Outcome} {d : Status}

theorem base_persist_of_none (h : out.status = none) : (m.persist out).base = m.base := by
  rw [base, persist, h]
  rfl

theorem base_persist_of_some (h : out.status = some d) :
    (m.persist out).base = d.mergeOnto m.status := by
  rw [base, persist, h]
  rfl

end Manifest

namespace Operator

variable (o : Operator) (m : Manifest) (revision body : String)

theorem targetOf_changeSet_name :
    (o.targetOf m revision body).changeSet.name = ChangeSetName.of m.generation revision :=
    m.handle_name revision

theorem targetOf_source :
    (o.targetOf m revision body).source = m.source o.settings revision body := by
  have hname := o.targetOf_changeSet_name m revision body
  rw [TargetStack.source, Manifest.source, TargetStack.objectKey, hname]
  rfl

end Operator

/-- A round over an object, as it went. -/
structure Visit where
  operator : Operator
  time : String
  object : Manifest
  exchanges : List Exchange
  outcome : Outcome
  /-- The revision and the template it has loaded, if it has. -/
  loaded : Option (String × String)
  /-- Whether what it came to has been written. -/
  written : Bool

namespace Visit

/-- The round can have gone like this against the cloud in memory. -/
structure Valid (v : Visit) (c c' : MemoryCloud) : Prop where
  ran : Ran (v.operator.reconcile v.time v.object) v.exchanges v.outcome
  replay : Replay c v.exchanges c'
  loaded : ∀ revision body,
    v.operator.Loaded v.object v.exchanges revision body ↔ v.loaded = some (revision, body)

def after (v : Visit) : Manifest := if v.written then v.object.persist v.outcome else v.object

def key (v : Visit) : StackKey := v.object.stackKey v.operator.settings

def source (v : Visit) : Option TemplateSource :=
  v.loaded.map fun (revision, body) => v.object.source v.operator.settings revision body

def change? (v : Visit) : Option Change := StackSync.change? v.exchanges

def Tried (v : Visit) (generation : Int64) (revision : String) : Prop :=
  v.object.generation = generation ∧ ∃ body, v.loaded = some (revision, body)

/-- The round has attempted no change set and does not say that the stack is ready. -/
def Unready (v : Visit) : Prop :=
  ∀ d, v.outcome.status = some d → ∃ s a st,
    v.object.Observed s ∧ a.changeSet = none ∧ st ≠ .true ∧ s.Moves a st d

inductive Upshot (v : Visit) (c c' : MemoryCloud) : Prop where
  | quiet : v.change? = none → SameStore c c' → v.Unready → Upshot v c c'
  | cleared : v.change? = some (.cleared v.key) → SameStore (c.eraseStack v.key) c' → v.Unready →
      Upshot v c c'
  | pursued {revision body reference : String} {s : Status} {a : Attempt} {st : ConditionStatus} :
      v.loaded = some (revision, body) →
      (v.operator.targetOf v.object revision body).Effect c (remote v.exchanges) reference st c' →
      v.object.Observed s → a.changeSet = some reference → v.outcome.Writes s a st → Upshot v c c'

theorem change?_of_remote {v : Visit} {es : List Exchange} (h : remote v.exchanges = es) :
    v.change? = StackSync.change? es := by
  rw [change?, ← change?_remote, h]

/-- A round either leaves the stack to itself, or tears it down, or pursues its target with one of
the effects. -/
theorem Valid.upshot {v : Visit} {c c' : MemoryCloud} (h : v.Valid c c') : v.Upshot c c' := by
  have hremote := h.replay.remote
  cases Operator.passage_of_reconcile h.ran with
  | idle _ hquiet hnone =>
    rw [hquiet] at hremote
    obtain rfl := replay_nil_iff.1 hremote
    refine .quiet (change?_of_remote hquiet) (.refl _) fun d hd => ?_
    rw [hnone] at hd
    cases hd
  | tornDown _ htorn hunready =>
    have hnotReady : v.Unready := by
      intro d hd
      obtain ⟨a, st, hattempts, hst, hmoves⟩ := hunready d hd
      exact ⟨v.object.base, a, st, .inl rfl, hattempts.changeSet, hst, hmoves⟩
    generalize hes : remote v.exchanges = es at htorn hremote
    cases htorn with
    | looked =>
      obtain ⟨c₁, hanswer, hrest⟩ := replay_cons_iff.1 hremote
      obtain rfl := replay_nil_iff.1 hrest
      exact .quiet (change?_of_remote hes) (describeStack_law hanswer).1 hnotReady
    | @deleted answer deletion =>
      obtain ⟨c₁, hanswer, hrest⟩ := replay_cons_iff.1 hremote
      obtain ⟨c₂, hdelete, hlast⟩ := replay_cons_iff.1 hrest
      obtain rfl := replay_nil_iff.1 hlast
      have hlooked := (describeStack_law hanswer).1
      rcases deleteStack_law hdelete with ⟨⟨e, rfl⟩, hs⟩ | ⟨rfl, hs⟩
      · exact .quiet (change?_of_remote hes) (hlooked.trans hs) hnotReady
      · exact .cleared (change?_of_remote hes) ((hlooked.eraseStack _).trans hs) hnotReady
  | stopped hquiet hobserved hattempts hwrites =>
    rw [hquiet] at hremote
    obtain rfl := replay_nil_iff.1 hremote
    refine .quiet (change?_of_remote hquiet) (.refl _) fun d hd => ?_
    obtain ⟨d', hd', hmoves⟩ := hwrites
    rw [hd, Option.some.injEq] at hd'
    subst hd'
    exact ⟨_, _, _, hobserved, hattempts.changeSet, by simp, hmoves⟩
  | pursued _ hloaded hpursuit hobserved hattempts hwrites =>
    exact .pursued ((h.loaded _ _).1 hloaded)
      (TargetStack.effect_of_pursuit hpursuit hremote) hobserved hattempts.changeSet hwrites

/-! ## What is remembered of a round -/

theorem base_after_of_unready {v : Visit} (h : v.Unready) :
    v.after.base.lastAttemptedChangeSet = v.object.base.lastAttemptedChangeSet := by
  unfold after
  split
  · cases hstatus : v.outcome.status with
    | none => rw [Manifest.base_persist_of_none hstatus]
    | some d =>
      obtain ⟨s, a, st, hobserved, hnone, -, hmoves⟩ := h d hstatus
      rw [Manifest.base_persist_of_some hstatus, (d.lastAttempted_mergeOnto _).2,
        hmoves.lastAttemptedChangeSet, hnone, hobserved.lastAttemptedChangeSet]
      rfl
  · rfl

theorem base_after_of_writes {v : Visit} {s : Status} {a : Attempt} {st : ConditionStatus}
    {reference : String}
    (hattempt : a.changeSet = some reference) (hwrites : v.outcome.Writes s a st) :
    v.after.base.lastAttemptedChangeSet =
      if v.written then some reference else v.object.base.lastAttemptedChangeSet := by
  obtain ⟨d, hstatus, hmoves⟩ := hwrites
  unfold after
  split
  · rw [Manifest.base_persist_of_some hstatus, (d.lastAttempted_mergeOnto _).2,
      hmoves.lastAttemptedChangeSet, hattempt]
    rfl
  · rfl

@[simp] theorem after_spec (v : Visit) : v.after.spec = v.object.spec := by
  unfold after
  split <;> rfl

@[simp] theorem after_generation (v : Visit) : v.after.generation = v.object.generation := by
  unfold after
  split <;> rfl

@[simp] theorem after_stackKey (v : Visit) (s : OperatorSettings) :
    v.after.stackKey s = v.object.stackKey s := by
  rw [Manifest.stackKey, Manifest.stackKey, after_spec]

@[simp] theorem after_source (v : Visit) (s : OperatorSettings) (revision body : String) :
    v.after.source s revision body = v.object.source s revision body := by
  unfold after
  split <;> rfl

end Visit

/-- What may happen in a course. -/
structure Plan where
  starts : Manifest → MemoryCloud → Prop
  allows : Visit → Prop
  /-- From the object and the cloud after a round to those before the next. -/
  between : Manifest → MemoryCloud → Manifest → MemoryCloud → Prop

/-- The visits so far, the newest first, and the object and the cloud they have led to. -/
inductive Course (p : Plan) : List Visit → Manifest → MemoryCloud → Prop where
  | start {m : Manifest} {c : MemoryCloud} : p.starts m c → Course p [] m c
  | round {hist : List Visit} {v : Visit} {m' : Manifest} {c c' c'' : MemoryCloud} :
      Course p hist v.object c → p.allows v → v.Valid c c' → p.between v.after c' m' c'' →
      Course p (v :: hist) m' c''

/-- An invariant of objects and clouds, given their history, holds along every course: it holds at
the start, a round keeps it for the object it was run over, and what happens between two rounds
keeps it. -/
theorem Course.invariant {p : Plan} {I : List Visit → Manifest → MemoryCloud → Prop}
    (start : ∀ m c, p.starts m c → I [] m c)
    (round : ∀ hist v c c', p.allows v → v.Valid c c' → I hist v.object c →
      I (v :: hist) v.after c')
    (between : ∀ hist m c m' c', p.between m c m' c' → I hist m c → I hist m' c')
    {hist : List Visit} {m : Manifest} {c : MemoryCloud} (h : Course p hist m c) : I hist m c := by
  induction h with
  | start hstart => exact start _ _ hstart
  | round _ hallowed hvalid hbetween ih =>
    exact between _ _ _ _ _ hbetween (round _ _ _ _ hallowed hvalid ih)

end StackSync
