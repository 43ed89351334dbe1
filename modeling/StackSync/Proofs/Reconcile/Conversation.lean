import StackSync.Artifact.Download
import StackSync.Reconcile.Gate
import StackSync.Reconcile.Round

/-!
# Taking conversations apart

A conversation is read from its front: one that is done has no exchanges, one that asks has the
request and an answer first, and one that goes on from another's result splits in two. With these
three laws the exchanges of a program are found by following its text. Only a few of the requests
reach the cloud; a program that makes none of those is local, and the remote part of a longer
conversation does not show it.
-/

namespace StackSync

namespace Program

variable {σ α β : Type} {es : List Exchange}

theorem run_bind (h : Handler σ) (p : Program α) (f : α → Program β) (s : σ) :
    run h (p >>= f) s = run h (f (run h p s).1) (run h p s).2 := by
  induction p generalizing s with
  | done a => rfl
  | ask r next ih => exact ih _ _

theorem exchanges_bind (h : Handler σ) (p : Program α) (f : α → Program β) (s : σ) :
    exchanges h (p >>= f) s =
      exchanges h p s ++ exchanges h (f (run h p s).1) (run h p s).2 := by
  induction p generalizing s with
  | done a => rfl
  | ask r next ih => exact congrArg (_ :: ·) (ih _ _)

@[simp] theorem ran_done_iff {a b : α} : Ran (.done a) es b ↔ es = [] ∧ b = a := by
  constructor
  · intro h
    cases h
    exact ⟨rfl, rfl⟩
  · rintro ⟨rfl, rfl⟩
    exact .done _

@[simp] theorem ran_pure_iff {a b : α} : Ran (pure a) es b ↔ es = [] ∧ b = a := ran_done_iff

theorem ran_ask_iff {r : Request} {next : r.Answer → Program α} {b : α} :
    Ran (.ask r next) es b ↔ ∃ answer rest, es = ⟨r, answer⟩ :: rest ∧
    Ran (next answer) rest b := by
  constructor
  · intro h
    cases h with
    | ask h => exact ⟨_, _, rfl, h⟩
  · rintro ⟨answer, rest, rfl, h⟩
    exact .ask h

theorem ran_bind_iff {p : Program α} {f : α → Program β} {b : β} :
    Ran (p >>= f) es b ↔ ∃ first rest a, es = first ++ rest ∧ Ran p first a ∧ Ran (f a) rest b := by
  induction p generalizing es with
  | done a =>
    rw [done_bind]
    constructor
    · intro h
      exact ⟨[], es, a, rfl, .done a, h⟩
    · rintro ⟨first, rest, a', rfl, hp, hf⟩
      obtain ⟨rfl, rfl⟩ := ran_done_iff.1 hp
      exact hf
  | ask r next ih =>
    rw [ask_bind, ran_ask_iff]
    constructor
    · rintro ⟨answer, more, rfl, h⟩
      obtain ⟨first, rest, a, rfl, hp, hf⟩ := (ih answer).1 h
      exact ⟨⟨r, answer⟩ :: first, rest, a, rfl, .ask hp, hf⟩
    · rintro ⟨first, rest, a, rfl, hp, hf⟩
      obtain ⟨answer, more, rfl, hnext⟩ := ran_ask_iff.1 hp
      exact ⟨answer, more ++ rest, rfl, (ih answer).2 ⟨more, rest, a, rfl, hnext, hf⟩⟩

theorem ran_request_bind_iff {r : Request} {f : r.Answer → Program α} {b : α} :
    Ran (request r >>= f) es b ↔ ∃ answer rest, es = ⟨r, answer⟩ :: rest ∧
    Ran (f answer) rest b := by
  rw [request_bind]
  exact ran_ask_iff

end Program

open Program

def Request.isRemote : Request → Bool
  | .describeStack .. | .createStack _ | .updateStack _ | .deleteStack .. | .continueRollback ..
  | .describeChangeSet .. | .executeChangeSet .. | .deleteChangeSet .. | .uploadTemplate .. => true
  | .findStack .. | .findArtifact .. | .download _ | .emit _ => false

def Request.isDownload : Request → Bool
  | .download _ => true
  | _ => false

/-- The exchanges with the cloud, in their order. -/
def remote (es : List Exchange) : List Exchange := es.filter (·.request.isRemote)

@[simp] theorem remote_nil : remote [] = [] := rfl

@[simp] theorem remote_append (es more : List Exchange) :
    remote (es ++ more) = remote es ++ remote more :=
  List.filter_append ..

@[simp] theorem remote_cons_of_isRemote {e : Exchange} {es : List Exchange}
    (h : e.request.isRemote = true) :
    remote (e :: es) = e :: remote es := List.filter_cons_of_pos h

@[simp] theorem remote_cons_of_not_isRemote {e : Exchange} {es : List Exchange}
    (h : e.request.isRemote = false) : remote (e :: es) = remote es :=
  List.filter_cons_of_neg (by simp [h])

/-- A program whose conversations hold requests of one sort only. -/
def Program.Asks (p : Program α) (sort : Request → Bool) : Prop :=
  ∀ es a, Ran p es a → ∀ e ∈ es, sort e.request = true

namespace Program.Asks

variable {sort : Request → Bool}

theorem pure (a : α) : (Pure.pure a : Program α).Asks sort := by
  intro es b h
  obtain ⟨rfl, -⟩ := ran_pure_iff.1 h
  simp

theorem request_bind {r : Request} {f : r.Answer → Program α} (hr : sort r = true)
    (hf : ∀ answer, (f answer).Asks sort) : (Program.request r >>= f).Asks sort := by
  intro es a h e he
  obtain ⟨answer, rest, rfl, hrest⟩ := ran_request_bind_iff.1 h
  rcases List.mem_cons.1 he with rfl | he
  · exact hr
  · exact hf answer rest a hrest e he

theorem bind {p : Program α} {f : α → Program β} (hp : p.Asks sort) (hf : ∀ a, (f a).Asks sort) :
    (p >>= f).Asks sort := by
  intro es b h e he
  obtain ⟨first, rest, a, rfl, hfirst, hrest⟩ := ran_bind_iff.1 h
  rcases List.mem_append.1 he with he | he
  · exact hp first a hfirst e he
  · exact hf a rest b hrest e he

theorem remote_eq_nil {p : Program α} (hp : p.Asks sort)
    (hsort : ∀ r, sort r = true → r.isRemote = false)
    {es : List Exchange} {a : α} (h : Ran p es a) : remote es = [] := by
  refine List.filter_eq_nil_iff.2 fun e he => ?_
  rw [hsort e.request (hp es a h e he)]
  exact Bool.false_ne_true

end Program.Asks

/-! ## Local programs -/

def Request.isFindStack : Request → Bool
  | .findStack .. => true
  | _ => false

theorem whyBlocked_asks (m : Manifest) (ns name : String) : (whyBlocked m ns name).Asks
    (·.isFindStack) := by
  unfold whyBlocked
  split
  · exact .pure _
  · refine .request_bind rfl fun answer => ?_
    split <;> exact .pure _

theorem firstBlocked_asks (m : Manifest) (ds : List DependencyRef) :
    (firstBlocked m ds).Asks (·.isFindStack) := by
  induction ds with
  | nil => exact .pure _
  | cons d rest ih =>
    refine .bind (whyBlocked_asks m _ d.name) fun found => ?_
    split
    · exact .pure _
    · exact ih

theorem remote_of_dependencyGate {m : Manifest} {es : List Exchange} {found : Option Blocked}
    (h : Ran (dependencyGate m) es found) : remote es = [] := by
  refine (firstBlocked_asks m m.spec.dependsOn).remote_eq_nil (fun r hr => ?_) h
  cases r <;> first | rfl | cases hr

theorem fetch_asks (url : Url) (retries : Nat) : (fetch url retries).Asks (·.isDownload) := by
  induction retries with
  | zero =>
    unfold fetch
    refine .request_bind rfl fun reply => ?_
    split <;> exact .pure _
  | succ retries ih =>
    unfold fetch
    refine .request_bind rfl fun reply => ?_
    split
    · exact .pure _
    · exact .pure _
    · exact ih

theorem download_asks (url : Url) (expected : ArtifactDigest) (retries : Nat) :
    (download url expected retries).Asks (·.isDownload) := by
  unfold download
  split
  · exact .pure _
  · refine .bind (fetch_asks url retries) fun answer => ?_
    cases answer with
    | error error => exact .pure _
    | ok data =>
      show (if _ then _ else _ : Program (Except ArtifactError ByteArray)).Asks _
      split <;> exact .pure _

theorem fetchTemplate_asks (s : DownloadSettings) (w : Workspace) (artifact : Artifact)
    (path : String) :
    (fetchTemplate s w artifact path).Asks (·.isDownload) := by
  unfold fetchTemplate
  split
  · exact .pure _
  · split
    · exact .pure _
    · next expected _ _ url _ =>
      refine .bind (download_asks url expected s.retries) fun answer => ?_
      split <;> exact .pure _

theorem remote_of_fetchTemplate {s : DownloadSettings} {w : Workspace} {artifact : Artifact}
    {path : String} {es : List Exchange} {answer : Except ArtifactError String}
    (h : Ran (fetchTemplate s w artifact path) es answer) : remote es = [] := by
  refine (fetchTemplate_asks s w artifact path).remote_eq_nil (fun r hr => ?_) h
  cases r <;> first | rfl | cases hr

theorem remote_of_emit {r r' : Round} {event : Event} {es : List Exchange}
    (h : Ran (r.emit event) es r') :
    remote es = [] ∧ r' = { r with emitted := true } := by
  obtain ⟨answer, rest, rfl, hrest⟩ := ran_ask_iff.1 h
  obtain ⟨rfl, rfl⟩ := ran_done_iff.1 hrest
  exact ⟨rfl, rfl⟩

theorem remote_of_close {r : Round} {o o' : Outcome} {es : List Exchange}
    (h : Ran (r.close o) es o') :
    remote es = [] ∧ o' = o := by
  unfold Round.close at h
  split at h
  · obtain ⟨rfl, rfl⟩ := ran_pure_iff.1 h
    exact ⟨rfl, rfl⟩
  · split at h
    · obtain ⟨rfl, rfl⟩ := ran_pure_iff.1 h
      exact ⟨rfl, rfl⟩
    · split at h
      · obtain ⟨rfl, rfl⟩ := ran_pure_iff.1 h
        exact ⟨rfl, rfl⟩
      · obtain ⟨first, rest, r', rfl, hemit, hrest⟩ := ran_bind_iff.1 h
        obtain ⟨rfl, rfl⟩ := ran_pure_iff.1 hrest
        refine ⟨?_, rfl⟩
        rw [remote_append, (remote_of_emit hemit).1, remote_nil, List.append_nil]

end StackSync
