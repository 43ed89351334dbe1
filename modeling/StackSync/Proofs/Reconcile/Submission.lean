import StackSync.Proofs.Reconcile.ObjectKey
import StackSync.Proofs.Reconcile.Refusal
import StackSync.Proofs.Reconcile.Rounds

/-!
# What a round asks to be deployed

A request for a change set is put together in several places: region, names, parameters and tags come from
the object and the settings, the change set name from the artifact, and the template goes in as text or as
the address of an upload. A mistake in any of them deploys something else, and no call fails. So the
main theorem takes every request a round makes apart again, field by field, and finds each field where it has
to come from.

It rests on the shape of a round: a request for a change set is the last that is asked of the cloud, and the
template is put in its place right before (`Pursuit.submitting`). In the store in memory, what was uploaded then
is what is found at the address.
-/

namespace StackSync

open Program

/-! ## A round ends with its request -/

/-- A list that ends with its only element of a sort splits in one way at such an element. -/
theorem eq_of_append_cons_eq_concat {α : Type} {p : α → Bool} {x y : α} {before after front : List α}
    (hx : p x = true) (hfront : ∀ z ∈ front, p z = false) (h : before ++ x :: after = front ++ [y]) :
    before = front ∧ x = y ∧ after = [] := by
  rcases List.eq_nil_or_concat after with rfl | ⟨middle, z, rfl⟩
  · obtain ⟨hbefore, hlast⟩ := List.append_inj' h rfl
    exact ⟨hbefore, (List.cons.inj hlast).1, rfl⟩
  · rw [List.concat_eq_append, ← List.cons_append, ← List.append_assoc] at h
    obtain ⟨rfl, -⟩ := List.append_inj' h rfl
    have hnone := hfront x (List.mem_append_right _ List.mem_cons_self)
    rw [hx] at hnone
    cases hnone

namespace TargetStack

variable {t : TargetStack} {es : List Exchange} {isCreate : Bool} {ref reference : String}
  {st : ConditionStatus}

/-- What is asked of the cloud has no request for a change set, or it ends with one, for which the template has
just been placed. -/
inductive Submitting (t : TargetStack) : List Exchange → Prop where
  | never {es : List Exchange} : (∀ e ∈ es, e.isSubmission = false) → Submitting t es
  | last {earlier placing : List Exchange} {template : TemplateSource} {isCreate : Bool}
      {answer : CloudAnswer ChangeSetHandle} :
      (∀ e ∈ earlier, e.isSubmission = false) → t.Placed placing template →
      Submitting t (earlier ++ placing ++ [t.submission isCreate template answer])

theorem Submitting.cons {e : Exchange} (h : t.Submitting es) (he : e.isSubmission = false) :
    t.Submitting (e :: es) := by
  cases h with
  | never hes => exact .never (List.forall_mem_cons.2 ⟨he, hes⟩)
  | last hearlier placed => exact .last (List.forall_mem_cons.2 ⟨he, hearlier⟩) placed

theorem Submitted.submitting (h : t.Submitted isCreate ref es reference st) : t.Submitting es := by
  cases h with
  | oversized => exact .never (List.forall_mem_nil _)
  | notUploaded => exact .never (List.forall_mem_singleton.2 rfl)
  | refused placed | accepted placed =>
    have hnothing : ∀ e ∈ ([] : List Exchange), e.isSubmission = false := List.forall_mem_nil _
    exact .last hnothing placed

theorem ChangeSetPursuit.submitting (h : t.ChangeSetPursuit isCreate es reference st) :
    t.Submitting es := by
  cases h with
  | missing _ hsubmitted => exact hsubmitted.submitting.cons rfl
  | unseen | waiting | unexpected | executed => exact .never (List.forall_mem_singleton.2 rfl)
  | executing | notExecuted | emptyDropped | emptyKept | failedDeletion =>
    exact .never (List.forall_mem_cons.2 ⟨rfl, List.forall_mem_singleton.2 rfl⟩)

theorem Pursuit.submitting (h : t.Pursuit es reference st) : t.Submitting es := by
  cases h with
  | changeSet _ hpursuit => exact hpursuit.submitting.cons rfl
  | unseen | waiting | unexpected => exact .never (List.forall_mem_singleton.2 rfl)
  | rollingBack | deleting =>
    exact .never (List.forall_mem_cons.2 ⟨rfl, List.forall_mem_singleton.2 rfl⟩)

theorem Submitting.split {before after : List Exchange} {r : ChangeSetRequest}
    {answer : CloudAnswer ChangeSetHandle}
    (h : t.Submitting (before ++ .submission isCreate r answer :: after)) :
    ∃ earlier placing template, before = earlier ++ placing ∧ t.Placed placing template ∧
      r = t.request template ∧ after = [] := by
  generalize hes : before ++ Exchange.submission isCreate r answer :: after = es at h
  cases h with
  | never hnone =>
    subst hes
    exact absurd (List.mem_append_right _ List.mem_cons_self) (submission_not_mem hnone _ _ _)
  | @last earlier placing template isCreate' answer' hearlier placed =>
    have hfront := List.forall_mem_append.2 ⟨hearlier, not_submission_of_placed placed⟩
    obtain ⟨rfl, hlast, rfl⟩ :=
      eq_of_append_cons_eq_concat (isSubmission_submission isCreate r answer) hfront hes
    obtain ⟨-, rfl, -⟩ := submission_inj hlast
    exact ⟨earlier, placing, template, rfl, placed, rfl, rfl⟩

/-- A template that is too long to be passed inline, and has no bucket to go to, is not asked for. -/
theorem Submitting.never_of_oversized (h : t.Submitting es) (hbucket : t.bucket = none)
    (hsize : inlineLimit < t.templateBody.utf8ByteSize) : ∀ e ∈ es, e.isSubmission = false := by
  cases h with
  | never hnone => exact hnone
  | last _ placed =>
    cases placed with
    | inline _ hfits => exact absurd hsize (Nat.not_lt.2 hfits)
    | uploaded hsome =>
      rw [hbucket] at hsome
      cases hsome

end TargetStack

/-! ## The store while a round runs -/

namespace MemoryTemplates

variable {s : MemoryTemplates} {bucket region key body url : String} {before after es : List Exchange}

/-- Every upload is answered as the store does. -/
def Answers (s : MemoryTemplates) : List Exchange → Prop
  | [] => True
  | ⟨.uploadTemplate bucket region key body, answer⟩ :: es =>
    answer = (s.upload bucket region key body).1 ∧ (s.upload bucket region key body).2.Answers es
  | _ :: es => s.Answers es

theorem answers_exchanges {α : Type} (p : Program α) (w : World) :
    w.templates.Answers (exchanges World.answer p w) := by
  induction p generalizing w with
  | done a => trivial
  | ask r next ih =>
    have hrest := ih (World.answer r w).1 (World.answer r w).2
    cases r with
    | uploadTemplate bucket region key body => exact ⟨rfl, hrest⟩
    | _ => exact hrest

theorem after_append (s : MemoryTemplates) (es more : List Exchange) :
    s.after (es ++ more) = (s.after es).after more := by
  induction es generalizing s with
  | nil => rfl
  | cons e es ih =>
    obtain ⟨r, answer⟩ := e
    cases r with
    | uploadTemplate bucket region key body => exact ih (s.upload bucket region key body).2
    | _ => exact ih s

theorem after_of_remote_eq_nil (h : remote es = []) (s : MemoryTemplates) : s.after es = s := by
  induction es with
  | nil => rfl
  | cons e es ih =>
    obtain ⟨r, answer⟩ := e
    cases r with
    | findStack | findArtifact | download | emit => exact ih h
    | _ => cases h

theorem Answers.of_append (h : s.Answers (before ++ after)) : (s.after before).Answers after := by
  induction before generalizing s with
  | nil => exact h
  | cons e before ih =>
    obtain ⟨r, answer⟩ := e
    cases r with
    | uploadTemplate bucket region key body => exact ih h.2
    | _ => exact ih h

theorem get?_upload (h : (s.upload bucket region key body).1 = .ok url) :
    (s.upload bucket region key body).2.get? url = some body := by
  unfold upload at h ⊢
  split at h
  · cases h
  · next hworks =>
    obtain rfl := Except.ok.inj h
    rw [hworks]
    exact List.lookup_cons_self

/-- If the last that was asked of the cloud is an upload that succeeded, the address it was answered
with holds what was uploaded. -/
theorem get?_after_of_uploaded {earlier : List Exchange} (hanswers : s.Answers (before ++ after))
    (h : remote before = earlier ++ [⟨.uploadTemplate bucket region key body, .ok url⟩]) :
    (s.after before).get? url = some body := by
  obtain ⟨first, rest, rfl, -, hrest⟩ := List.filter_eq_append_iff.1 h
  obtain ⟨quiet, last, rfl, -, -, hlast⟩ := List.filter_eq_cons_iff.1 hrest
  rw [List.append_assoc, List.append_assoc] at hanswers
  have hupload := hanswers.of_append.of_append
  rw [after_append, after_append]
  show ((MemoryTemplates.upload _ bucket region key body).2.after last).get? url = some body
  rw [after_of_remote_eq_nil hlast]
  exact get?_upload hupload.1.symm

end MemoryTemplates

/-! ## Requests -/

namespace Operator

/-- What a request for a change set says of the object, if `revision` is what is to be deployed. -/
structure Assembled (o : Operator) (m : Manifest) (revision : String) (r : ChangeSetRequest) :
    Prop where
  stackName : r.stackName = m.spec.stackName
  given : ∀ region, m.spec.region = some region → Text.trim region ≠ "" →
    r.region = Text.trim region
  fallback : (∀ region, m.spec.region = some region → Text.trim region = "") →
    r.region = o.settings.defaultRegion
  changeSetName : r.changeSetName = ChangeSetName.of (m.metadata.generation.getD 0) revision
  parameters : r.parameters = m.spec.stackParameters
  tags : r.tags =
    [⟨"cfn-flux-controller/version", "0.1.0"⟩, ⟨"cfn-flux-controller/name", m.name⟩,
      ⟨"cfn-flux-controller/namespace", m.ns⟩] ++ o.settings.defaultTags ++ m.spec.stackTags

/-- How the template `body` comes with a request that is made when `before` has been said. -/
inductive Delivered (o : Operator) (m : Manifest) (body : String) (before : List Exchange)
    (r : ChangeSetRequest) : Prop where
  | inline : o.settings.templateBucket = none → body.utf8ByteSize ≤ 51200 →
      r.template = .body body → Delivered o m body before r
  | stored {bucket url : String} {earlier : List Exchange} :
      o.settings.templateBucket = some bucket →
      remote before = earlier ++ [⟨.uploadTemplate bucket r.region
        ("flux-" ++ m.ns ++ "-" ++ m.name ++ "-" ++ r.changeSetName ++ ".template") body,
        .ok url⟩] →
      r.template = .url url → Delivered o m body before r

variable {o : Operator} {time : String} {m : Manifest} {es before after placing : List Exchange}
  {out : Outcome} {revision body : String} {template : TemplateSource}

theorem assembled_request (o : Operator) (m : Manifest) (revision body : String)
    (template : TemplateSource) :
    o.Assembled m revision ((o.targetOf m revision body).request template) where
  stackName := rfl
  given := (m.spec.resides_regionOr o.settings.defaultRegion).given
  fallback := (m.spec.resides_regionOr o.settings.defaultRegion).fallback
  changeSetName := o.targetOf_changeSet_name m revision body
  parameters := rfl
  tags := rfl

theorem delivered_of_placed {earlier : List Exchange}
    (h : (o.targetOf m revision body).Placed placing template)
    (hbefore : remote before = earlier ++ placing) :
    o.Delivered m body before ((o.targetOf m revision body).request template) := by
  cases h with
  | inline hbucket hfits => exact .inline hbucket hfits rfl
  | uploaded hbucket => exact .stored hbucket hbefore rfl

theorem Delivered.get?_after {r : ChangeSetRequest} {s : MemoryTemplates} {url : String}
    (h : o.Delivered m body before r) (hanswers : s.Answers (before ++ after))
    (htemplate : r.template = .url url) : (s.after before).get? url = some body := by
  cases h with
  | inline _ _ hbody =>
    rw [hbody] at htemplate
    cases htemplate
  | stored _ hbefore hurl =>
    rw [hurl] at htemplate
    cases htemplate
    exact MemoryTemplates.get?_after_of_uploaded hanswers hbefore

/-- A round that asks for a change set has loaded a template, and the request is the last that is asked of
the cloud. -/
theorem submitting_of_reconcile (ran : Ran (o.reconcile time m) es out) :
    (∀ e ∈ es, e.isSubmission = false) ∨ ∃ revision body, o.Loaded m es revision body ∧
      (o.targetOf m revision body).Submitting (remote es) := by
  cases passage_of_reconcile ran with
  | idle _ hnone _ | stopped hnone _ _ _ =>
    refine .inl (not_isSubmission_of_remote ?_)
    rw [hnone]
    exact List.forall_mem_nil _
  | tornDown _ htorn _ => exact .inl (not_isSubmission_of_remote htorn.not_isSubmission)
  | pursued _ hloaded hpursuit _ _ _ => exact .inr ⟨_, _, hloaded, hpursuit.submitting⟩

theorem split_of_submission {isCreate : Bool} {r : ChangeSetRequest}
    {answer : CloudAnswer ChangeSetHandle} (ran : Ran (o.reconcile time m) es out)
    (hes : es = before ++ .submission isCreate r answer :: after) :
    ∃ revision body earlier placing template, o.Loaded m es revision body ∧
      remote before = earlier ++ placing ∧ (o.targetOf m revision body).Placed placing template ∧
      r = (o.targetOf m revision body).request template ∧ remote after = [] := by
  rcases submitting_of_reconcile ran with hnone | ⟨revision, body, hloaded, hsubmitting⟩
  · subst hes
    exact absurd (List.mem_append_right _ List.mem_cons_self) (submission_not_mem hnone _ _ _)
  · have hremote : remote es = remote before ++ .submission isCreate r answer :: remote after := by
      rw [hes, remote_append, remote_cons_of_isRemote]
      exact isRemote_of_isSubmission (isSubmission_submission isCreate r answer)
    rw [hremote] at hsubmitting
    obtain ⟨earlier, placing, template, hbefore, placed, hr, hafter⟩ := hsubmitting.split
    exact ⟨revision, body, earlier, placing, template, hloaded, hbefore, placed, hr, hafter⟩

/-- Whatever the cloud answers, a request for a change set is made of the object, the settings and the
revision that was loaded, and comes with the template of that revision: as text if there is no bucket and the
text is short enough, and else by the address of an upload made right before, where a store in memory has
it from then on. Without a bucket nothing is asked for if the template is too long. -/
theorem request_integrity (ran : Ran (o.reconcile time m) es out) :
    (∀ before after isCreate r answer, es = before ++ .submission isCreate r answer :: after →
      ∃ revision body,
        (∀ revision' body', o.Loaded m es revision' body' ↔
          some (revision, body) = some (revision', body')) ∧
        o.Assembled m revision r ∧ o.Delivered m body before r ∧
        ∀ (s : MemoryTemplates) url, s.Answers es → r.template = .url url →
          (s.after before).get? url = some body ∧ (s.after es).get? url = some body) ∧
      ∀ revision body, o.Loaded m es revision body → o.settings.templateBucket = none →
        51200 < body.utf8ByteSize → ∀ e ∈ es, e.isSubmission = false := by
  constructor
  · intro before after isCreate r answer hes
    obtain ⟨revision, body, earlier, placing, template, hloaded, hbefore, placed, rfl, hafter⟩ :=
      split_of_submission ran hes
    have hdelivered := delivered_of_placed placed hbefore
    refine ⟨revision, body, loaded_iff ran hloaded, o.assembled_request m revision body template,
      hdelivered, fun s url hanswers htemplate => ?_⟩
    have hstored : (s.after before).get? url = some body := by
      rw [hes] at hanswers
      exact hdelivered.get?_after hanswers htemplate
    -- the request and what comes after it leave the store alone
    have hlater : s.after es = s.after before := by
      rw [hes, MemoryTemplates.after_append]
      cases isCreate <;> exact MemoryTemplates.after_of_remote_eq_nil hafter _
    rw [hlater]
    exact ⟨hstored, hstored⟩
  · intro revision body hloaded hbucket hsize
    rcases submitting_of_reconcile ran with hnone | ⟨revision', body', hloaded', hsubmitting⟩
    · exact hnone
    · obtain ⟨rfl, rfl⟩ := loaded_unique ran hloaded hloaded'
      exact not_isSubmission_of_remote (hsubmitting.never_of_oversized hbucket hsize)

end Operator

open Sample in
/-- The first round over the sample asks for a change set, in the default region and under the name of the
revision, with its template at an address where the store has it by then. -/
theorem request_integrity_sample : ∃ (before after : List Exchange) (isCreate : Bool)
    (r : ChangeSetRequest) (answer : CloudAnswer ChangeSetHandle) (url : String),
    (Stage.visit ⟨[], object, .ofNetwork default⟩ "a" true).exchanges =
      before ++ .submission isCreate r answer :: after ∧
    r.region = "eu-north-1" ∧ r.changeSetName = ChangeSetName.of 1 "a" ∧ r.template = .url url ∧
    (MemoryTemplates.empty.after before).get? url = some "A" := by
  have hduty : object.lifecycleFacts.choice.duty = some .reconcile := rfl
  have hran : Ran (operator.reconcile "2024-05-01T00:00:00+00:00" object)
      (Stage.visit ⟨[], object, .ofNetwork default⟩ "a" true).exchanges
      (Stage.visit ⟨[], object, .ofNetwork default⟩ "a" true).outcome := (supply "a").ran rfl hduty
  have hanswers : MemoryTemplates.empty.Answers
      (Stage.visit ⟨[], object, .ofNetwork default⟩ "a" true).exchanges :=
    MemoryTemplates.answers_exchanges ((supply "a").program _ object) (.ofNetwork default)
  have hloaded : operator.Loaded object
      (Stage.visit ⟨[], object, .ofNetwork default⟩ "a" true).exchanges "a" "A" :=
    ⟨artifact "a", _, rfl, fetched "a", [], _, rfl⟩
  have hasks : (Stage.visit ⟨[], object, .ofNetwork default⟩ "a" true).exchanges.any
      (·.isSubmission) = true := rfl
  obtain ⟨e, he, hsubmission⟩ := List.any_eq_true.1 hasks
  obtain ⟨isCreate, r, answer, rfl⟩ := exists_submission_of_isSubmission hsubmission
  obtain ⟨before, after, hsplit⟩ := List.append_of_mem he
  obtain ⟨revision, body, honly, hassembled, hdelivered, hstored⟩ :=
    (Operator.request_integrity hran).1 before after isCreate r answer hsplit
  obtain ⟨rfl, rfl⟩ := Prod.mk.inj (Option.some.inj ((honly "a" "A").1 hloaded))
  cases hdelivered with
  | inline hbucket => cases hbucket
  | stored _ _ htemplate =>
    exact ⟨before, after, isCreate, r, answer, _, hsplit, hassembled.fallback nofun,
      hassembled.changeSetName, htemplate, (hstored _ _ hanswers htemplate).1⟩

end StackSync
