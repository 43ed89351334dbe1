import StackSync.Proofs.Reconcile.Course

/-!
# What a round loads

A visit keeps the revision and the template its round has loaded, so there has to be one such pair
at most. A program that looks up no artifact loads nothing, and `reconcile` looks up one at most
(`reconcile_looksUpOnce`): so the exchanges split in one way at the artifact that was found, and
what is downloaded from there on leads to one template, because two conversations of a program
cannot part on the same answers. With that every round against the cloud in memory is a visit.
-/

namespace StackSync

open Program MemoryCloud

/-! ## One result -/

/-- Conversations of one program that are the start of the same exchanges come to the same. -/
theorem Program.Ran.eq_of_prefix {α : Type} {p : Program α} {es es' l : List Exchange} {a a' : α}
    (h : Ran p es a) (h' : Ran p es' a') (hstarts : es <+: l) (hstarts' : es' <+: l) : a = a' := by
  induction h generalizing es' l with
  | done a => exact (ran_done_iff.1 h').2.symm
  | @ask r next answer rest a _ ih =>
    obtain ⟨answer', rest', rfl, hnext⟩ := ran_ask_iff.1 h'
    obtain ⟨t, rfl⟩ := hstarts
    obtain ⟨hhead, htail⟩ := List.cons_prefix_cons.1 hstarts'
    cases hhead
    exact ih hnext (List.prefix_append _ _) htail

def Request.isArtifactLookup : Request → Bool
  | .findArtifact .. => true
  | _ => false

abbrev Program.LooksUpNone {α : Type} (p : Program α) : Prop := p.Asks (!·.isArtifactLookup)

theorem Program.Asks.mono {α : Type} {p : Program α} {sort sort' : Request → Bool} (h : p.Asks sort)
    (hsort : ∀ r, sort r = true → sort' r = true) : p.Asks sort' :=
  fun es a hran e he => hsort _ (h es a hran e he)

theorem fetchTemplate_looksUpNone (s : DownloadSettings) (w : Workspace) (artifact : Artifact)
    (path : String) :
    (fetchTemplate s w artifact path).LooksUpNone := by
  refine (fetchTemplate_asks s w artifact path).mono fun r hr => ?_
  cases r <;> first | rfl | cases hr

theorem Round.emit_looksUpNone (r : Round) (e : Event) : (r.emit e).LooksUpNone :=
  .request_bind rfl fun _ => .pure _

theorem Round.close_looksUpNone (r : Round) (out : Outcome) : (r.close out).LooksUpNone := by
  unfold Round.close
  split
  · exact .pure _
  · split
    · exact .pure _
    · split
      · exact .pure _
      · exact .bind (r.emit_looksUpNone _) fun _ => .pure _

theorem firstBlocked_looksUpNone (m : Manifest) (ds : List DependencyRef) :
    (firstBlocked m ds).LooksUpNone := by
  refine (firstBlocked_asks m ds).mono fun r hr => ?_
  cases r <;> first | rfl | cases hr

theorem Program.LooksUpNone.countP_eq_zero {α : Type} {p : Program α} {es : List Exchange} {a : α}
    (hp : p.LooksUpNone) (h : Ran p es a) : es.countP (·.request.isArtifactLookup) = 0 := by
  refine List.countP_eq_zero.2 fun e he => ?_
  have hnone := hp es a h e he
  simpa using hnone

/-- Where a list has one element of a sort at most, it splits in one way at such an element. -/
theorem eq_of_countP_le_one {α : Type} {p : α → Bool} {x x' : α}
    {before before' after after' : List α}
    (hcount : (before ++ x :: after).countP p ≤ 1) (hx : p x = true) (hx' : p x' = true)
    (h : before' ++ x' :: after' = before ++ x :: after) : x = x' ∧ after = after' := by
  induction before generalizing before' with
  | nil =>
    cases before' with
    | nil => exact ⟨(List.cons.inj h).1.symm, (List.cons.inj h).2.symm⟩
    | cons y before' =>
      have hafter : after = before' ++ x' :: after' := (List.cons.inj h).2.symm
      rw [hafter, List.nil_append, List.countP_cons_of_pos hx, List.countP_append,
        List.countP_cons_of_pos hx'] at hcount
      omega
  | cons y before ih =>
    cases before' with
    | nil =>
      obtain ⟨rfl, rfl⟩ := List.cons.inj h
      rw [List.cons_append, List.countP_cons_of_pos hx', List.countP_append,
        List.countP_cons_of_pos hx] at hcount
      omega
    | cons z before' =>
      obtain ⟨rfl, htail⟩ := List.cons.inj h
      refine ih ?_ htail
      rw [List.cons_append, List.countP_cons] at hcount
      exact Nat.le_trans (Nat.le_add_right _ _) hcount

/-- A program that looks up an artifact once at most. -/
def Program.LooksUpOnce {α : Type} (p : Program α) : Prop :=
  ∀ es a, Ran p es a → es.countP (·.request.isArtifactLookup) ≤ 1

namespace Program.LooksUpOnce

variable {α β : Type} {p : Program α} {f : α → Program β}

theorem of_none (hp : p.LooksUpNone) : p.LooksUpOnce := by
  intro es a h
  rw [hp.countP_eq_zero h]
  exact Nat.zero_le 1

theorem bind (hp : p.LooksUpOnce) (hf : ∀ a, (f a).LooksUpNone) : (p >>= f).LooksUpOnce := by
  intro es b h
  obtain ⟨first, rest, a, rfl, hfirst, hrest⟩ := ran_bind_iff.1 h
  rw [List.countP_append, (hf a).countP_eq_zero hrest]
  exact hp first a hfirst

theorem bind_of_none (hp : p.LooksUpNone) (hf : ∀ a, (f a).LooksUpOnce) :
    (p >>= f).LooksUpOnce := by
  intro es b h
  obtain ⟨first, rest, a, rfl, hfirst, hrest⟩ := ran_bind_iff.1 h
  rw [List.countP_append, hp.countP_eq_zero hfirst, Nat.zero_add]
  exact hf a rest b hrest

theorem request_bind {r : Request} {f : r.Answer → Program β} (hf : ∀ a, (f a).LooksUpNone) :
    (Program.request r >>= f).LooksUpOnce := by
  intro es b h
  obtain ⟨answer, rest, rfl, hrest⟩ := ran_request_bind_iff.1 h
  rw [List.countP_cons, (hf answer).countP_eq_zero hrest]
  split <;> omega

end Program.LooksUpOnce

namespace Operator

theorem requestChangeSet_looksUpNone (r : Round) (t : TargetStack) (isCreate : Bool)
    (template : TemplateSource) :
    (requestChangeSet r t isCreate template).LooksUpNone := by
  cases isCreate with
  | true =>
    refine .request_bind rfl fun answer => ?_
    cases answer <;> exact .pure _
  | false =>
    refine .request_bind rfl fun answer => ?_
    cases answer <;> exact .pure _

theorem submitTemplate_looksUpNone (r : Round) (t : TargetStack) (isCreate : Bool) :
    (submitTemplate r t isCreate).LooksUpNone := by
  unfold submitTemplate
  split
  · refine .request_bind rfl fun answer => ?_
    cases answer with
    | error e => exact .pure _
    | ok url => exact requestChangeSet_looksUpNone r t isCreate (.url url)
  · split
    · exact .pure _
    · exact requestChangeSet_looksUpNone r t isCreate _

theorem advanceChangeSet_looksUpNone (r : Round) (t : TargetStack) (isCreate : Bool) :
    (advanceChangeSet r t isCreate).LooksUpNone := by
  unfold advanceChangeSet
  refine .request_bind rfl fun answer => ?_
  cases answer with
  | error e => exact .pure _
  | ok found =>
    dsimp only
    split
    · exact submitTemplate_looksUpNone _ t isCreate
    · refine .request_bind rfl fun answer => ?_
      cases answer <;> exact .pure _
    · refine .request_bind rfl fun answer => ?_
      cases answer with
      | error e => exact .pure _
      | ok done => exact .bind (Round.emit_looksUpNone _ _) fun _ => .pure _
    · exact .pure _
    · exact .pure _
    · refine .request_bind rfl fun answer => ?_
      cases answer with
      | error e => exact .pure _
      | ok done => exact .bind (Round.emit_looksUpNone _ _) fun _ => .pure _
    · exact .bind (Round.emit_looksUpNone _ _) fun _ => .pure _

theorem advanceStack_looksUpNone (r : Round) (t : TargetStack) :
    (advanceStack r t).LooksUpNone := by
  unfold advanceStack
  refine .request_bind rfl fun answer => ?_
  cases answer with
  | error e => exact .pure _
  | ok found =>
    dsimp only
    split
    · exact advanceChangeSet_looksUpNone r t _
    · exact .bind (Round.emit_looksUpNone _ _) fun r' => advanceChangeSet_looksUpNone r' t _
    · exact .pure _
    · refine .request_bind rfl fun answer => ?_
      cases answer <;> exact .pure _
    · refine .request_bind rfl fun answer => ?_
      cases answer <;> exact .pure _
    · exact .pure _

theorem advanceSource_looksUpOnce (o : Operator) (r : Round) : (o.advanceSource r).LooksUpOnce := by
  refine .request_bind fun answer => ?_
  split
  · exact .pure _
  · exact .pure _
  · refine .bind (fetchTemplate_looksUpNone _ _ _ _) fun fetched => ?_
    cases fetched with
    | error e => exact .pure _
    | ok body => exact advanceStack_looksUpNone _ _

theorem advance_looksUpOnce (o : Operator) (r : Round) : (o.advance r).LooksUpOnce := by
  refine .bind_of_none (firstBlocked_looksUpNone _ _) fun found => ?_
  cases found with
  | none => exact advanceSource_looksUpOnce o _
  | some blocked => exact .of_none (.bind (Round.emit_looksUpNone _ _) fun _ => .pure _)

theorem invalidSpec_looksUpNone (m : Manifest) (time message : String) :
    (invalidSpec m time message).LooksUpNone := by
  unfold invalidSpec
  dsimp only
  split
  · exact .pure _
  · exact .bind (Round.emit_looksUpNone _ _) fun _ => .pure _

theorem keepInSync_looksUpOnce (o : Operator) (time : String) (m : Manifest) :
    (o.keepInSync time m).LooksUpOnce := by
  unfold keepInSync
  split
  · exact .of_none (invalidSpec_looksUpNone _ _ _)
  · exact .bind (advance_looksUpOnce o _) fun _ => Round.close_looksUpNone _ _

theorem destroy_looksUpNone (r : Round) (region : String) (s : StackDescription) :
    (destroy r region s).LooksUpNone := by
  unfold destroy
  dsimp only
  split
  · refine .bind (r.emit_looksUpNone _) fun r' => ?_
    refine .request_bind rfl fun answer => ?_
    cases answer <;> exact .pure _
  · rw [pure_bind]
    refine .request_bind rfl fun answer => ?_
    cases answer <;> exact .pure _

theorem tearDown_looksUpNone (o : Operator) (time : String) (m : Manifest) :
    (o.tearDown time m).LooksUpNone := by
  refine .bind ?_ fun _ => Round.close_looksUpNone _ _
  refine .request_bind rfl fun answer => ?_
  split
  · exact .pure _
  · exact .pure _
  · split
    · exact .pure _
    · split
      · exact .pure _
      · exact destroy_looksUpNone _ _ _

theorem reconcile_looksUpOnce (o : Operator) (time : String) (m : Manifest) :
    (o.reconcile time m).LooksUpOnce := by
  unfold reconcile
  split
  · exact .of_none (.pure _)
  · exact .of_none (.pure _)
  · exact .of_none (.pure _)
  · exact .of_none (tearDown_looksUpNone o time m)
  · exact keepInSync_looksUpOnce o time m

/-! ## One template -/

variable {o : Operator} {m : Manifest} {time : String} {es : List Exchange} {out : Outcome}

/-- A round loads one template at most, since it looks up one artifact at most. -/
theorem loaded_unique {revision body revision' body' : String}
    (hran : Ran (o.reconcile time m) es out) (h : o.Loaded m es revision body)
    (h' : o.Loaded m es revision' body') : revision = revision' ∧ body = body' := by
  obtain ⟨artifact, loading, rfl, hfetched, before, after, rfl⟩ := h
  obtain ⟨artifact', loading', rfl, hfetched', before', after', hsplit⟩ := h'
  rw [List.append_assoc, List.append_assoc, List.cons_append, List.cons_append] at hsplit
  have hcount := reconcile_looksUpOnce o time m _ _ hran
  rw [List.append_assoc, List.cons_append] at hcount
  obtain ⟨hfound, hrest⟩ := eq_of_countP_le_one hcount rfl rfl hsplit
  cases hfound
  have hsame := hfetched.eq_of_prefix hfetched' (List.prefix_append _ _) ⟨after', hrest.symm⟩
  exact ⟨rfl, Except.ok.inj hsame⟩

theorem loaded_iff {revision body : String} (hran : Ran (o.reconcile time m) es out)
    (h : o.Loaded m es revision body) (revision' body' : String) :
    o.Loaded m es revision' body' ↔ some (revision, body) = some (revision', body') := by
  constructor
  · intro h'
    obtain ⟨rfl, rfl⟩ := loaded_unique hran h h'
    rfl
  · intro hsame
    obtain ⟨rfl, rfl⟩ := Prod.mk.inj (Option.some.inj hsame)
    exact h

/-! ## A template is pursued -/

theorem Loaded.countP_ne_zero {revision body : String} (h : o.Loaded m es revision body) :
    es.countP (·.request.isArtifactLookup) ≠ 0 := by
  obtain ⟨artifact, loading, -, -, pre, post, rfl⟩ := h
  rw [List.append_assoc, List.cons_append]
  intro hnone
  exact List.countP_eq_zero.1 hnone _ (List.mem_append_right _ List.mem_cons_self) rfl

theorem remote_ne_nil_of_advanceStack {r : Round} {t : TargetStack} {x : Round × Outcome}
    (h : Ran (advanceStack r t) es x) : remote es ≠ [] := by
  unfold advanceStack at h
  obtain ⟨answer, rest, rfl, -⟩ := ran_request_bind_iff.1 h
  rw [remote_cons_of_isRemote rfl]
  exact List.cons_ne_nil _ _

/-- The look-up of the source is the one that a loaded template goes back to, so the downloads after
it have led to the template and the round has gone on to the stack. -/
theorem remote_ne_nil_of_advanceSource {r : Round} {x : Round × Outcome} {revision body : String}
    {before after : List Exchange} (h : Ran (o.advanceSource r) es x)
    (hloaded : o.Loaded r.manifest (before ++ (es ++ after)) revision body)
    (hcount : (before ++ (es ++ after)).countP (·.request.isArtifactLookup) ≤ 1) :
    remote es ≠ [] := by
  unfold advanceSource at h
  obtain ⟨answer, rest, rfl, hrest⟩ := ran_request_bind_iff.1 h
  obtain ⟨artifact, loading, -, hfetched, pre, post, hsplit⟩ := hloaded
  rw [List.cons_append] at hcount hsplit
  rw [List.append_assoc, List.cons_append] at hsplit
  obtain ⟨hfound, hmore⟩ := eq_of_countP_le_one hcount rfl rfl hsplit
  cases hfound
  dsimp only at hrest
  unfold advanceArtifact at hrest
  obtain ⟨downloads, last, result, rfl, hfetch, hlast⟩ := ran_bind_iff.1 hrest
  rw [List.append_assoc] at hmore
  have hresult := hfetched.eq_of_prefix hfetch ⟨post, hmore.symm⟩ (List.prefix_append _ _)
  rw [← hresult] at hlast
  dsimp only at hlast
  rw [remote_cons_of_not_isRemote rfl, remote_append]
  intro hnil
  exact remote_ne_nil_of_advanceStack hlast (List.append_eq_nil_iff.1 hnil).2

theorem remote_ne_nil_of_keepInSync {revision body : String}
    (h : Ran (o.keepInSync time m) es out) (hloaded : o.Loaded m es revision body) :
    remote es ≠ [] := by
  have hcount := keepInSync_looksUpOnce o time m es out h
  unfold keepInSync at h
  split at h
  · exact absurd ((invalidSpec_looksUpNone _ _ _).countP_eq_zero h) hloaded.countP_ne_zero
  · next intervals _ =>
    obtain ⟨first, closing, ⟨r, out'⟩, rfl, hadvance, hclose⟩ := ran_bind_iff.1 h
    have hfresh := fresh_observeGeneration m intervals time
    unfold advance at hadvance
    dsimp only at hadvance
    generalize observeGeneration (Round.start m intervals time) = observed at hadvance hfresh
    obtain ⟨gate, rest, blocked?, rfl, hgate, hrest⟩ := ran_bind_iff.1 hadvance
    cases blocked? with
    | some blocked =>
      have hblocked : ((observed.emit (.info Reason.dependencyNotReady blocked.message)) >>=
          fun r => pure (r, Round.outcome (r.current.notReady r.attempt Reason.dependencyNotReady
            blocked.message) (some o.settings.dependencyRequeue))).LooksUpNone :=
        .bind (Round.emit_looksUpNone _ _) fun _ => .pure _
      refine absurd ?_ hloaded.countP_ne_zero
      rw [List.countP_append, List.countP_append,
        (firstBlocked_looksUpNone _ _).countP_eq_zero hgate, hblocked.countP_eq_zero hrest,
        (Round.close_looksUpNone _ _).countP_eq_zero hclose]
    | none =>
      rw [List.append_assoc] at hcount hloaded ⊢
      obtain rfl := hfresh.manifest
      have hsource := remote_ne_nil_of_advanceSource hrest hloaded hcount
      rw [remote_append, remote_append]
      intro hnil
      exact hsource (List.append_eq_nil_iff.1 (List.append_eq_nil_iff.1 hnil).2).1

/-- A round that has loaded a template pursues its target. -/
theorem pursued_of_loaded {revision body : String} (h : Ran (o.reconcile time m) es out)
    (hloaded : o.Loaded m es revision body) :
    ∃ reference s a st, (o.targetOf m revision body).Pursuit (remote es) reference st ∧
      m.Observed s ∧ a.changeSet = some reference ∧ out.Writes s a st := by
  have hduty : m.lifecycleFacts.choice.duty = some .reconcile ∧ remote es ≠ [] := by
    unfold reconcile at h
    split at h
    · obtain ⟨rfl, -⟩ := ran_pure_iff.1 h
      exact absurd rfl hloaded.countP_ne_zero
    · obtain ⟨rfl, -⟩ := ran_pure_iff.1 h
      exact absurd rfl hloaded.countP_ne_zero
    · obtain ⟨rfl, -⟩ := ran_pure_iff.1 h
      exact absurd rfl hloaded.countP_ne_zero
    · exact absurd ((tearDown_looksUpNone o time m).countP_eq_zero h) hloaded.countP_ne_zero
    · next hduty => exact ⟨hduty, remote_ne_nil_of_keepInSync h hloaded⟩
  obtain ⟨hduty, hremote⟩ := hduty
  cases passage_of_reconcile h with
  | idle _ hnil _ => exact absurd hnil hremote
  | stopped hnil _ _ _ => exact absurd hnil hremote
  | tornDown hother _ _ =>
    rw [hduty] at hother
    cases hother
  | pursued _ hloaded' hpursuit hobserved hattempts hwrites =>
    obtain ⟨rfl, rfl⟩ := loaded_unique h hloaded hloaded'
    exact ⟨_, _, _, _, hpursuit, hobserved, hattempts.changeSet, hwrites⟩

end Operator

/-- Every round against the cloud in memory is a visit, whether its status is written or not. -/
theorem Visit.exists_of_ran {o : Operator} {time : String} {m : Manifest} {es : List Exchange}
    {out : Outcome} {c c' : MemoryCloud} (hran : Ran (o.reconcile time m) es out)
    (hreplay : Replay c es c') (written : Bool) :
    ∃ loaded, (Visit.mk o time m es out loaded written).Valid c c' := by
  by_cases h : ∃ revision body, o.Loaded m es revision body
  · obtain ⟨revision, body, hloaded⟩ := h
    exact ⟨some (revision, body), hran, hreplay, Operator.loaded_iff hran hloaded⟩
  · refine ⟨none, hran, hreplay, fun revision body => ?_⟩
    constructor
    · intro hloaded
      exact absurd ⟨revision, body, hloaded⟩ h
    · intro hnone
      cases hnone

end StackSync
