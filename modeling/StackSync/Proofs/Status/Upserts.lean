import Mathlib.Data.List.Induction
import StackSync.Proofs.Status.Generations

/-!
# What an upsert leaves

The conditions of one type never meet those of another, so an upsert is looked at type by type: the
stored condition, if there is one, and the incoming ones of the type form a chain, and the chain
comes to one condition. Its contents are those of the last link. Its transition time was written by
the link that began the last run of equal statuses, which is the stored one as long as no status of
the chain differs.

A chain that is run through a second time finds its own result in front of it. Either its statuses
agree, and the time goes through, or they do not, and then the last run begins inside the chain,
wherever it was started from. So upserting the same conditions again changes nothing, and this needs
no distinct types: surplus conditions of a type are never met.
-/

namespace StackSync

/-! ## The chain of a type -/

theorem absorbed_cons (new : Condition) (rest : List Condition) (old : Condition) :
    absorbed (new :: rest) old = absorbed rest (new.replacing old) :=
  rfl

theorem absorbed_append (init rest : List Condition) (old : Condition) :
    absorbed (init ++ rest) old = absorbed rest (absorbed init old) :=
  List.foldl_append

theorem Condition.replacing_of_status_ne {new old : Condition} (h : old.status ≠ new.status) :
    new.replacing old = new :=
  if_neg h

theorem Condition.replacing_time_of_status_eq {new old : Condition} (h : old.status = new.status) :
    (new.replacing old).lastTransitionTime = old.lastTransitionTime := by
  rw [replacing, if_pos h]

theorem absorbed_time_of_agree {run : List Condition} {old : Condition}
    (h : ∀ c ∈ run, c.status = old.status) :
    (absorbed run old).lastTransitionTime = old.lastTransitionTime := by
  induction run generalizing old with
  | nil => rfl
  | cons new rest ih =>
    have hnew : new.status = old.status := h new List.mem_cons_self
    have hrest : ∀ c ∈ rest, c.status = (new.replacing old).status := by
      intro c hc
      rw [Condition.replacing_status, hnew]
      exact h c (List.mem_cons_of_mem _ hc)
    rw [absorbed_cons, ih hrest, Condition.replacing_time_of_status_eq hnew.symm]

/-- The transition time of a chain is that of the link where its last run of equal statuses
begins. -/
theorem absorbed_time {incoming before run : List Condition} {old first : Condition}
    (hchain : old :: incoming = before ++ first :: run)
    (hrun : ∀ c ∈ run, c.status = first.status)
    (hbefore : ∀ c ∈ before.getLast?, c.status ≠ first.status) :
    (absorbed incoming old).lastTransitionTime = first.lastTransitionTime := by
  cases before with
  | nil =>
    obtain ⟨rfl, rfl⟩ := List.cons.inj hchain
    exact absorbed_time_of_agree hrun
  | cons x init =>
    obtain ⟨rfl, rfl⟩ := List.cons.inj hchain
    have hmet : (absorbed init old).status ≠ first.status := by
      rw [absorbed_status]
      exact hbefore _ List.getLast?_cons
    have hlast : absorbed (init ++ first :: run) old = absorbed run first := by
      rw [absorbed_append, absorbed_cons, Condition.replacing_of_status_ne hmet]
    exact (congrArg _ hlast).trans (absorbed_time_of_agree hrun)

theorem Condition.replacing_congr {a b : Condition} (hstatus : a.status = b.status)
    (htime : a.lastTransitionTime = b.lastTransitionTime) (new : Condition) :
    new.replacing a = new.replacing b := by
  simp only [replacing, hstatus, htime]

/-- A chain sees the status and the time of the condition it starts from, and nothing else. -/
theorem absorbed_congr {a b : Condition} (hstatus : a.status = b.status)
    (htime : a.lastTransitionTime = b.lastTransitionTime) (incoming : List Condition) :
    (absorbed incoming a).status = (absorbed incoming b).status ∧
      (absorbed incoming a).lastTransitionTime = (absorbed incoming b).lastTransitionTime := by
  cases incoming with
  | nil => exact ⟨hstatus, htime⟩
  | cons new rest =>
    rw [absorbed_cons, absorbed_cons, Condition.replacing_congr hstatus htime]
    exact ⟨rfl, rfl⟩

/-- A chain that has been run through already is run through without a change. The last link
decides: if it goes on with the status before it, the links before it have come to rest already, and
if it does not, nothing before it is seen. -/
theorem absorbed_absorbed (incoming : List Condition) (old : Condition) :
    absorbed incoming (absorbed incoming old) = absorbed incoming old := by
  induction incoming using List.reverseRecOn with
  | nil => rfl
  | append_singleton init last ih =>
    have hlast : ∀ c, absorbed (init ++ [last]) c = last.replacing (absorbed init c) := fun c => by
      rw [absorbed_append]
      rfl
    rw [hlast, hlast]
    by_cases hsame : (absorbed init old).status = last.status
    · have hcongr := absorbed_congr (a := last.replacing (absorbed init old)) (b := absorbed init old)
        (by rw [Condition.replacing_status, hsame])
        (Condition.replacing_time_of_status_eq hsame) init
      rw [ih] at hcongr
      exact Condition.replacing_congr hcongr.1 hcongr.2 last
    · rw [Condition.replacing_of_status_ne hsame]
      cases hinit : init.getLast? with
      | none =>
        rw [List.getLast?_eq_none_iff.1 hinit]
        exact ite_self _
      | some before =>
        refine Condition.replacing_of_status_ne ?_
        rw [absorbed_status, hinit] at hsame ⊢
        exact hsame

/-! ## The list -/

theorem absorbed_filter_type (incoming : List Condition) (old : Condition) :
    (absorbed (incoming.filter (·.type = old.type)) old).type = old.type :=
  absorbed_type fun c hc => by simpa using (List.mem_filter.1 hc).2

/-- A list is upserted a type at a time: first the types that are stored, then those that are
new. -/
@[elab_as_elim]
theorem upsert_induction {motive : List Condition → List Condition → Prop}
    (done : motive [] [])
    (fresh : ∀ new rest, motive [] (rest.filter (·.type ≠ new.type)) → motive [] (new :: rest))
    (stored : ∀ old rest incoming, motive rest (incoming.filter (·.type ≠ old.type)) →
      motive (old :: rest) incoming)
    (existing incoming : List Condition) : motive existing incoming :=
  match existing, incoming with
  | [], [] => done
  | [], new :: rest => fresh new rest (upsert_induction done fresh stored [] _)
  | old :: rest, incoming => stored old rest incoming (upsert_induction done fresh stored rest _)
termination_by (existing.length, incoming.length)
decreasing_by
  · exact Prod.Lex.right _ (Nat.lt_succ_of_le (List.length_filter_le _ _))
  · exact Prod.Lex.left _ _ (Nat.lt_succ_self _)

/-- The types that are stored keep their places; those that are new follow in the order in which
they come in. -/
theorem types_foldl_putCondition (existing incoming : List Condition) :
    (incoming.foldl (fun acc new => putCondition new acc) existing).map (·.type) =
      existing.map (·.type) ++
        ((incoming.map (·.type)).filter (· ∉ existing.map (·.type))).eraseDups := by
  induction existing, incoming using upsert_induction with
  | done => rfl
  | fresh new rest ih =>
    have hothers : (rest.filter (·.type ≠ new.type)).map (·.type) =
        (rest.map (·.type)).filter (fun t => !t == new.type) := by
      rw [List.filter_map]
      exact congrArg _ (List.filter_congr fun c _ => by rw [Bool.eq_iff_iff]; simp)
    rw [foldl_putCondition_fresh, List.map_cons, ih, absorbed_filter_type, hothers]
    simp [List.eraseDups_cons]
  | stored old rest incoming ih =>
    have hothers : ((incoming.filter (·.type ≠ old.type)).map (·.type)).filter
          (· ∉ rest.map (·.type)) =
        (incoming.map (·.type)).filter (· ∉ (old :: rest).map (·.type)) := by
      rw [List.filter_map, List.filter_map, List.filter_filter]
      exact congrArg _ (List.filter_congr fun c _ => by rw [Bool.eq_iff_iff]; simp [and_comm])
    rw [foldl_putCondition_cons, List.map_cons, ih, absorbed_filter_type, hothers]
    rfl

theorem foldl_putCondition_idem (existing incoming : List Condition) :
    incoming.foldl (fun acc new => putCondition new acc)
        (incoming.foldl (fun acc new => putCondition new acc) existing) =
      incoming.foldl (fun acc new => putCondition new acc) existing := by
  induction existing, incoming using upsert_induction with
  | done => rfl
  | fresh new rest ih =>
    have hself : absorbed (rest.filter (·.type = new.type)) new =
        absorbed ((new :: rest).filter (·.type = new.type)) new := by
      rw [List.filter_cons_of_pos (by simp), absorbed_cons]
      exact congrArg _ (ite_self _).symm
    have hothers : (new :: rest).filter (·.type ≠ new.type) = rest.filter (·.type ≠ new.type) :=
      List.filter_cons_of_neg (by simp)
    rw [foldl_putCondition_fresh, foldl_putCondition_cons, absorbed_filter_type, hself,
      absorbed_absorbed, hothers, ih]
  | stored old rest incoming ih =>
    rw [foldl_putCondition_cons, foldl_putCondition_cons, absorbed_filter_type, absorbed_absorbed,
      ih]

/-! ## The sorted list -/

theorem nodup_eraseDups (types : List String) : types.eraseDups.Nodup :=
  match types with
  | [] => List.nodup_nil
  | t :: rest => by
    rw [List.eraseDups_cons, List.nodup_cons]
    exact ⟨by simp [List.mem_eraseDups], nodup_eraseDups _⟩
termination_by types.length
decreasing_by exact Nat.lt_succ_of_le (List.length_filter_le _ _)

theorem readyFirst_perm (l : List Condition) : (readyFirst l).Perm l :=
  List.filter_append_perm Condition.isReady l

theorem types_putConditions_perm (existing incoming : List Condition) :
    ((putConditions existing incoming).map (·.type)).Perm
      (existing.map (·.type) ++
        ((incoming.map (·.type)).filter (· ∉ existing.map (·.type))).eraseDups) := by
  rw [← types_foldl_putCondition]
  exact (readyFirst_perm _).map _

theorem nodup_types_putConditions {existing : List Condition}
    (distinct : (existing.map (·.type)).Nodup) (incoming : List Condition) :
    ((putConditions existing incoming).map (·.type)).Nodup := by
  refine (types_putConditions_perm existing incoming).nodup_iff.2 ?_
  refine List.nodup_append.2 ⟨distinct, nodup_eraseDups _, ?_⟩
  rintro t hstored _ hfresh rfl
  have hnew := (List.mem_filter.1 (List.mem_eraseDups.1 hfresh)).2
  exact of_decide_eq_true hnew hstored

theorem mem_types_putConditions {existing incoming : List Condition} {t : String} :
    t ∈ (putConditions existing incoming).map (·.type) ↔
      t ∈ existing.map (·.type) ∨ t ∈ incoming.map (·.type) := by
  rw [(types_putConditions_perm existing incoming).mem_iff, List.mem_append, List.mem_eraseDups,
    List.mem_filter, decide_eq_true_iff]
  by_cases h : t ∈ existing.map (·.type)
  · simp [h]
  · simp only [h, not_false_iff, and_true, false_or]

theorem types_not_ready_putConditions (existing incoming : List Condition) :
    ((putConditions existing incoming).map (·.type)).filter (· ≠ readyType) =
      (existing.map (·.type) ++
        ((incoming.map (·.type)).filter (· ∉ existing.map (·.type))).eraseDups).filter
          (· ≠ readyType) := by
  have hready : ∀ l : List Condition, (l.map (·.type)).filter (· ≠ readyType) =
      (l.filter (!·.isReady)).map (·.type) := by
    intro l
    rw [List.filter_map]
    exact congrArg _ (List.filter_congr fun c _ => by rw [Bool.eq_iff_iff]; simp [Condition.isReady])
  rw [← types_foldl_putCondition, hready, hready, putConditions, filter_not_isReady_readyFirst]

theorem head?_type_readyFirst {l : List Condition} (h : readyType ∈ l.map (·.type)) :
    ((readyFirst l).map (·.type)).head? = some readyType := by
  obtain ⟨c, hc, htype⟩ := List.mem_map.1 h
  have hmem : c ∈ l.filter (·.isReady) :=
    List.mem_filter.2 ⟨hc, by simp [Condition.isReady, htype]⟩
  cases hlist : l.filter (·.isReady) with
  | nil => rw [hlist] at hmem; cases hmem
  | cons first rest =>
    have hfirst : first.isReady = true :=
      (List.mem_filter.1 (hlist ▸ List.mem_cons_self : first ∈ l.filter (·.isReady))).2
    have htype : first.type = readyType := by simpa [Condition.isReady] using hfirst
    simp only [readyFirst, hlist, List.cons_append, List.map_cons, List.head?_cons, htype]

/-- The chain of a type, if there is one, comes to the one condition that the list has of the
type. -/
theorem filter_type_putConditions {existing incoming : List Condition}
    (distinct : (existing.map (·.type)).Nodup) {t : String} {first : Condition}
    {rest : List Condition} (hchain : (existing ++ incoming).filter (·.type = t) = first :: rest) :
    (putConditions existing incoming).filter (·.type = t) = [absorbed rest first] := by
  have hsame : ∀ c ∈ first :: rest, c.type = t := by
    intro c hc
    rw [← hchain] at hc
    exact of_decide_eq_true (List.mem_filter.1 hc).2
  have hrest : ∀ c ∈ rest, c.type = first.type := by
    intro c hc
    rw [hsame c (List.mem_cons_of_mem _ hc), hsame first List.mem_cons_self]
  have hfold : (incoming.foldl (fun acc new => putCondition new acc) existing).filter (·.type = t) =
      [absorbed rest first] := by
    rw [filter_foldl_putCondition (p := (·.type = t)) fun a b hab => by simp only [hab]]
    rw [List.filter_append] at hchain
    cases hstored : existing.filter (·.type = t) with
    | nil =>
      rw [hstored, List.nil_append] at hchain
      rw [hchain]
      exact foldl_putCondition_singleton hrest
    | cons old more =>
      have hold : old ∈ existing ∧ old.type = t := by
        have hmem : old ∈ existing.filter (·.type = t) := hstored ▸ List.mem_cons_self
        simpa using hmem
      have hsingle := filter_type_of_nodup distinct hold.1
      rw [hold.2, hstored] at hsingle
      rw [hstored, hsingle] at hchain
      obtain ⟨rfl, rfl⟩ := List.cons.inj hchain
      rw [hsingle]
      exact foldl_putCondition_singleton hrest
  have hperm := (readyFirst_perm
    (incoming.foldl (fun acc new => putCondition new acc) existing)).filter (·.type = t)
  rw [hfold] at hperm
  exact List.perm_singleton.1 hperm

theorem putConditions_idem (existing incoming : List Condition) :
    putConditions (putConditions existing incoming) incoming = putConditions existing incoming := by
  have hready : (incoming.foldl (fun acc new => putCondition new acc)
        (putConditions existing incoming)).filter (·.isReady) =
      (incoming.foldl (fun acc new => putCondition new acc) existing).filter (·.isReady) := by
    rw [filter_foldl_putCondition ofType_isReady, filter_isReady_putConditions,
      foldl_putCondition_idem, filter_foldl_putCondition ofType_isReady]
  have hothers : (incoming.foldl (fun acc new => putCondition new acc)
        (putConditions existing incoming)).filter (!·.isReady) =
      (incoming.foldl (fun acc new => putCondition new acc) existing).filter (!·.isReady) := by
    rw [filter_foldl_putCondition (ofType_not ofType_isReady), filter_not_isReady_putConditions,
      foldl_putCondition_idem, filter_foldl_putCondition (ofType_not ofType_isReady)]
  rw [putConditions, readyFirst, hready, hothers]
  rfl

/-! ## The laws -/

/-- What an upsert of `incoming` into `existing` may come to. -/
structure Upserted (existing incoming result : List Condition) : Prop where
  /-- A type comes once, -/
  distinct : (result.map (·.type)).Nodup
  /-- if it is a type of either list, and no other does. -/
  types : ∀ t, t ∈ result.map (·.type) ↔
    t ∈ existing.map (·.type) ∨ t ∈ incoming.map (·.type)
  /-- A condition that nothing comes in for is left as it is. -/
  kept : ∀ c ∈ existing, c.type ∉ incoming.map (·.type) → c ∈ result
  /-- Of those that come in, the last one of its type leaves its contents. -/
  contents : ∀ before c after, incoming = before ++ c :: after →
    c.type ∉ after.map (·.type) →
    ∃ r ∈ result, { c with lastTransitionTime := r.lastTransitionTime } = r
  /-- The transition time stays as long as all statuses of the type agree. -/
  agreeing : ∀ old ∈ existing,
    (∀ c ∈ incoming, c.type = old.type → c.status = old.status) →
    ∀ r ∈ result, r.type = old.type → r.lastTransitionTime = old.lastTransitionTime
  /-- In any case it is that of the condition with which the last run of equal statuses began. -/
  begun : ∀ r ∈ result, ∀ before first run,
    (existing ++ incoming).filter (·.type = r.type) = before ++ first :: run →
    (∀ c ∈ run, c.status = first.status) → (∀ c ∈ before.getLast?, c.status ≠ first.status) →
    r.lastTransitionTime = first.lastTransitionTime
  /-- `Ready` comes first, -/
  ready : readyType ∈ result.map (·.type) → (result.map (·.type)).head? = some readyType
  /-- and the others in their order, those that are new behind those that were there. -/
  order : (result.map (·.type)).filter (· ≠ readyType) =
    (existing.map (·.type) ++
      ((incoming.map (·.type)).filter (· ∉ existing.map (·.type))).eraseDups).filter (· ≠ readyType)

section

variable {existing incoming : List Condition}

/-- A condition of the list is what the chain of its type comes to. -/
theorem eq_absorbed_of_mem (distinct : (existing.map (·.type)).Nodup) {r first : Condition}
    {rest : List Condition} (hr : r ∈ putConditions existing incoming)
    (hchain : (existing ++ incoming).filter (·.type = r.type) = first :: rest) :
    r = absorbed rest first := by
  have hmem : r ∈ (putConditions existing incoming).filter (·.type = r.type) :=
    List.mem_filter.2 ⟨hr, decide_eq_true rfl⟩
  rw [filter_type_putConditions distinct hchain] at hmem
  exact List.mem_singleton.1 hmem

theorem absorbed_mem (distinct : (existing.map (·.type)).Nodup) {t : String} {first : Condition}
    {rest : List Condition} (hchain : (existing ++ incoming).filter (·.type = t) = first :: rest) :
    absorbed rest first ∈ putConditions existing incoming := by
  have hmem : absorbed rest first ∈ (putConditions existing incoming).filter (·.type = t) := by
    rw [filter_type_putConditions distinct hchain]
    exact List.mem_singleton_self _
  exact (List.mem_filter.1 hmem).1

/-- The chain of a stored condition begins with it. -/
theorem chain_of_stored (distinct : (existing.map (·.type)).Nodup) {old : Condition}
    (hold : old ∈ existing) (incoming : List Condition) :
    (existing ++ incoming).filter (·.type = old.type) =
      old :: incoming.filter (·.type = old.type) := by
  rw [List.filter_append, filter_type_of_nodup distinct hold]
  rfl

/-- A condition that comes in as the last one of its type ends the chain. -/
theorem chain_of_last (existing : List Condition) {before after : List Condition} {c : Condition}
    (hsplit : incoming = before ++ c :: after) (hlast : c.type ∉ after.map (·.type)) :
    (existing ++ incoming).filter (·.type = c.type) =
      (existing ++ before).filter (·.type = c.type) ++ [c] := by
  have hafter : after.filter (·.type = c.type) = [] :=
    List.filter_eq_nil_iff.2 fun x hx htype =>
      hlast (List.mem_map.2 ⟨x, hx, of_decide_eq_true htype⟩)
  rw [hsplit, ← List.append_assoc, List.filter_append, List.filter_cons_of_pos (by simp), hafter]

theorem contents_of_last (distinct : (existing.map (·.type)).Nodup) {before after : List Condition}
    {c : Condition} (hsplit : incoming = before ++ c :: after)
    (hlast : c.type ∉ after.map (·.type)) :
    ∃ r ∈ putConditions existing incoming,
      { c with lastTransitionTime := r.lastTransitionTime } = r := by
  have hchain := chain_of_last existing hsplit hlast
  cases hmet : (existing ++ before).filter (·.type = c.type) with
  | nil =>
    rw [hmet] at hchain
    exact ⟨_, absorbed_mem distinct hchain, rfl⟩
  | cons first rest =>
    rw [hmet] at hchain
    refine ⟨_, absorbed_mem distinct hchain, ?_⟩
    rw [absorbed_eq]
    simp

/-- An upsert into a list of distinct types obeys all laws, however often a type comes in. -/
theorem upserted_putConditions (distinct : (existing.map (·.type)).Nodup)
    (incoming : List Condition) :
    Upserted existing incoming (putConditions existing incoming) where
  distinct := nodup_types_putConditions distinct incoming
  types := fun _ => mem_types_putConditions
  kept := by
    intro c hc habsent
    have hnone : incoming.filter (·.type = c.type) = [] :=
      List.filter_eq_nil_iff.2 fun x hx htype =>
        habsent (List.mem_map.2 ⟨x, hx, of_decide_eq_true htype⟩)
    have hchain := chain_of_stored distinct hc incoming
    rw [hnone] at hchain
    exact absorbed_mem distinct hchain
  contents := fun _ _ _ hsplit hlast => contents_of_last distinct hsplit hlast
  agreeing := by
    intro old hold hagree r hr htype
    have hchain := chain_of_stored distinct hold incoming
    rw [← htype] at hchain
    rw [eq_absorbed_of_mem distinct hr hchain]
    refine absorbed_time_of_agree fun c hc => ?_
    obtain ⟨hmem, hsame⟩ := List.mem_filter.1 hc
    exact hagree c hmem ((of_decide_eq_true hsame).trans htype)
  begun := by
    intro r hr before first run hchain hrun hbefore
    cases before with
    | nil =>
      rw [eq_absorbed_of_mem distinct hr hchain]
      exact absorbed_time rfl hrun hbefore
    | cons old init =>
      rw [eq_absorbed_of_mem distinct hr hchain]
      exact absorbed_time rfl hrun hbefore
  ready := by
    intro h
    refine head?_type_readyFirst ?_
    exact ((readyFirst_perm _).map _).mem_iff.1 h
  order := types_not_ready_putConditions existing incoming

end

/-- Merging a status again changes nothing, whatever is stored and whatever is merged. -/
theorem Status.mergeOnto_idem (l d : Status) :
    d.mergeOnto (some (d.mergeOnto (some l))) = d.mergeOnto (some l) := by
  have happlied : ∀ a b : Option String, (a <|> a <|> b) = (a <|> b) := by
    intro a b
    cases a <;> rfl
  simp only [mergeOnto, putConditions_idem, happlied, mk.injEq, and_true]
  exact (newest_eq_right_iff _ _).2 (not_generationBefore_newest_left _ _)

/-- Upserts obey their laws on a list of distinct types, and on any list a merge that is made a
second time changes nothing and is not worth a write. -/
theorem upserted_and_settled :
    (∀ existing incoming : List Condition, (existing.map (·.type)).Nodup →
      Upserted existing incoming (putConditions existing incoming)) ∧
    ∀ l d : Status,
      d.mergeOnto (some (d.mergeOnto (some l))) = d.mergeOnto (some l) ∧
      needsWrite (some (d.mergeOnto (some l))) (d.mergeOnto (some (d.mergeOnto (some l)))) =
        false := by
  refine ⟨fun existing incoming distinct => upserted_putConditions distinct incoming,
    fun l d => ⟨Status.mergeOnto_idem l d, ?_⟩⟩
  rw [Status.mergeOnto_idem]
  exact decide_eq_false (not_not_intro rfl)

def approvedAt (time : String) (status : ConditionStatus) : Condition :=
  ⟨"Approved", status, none, none, none, some time⟩

/-- A condition that goes away and comes back within one upsert is dated by its return. -/
theorem upserted_and_settled_approved :
    [approvedAt "Monday" .true].map (·.type) = ["Approved"] ∧
      Upserted [approvedAt "Monday" .true]
        [approvedAt "Tuesday" .false, approvedAt "Wednesday" .true, approvedAt "Thursday" .true]
        [approvedAt "Wednesday" .true] :=
  ⟨rfl, upserted_and_settled.1 [approvedAt "Monday" .true]
    [approvedAt "Tuesday" .false, approvedAt "Wednesday" .true, approvedAt "Thursday" .true]
    (by decide)⟩

end StackSync
