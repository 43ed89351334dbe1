import StackSync.Proofs.Status.Moves
import StackSync.Reconcile.Gate

/-!
# Which generation a ready stack was judged at

The dependency gate compares the generation of an object with the one its status has observed, and
then trusts the `Ready` condition. A merged status takes the two from different places: the observed
generation is the newest that either side knows, the condition is the incoming one. So an attempt at
an older generation that is written late keeps the newer observed generation and replaces the
judgement. The main theorem says exactly when the condition of an object that passes the gate was
computed for the generation the gate compared.
-/

namespace StackSync

/-! ## The order of generations -/

theorem not_generationBefore_self (a : Option Int64) : generationBefore a a = false := by
  cases a with
  | none => rfl
  | some x => simp [generationBefore, Int64.lt_irrefl]

theorem not_generationBefore_trans {a b c : Option Int64} (hab : generationBefore b a = false)
    (hbc : generationBefore c b = false) : generationBefore c a = false := by
  cases a <;> cases b <;> cases c <;> simp_all [generationBefore]
  exact Int64.le_trans hab hbc

theorem not_generationBefore_antisymm {a b : Option Int64} (hab : generationBefore a b = false)
    (hba : generationBefore b a = false) : a = b := by
  cases a <;> cases b <;> simp_all [generationBefore]
  exact Int64.le_antisymm hba hab

theorem generationBefore_asymm {a b : Option Int64} (h : generationBefore a b = true) :
    generationBefore b a = false := by
  cases a <;> cases b <;> simp_all [generationBefore]
  exact Int64.le_of_lt h

theorem newest_eq_left_iff (a b : Option Int64) :
    newest a b = a ↔ generationBefore a b = false := by
  unfold newest
  split
  · next h =>
    constructor
    · intro hba
      rw [hba, not_generationBefore_self] at h
      cases h
    · intro hfalse
      rw [hfalse] at h
      cases h
  · next h => simp [h]

theorem newest_eq_right_iff (a b : Option Int64) :
    newest a b = b ↔ generationBefore b a = false := by
  unfold newest
  split
  · next h => simp [generationBefore_asymm h]
  · next h =>
    have hab : generationBefore a b = false := by simpa using h
    constructor
    · intro heq
      rw [heq, not_generationBefore_self]
    · intro hba
      exact not_generationBefore_antisymm hab hba

theorem not_generationBefore_newest_left (a b : Option Int64) :
    generationBefore (newest a b) a = false := by
  unfold newest
  split
  · next h => exact generationBefore_asymm h
  · exact not_generationBefore_self a

/-- The middle one of three is the newest if, and only if, neither of the others is newer. -/
theorem eq_newest_newest_iff (a b c : Option Int64) :
    b = newest (newest a b) c ↔ generationBefore b a = false ∧ generationBefore b c = false := by
  constructor
  · intro h
    have hmid : generationBefore b (newest a b) = false := by
      have hnewest := not_generationBefore_newest_left (newest a b) c
      rwa [← h] at hnewest
    have hba : generationBefore b a = false :=
      not_generationBefore_trans (not_generationBefore_newest_left a b) hmid
    refine ⟨hba, ?_⟩
    rw [(newest_eq_right_iff a b).2 hba] at h
    exact (newest_eq_left_iff b c).1 h.symm
  · rintro ⟨hba, hbc⟩
    rw [(newest_eq_right_iff a b).2 hba, (newest_eq_left_iff b c).2 hbc]

namespace Status

/-! ## The judgement in a merged status -/

/-- The generation that the `Ready` condition carries once a move from `prev` has been merged: that
of the attempt, unless `prev` had more than one such condition. Then the surplus ones are merged
behind the new one, and the last of them stays. -/
def judgedGeneration (prev : Status) (a : Attempt) : Option Int64 :=
  match prev.readies.tail.getLast? with
  | some c => c.observedGeneration
  | none => a.generation

variable {prev l d : Status} {a : Attempt} {st : ConditionStatus}

theorem judgedGeneration_of_unique (h : prev.readies.length ≤ 1) :
    judgedGeneration prev a = a.generation := by
  have htail : prev.readies.tail = [] := by
    apply List.eq_nil_of_length_eq_zero
    rw [List.length_tail]
    omega
  simp only [judgedGeneration, htail, List.getLast?_nil]

theorem head?_foldl_readies {incoming stored : List Condition} {last : Condition}
    (hin : ∀ c ∈ incoming, c.type = readyType) (hstored : ∀ c ∈ stored, c.type = readyType)
    (hlast : incoming.getLast? = some last) :
    ∃ c, (incoming.foldl (fun acc new => putCondition new acc) stored).head? = some c ∧
      c.observedGeneration = last.observedGeneration := by
  cases stored with
  | cons y ys =>
    have hy : y.type = readyType := hstored y List.mem_cons_self
    have hall : incoming.filter (·.type = y.type) = incoming :=
      List.filter_eq_self.2 fun c hc => by simp [hin c hc, hy]
    rw [foldl_putCondition_cons, hall]
    refine ⟨absorbed incoming y, rfl, ?_⟩
    rw [absorbed_observedGeneration, hlast, Option.getD_some]
  | nil =>
    cases incoming with
    | nil => cases hlast
    | cons z zs =>
      have hsame : ∀ c ∈ zs, c.type = z.type := fun c hc =>
        (hin c (List.mem_cons_of_mem _ hc)).trans (hin z List.mem_cons_self).symm
      have hsingle : (z :: zs).foldl (fun acc new => putCondition new acc) [] = [absorbed zs z] :=
        foldl_putCondition_singleton hsame
      rw [hsingle]
      refine ⟨absorbed zs z, rfl, ?_⟩
      rw [List.getLast?_cons, Option.some.injEq] at hlast
      rw [absorbed_observedGeneration, hlast]

theorem Moves.getLast?_readies (h : prev.Moves a st d) :
    ∃ c, d.readies.getLast? = some c ∧ c.observedGeneration = judgedGeneration prev a := by
  obtain ⟨reason, message, hreadies⟩ := h.readies
  rw [hreadies]
  cases hprev : prev.readies with
  | nil => exact ⟨_, rfl, by simp [judgedGeneration, hprev, newReady]⟩
  | cons y ys =>
    have hy : y.type = readyType :=
      type_of_mem_readies (s := prev) (by rw [hprev]; exact List.mem_cons_self)
    have hput : putCondition (newReady a st reason message) (y :: ys) =
        (newReady a st reason message).replacing y :: ys := by
      simp only [putCondition, newReady, hy, if_true]
    rw [hput, List.getLast?_cons]
    refine ⟨_, rfl, ?_⟩
    simp only [judgedGeneration, hprev, List.tail_cons]
    cases ys.getLast? with
    | none => simp [newReady]
    | some c => rfl

theorem Moves.ready?_mergeOnto (h : prev.Moves a st d) (l : Status) :
    ∃ c, (d.mergeOnto (some l)).ready? = some c ∧
    c.observedGeneration = judgedGeneration prev a := by
  obtain ⟨last, hlast, hgen⟩ := h.getLast?_readies
  rw [ready?_eq_head?, readies_mergeOnto, ← hgen]
  exact head?_foldl_readies (fun c hc => type_of_mem_readies hc)
      (fun c hc => type_of_mem_readies hc) hlast

end Status

theorem Manifest.of_notReady?_eq_none {m : Manifest} {s : Status} (hs : m.status = some s)
    (h : m.notReady? = none) :
    s.observedGeneration = m.metadata.generation ∧ ∃ c, s.ready? = some c ∧ c.isTrue = true := by
  simp only [Manifest.notReady?, hs, Option.filter_some] at h
  split at h
  · cases h
  · next status hstatus =>
    split at hstatus
    · simp only [Option.some.injEq] at hstatus
      subst hstatus
      split at h
      · cases h
      · next hgen =>
        refine ⟨Decidable.not_not.1 hgen, ?_⟩
        split at h
        · cases h
        · next c hready =>
          refine ⟨c, hready, ?_⟩
          by_cases htrue : c.isTrue
          · exact htrue
          · rw [if_neg htrue] at h
            cases h
    · cases hstatus

/-- An object whose status was merged from a move and that passes the gate was judged at its own
generation exactly if the judged generation is the newest of the three that meet in the merge. With
one `Ready` condition in the earlier status this says that neither that status nor the stored one
had seen a newer generation than the attempt; otherwise the gate lets an outdated judgement
through. -/
theorem Manifest.judged_at_generation_iff {prev l d : Status} {a : Attempt} {st : ConditionStatus}
    {m : Manifest} (moved : prev.Moves a st d) (merged : m.status = some (d.mergeOnto (some l)))
    (passes : m.notReady? = none) :
    ∃ c, m.ready? = some c ∧ c.isTrue = true ∧
      (c.observedGeneration = m.metadata.generation ↔
        prev.judgedGeneration a =
          newest (newest prev.observedGeneration a.generation) l.observedGeneration) ∧
      (prev.readies.length ≤ 1 →
        (c.observedGeneration = m.metadata.generation ↔
          generationBefore a.generation prev.observedGeneration = false ∧
            generationBefore a.generation l.observedGeneration = false)) := by
  obtain ⟨hobserved, c, hready, htrue⟩ := Manifest.of_notReady?_eq_none merged passes
  obtain ⟨c', hready', hjudged⟩ := moved.ready?_mergeOnto l
  rw [hready, Option.some.injEq] at hready'
  subst hready'
  have hgeneration : m.metadata.generation =
      newest (newest prev.observedGeneration a.generation) l.observedGeneration := by
    rw [← hobserved, Status.observedGeneration_mergeOnto, moved.observedGeneration]
  refine ⟨c, by simp only [Manifest.ready?, merged, Option.bind_some, hready], htrue, ?_, ?_⟩
  · rw [hjudged, hgeneration]
  · intro hunique
    rw [hjudged, hgeneration, Status.judgedGeneration_of_unique hunique]
    exact eq_newest_newest_iff _ _ _

def lateAttempt : Attempt :=
  ⟨some 3, some "app-stack", some "main@sha1:1", none, "2024-05-01T00:00:00Z"⟩

/-- An object at generation 5, observed by another round, once the late attempt has been written
onto it. -/
def overtaken : Manifest where
  metadata := { (default : Metadata) with generation := some 5 }
  spec := default
  status := some ((Status.empty.ready lateAttempt "Stack app-stack is up to date").mergeOnto
    (some { Status.empty with observedGeneration := some 5 }))

theorem judged_at_generation_iff_overtaken :
    overtaken.notReady? = none ∧ ∃ c, overtaken.ready? = some c ∧ c.isTrue = true ∧
      (c.observedGeneration = some 5 ↔ Status.empty.judgedGeneration lateAttempt = some 5) := by
  have passes : overtaken.notReady? = none := rfl
  obtain ⟨c, hready, htrue, hiff, -⟩ := Manifest.judged_at_generation_iff
    (.ready "Stack app-stack is up to date") rfl passes
  exact ⟨passes, c, hready, htrue, hiff⟩

/-- The gate lets the overtaken object through, although its `Ready` condition is about generation
3. -/
theorem not_always_judged_at_generation :
    ¬ ∀ (prev l d : Status) (a : Attempt) (st : ConditionStatus) (m : Manifest),
      prev.Moves a st d → m.status = some (d.mergeOnto (some l)) → m.notReady? = none →
        m.ready?.bind (·.observedGeneration) = m.metadata.generation := by
  intro h
  have hjudged := h _ _ _ lateAttempt .true overtaken (.ready "Stack app-stack is up to date") rfl
    rfl
  exact absurd hjudged nofun

end StackSync
