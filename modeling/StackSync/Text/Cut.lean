/-!
# Cutting text at separators

The small formats of this library (tags, handles, digests, host overrides) are all cut at a separator
character or word. `cut?` takes its first occurrence, `cutLast?` its last; both give the text before and
behind it. Paths, which need not be text, are cut at a byte in the same way.
-/

namespace StackSync.Text

/-- The parts before and behind the first `sep`. -/
def cut? (sep : Char) : List Char → Option (List Char × List Char)
  | [] => none
  | c :: rest =>
    if c = sep then some ([], rest)
    else (cut? sep rest).map fun (before, behind) => (c :: before, behind)

/-- The parts before and behind the last `sep`. -/
def cutLast? (sep : Char) (s : List Char) : Option (List Char × List Char) :=
  (cut? sep s.reverse).map fun (behind, before) => (before.reverse, behind.reverse)

/-- The pieces between the occurrences of `sep`: one more than there are separators. -/
def pieces [DecidableEq α] (sep : α) : List α → List (List α)
  | [] => [[]]
  | c :: rest =>
    if c = sep then [] :: pieces sep rest
    else
      match pieces sep rest with
      | [] => [[c]]
      | piece :: more => (c :: piece) :: more

/-- The text behind the first occurrence of `word`. -/
def behind? (word : List Char) : List Char → Option (List Char)
  | [] => if word.isEmpty then some [] else none
  | c :: rest =>
    if word.isPrefixOf (c :: rest) then some ((c :: rest).drop word.length) else behind? word rest

def occursIn (word text : String) : Bool := (behind? word.toList text.toList).isSome

theorem pieces_ne_nil [DecidableEq α] (sep : α) (s : List α) : pieces sep s ≠ [] := by
  induction s with
  | nil => simp [pieces]
  | cons c rest ih =>
    simp only [pieces]
    split
    · simp
    · split <;> simp

theorem cut?_eq_some {sep : Char} {s before behind : List Char}
    (h : cut? sep s = some (before, behind)) : s = before ++ sep :: behind ∧ sep ∉ before := by
  induction s generalizing before behind with
  | nil => simp [cut?] at h
  | cons c rest ih =>
    simp only [cut?] at h
    split at h
    · next hc => simp only [Option.some.injEq, Prod.mk.injEq] at h; simp [← h.1, ← h.2, hc]
    · next hc =>
      obtain ⟨⟨b, r⟩, hr, heq⟩ := Option.map_eq_some_iff.1 h
      simp only [Prod.mk.injEq] at heq
      obtain ⟨h1, h2⟩ := ih hr
      rw [← heq.1, ← heq.2, h1]
      exact ⟨rfl, by simp [Ne.symm hc, h2]⟩

end StackSync.Text
