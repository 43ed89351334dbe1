import StackSync.Text.Causes

/-!
# What the text of an error tells

The text of a chain is built from the outside in and only ever grows at its end: the text of the
chain up to some cause is how the text of the whole chain begins (`joinCauses_prefix`). A cause that
is not appended is one the text ends with at that moment. So either way the text ends with the cause
once it has been dealt with, and stays the beginning of all that follows: nothing is lost.
-/

namespace StackSync.Text

variable (text cause outermost : String) (earlier later causes : List String)

/-! ## One more cause -/

theorem withCause_of_suffix (h : cause.toList <:+ text.toList) : withCause text cause = text :=
  if_pos (List.isSuffixOf_iff_suffix.2 h)

theorem withCause_of_not_suffix (h : ¬cause.toList <:+ text.toList) :
    withCause text cause = text ++ ": " ++ cause :=
  if_neg (mt List.isSuffixOf_iff_suffix.1 h)

theorem prefix_withCause : text.toList <+: (withCause text cause).toList := by
  by_cases h : cause.toList <:+ text.toList
  · have hsame := withCause_of_suffix text cause h
    exact hsame.symm ▸ List.prefix_rfl
  · rw [withCause_of_not_suffix text cause h, String.append_assoc, String.toList_append]
    exact List.prefix_append _ _

theorem suffix_withCause : cause.toList <:+ (withCause text cause).toList := by
  by_cases h : cause.toList <:+ text.toList
  · rwa [withCause_of_suffix text cause h]
  · rw [withCause_of_not_suffix text cause h, String.toList_append]
    exact List.suffix_append _ _

/-- A cause that is appended makes the text longer, be it empty. -/
theorem append_cause_ne_self : text ++ ": " ++ cause ≠ text := by
  intro h
  have hlength := congrArg (fun s => s.toList.length) h
  simp at hlength

theorem withCause_eq_self_iff : withCause text cause = text ↔ cause.toList <:+ text.toList := by
  refine ⟨fun h => ?_, withCause_of_suffix text cause⟩
  have hends := suffix_withCause text cause
  rwa [h] at hends

theorem withCause_eq_append_iff :
    withCause text cause = text ++ ": " ++ cause ↔ ¬cause.toList <:+ text.toList := by
  refine ⟨fun h hends => ?_, withCause_of_not_suffix text cause⟩
  rw [withCause_of_suffix text cause hends] at h
  exact append_cause_ne_self text cause h.symm

/-! ## Whole chains -/

theorem joinCauses_concat :
    joinCauses outermost (earlier ++ [cause]) = withCause (joinCauses outermost earlier) cause := by
  rw [joinCauses, List.foldl_append]
  rfl

theorem joinCauses_append :
    joinCauses outermost (earlier ++ later) = joinCauses (joinCauses outermost earlier) later := by
  rw [joinCauses, List.foldl_append]
  rfl

/-- Whatever causes follow, they come behind the text there is. -/
theorem prefix_joinCauses : text.toList <+: (joinCauses text causes).toList := by
  induction causes generalizing text with
  | nil => exact List.prefix_rfl
  | cons cause later ih => exact (prefix_withCause text cause).trans (ih (withCause text cause))

theorem joinCauses_prefix :
    (joinCauses outermost earlier).toList <+: (joinCauses outermost (earlier ++ later)).toList := by
  rw [joinCauses_append]
  exact prefix_joinCauses _ _

theorem suffix_joinCauses_concat :
    cause.toList <:+ (joinCauses outermost (earlier ++ [cause])).toList := by
  rw [joinCauses_concat]
  exact suffix_withCause _ _

/-- The text ends with the innermost message. -/
theorem innermost_suffix_joinCauses :
    (causes.getLastD outermost).toList <:+ (joinCauses outermost causes).toList := by
  rcases List.eq_nil_or_concat causes with rfl | ⟨earlier, innermost, rfl⟩
  · exact List.suffix_rfl
  · rw [List.concat_eq_append, List.getLastD_concat]
    exact suffix_joinCauses_concat innermost outermost earlier

theorem infix_joinCauses {message : String} (h : message ∈ outermost :: causes) :
    message.toList <:+: (joinCauses outermost causes).toList := by
  rcases List.mem_cons.1 h with rfl | h
  · exact (prefix_joinCauses message causes).isInfix
  · obtain ⟨earlier, later, rfl⟩ := List.append_of_mem h
    have hdealt := suffix_joinCauses_concat message outermost earlier
    have hstays := joinCauses_prefix outermost (earlier ++ [message]) later
    rw [List.append_assoc, List.singleton_append] at hstays
    exact hdealt.isInfix.trans hstays.isInfix

/-- What is built from the outermost message and its causes. -/
structure TellsAll (outermost : String) (causes : List String) : Prop where
  /-- It starts with the outermost message, -/
  starts : outermost.toList <+: (joinCauses outermost causes).toList
  /-- ends with the innermost one -/
  ends : (causes.getLastD outermost).toList <:+ (joinCauses outermost causes).toList
  /-- and contains every message. -/
  contains : ∀ message ∈ outermost :: causes,
    message.toList <:+: (joinCauses outermost causes).toList
  /-- The text up to a cause is the beginning of it, -/
  grows : ∀ earlier later, causes = earlier ++ later →
    (joinCauses outermost earlier).toList <+: (joinCauses outermost causes).toList
  /-- which the cause leaves as it is exactly if it is what the text ends with, -/
  silent : ∀ earlier cause later, causes = earlier ++ cause :: later →
    (joinCauses outermost (earlier ++ [cause]) = joinCauses outermost earlier ↔
      cause.toList <:+ (joinCauses outermost earlier).toList)
  /-- and behind which it is put exactly if it is not. -/
  appended : ∀ earlier cause later, causes = earlier ++ cause :: later →
    (joinCauses outermost (earlier ++ [cause]) = joinCauses outermost earlier ++ ": " ++ cause ↔
      ¬cause.toList <:+ (joinCauses outermost earlier).toList)

/-- No message of a chain of errors is lost. -/
theorem joinCauses_tellsAll : TellsAll outermost causes where
  starts := prefix_joinCauses outermost causes
  ends := innermost_suffix_joinCauses outermost causes
  contains _ h := infix_joinCauses outermost causes h
  grows earlier later h := h ▸ joinCauses_prefix outermost earlier later
  silent earlier cause _ _ := by
    rw [joinCauses_concat]
    exact withCause_eq_self_iff _ cause
  appended earlier cause _ _ := by
    rw [joinCauses_concat]
    exact withCause_eq_append_iff _ cause

/-- Nothing is added for an empty cause, nor for one that the text ends with already. -/
example : joinCauses "service error" ["dispatch: timed out", "", "timed out", "no route"] =
    "service error: dispatch: timed out: no route" := by
  decide +kernel

end StackSync.Text
