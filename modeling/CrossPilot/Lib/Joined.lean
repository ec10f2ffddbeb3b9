import Mathlib.Tactic

/-!
# Texts joined by a separator

Parts that are joined by a separator can be told apart only up to the separators that stand in them:
two lists of parts give the same text just when cutting every part at the separator gives the same
pieces.
-/

namespace Joined

variable {α : Type*} [DecidableEq α] (x : α)

/-- The pieces of all parts. -/
def pieces (parts : List (List α)) : List (List α) := parts.flatMap (List.splitOn x)

@[simp] lemma pieces_nil : pieces x [] = [] := rfl

@[simp] lemma pieces_cons (part : List α) (parts : List (List α)) :
    pieces x (part :: parts) = part.splitOn x ++ pieces x parts := by
  simp [pieces]

/-- Cutting the joined text gives the pieces of its parts. -/
lemma splitOn_intercalate_eq_pieces {parts : List (List α)} (h : parts ≠ []) :
    ([x].intercalate parts).splitOn x = pieces x parts := by
  induction parts with
  | nil => exact absurd rfl h
  | cons part parts ih =>
    cases parts with
    | nil => simp
    | cons next rest =>
      have hjoin : [x].intercalate (part :: next :: rest)
          = part ++ x :: [x].intercalate (next :: rest) := by
        simp [List.intercalate_cons_cons]
      rw [hjoin, List.splitOn_append_cons_self, ih (List.cons_ne_nil _ _), ← pieces_cons]

/-- Two lists of parts are joined to one text just when their pieces are the same. -/
lemma intercalate_eq_iff {parts parts' : List (List α)} (h : parts ≠ []) (h' : parts' ≠ []) :
    [x].intercalate parts = [x].intercalate parts' ↔ pieces x parts = pieces x parts' := by
  constructor
  · intro heq
    rw [← splitOn_intercalate_eq_pieces x h, ← splitOn_intercalate_eq_pieces x h', heq]
  · intro heq
    rw [← splitOn_intercalate_eq_pieces x h, ← splitOn_intercalate_eq_pieces x h'] at heq
    have hcut := congrArg [x].intercalate heq
    simpa using hcut

end Joined
