import Mathlib.Data.List.Basic

/-!
# Pieces between separators

A text is cut at each occurrence of a separator, empty pieces kept, and joining the pieces gives the
text back. So what holds of pieces without separators, put together with one between each two, holds
of every text (`splitOn_induction`).
-/

namespace SlideDeck.Text

variable {sep : Char}

/-- A text is a piece without separators, or one with a separator and a text behind it. -/
@[elab_as_elim]
theorem splitOn_induction (sep : Char) {motive : List Char → Prop}
    (last : ∀ piece, sep ∉ piece → motive piece)
    (next : ∀ piece rest, sep ∉ piece → motive rest → motive (piece ++ sep :: rest))
    (cs : List Char) : motive cs := by
  -- on the text behind the start of a piece
  have started : ∀ piece, sep ∉ piece → motive (piece ++ cs) := by
    induction cs with
    | nil =>
      intro piece none
      rw [List.append_nil]
      exact last piece none
    | cons c cs ih =>
      intro piece none
      by_cases same : c = sep
      · rw [same]
        exact next piece cs none (ih [] List.not_mem_nil)
      · rw [List.append_cons]
        exact ih (piece ++ [c]) (by simp [none, Ne.symm same])
  exact started [] List.not_mem_nil

/-- No piece holds the separator. -/
theorem not_mem_of_mem_splitOn {cs piece : List Char} (h : piece ∈ cs.splitOn sep) : sep ∉ piece := by
  induction cs using splitOn_induction sep with
  | last l none =>
    rw [List.splitOn_eq_singleton none, List.mem_singleton] at h
    rwa [h]
  | next l rest none ih =>
    rw [List.splitOn_append_cons_self_of_not_mem none] at h
    rcases List.mem_cons.mp h with rfl | h
    · exact none
    · exact ih h

/-! ## Joined pieces -/

/-- Pieces with a separator after each are the joined ones with one at the end. -/
theorem flatMap_concat {pieces : List (List Char)} (some : pieces ≠ []) :
    pieces.flatMap (· ++ [sep]) = [sep].intercalate pieces ++ [sep] := by
  induction pieces with
  | nil => exact absurd rfl some
  | cons piece pieces ih =>
    cases pieces with
    | nil => simp
    | cons next pieces =>
      rw [List.flatMap_cons, ih (List.cons_ne_nil next pieces)]
      simp

/-- A character of joined pieces is a separator, or one of theirs. -/
theorem mem_intercalate {c : Char} {pieces : List (List Char)} (h : c ∈ [sep].intercalate pieces) :
    c = sep ∨ ∃ piece ∈ pieces, c ∈ piece := by
  induction pieces with
  | nil => cases h
  | cons piece pieces ih =>
    cases pieces with
    | nil =>
      rw [List.intercalate_singleton] at h
      exact .inr ⟨piece, List.mem_cons_self, h⟩
    | cons next pieces =>
      rw [List.intercalate_cons_cons, List.append_assoc] at h
      rcases List.mem_append.mp h with mem | h
      · exact .inr ⟨piece, List.mem_cons_self, mem⟩
      · rcases List.mem_cons.mp h with same | h
        · exact .inl same
        · exact (ih h).imp_right fun ⟨other, ho, mem⟩ => ⟨other, List.mem_cons_of_mem _ ho, mem⟩

/-- The characters of pieces are characters of the joined ones. -/
theorem mem_intercalate_of_mem {c : Char} {piece : List Char} {pieces : List (List Char)}
    (h : c ∈ piece) (mem : piece ∈ pieces) : c ∈ [sep].intercalate pieces := by
  induction pieces with
  | nil => cases mem
  | cons first pieces ih =>
    cases pieces with
    | nil =>
      rwa [List.intercalate_singleton, ← List.mem_singleton.mp mem]
    | cons next pieces =>
      rw [List.intercalate_cons_cons]
      rcases List.mem_cons.mp mem with rfl | mem
      · exact List.mem_append_left _ (List.mem_append_left _ h)
      · exact List.mem_append_right _ (ih mem)

/-- Joined pieces start with the first ones of them, joined. -/
theorem exists_intercalate_append (sep : Char) (as bs : List (List Char)) :
    ∃ more, [sep].intercalate (as ++ bs) = [sep].intercalate as ++ more := by
  induction as with
  | nil => exact ⟨[sep].intercalate bs, rfl⟩
  | cons a as ih =>
    cases as with
    | nil =>
      cases bs with
      | nil => exact ⟨[], by simp⟩
      | cons b bs => exact ⟨sep :: [sep].intercalate (b :: bs), by simp⟩
    | cons next as =>
      obtain ⟨more, rest⟩ := ih
      refine ⟨more, ?_⟩
      rw [List.cons_append] at rest
      rw [List.cons_append, List.cons_append, List.intercalate_cons_cons, List.intercalate_cons_cons,
        rest, List.append_assoc, List.append_assoc, List.append_assoc]

end SlideDeck.Text
