import Mathlib.Data.List.Basic

/-!
# Replacement

One text is put in the place of another, wherever that stands, from left to right (`replace`). Where a
single character is replaced, nothing of this order is left: the text in its place stands between the
pieces that the character parts (`replace_singleton_append_cons`), and these stay as they are
(`replace_singleton_of_not_mem`).
-/

namespace SlideDeck.Text

/-- A text with one text put in the place of another, wherever that stands, from left to right. The first
characters, so many of them, belong to what was replaced before. -/
def replaceFrom (old new : List Char) : Nat → List Char → List Char
  | _, [] => []
  | replaced + 1, _ :: cs => replaceFrom old new replaced cs
  | 0, c :: cs =>
    if old.isPrefixOf (c :: cs) then new ++ replaceFrom old new (old.length - 1) cs
    else c :: replaceFrom old new 0 cs

/-- A text with one text put in the place of another, wherever that stands. -/
def replace (old new cs : List Char) : List Char :=
  replaceFrom old new 0 cs

variable {sep : Char} {new : List Char}

theorem replace_singleton (sep : Char) (new cs : List Char) :
    replace [sep] new cs = cs.flatMap fun c => if c = sep then new else [c] := by
  unfold replace
  induction cs with
  | nil => rfl
  | cons c cs ih =>
    rw [List.flatMap_cons, ← ih, replaceFrom]
    by_cases same : c = sep
    · simp [same, List.isPrefixOf]
    · simp [same, Ne.symm same, List.isPrefixOf]

/-- A text without the character stays as it is. -/
theorem replace_singleton_of_not_mem {piece : List Char} (h : sep ∉ piece) :
    replace [sep] new piece = piece := by
  rw [replace_singleton]
  induction piece with
  | nil => rfl
  | cons c piece ih =>
    obtain ⟨other, more⟩ := List.ne_and_not_mem_of_not_mem_cons h
    rw [List.flatMap_cons, if_neg other.symm, ih more, List.singleton_append]

/-- What stands before the first such character stays as it is. -/
theorem replace_singleton_append_cons {piece : List Char} (h : sep ∉ piece) (rest : List Char) :
    replace [sep] new (piece ++ sep :: rest) = piece ++ (new ++ replace [sep] new rest) := by
  have stays : replace [sep] new piece = piece := replace_singleton_of_not_mem h
  rw [replace_singleton] at stays
  rw [replace_singleton, List.flatMap_append, List.flatMap_cons, stays, if_pos rfl, replace_singleton]

end SlideDeck.Text
