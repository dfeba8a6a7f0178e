import SlideDeck.Proofs.Text.Lines
import SlideDeck.Proofs.Text.Replace
import SlideDeck.Proofs.Text.Split

/-!
# Where the lines of a text end

The lines of a text are its pieces between newlines, the last of which is left out if it is empty
(`rawLines_eq_splitOn`), and the tokens of the text are those of its lines. So a text may be cut behind
any newline. And a newline may have a carriage return before it: a text that gets one before each of
its newlines (`withReturns`) keeps its lines, which drop it again, unless a line that a newline ends
has a carriage return of its own at its end (`splitLines_withReturns_iff`).

**The law** (`Token.tokenize_append_and_withReturns`): the tokens of a text stay the same, and where
they were, when it is cut behind a newline, and when each newline gets a carriage return.
-/

namespace SlideDeck.Text

/-! ## Lines are pieces -/

/-- A text without newlines is one line, or none if it is empty. -/
theorem rawLines_of_not_mem {l : List Char} (h : '\n' ∉ l) :
    rawLines l = if l = [] then [] else [l] := by
  induction l with
  | nil => rfl
  | cons c l ih =>
    obtain ⟨other, more⟩ := List.ne_and_not_mem_of_not_mem_cons h
    rw [rawLines_cons_of_ne other.symm, ih more, if_neg (List.cons_ne_nil c l)]
    cases l <;> rfl

/-- **The lines of a text are its pieces between newlines**, without the last one if it is empty. -/
theorem rawLines_eq_splitOn (cs : List Char) :
    rawLines cs = if (cs.splitOn '\n').getLast? = some [] then (cs.splitOn '\n').dropLast
      else cs.splitOn '\n' := by
  induction cs using splitOn_induction '\n' with
  | last l h =>
    rw [rawLines_of_not_mem h, List.splitOn_eq_singleton h]
    cases l <;> rfl
  | next l rest h ih =>
    rw [rawLines_line h, List.splitOn_append_cons_self_of_not_mem h, ih,
      List.getLast?_cons_of_ne_nil (List.splitOn_ne_nil _ _),
      List.dropLast_cons_of_ne_nil (List.splitOn_ne_nil _ _)]
    split <;> rfl

/-! ## Carriage returns before newlines -/

/-- A line drops the carriage return at its end, and no other. -/
@[simp]
theorem dropReturn_concat (l : List Char) : dropReturn (l ++ ['\r']) = l := by
  induction l with
  | nil => rfl
  | cons c l ih =>
    have more : l ++ ['\r'] ≠ [] := List.append_ne_nil_of_right_ne_nil l (List.cons_ne_nil _ _)
    rw [List.cons_append, dropReturn, ih]
    exact fun _ none => more none

theorem dropReturn_eq_self_iff {l : List Char} : dropReturn l = l ↔ l.getLast? ≠ some '\r' := by
  refine ⟨fun same last => ?_, dropReturn_of_ne⟩
  obtain ⟨l, rfl⟩ := List.getLast?_eq_some_iff.mp last
  rw [dropReturn_concat] at same
  simpa using congrArg List.length same

/-- A text with a carriage return put before each newline. -/
def withReturns (text : String) : String :=
  String.ofList (replace ['\n'] ['\r', '\n'] text.toList)

theorem splitLines_replace_line {l : List Char} (h : '\n' ∉ l) (rest : List Char) :
    splitLines (replace ['\n'] ['\r', '\n'] (l ++ '\n' :: rest)) =
      l :: splitLines (replace ['\n'] ['\r', '\n'] rest) := by
  have line : '\n' ∉ l ++ ['\r'] := by simpa using h
  have ends : l ++ (['\r', '\n'] ++ replace ['\n'] ['\r', '\n'] rest) =
      (l ++ ['\r']) ++ '\n' :: replace ['\n'] ['\r', '\n'] rest := by simp
  rw [replace_singleton_append_cons h, ends, splitLines_line line, dropReturn_concat]

/-- **A text keeps its lines when each newline gets a carriage return** exactly if no newline has one
before it already. What stands behind the last newline may end in one. -/
theorem splitLines_withReturns_iff (text : String) :
    splitLines (withReturns text).toList = splitLines text.toList ↔
      ∀ line ∈ (text.toList.splitOn '\n').dropLast, line.getLast? ≠ some '\r' := by
  rw [withReturns, String.toList_ofList]
  -- by pieces, not by characters: what a line drops is known only at its end
  induction text.toList using splitOn_induction '\n' with
  | last l h => simp [replace_singleton_of_not_mem h, List.splitOn_eq_singleton h]
  | next l rest h ih =>
    rw [splitLines_replace_line h, splitLines_line h, List.cons.injEq, ih,
      List.splitOn_append_cons_self_of_not_mem h,
      List.dropLast_cons_of_ne_nil (List.splitOn_ne_nil _ _), List.forall_mem_cons,
      ← dropReturn_eq_self_iff, eq_comm]

end SlideDeck.Text

namespace SlideDeck.Token

open SlideDeck.Text

theorem tokenize_withReturns {text : String}
    (h : ∀ line ∈ (text.toList.splitOn '\n').dropLast, line.getLast? ≠ some '\r') (first : Int) :
    tokenize (withReturns text) first = tokenize text first := by
  rw [tokenize, (splitLines_withReturns_iff text).mpr h, tokenize]

/-- Behind a text of whole lines, the lines of another one follow, and so do its tokens, counted from
the line after them. A text without carriage returns at the ends of its lines has the same tokens, in
the same places, when there is one before each newline. -/
theorem tokenize_append_and_withReturns :
    (∀ a b : String, EndsLine a.toList → ∀ first : Int,
      splitLines (a ++ b).toList = splitLines a.toList ++ splitLines b.toList ∧
      tokenize (a ++ b) first =
        tokenize a first ++ tokenize b (first + (splitLines a.toList).length)) ∧
    ∀ text : String, (∀ line ∈ text.toList.splitOn '\n', line.getLast? ≠ some '\r') →
      ∀ first : Int, tokenize (withReturns text) first = tokenize text first := by
  refine ⟨fun a b whole first => ⟨?_, tokenize_append whole b first⟩, fun text h first => ?_⟩
  · rw [String.toList_append, splitLines_append whole]
  · exact tokenize_withReturns (fun line mem => h line (List.dropLast_subset _ mem)) first

/-- A cut between two blank lines, and a text with a blank line, a carriage return inside a line and
a last line that no newline ends. -/
theorem tokenize_append_and_withReturns_blank :
    let a := "# \u00e9\n\n"
    let b := "\n:tb x"
    let text := "\u00e9 :sl\n\nx\ry"
    EndsLine a.toList ∧ splitLines (a ++ b).toList = ["# \u00e9".toList, [], [], ":tb x".toList] ∧
      tokenize (a ++ b) 7 =
        [⟨.comment "# \u00e9", ⟨7, 0, 4⟩⟩, ⟨.textLine "", ⟨8, 0, 0⟩⟩, ⟨.textLine "", ⟨9, 0, 0⟩⟩,
          ⟨.directive .text, ⟨10, 0, 3⟩⟩, ⟨.word "x", ⟨10, 4, 5⟩⟩] ∧
      (∀ line ∈ text.toList.splitOn '\n', line.getLast? ≠ some '\r') ∧
      withReturns text = "\u00e9 :sl\r\n\r\nx\ry" ∧
      tokenize (withReturns text) 3 =
        [⟨.word "\u00e9", ⟨3, 0, 2⟩⟩, ⟨.directive .slide, ⟨3, 3, 6⟩⟩, ⟨.textLine "", ⟨4, 0, 0⟩⟩,
          ⟨.textLine "x\ry", ⟨5, 0, 3⟩⟩] := by
  intro a b text
  have whole : EndsLine a.toList := by decide
  have alone : ∀ line ∈ text.toList.splitOn '\n', line.getLast? ≠ some '\r' := by decide
  obtain ⟨lines, tokens⟩ := tokenize_append_and_withReturns.1 a b whole 7
  refine ⟨whole, ?_, ?_, alone, by decide +kernel, ?_⟩
  · rw [lines]
    decide
  · rw [tokens]
    decide +kernel
  · rw [tokenize_append_and_withReturns.2 text alone]
    decide +kernel

end SlideDeck.Token
