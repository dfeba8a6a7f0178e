import SlideDeck.Token.Scan

/-!
# Lines of texts that follow each other

A text that is empty or ends in a newline has whole lines only (`EndsLine`), so what comes after it
starts a line of its own: the lines of the two together are the lines of the one and the lines of the
other (`splitLines_append`), and so are their tokens, with the lines of the first counted before
those of the second (`Token.tokenize_append`). Lines that are written one after the other, each with a
newline, are read back as they were (`splitLines_flatMap`), unless a carriage return ends one of them.
-/

namespace SlideDeck.Text

/-- A text of whole lines: it is empty or ends in a newline. -/
def EndsLine (cs : List Char) : Prop :=
  cs = [] ∨ cs.getLast? = some '\n'

instance (cs : List Char) : Decidable (EndsLine cs) :=
  inferInstanceAs (Decidable (_ ∨ _))

theorem EndsLine.of_cons {c d : Char} {cs : List Char} (h : EndsLine (c :: d :: cs)) :
    EndsLine (d :: cs) := by
  rcases h with h | h
  · cases h
  · exact .inr (by rwa [List.getLast?_cons_cons] at h)

/-- A text that ends in a newline goes on to do so after another one of whole lines. -/
theorem EndsLine.append {a b : List Char} (ha : EndsLine a) (hb : EndsLine b) :
    EndsLine (a ++ b) := by
  rcases hb with rfl | hb
  · simpa only [List.append_nil] using ha
  · exact .inr (by rw [List.getLast?_append, hb]; rfl)

/-! ## Cutting into lines -/

theorem rawLines_ne_nil {cs : List Char} (h : cs ≠ []) : rawLines cs ≠ [] := by
  cases cs with
  | nil => exact absurd rfl h
  | cons c cs =>
    simp only [rawLines]
    split
    · simp
    · cases rawLines cs <;> simp [consLine]

/-- A character goes to the first of some lines, whatever lines come after them. -/
theorem consLine_append (c : Char) {ls : List (List Char)} (h : ls ≠ []) (rest : List (List Char)) :
    consLine c (ls ++ rest) = consLine c ls ++ rest := by
  cases ls with
  | nil => exact absurd rfl h
  | cons l ls => rfl

theorem rawLines_cons_of_ne {c : Char} (h : c ≠ '\n') (cs : List Char) :
    rawLines (c :: cs) = consLine c (rawLines cs) := by
  rw [rawLines, if_neg h]

theorem rawLines_append {a : List Char} (h : EndsLine a) (b : List Char) :
    rawLines (a ++ b) = rawLines a ++ rawLines b := by
  induction a with
  | nil => rfl
  | cons c cs ih =>
    cases cs with
    | nil =>
      rcases h with h | h
      · cases h
      · obtain rfl : c = '\n' := by simpa using h
        simp [rawLines]
    | cons d cs =>
      have rest := ih h.of_cons
      by_cases hc : c = '\n'
      · subst hc
        rw [List.cons_append, rawLines_cons_newline, rest, rawLines_cons_newline, List.cons_append]
      · rw [List.cons_append, rawLines_cons_of_ne hc, rest, rawLines_cons_of_ne hc,
          consLine_append c (rawLines_ne_nil (List.cons_ne_nil d cs))]

/-- **The lines of two texts, the first of whole lines, are the lines of the one and of the
other.** -/
theorem splitLines_append {a : List Char} (h : EndsLine a) (b : List Char) :
    splitLines (a ++ b) = splitLines a ++ splitLines b := by
  simp only [splitLines, rawLines_append h, List.map_append]

/-- No line holds a newline. -/
theorem not_mem_of_mem_rawLines {cs line : List Char} (h : line ∈ rawLines cs) : '\n' ∉ line := by
  induction cs generalizing line with
  | nil => cases h
  | cons c cs ih =>
    rw [rawLines] at h
    split at h
    · rcases List.mem_cons.mp h with rfl | h
      · exact List.not_mem_nil
      · exact ih h
    · rename_i other
      cases hr : rawLines cs with
      | nil =>
        rw [hr] at h
        rw [List.mem_singleton.mp h]
        simpa using Ne.symm other
      | cons first rest =>
        rw [hr] at h ih
        rcases List.mem_cons.mp h with rfl | h
        · intro mem
          rcases List.mem_cons.mp mem with same | mem
          · exact other same.symm
          · exact ih List.mem_cons_self mem
        · exact ih (List.mem_cons_of_mem _ h)

theorem mem_of_mem_dropReturn {c : Char} {line : List Char} (h : c ∈ dropReturn line) : c ∈ line := by
  fun_induction dropReturn line with
  | case1 => cases h
  | case2 => cases h
  | case3 d line _ ih =>
    rcases List.mem_cons.mp h with rfl | h
    · exact List.mem_cons_self
    · exact List.mem_cons_of_mem _ (ih h)

theorem not_mem_of_mem_splitLines {cs line : List Char} (h : line ∈ splitLines cs) : '\n' ∉ line := by
  obtain ⟨raw, hr, rfl⟩ := List.mem_map.mp h
  exact fun newline => not_mem_of_mem_rawLines hr (mem_of_mem_dropReturn newline)

/-! ## Lines written one after the other -/

/-- What stands before the first newline is the first line. -/
theorem rawLines_line {l : List Char} (h : '\n' ∉ l) (rest : List Char) :
    rawLines (l ++ '\n' :: rest) = l :: rawLines rest := by
  induction l with
  | nil => simp [rawLines]
  | cons c l ih =>
    have hc : c ≠ '\n' := fun e => h (e ▸ List.mem_cons_self)
    have hl : '\n' ∉ l := fun m => h (List.mem_cons_of_mem _ m)
    rw [List.cons_append, rawLines_cons_of_ne hc, ih hl]
    rfl

theorem splitLines_line {l : List Char} (h : '\n' ∉ l) (rest : List Char) :
    splitLines (l ++ '\n' :: rest) = dropReturn l :: splitLines rest := by
  rw [splitLines, rawLines_line h, List.map_cons, splitLines]

/-- A line that no carriage return ends stays as it is. -/
theorem dropReturn_of_ne {l : List Char} (h : l.getLast? ≠ some '\r') : dropReturn l = l := by
  induction l with
  | nil => rfl
  | cons c l ih =>
    cases l with
    | nil =>
      have hc : c ≠ '\r' := fun e => h (e ▸ rfl)
      simp [dropReturn, hc]
    | cons d l =>
      have rest := ih (by rwa [List.getLast?_cons_cons] at h)
      simp [dropReturn, rest]

/-- A line that is read back as it is written: it holds no newline, and no carriage return ends it. -/
def IsLine (l : List Char) : Prop :=
  '\n' ∉ l ∧ l.getLast? ≠ some '\r'

/-- **Lines are read back as they are written.** -/
theorem splitLines_flatMap {ls : List (List Char)} (h : ∀ l ∈ ls, IsLine l) :
    splitLines (ls.flatMap (· ++ ['\n'])) = ls := by
  induction ls with
  | nil => rfl
  | cons l ls ih =>
    have hl := h l List.mem_cons_self
    have rest := ih fun l' m => h l' (List.mem_cons_of_mem _ m)
    rw [List.flatMap_cons, List.append_assoc, List.singleton_append, splitLines_line hl.1,
      dropReturn_of_ne hl.2, rest]

/-- Dropping a final newline drops the last character if it is one. -/
theorem dropFinalNewline_eq (cs : List Char) :
    dropFinalNewline cs = if cs.getLast? = some '\n' then cs.dropLast else cs := by
  induction cs with
  | nil => rfl
  | cons c cs ih =>
    cases cs with
    | nil => by_cases h : c = '\n' <;> simp [dropFinalNewline, h]
    | cons d cs =>
      rw [List.getLast?_cons_cons, List.dropLast_cons_of_ne_nil (List.cons_ne_nil d cs)]
      simp only [dropFinalNewline, ih]
      split <;> rfl

/-! ## Line ends of files -/

/-- A text in which a newline follows each carriage return. -/
def PairedReturns : List Char → Prop
  | [] => True
  | c :: cs => (c = '\r' → cs.head? = some '\n') ∧ PairedReturns cs

instance decidablePairedReturns : (cs : List Char) → Decidable (PairedReturns cs)
  | [] => inferInstanceAs (Decidable True)
  | c :: cs =>
    have := decidablePairedReturns cs
    inferInstanceAs (Decidable ((c = '\r' → cs.head? = some '\n') ∧ PairedReturns cs))

/-- The carriage return that may end a line is not the first character of a line that goes on. -/
theorem map_dropReturn_consLine {c : Char} (h : c ≠ '\r') (ls : List (List Char)) :
    (consLine c ls).map dropReturn = consLine c (ls.map dropReturn) := by
  have dropped : ∀ l, dropReturn (c :: l) = c :: dropReturn l := fun l => by
    simp [dropReturn, h]
  cases ls with
  | nil => simp [consLine, dropped, dropReturn]
  | cons l ls => simp [consLine, dropped]

/-- **A text in which newlines follow all carriage returns has the same lines when it is read from a
file.** There the two become one newline, and here the line drops the one. -/
@[simp]
theorem splitLines_universalNewlines {cs : List Char} (h : PairedReturns cs) :
    splitLines (universalNewlines cs) = splitLines cs := by
  unfold splitLines
  fun_induction universalNewlines cs with
  | case1 => rfl
  | case2 cs ih =>
    have rest := ih h.2.2
    have return_ : rawLines ('\r' :: '\n' :: cs) = ['\r'] :: rawLines cs := by
      rw [rawLines_cons_of_ne (by decide), rawLines_cons_newline]
      rfl
    rw [rawLines_cons_newline, return_, List.map_cons, List.map_cons, rest]
    rfl
  | case3 cs alone _ =>
    obtain ⟨rest, rfl⟩ := List.head?_eq_some_iff.mp (h.1 rfl)
    exact absurd rfl (alone rest)
  | case4 c cs _ other ih =>
    have rest := ih h.2
    by_cases newline : c = '\n'
    · rw [newline, rawLines_cons_newline, rawLines_cons_newline, List.map_cons, List.map_cons, rest]
    · rw [rawLines_cons_of_ne newline, rawLines_cons_of_ne newline, map_dropReturn_consLine other,
        map_dropReturn_consLine other, rest]

/-- A text without carriage returns is read from a file as it is. -/
theorem universalNewlines_of_not_mem {cs : List Char} (h : '\r' ∉ cs) : universalNewlines cs = cs := by
  induction cs with
  | nil => rfl
  | cons c cs ih =>
    rw [List.mem_cons, not_or] at h
    rw [universalNewlines, ih h.2]
    · exact fun _ same _ => h.1 same.symm
    · exact fun same => h.1 same.symm

end SlideDeck.Text

namespace SlideDeck.Token

open SlideDeck.Text

theorem ofLines_append (first : Int) (ls more : List (List Char)) :
    ofLines first (ls ++ more) = ofLines first ls ++ ofLines (first + ls.length) more := by
  induction ls generalizing first with
  | nil => simp [ofLines]
  | cons l ls ih =>
    have next : first + 1 + (ls.length : Int) = first + ((ls.length + 1 : Nat) : Int) := by omega
    simp only [List.cons_append, ofLines, ih, List.append_assoc, List.length_cons, next]

/-- **The tokens of two texts, the first of whole lines, are the tokens of the one and of the other**,
with the lines of the first counted before those of the second. -/
theorem tokenize_append {a : String} (h : EndsLine a.toList) (b : String) (first : Int) :
    tokenize (a ++ b) first =
      tokenize a first ++ tokenize b (first + (splitLines a.toList).length) := by
  simp only [tokenize, String.toList_append, splitLines_append h, ofLines_append]

/-- A text in which newlines follow all carriage returns has the same tokens when it is read from a
file. -/
@[simp]
theorem tokenize_universalNewlines {text : String} (h : PairedReturns text.toList) (first : Int) :
    tokenize (String.ofList (universalNewlines text.toList)) first = tokenize text first := by
  rw [tokenize, String.toList_ofList, splitLines_universalNewlines h, tokenize]

/-- What the tokens of a line say, wherever it stands. -/
theorem map_lexeme_ofLine (cs : List Char) (line line' : Int) :
    (ofLine cs line).map lexeme = (ofLine cs line').map lexeme := by
  unfold ofLine
  split
  · simp only [List.map_map]
    rfl
  · rfl

/-- What the tokens of a text say does not depend on the number of its first line. -/
theorem map_lexeme_tokenize (text : String) (first first' : Int) :
    (tokenize text first).map lexeme = (tokenize text first').map lexeme := by
  have lines : ∀ (ls : List (List Char)) (first first' : Int),
      (ofLines first ls).map lexeme = (ofLines first' ls).map lexeme := by
    intro ls
    induction ls with
    | nil => exact fun _ _ => rfl
    | cons l ls ih =>
      intro first first'
      simp only [ofLines, List.map_append, ih (first + 1) (first' + 1),
        map_lexeme_ofLine l first first']
  exact lines _ first first'

end SlideDeck.Token
