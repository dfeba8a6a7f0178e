import SlideDeck.Proofs.Text.Utf8
import SlideDeck.Proofs.Token.Written

/-!
# Where the tokens of a line stand

A line holds a marker if it has a colon at its start, or after a character that is no backslash
(`Text.Marked`). Its tokens are then its words, a word being a longest run of characters that are not
blank (`Text.WordAt`); their spans are counted in the bytes of the line, and what a word says hangs on
nothing but the word (`Lexeme.SaidBy`). None of these mentions how a line is gone through.

Words are found from the left by `Text.Scans`, of which the rest is shown by induction.

**The law** (`Token.ofLine_words_or_line`): the tokens of a line with a marker are its words, in order,
none left out, with a blank between any two of them; a line without a marker is one token.
-/

namespace SlideDeck.Text

/-! ## Bytes -/

@[simp]
theorem byteSize_append (a b : List Char) : byteSize (a ++ b) = byteSize a + byteSize b := by
  induction a with
  | nil => exact (Nat.zero_add _).symm
  | cons c a ih => rw [List.cons_append, byteSize_cons, byteSize_cons, ih, Nat.add_assoc]

/-- Characters are counted by the bytes that encode them. -/
theorem byteSize_eq_length (cs : List Char) :
    byteSize cs = (cs.flatMap String.utf8EncodeChar).length := by
  induction cs with
  | nil => rfl
  | cons c cs ih =>
    rw [byteSize_cons, List.flatMap_cons, List.length_append, String.length_utf8EncodeChar, ih]

@[simp]
theorem byteSize_toList (s : String) : byteSize s.toList = s.utf8ByteSize := by
  have bytes : s.toByteArray = s.toList.utf8Encode := by
    rw [← String.toByteArray_ofList, String.ofList_toList]
  rw [byteSize_eq_length, ← String.size_toByteArray, bytes, List.utf8Encode, List.size_toByteArray]

/-! ## Markers -/

/-- A line with a colon at its start, or after a character that is no backslash. -/
def Marked (line : String) : Prop :=
  ∃ i, line.toList[i]? = some ':' ∧ (i = 0 ∨ line.toList[i - 1]? ≠ some '\\')

theorem markedAfter_iff (escaped : Bool) (cs : List Char) :
    markedAfter escaped cs = true ↔
      ∃ i, cs[i]? = some ':' ∧ (if i = 0 then escaped = false else cs[i - 1]? ≠ some '\\') := by
  induction cs generalizing escaped with
  | nil => simp [markedAfter]
  | cons c cs ih =>
    simp only [markedAfter, Bool.or_eq_true, Bool.and_eq_true, beq_iff_eq, Bool.not_eq_true', ih]
    constructor
    · rintro (⟨rfl, free⟩ | ⟨i, colon, before⟩)
      · exact ⟨0, rfl, free⟩
      · refine ⟨i + 1, colon, ?_⟩
        cases i with
        | zero => simpa using before
        | succ i => simpa using before
    · rintro ⟨i, colon, before⟩
      cases i with
      | zero => exact .inl ⟨by simpa using colon, before⟩
      | succ i =>
        refine .inr ⟨i, colon, ?_⟩
        cases i with
        | zero => simpa using before
        | succ i => simpa using before

/-- **A line is searched for a marker as it should be.** -/
theorem hasMarker_iff (line : String) : hasMarker line.toList = true ↔ Marked line := by
  rw [hasMarker, markedAfter_iff]
  refine exists_congr fun i => and_congr_right fun _ => ?_
  cases i <;> simp

/-! ## Words from the left -/

/-- The words of characters that start at a byte column. -/
inductive Scans : Nat → List Char → List Word → Prop where
  | done (column : Nat) : Scans column [] []
  | blank {column : Nat} {c : Char} {cs : List Char} {ws : List Word} (blank : isBlank c = true)
    (more : Scans (column + c.utf8Size) cs ws) : Scans column (c :: cs) ws
  | word {column : Nat} {w rest : List Char} {ws : List Word} (filled : w ≠ [])
    (solid : ∀ c ∈ w, isBlank c = false) (off : BreaksOff rest)
    (more : Scans (column + byteSize w) rest ws) :
    Scans column (w ++ rest) (⟨column, column + byteSize w, w⟩ :: ws)

/-- The words of a line are found in this way, by induction on the count of its characters. -/
theorem scans_wordsFrom (column : Nat) (cs : List Char) : Scans column cs (wordsFrom column cs) := by
  induction h : cs.length using Nat.strongRecOn generalizing column cs with
  | _ n ih =>
    subst h
    cases cs with
    | nil => exact .done column
    | cons c cs =>
      cases first : isBlank c with
      | true =>
        rw [wordsFrom, if_pos first]
        exact .blank first (ih _ (Nat.lt_succ_self _) _ _ rfl)
      | false =>
        have split := List.takeWhile_append_dropWhile (p := fun c => !isBlank c) (l := c :: cs)
        have filled : (c :: cs).takeWhile (fun c => !isBlank c) ≠ [] := by
          simp [first]
        have solid : ∀ d ∈ (c :: cs).takeWhile (fun c => !isBlank c), isBlank d = false := by
          intro d mem
          simpa using List.mem_takeWhile_imp mem
        have off : BreaksOff ((c :: cs).dropWhile (fun c => !isBlank c)) := by
          intro d head
          have := List.head?_dropWhile_not (fun c => !isBlank c) (c :: cs)
          rw [head] at this
          simpa using this
        have shorter : ((c :: cs).dropWhile (fun c => !isBlank c)).length < (c :: cs).length := by
          simp only [List.dropWhile_cons, first, Bool.not_false, if_true, List.length_cons]
          exact Nat.lt_succ_of_le (List.length_dropWhile_le _ _)
        generalize (c :: cs).takeWhile (fun c => !isBlank c) = w at split filled solid
        generalize (c :: cs).dropWhile (fun c => !isBlank c) = rest at split off shorter
        rw [← split, wordsFrom_word filled solid rest off]
        exact .word filled solid off (ih _ shorter _ _ rfl)

namespace Scans

variable {column : Nat} {cs : List Char} {ws : List Word}

/-- Where a text breaks off, a word has a character before it. -/
theorem exists_of_breaksOff {rest before after w : List Char} (off : BreaksOff rest) (filled : w ≠ [])
    (solid : ∀ c ∈ w, isBlank c = false) (split : rest = before ++ w ++ after) :
    ∃ c more, before = c :: more ∧ isBlank c = true := by
  cases before with
  | nil =>
    obtain ⟨c, w, rfl⟩ := List.exists_cons_of_ne_nil filled
    have blank := off c (by rw [split]; rfl)
    rw [solid c List.mem_cons_self] at blank
    cases blank
  | cons c more => exact ⟨c, more, rfl, off c (by rw [split]; rfl)⟩

/-- Each word is a longest run of characters that are not blank, and stands where it is said to. -/
theorem places (h : Scans column cs ws) : ∀ w ∈ ws, ∃ before after,
    cs = before ++ w.chars ++ after ∧ w.start = column + byteSize before ∧
      w.stop = w.start + byteSize w.chars ∧ w.chars ≠ [] ∧ (∀ c ∈ w.chars, isBlank c = false) ∧
      (∀ c ∈ before.getLast?, isBlank c = true) ∧ BreaksOff after := by
  induction h with
  | done => simp
  | @blank column c cs ws blank _ ih =>
    intro w mem
    obtain ⟨before, after, rfl, start, stop, filled, solid, ends, off⟩ := ih w mem
    refine ⟨c :: before, after, rfl, by rw [start, byteSize_cons, Nat.add_assoc], stop, filled, solid,
      ?_, off⟩
    cases before with
    | nil => simpa using blank
    | cons d before => rwa [List.getLast?_cons_cons]
  | @word column v rest ws filled solid off _ ih =>
    refine List.forall_mem_cons.mpr
      ⟨⟨[], rest, rfl, rfl, rfl, filled, solid, by simp, off⟩, fun w mem => ?_⟩
    obtain ⟨before, after, split, start, stop, filled', solid', ends, off'⟩ := ih w mem
    obtain ⟨c, more, rfl, _⟩ := exists_of_breaksOff off filled' solid' split
    refine ⟨v ++ c :: more, after, by rw [split]; simp only [List.append_assoc],
      by rw [start, byteSize_append, Nat.add_assoc], stop, filled', solid', ?_, off'⟩
    rwa [List.getLast?_append_of_ne_nil _ (List.cons_ne_nil c more)]

/-- A blank stands between any two words. -/
theorem apart (h : Scans column cs ws) : ws.Pairwise fun v w =>
    ∃ before c after, cs = before ++ c :: after ∧ isBlank c = true ∧
      v.stop ≤ column + byteSize before ∧ column + byteSize before + c.utf8Size ≤ w.start := by
  induction h with
  | done => exact .nil
  | @blank column c cs ws _ _ ih =>
    refine ih.imp ?_
    rintro v w ⟨before, d, after, rfl, blank, stop, start⟩
    refine ⟨c :: before, d, after, rfl, blank, ?_, ?_⟩
    · rw [byteSize_cons]
      omega
    · rw [byteSize_cons]
      omega
  | @word column v rest ws filled solid off more ih =>
    refine .cons (fun w mem => ?_) (ih.imp ?_)
    · obtain ⟨before, after, split, start, _, filled', solid', _, _⟩ := more.places w mem
      obtain ⟨c, between, rfl, blank⟩ := exists_of_breaksOff off filled' solid' split
      refine ⟨v, c, between ++ w.chars ++ after, by rw [split]; simp, blank, le_rfl, ?_⟩
      rw [start, byteSize_cons]
      omega
    · rintro u w ⟨before, c, after, rfl, blank, stop, start⟩
      refine ⟨v ++ before, c, after, by simp, blank, ?_, ?_⟩
      · rw [byteSize_append]
        omega
      · rw [byteSize_append]
        omega

/-- Each character that is not blank is in a word. -/
theorem covers (h : Scans column cs ws) {before after : List Char} {c : Char}
    (split : cs = before ++ c :: after) (solid : isBlank c = false) :
    ∃ w ∈ ws, w.start ≤ column + byteSize before ∧ column + byteSize before + c.utf8Size ≤ w.stop := by
  induction h generalizing before with
  | done => simp at split
  | @blank column b cs ws blank _ ih =>
    cases before with
    | nil =>
      cases split
      rw [solid] at blank
      cases blank
    | cons b' before =>
      cases split
      obtain ⟨w, mem, start, stop⟩ := ih rfl
      refine ⟨w, mem, ?_, ?_⟩
      · rw [byteSize_cons]
        omega
      · rw [byteSize_cons]
        omega
  | @word column v rest ws _ _ _ _ ih =>
    rcases List.append_eq_append_iff.mp split with ⟨more, rfl, later⟩ | ⟨more, rfl, inside⟩
    · obtain ⟨w, mem, start, stop⟩ := ih later
      refine ⟨w, List.mem_cons_of_mem _ mem, ?_, ?_⟩
      · rw [byteSize_append]
        omega
      · rw [byteSize_append]
        omega
    · cases more with
      | nil =>
        obtain ⟨w, mem, start, stop⟩ := ih (show rest = [] ++ c :: after from inside.symm)
        refine ⟨w, List.mem_cons_of_mem _ mem, ?_, ?_⟩ <;>
          simp only [List.append_nil, byteSize, List.foldl_nil, Nat.add_zero] at start stop ⊢ <;> omega
      | cons d more =>
        cases inside
        refine ⟨_, List.mem_cons_self, Nat.le_add_right _ _, ?_⟩
        simp only
        rw [byteSize_append, byteSize_cons]
        omega

end Scans

/-! ## Places in a line -/

/-- A character of a line, at the byte where it starts. -/
def CharAt (line : String) (i : Nat) (c : Char) : Prop :=
  ∃ (before : String) (after : List Char),
    line.toList = before.toList ++ c :: after ∧ before.utf8ByteSize = i

/-- The word of a line from one of its bytes up to another: there are characters, none of them is blank,
and there is no more of it to either side. -/
structure WordAt (line : String) (start stop : Nat) (w : String) : Prop where
  place : ∃ before after : String, line = before ++ w ++ after ∧ before.utf8ByteSize = start ∧
    start + w.utf8ByteSize = stop ∧ (∀ c ∈ before.toList.getLast?, isBlank c = true) ∧
    ∀ c ∈ after.toList.head?, isBlank c = true
  isWord : IsWord w

namespace WordAt

variable {line w : String} {start stop : Nat}

theorem lt (h : WordAt line start stop w) : start < stop := by
  obtain ⟨_, _, _, _, size, _⟩ := h.place
  have filled : w.utf8ByteSize ≠ 0 := by
    rw [Ne, String.utf8ByteSize_eq_zero_iff]
    rintro rfl
    exact h.isWord.filled rfl
  omega

/-- The bytes of the span are those of the word. -/
theorem bytes (h : WordAt line start stop w) :
    (line.toUTF8.toList.drop start).take (stop - start) = w.toUTF8.toList := by
  obtain ⟨before, after, rfl, rfl, rfl, _⟩ := h.place
  simp only [toUTF8_eq, String.toList_append, List.flatMap_append, List.append_assoc]
  rw [← byteSize_toList before, byteSize_eq_length, List.drop_left, Nat.add_sub_cancel_left,
    ← byteSize_toList w, byteSize_eq_length, List.take_left]

/-- The words that are found from the left are words of the line. -/
theorem of_mem_words {v : Word} (mem : v ∈ words line.toList) :
    WordAt line v.start v.stop (String.ofList v.chars) := by
  obtain ⟨before, after, split, start, stop, filled, solid, ends, off⟩ :=
    (scans_wordsFrom 0 line.toList).places v mem
  refine ⟨⟨String.ofList before, String.ofList after, ?_, ?_, ?_, ?_, ?_⟩, ?_, ?_⟩
  · rw [← String.toList_inj]
    simpa using split
  · rw [← byteSize_toList, String.toList_ofList, start, Nat.zero_add]
  · rw [← byteSize_toList, String.toList_ofList, stop]
  · simpa using ends
  · simpa [BreaksOff] using off
  · simpa using filled
  · simpa using solid

end WordAt

end SlideDeck.Text

namespace SlideDeck

open SlideDeck.Text

/-! ## What a word says -/

/-- What a word says: the directive that it is, else the number that it is read as, which takes a word
without an underscore, else itself. -/
inductive Lexeme.SaidBy (w : String) : Lexeme → Prop where
  | directive (d : Directive) (written : w = d.mnemonic) : SaidBy w (.directive d)
  | number {x : Float} (noDirective : ∀ d : Directive, w ≠ d.mnemonic)
    (noUnderscore : '_' ∉ w.toList) (read : Number.read? w.toList = some x) : SaidBy w (.number x)
  | word (noDirective : ∀ d : Directive, w ≠ d.mnemonic)
    (noNumber : '_' ∈ w.toList ∨ Number.read? w.toList = none) : SaidBy w (.word w)

@[simp]
theorem Directive.ofWord?_mnemonic (d : Directive) : Directive.ofWord? d.mnemonic = some d := by
  cases d <;> decide

theorem Lexeme.saidBy_ofWord (cs : List Char) : SaidBy (String.ofList cs) (Lexeme.ofWord cs) := by
  unfold Lexeme.ofWord
  split
  next d found =>
    unfold Directive.ofWord? at found
    have written := List.find?_some found
    exact .directive d (of_decide_eq_true written).symm
  next none_ =>
    have noDirective : ∀ d : Directive, String.ofList cs ≠ d.mnemonic := by
      intro d same
      rw [same, Directive.ofWord?_mnemonic] at none_
      cases none_
    by_cases underscore : '_' ∈ cs
    · rw [if_pos (List.contains_iff_mem.mpr underscore)]
      exact .word noDirective (.inl (by simpa using underscore))
    · rw [if_neg (by simpa using underscore)]
      split
      next read =>
        exact .number noDirective (by simpa using underscore) (by simpa using read)
      next read => exact .word noDirective (.inr (by simpa using read))

/-- What a line without a marker says. -/
theorem Lexeme.ofLine_toList (line : String) : Lexeme.ofLine line.toList =
    if line.toList.head? = some '#' then .comment line else .textLine line := by
  unfold Lexeme.ofLine
  split
  next rest sign => rw [String.ofList_toList, if_pos (by rw [sign]; rfl)]
  next other =>
    rw [String.ofList_toList, if_neg]
    intro sign
    obtain ⟨rest, split⟩ := List.head?_eq_some_iff.mp sign
    exact other rest split

/-! ## The law -/

/-- Tokens that are the words of a line. -/
structure Token.AreWords (tokens : List Token) (line : String) (number : Int) : Prop where
  filled : tokens ≠ []
  each : ∀ t ∈ tokens, t.span.line = number ∧ t.span.start < t.span.stop ∧
    ∃ w, WordAt line t.span.start t.span.stop w ∧
      (line.toUTF8.toList.drop t.span.start).take (t.span.stop - t.span.start) = w.toUTF8.toList ∧
      t.lexeme.SaidBy w
  apart : tokens.Pairwise fun t u =>
    ∃ i c, CharAt line i c ∧ isBlank c = true ∧ t.span.stop ≤ i ∧ i + c.utf8Size ≤ u.span.start
  covers : ∀ i c, CharAt line i c → isBlank c = false →
    ∃ t ∈ tokens, t.span.start ≤ i ∧ i + c.utf8Size ≤ t.span.stop

/-- The words of a line that holds a character that is not blank. -/
theorem Token.areWords_words {line : String} {c : Char} (mem : c ∈ line.toList)
    (solid : isBlank c = false) (number : Int) :
    Token.AreWords ((words line.toList).map (Token.ofWord number)) line number := by
  have scans := scans_wordsFrom 0 line.toList
  have covers : ∀ i c, CharAt line i c → isBlank c = false →
      ∃ w ∈ words line.toList, w.start ≤ i ∧ i + c.utf8Size ≤ w.stop := by
    rintro i c ⟨before, after, split, rfl⟩ solid
    rw [← byteSize_toList, ← Nat.zero_add (byteSize _)]
    exact scans.covers split solid
  constructor
  · obtain ⟨before, after, split⟩ := List.append_of_mem mem
    obtain ⟨w, found, -⟩ := covers _ c ⟨String.ofList before, after, by simpa using split, rfl⟩ solid
    exact List.ne_nil_of_mem (List.mem_map_of_mem found)
  · intro t mem
    obtain ⟨v, found, rfl⟩ := List.mem_map.mp mem
    have place := WordAt.of_mem_words found
    exact ⟨rfl, place.lt, _, place, place.bytes, Lexeme.saidBy_ofWord v.chars⟩
  · refine List.pairwise_map.mpr (scans.apart.imp ?_)
    rintro v w ⟨before, c, after, split, blank, stop, start⟩
    rw [Nat.zero_add] at stop start
    refine ⟨_, c, ⟨String.ofList before, after, by simpa using split, rfl⟩, blank, ?_, ?_⟩
    · rwa [← byteSize_toList, String.toList_ofList]
    · rwa [← byteSize_toList, String.toList_ofList]
  · intro i c place solid
    obtain ⟨w, found, inside⟩ := covers i c place solid
    exact ⟨_, List.mem_map_of_mem found, inside⟩

/-- **The tokens of a line.** If the line has a colon at its start, or after a character that is no
backslash, they are its words; else the line is one token, which is a comment if it starts with a number
sign. -/
theorem Token.ofLine_words_or_line (line : String) (number : Int) :
    (Marked line → Token.AreWords (Token.ofLine line.toList number) line number) ∧
    (¬ Marked line → Token.ofLine line.toList number =
      [⟨if line.toList.head? = some '#' then .comment line else .textLine line,
        ⟨number, 0, line.utf8ByteSize⟩⟩]) := by
  constructor
  · intro marked
    obtain ⟨i, colon, _⟩ := id marked
    rw [Token.ofLine, if_pos ((hasMarker_iff line).mpr marked)]
    exact Token.areWords_words (List.mem_of_getElem? colon) rfl number
  · intro unmarked
    rw [Token.ofLine, if_neg (fun h => unmarked ((hasMarker_iff line).mp h)), byteSize_toList,
      Lexeme.ofLine_toList]

/-- A line of two words, and a comment with an escaped colon. -/
theorem Token.ofLine_words_and_comment :
    Token.AreWords (Token.ofLine ":tb\u00a0caf\u00e9".toList 0) ":tb\u00a0caf\u00e9" 0 ∧
      Token.ofLine "# \u00e9\\: x".toList 7 = [⟨.comment "# \u00e9\\: x", ⟨7, 0, 8⟩⟩] :=
  ⟨(Token.ofLine_words_or_line ":tb\u00a0caf\u00e9" 0).1 ⟨0, rfl, .inl rfl⟩,
    (Token.ofLine_words_or_line "# \u00e9\\: x" 7).2
      (mt (hasMarker_iff "# \u00e9\\: x").mpr (by decide))⟩

end SlideDeck
