import SlideDeck.Printer
import SlideDeck.Proofs.Number.Numeral
import SlideDeck.Proofs.Text.Lines
import SlideDeck.Proofs.Text.Split

/-!
# Written words and lines

What a deck is written with, and the lexemes that it is read back as. Words that are parted by single
blanks are the words of their line (`words_intercalate`), and each says what it was written for: a
directive, a number, a color, a path. A line of text is written with its colons escaped, so that it
holds no marker and says itself (`lexemes_escape`), and reading it as text takes the escapes away
(`unescape_escape`).

The lexemes of a text of whole lines are those of its lines (`map_lexeme_tokenize_textOf`); where they
stand plays no part in any of this.
-/

namespace SlideDeck.Text

/-! ## Words -/

/-- No word starts before the place where the line starts. -/
theorem le_start_of_mem_wordsFrom {column : Nat} {cs : List Char} {w : Word}
    (h : w ∈ wordsFrom column cs) : column ≤ w.start := by
  induction cs generalizing column w with
  | nil => cases h
  | cons c cs ih =>
    simp only [wordsFrom] at h
    split at h
    · exact Nat.le_trans (Nat.le_add_right _ _) (ih h)
    · split at h
      · rw [List.mem_singleton.mp h]
      · rename_i first rest hw
        have behind : ∀ v ∈ first :: rest, column ≤ v.start := fun v mem =>
          Nat.le_trans (Nat.le_add_right column c.utf8Size) (ih (hw ▸ mem))
        split at h
        · rcases List.mem_cons.mp h with rfl | mem
          · exact Nat.le_refl _
          · exact behind _ (List.mem_cons_of_mem _ mem)
        · rcases List.mem_cons.mp h with rfl | mem
          · exact Nat.le_refl _
          · exact behind _ mem

/-- A text is at its end or goes on with a blank. -/
def BreaksOff (cs : List Char) : Prop :=
  ∀ c ∈ cs.head?, isBlank c = true

/-- Where a text breaks off, no word starts. -/
theorem start_ne_of_breaksOff {column : Nat} {cs : List Char} (h : BreaksOff cs) {w : Word}
    (mem : w ∈ wordsFrom column cs) : w.start ≠ column := by
  cases cs with
  | nil => cases mem
  | cons c cs =>
    rw [wordsFrom, if_pos (h c rfl)] at mem
    have behind := le_start_of_mem_wordsFrom mem
    have size := c.utf8Size_pos
    omega

@[simp]
theorem byteSize_cons (c : Char) (cs : List Char) :
    byteSize (c :: cs) = c.utf8Size + byteSize cs := by
  have from_ (n : Nat) : cs.foldl (fun n c => n + c.utf8Size) n = n + byteSize cs := by
    unfold byteSize
    induction cs generalizing n with
    | nil => rfl
    | cons d cs ih =>
      rw [List.foldl_cons, List.foldl_cons, ih, ih (0 + d.utf8Size)]
      omega
  rw [byteSize, List.foldl_cons, from_]
  omega

/-- A run of characters that are not blank is a word, up to where the text breaks off. -/
theorem wordsFrom_word {w : List Char} (some : w ≠ []) (solid : ∀ c ∈ w, isBlank c = false)
    (rest : List Char) (off : BreaksOff rest) (column : Nat) :
    wordsFrom column (w ++ rest) =
      ⟨column, column + byteSize w, w⟩ :: wordsFrom (column + byteSize w) rest := by
  induction w generalizing column with
  | nil => exact absurd rfl some
  | cons c w ih =>
    have first : isBlank c = false := solid c List.mem_cons_self
    rw [List.cons_append, wordsFrom, first, if_neg Bool.false_ne_true, byteSize_cons,
      ← Nat.add_assoc]
    cases w with
    | nil =>
      rw [List.nil_append]
      cases hw : wordsFrom (column + c.utf8Size) rest with
      | nil => simp only [byteSize, List.foldl_nil, Nat.add_zero, hw]
      | cons v vs =>
        have apart := start_ne_of_breaksOff off (hw ▸ List.mem_cons_self)
        simp only [byteSize, List.foldl_nil, Nat.add_zero, hw, if_neg apart]
    | cons d w =>
      have more := ih (List.cons_ne_nil d w)
        (fun c' mem => solid c' (List.mem_cons_of_mem _ mem)) (column + c.utf8Size)
      simp only [more, if_true]

/-- **Words with single blanks between them are the words of the line.** -/
theorem words_intercalate {ws : List (List Char)}
    (solid : ∀ w ∈ ws, w ≠ [] ∧ ∀ c ∈ w, isBlank c = false) :
    (words (List.intercalate [' '] ws)).map Word.chars = ws := by
  have from_ : ∀ column, (wordsFrom column (List.intercalate [' '] ws)).map Word.chars = ws := by
    induction ws with
    | nil => exact fun _ => rfl
    | cons w ws ih =>
      intro column
      obtain ⟨filled, first⟩ := solid w List.mem_cons_self
      have more := ih fun v mem => solid v (List.mem_cons_of_mem _ mem)
      cases ws with
      | nil =>
        have word := wordsFrom_word filled first [] (fun _ absent => nomatch absent) column
        rw [List.append_nil] at word
        rw [List.intercalate_singleton, word]
        rfl
      | cons v ws =>
        have off : BreaksOff (' ' :: List.intercalate [' '] (v :: ws)) := by
          intro c hc
          cases hc
          rfl
        have word := wordsFrom_word filled first _ off column
        have blank : isBlank ' ' = true := rfl
        rw [List.intercalate_cons_cons, List.append_assoc, List.singleton_append, word, wordsFrom,
          if_pos blank, List.map_cons, more]
  exact from_ 0

/-! ## Escaped colons -/

/-- A line whose colons are escaped holds no marker. -/
@[simp]
theorem hasMarker_escape (cs : List Char) : hasMarker (escape cs) = false := by
  have after : ∀ escaped, markedAfter escaped (escape cs) = false := by
    induction cs with
    | nil => exact fun _ => rfl
    | cons c cs ih =>
      intro escaped
      by_cases colon : c = ':'
      · simp [escape, colon, markedAfter, ih]
      · simp [escape, colon, markedAfter, ih]
  exact after false

/-- A character that is not the start of an escape stays as it is. -/
theorem unescape_cons {c : Char} {cs : List Char} (h : c = '\\' → cs.head? ≠ some ':') :
    unescape (c :: cs) = c :: unescape cs := by
  rw [unescape.eq_def]
  split
  · rename_i heq
    cases heq
  · rename_i heq
    cases heq
    exact absurd rfl (h rfl)
  · rename_i heq
    cases heq
    rfl

theorem head?_escape_ne (cs : List Char) : (escape cs).head? ≠ some ':' := by
  cases cs with
  | nil => exact nofun
  | cons c cs =>
    by_cases colon : c = ':'
    · simp [escape, colon]
    · simp [escape, colon]

/-- **A line is read back from its escaped form**, whether it holds escapes of its own or not: the
escaped form has a colon only behind the backslash that was written for it. -/
@[simp]
theorem unescape_escape (cs : List Char) : unescape (escape cs) = cs := by
  induction cs with
  | nil => rfl
  | cons c cs ih =>
    by_cases colon : c = ':'
    · rw [escape, if_pos colon, unescape, ih, colon]
    · rw [escape, if_neg colon, unescape_cons fun _ => head?_escape_ne cs, ih]

/-- Escaping puts no other characters into a line than backslashes. -/
theorem mem_escape {c : Char} {cs : List Char} (h : c ∈ escape cs) : c ∈ cs ∨ c = '\\' := by
  induction cs with
  | nil => cases h
  | cons d cs ih =>
    rw [escape] at h
    split at h
    · rename_i colon
      rcases List.mem_cons.mp h with rfl | h
      · exact .inr rfl
      · rcases List.mem_cons.mp h with rfl | h
        · exact .inl (colon ▸ List.mem_cons_self)
        · exact (ih h).imp_left (List.mem_cons_of_mem _)
    · rcases List.mem_cons.mp h with rfl | h
      · exact .inl List.mem_cons_self
      · exact (ih h).imp_left (List.mem_cons_of_mem _)

@[simp]
theorem getLast?_escape (cs : List Char) : (escape cs).getLast? = cs.getLast? := by
  induction cs with
  | nil => rfl
  | cons c cs ih =>
    have some : ∀ {d : Char} {l l' : List Char}, l.getLast? = l'.getLast? →
        (d :: l).getLast? = (d :: l').getLast? := by
      intro d l l' same
      rw [List.getLast?_cons, List.getLast?_cons, same]
    by_cases colon : c = ':'
    · rw [escape, if_pos colon, List.getLast?_cons_cons, colon]
      exact some ih
    · rw [escape, if_neg colon]
      exact some ih

end SlideDeck.Text

namespace SlideDeck

open SlideDeck.Text

/-! ## Colors -/

/-- The digits of a channel are those of its value, whatever the value is. -/
@[simp]
theorem mapM_hexValue?_channelHex (c : UInt8) :
    (Color.channelHex c).mapM Color.hexValue? = some [c.toNat / 16, c.toNat % 16] := by
  have channels : ∀ n : Fin 256, (hexDigits 2 n).mapM Color.hexValue? =
      some [n.val / 16, n.val % 16] := by
    decide +kernel
  exact channels ⟨c.toNat, c.toNat_lt⟩

@[simp]
theorem channelOf_digits (c : UInt8) : Color.channelOf (c.toNat / 16) (c.toNat % 16) = c := by
  rw [Color.channelOf, Nat.div_add_mod, UInt8.ofNat_toNat]

theorem toHex_toList (c : Color) : c.toHex.toList =
    '#' :: (Color.channelHex c.r ++ Color.channelHex c.g ++ Color.channelHex c.b ++
      Color.channelHex c.a) := by
  rw [Color.toHex, String.toList_ofList]
  rfl

/-- **A color is read back from its written form.** -/
@[simp]
theorem parse_toHex (c : Color) : Color.parse c.toHex = .ok c := by
  have values : (Color.dropNumberSign c.toHex.toList).mapM Color.hexValue? =
      some [c.r.toNat / 16, c.r.toNat % 16, c.g.toNat / 16, c.g.toNat % 16,
        c.b.toNat / 16, c.b.toNat % 16, c.a.toNat / 16, c.a.toNat % 16] := by
    rw [toHex_toList]
    simp only [Color.dropNumberSign, List.mapM_append, mapM_hexValue?_channelHex]
    rfl
  have read : Color.ofHex c.toHex = .ok c := by
    simp only [Color.ofHex, values, Color.ofHexValues?, channelOf_digits]
  rw [Color.parse, toHex_toList]
  exact read

/-! ## What words say -/

/-- A word of a deck: characters that are not blank. -/
structure IsWord (w : String) : Prop where
  filled : w.toList ≠ []
  solid : ∀ c ∈ w.toList, isBlank c = false

@[simp]
theorem ofWord_mnemonic (d : Directive) : Lexeme.ofWord d.mnemonic.toList = .directive d := by
  have found : Directive.ofWord? d.mnemonic = some d := by cases d <;> decide
  rw [Lexeme.ofWord, String.ofList_toList, found]

theorem isWord_mnemonic (d : Directive) : IsWord d.mnemonic := by
  refine ⟨by cases d <;> decide, ?_⟩
  cases d <;> exact List.all_iff_forall_prop.mp (by decide)

/-- Only a word that starts with a colon is a directive. -/
theorem ofWord?_eq_none {w : String} (h : w.toList.head? ≠ some ':') :
    Directive.ofWord? w = none := by
  refine List.find?_eq_none.mpr fun d _ found => h ?_
  rw [← of_decide_eq_true found]
  cases d <;> rfl

theorem isWord_number (x : Float) : IsWord (numberWord x) := by
  refine ⟨fun none => ?_, fun c mem => ?_⟩
  · have read := Number.read?_text x
    rw [show (Number.plain.text x).toList = [] from none] at read
    cases read
  · have solid : ∀ c ∈ Number.numberChars, isBlank c = false :=
      List.all_iff_forall_prop.mp (by decide)
    exact solid c (Number.mem_numberChars_of_text mem)

/-- A word of the characters of numbers that is read as a number is that number. -/
theorem ofWord_of_read? {w : String} {x : Float} (only : ∀ c ∈ w.toList, c ∈ Number.numberChars)
    (read : Number.read? w.toList = some x) : Lexeme.ofWord w.toList = .number x := by
  have noDirective : Directive.ofWord? w = none := by
    refine ofWord?_eq_none fun colon => ?_
    have mem := only ':' (List.mem_of_mem_head? colon)
    revert mem
    decide
  have noUnderscore : w.toList.contains '_' = false := by
    refine Bool.eq_false_iff.mpr fun underscore => ?_
    have mem := only '_' (List.contains_iff_mem.mp underscore)
    revert mem
    decide
  rw [Lexeme.ofWord, String.ofList_toList, noDirective]
  simp only [noUnderscore, Bool.false_eq_true, if_false, read]

@[simp]
theorem ofWord_number (x : Float) : Lexeme.ofWord (numberWord x).toList = .number x :=
  ofWord_of_read? (fun _ mem => Number.mem_numberChars_of_text mem) (Number.read?_text x)

/-- The digits of colors. -/
theorem mem_channelHex {x : UInt8} {c : Char} (h : c ∈ Color.channelHex x) :
    c ∈ "0123456789abcdef".toList := by
  have channels : ∀ n : Fin 256,
      (hexDigits 2 n).all (fun c => c ∈ "0123456789abcdef".toList) = true := by
    decide +kernel
  exact List.all_iff_forall_prop.mp (channels ⟨x.toNat, x.toNat_lt⟩) c h

theorem mem_toHex {color : Color} {c : Char} (h : c ∈ color.toHex.toList) :
    c ∈ '#' :: "0123456789abcdef".toList := by
  rw [toHex_toList] at h
  rcases List.mem_cons.mp h with rfl | h
  · exact List.mem_cons_self
  · refine List.mem_cons_of_mem _ ?_
    simp only [List.mem_append] at h
    rcases h with ((h | h) | h) | h <;> exact mem_channelHex h

theorem isWord_toHex (c : Color) : IsWord c.toHex := by
  refine ⟨fun none => ?_, fun d mem => ?_⟩
  · rw [toHex_toList] at none
    cases none
  · have solid : ∀ d ∈ '#' :: "0123456789abcdef".toList, isBlank d = false :=
      List.all_iff_forall_prop.mp (by decide)
    exact solid d (mem_toHex mem)

/-- A word that starts with a number sign or a slash is no number. -/
theorem read?_mark {c : Char} (mark : c = '#' ∨ c = '/') {cs : List Char}
    (solid : ∀ d ∈ c :: cs, isBlank d = false) : Number.read? (c :: cs) = none := by
  have trimmed : unpad (c :: cs) = c :: cs := by
    refine Number.unpad_of_forall fun d mem => ?_
    rw [isPadding, solid d mem, Bool.false_and]
  have letter : c.toLower ≠ 'i' ∧ c.toLower ≠ 'n' := by
    rcases mark with rfl | rfl <;> decide
  have word : Number.special? (c :: cs) = none := by
    unfold Number.special?
    rw [List.map_cons]
    simp only
    rw [if_neg, if_neg]
    · exact fun same => letter.2 (List.cons.inj same).1
    · rintro (same | same)
      · exact letter.1 (List.cons.inj same).1
      · exact letter.1 (List.cons.inj same).1
  have noDigit : decimalDigit? c = none := by
    rcases mark with rfl | rfl <;> decide
  have decimal : Number.decimal? decimalDigit? (c :: cs) = none := by
    simp only [Number.decimal?, Number.takeDigits, noDigit]
    rcases mark with rfl | rfl <;> rfl
  have sign : Number.takeSign (c :: cs) = (false, c :: cs) := by
    rcases mark with rfl | rfl <;> rfl
  rw [Number.read?, trimmed, Number.numeral?, sign]
  simp only [word, decimal, Option.orElse_none, Option.map_none]

@[simp]
theorem ofWord_toHex (c : Color) : Lexeme.ofWord c.toHex.toList = .word c.toHex := by
  have noDirective : Directive.ofWord? c.toHex = none := by
    refine ofWord?_eq_none ?_
    rw [toHex_toList]
    exact nofun
  have noNumber : Number.read? c.toHex.toList = none := by
    have solid := (isWord_toHex c).solid
    rw [toHex_toList] at solid ⊢
    exact read?_mark (.inl rfl) solid
  rw [Lexeme.ofWord, String.ofList_toList, noDirective]
  simp only [noNumber, ite_self]

/-! ## What lines say -/

/-- The lexemes of a line. -/
def lineLexemes (cs : List Char) : List Lexeme :=
  if hasMarker cs then (words cs).map fun w => Lexeme.ofWord w.chars else [Lexeme.ofLine cs]

theorem map_lexeme_ofLines (first : Int) (ls : List (List Char)) :
    (Token.ofLines first ls).map Token.lexeme = ls.flatMap lineLexemes := by
  induction ls generalizing first with
  | nil => rfl
  | cons l ls ih =>
    rw [Token.ofLines, List.map_append, ih, List.flatMap_cons]
    congr 1
    unfold Token.ofLine lineLexemes
    split
    · rw [List.map_map]
      rfl
    · rfl

theorem textOf_toList (lines : List String) :
    (textOf lines).toList = (lines.map String.toList).flatMap (· ++ ['\n']) := by
  rw [textOf, String.toList_join, List.flatMap_map, List.flatMap_map]
  simp only [String.toList_append]
  rfl

/-- Written lines are whole lines. -/
theorem endsLine_textOf (lines : List String) : EndsLine (textOf lines).toList := by
  rw [textOf_toList]
  induction lines with
  | nil => exact .inl rfl
  | cons l lines ih =>
    rw [List.map_cons, List.flatMap_cons]
    exact EndsLine.append (.inr (by simp)) ih

/-- Written lines are the lines of their text. -/
theorem splitLines_textOf {lines : List String} (h : ∀ l ∈ lines, IsLine l.toList) :
    splitLines (textOf lines).toList = lines.map String.toList := by
  rw [textOf_toList]
  refine splitLines_flatMap fun l mem => ?_
  obtain ⟨line, hl, rfl⟩ := List.mem_map.mp mem
  exact h line hl

/-- **The lexemes of lines that are written one after the other are those of each line.** -/
theorem map_lexeme_tokenize_textOf {lines : List String} (h : ∀ l ∈ lines, IsLine l.toList)
    (first : Int) : (Token.tokenize (textOf lines) first).map Token.lexeme =
      lines.flatMap fun l => lineLexemes l.toList := by
  rw [Token.tokenize, splitLines_textOf h, map_lexeme_ofLines, List.flatMap_map]

/-- A line of words is a line. -/
theorem isLine_lineOf {ws : List String} (h : ∀ w ∈ ws, IsWord w) : IsLine (lineOf ws).toList := by
  have only : ∀ c ∈ (lineOf ws).toList, c = ' ' ∨ isBlank c = false := by
    intro c mem
    rw [lineOf, String.toList_intercalate] at mem
    refine (mem_intercalate mem).imp_right ?_
    rintro ⟨w, hw, mem⟩
    obtain ⟨word, hword, rfl⟩ := List.mem_map.mp hw
    exact (h word hword).solid c mem
  refine ⟨fun newline => ?_, fun ends => ?_⟩
  · rcases only _ newline with same | solid <;> revert ‹_› <;> decide
  · rcases only _ (List.mem_of_getLast? ends) with same | solid <;> revert ‹_› <;> decide

/-- **A line of words, a directive the first of them, says what its words say.** -/
theorem lineLexemes_lineOf (d : Directive) {ws : List String} (h : ∀ w ∈ ws, IsWord w) :
    lineLexemes (lineOf (d.mnemonic :: ws)).toList =
      .directive d :: ws.map fun w => Lexeme.ofWord w.toList := by
  have chars : (lineOf (d.mnemonic :: ws)).toList =
      List.intercalate [' '] ((d.mnemonic :: ws).map String.toList) := by
    rw [lineOf, String.toList_intercalate]
    rfl
  have marker : hasMarker (lineOf (d.mnemonic :: ws)).toList = true := by
    obtain ⟨rest, hr⟩ : ∃ rest, (lineOf (d.mnemonic :: ws)).toList = ':' :: rest := by
      obtain ⟨name, hn⟩ : ∃ name, d.mnemonic.toList = ':' :: name := by
        cases d <;> exact ⟨_, rfl⟩
      rw [chars, List.map_cons, hn]
      cases ws.map String.toList with
      | nil => exact ⟨name, List.intercalate_singleton⟩
      | cons w ws => exact ⟨_, by rw [List.intercalate_cons_cons]; rfl⟩
    rw [hr]
    rfl
  have solid : ∀ w ∈ (d.mnemonic :: ws).map String.toList,
      w ≠ [] ∧ ∀ c ∈ w, isBlank c = false := by
    intro w mem
    obtain ⟨word, hw, rfl⟩ := List.mem_map.mp mem
    rcases List.mem_cons.mp hw with rfl | hw
    · exact ⟨(isWord_mnemonic d).filled, (isWord_mnemonic d).solid⟩
    · exact ⟨(h word hw).filled, (h word hw).solid⟩
  have split := congrArg (List.map Lexeme.ofWord) (words_intercalate solid)
  rw [List.map_map, List.map_map] at split
  rw [lineLexemes, if_pos marker, chars]
  refine split.trans ?_
  rw [List.map_cons, Function.comp_apply, ofWord_mnemonic]
  rfl

/-- **An escaped line says itself**, unless it starts as a comment does. -/
theorem lineLexemes_escape {line : List Char} (h : line.head? ≠ some '#') :
    lineLexemes (escape line) = [.textLine (String.ofList (escape line))] := by
  have start : (escape line).head? ≠ some '#' := by
    cases line with
    | nil => exact nofun
    | cons c cs =>
      by_cases colon : c = ':'
      · simp [escape, colon]
      · simpa [escape, colon] using h
  rw [lineLexemes, hasMarker_escape, if_neg Bool.false_ne_true]
  cases he : escape line with
  | nil => rfl
  | cons c cs =>
    rw [he] at start
    have other : c ≠ '#' := fun same => start (same ▸ rfl)
    simp [Lexeme.ofLine, other]

end SlideDeck
