import SlideDeck.Proofs.Printer.RoundTrip
import SlideDeck.Proofs.Reader.Shape
import SlideDeck.Proofs.Text.Replace

/-!
# Escaped lines

A line of text is written with its colons escaped, and its escapes are taken away when it is read. The
one is the replacement of each colon (`escape_eq_replace`), the other of each backslash with a colon
behind it (`unescape_eq_replace`), in both cases from left to right. A colon in an escaped line always
has its own backslash before it. So what the line held before does not matter, backslashes before its
colons neither: nothing in it is a marker, and nothing but what was put in is taken out.

**The law** (`Draft.read_escaped_lines`): any lines that no comment starts and no carriage return ends
are read back in a text section as they were before they were escaped.
-/

namespace SlideDeck

open SlideDeck.Text

namespace Text

/-! ## Replacement -/

/-- Escaping replaces the colons. -/
theorem escape_eq_replace (cs : List Char) : escape cs = replace [':'] ['\\', ':'] cs := by
  unfold replace
  induction cs with
  | nil => rfl
  | cons c cs ih =>
    rw [escape, replaceFrom, ih]
    by_cases colon : c = ':'
    · simp [colon, List.isPrefixOf]
    · simp [colon, Ne.symm colon, List.isPrefixOf]

/-- Taking escapes away replaces the escaped colons. -/
theorem unescape_eq_replace (cs : List Char) : unescape cs = replace ['\\', ':'] [':'] cs := by
  unfold replace
  fun_induction unescape cs with
  | case1 => rfl
  | case2 cs ih =>
    rw [ih]
    rfl
  | case3 c cs other ih =>
    have plain : ['\\', ':'].isPrefixOf (c :: cs) = false := by
      refine Bool.eq_false_iff.mpr fun starts => ?_
      obtain ⟨rest, split⟩ := List.isPrefixOf_iff_prefix.mp starts
      obtain ⟨rfl, rfl⟩ := List.cons.inj split
      exact other rest rfl rfl
    rw [ih, replaceFrom, plain, if_neg Bool.false_ne_true]

/-- A line with its colons escaped. -/
def escaped (line : String) : String :=
  String.ofList (escape line.toList)

end Text

/-! ## Lines -/

/-- A line of text that no carriage return ends is one line when it is escaped, and says its line. -/
theorem lineLexemes_escaped {line : String} (text : IsTextLine line.toList)
    (last : line.toList.getLast? ≠ some '\r') :
    IsLine (escaped line).toList ∧ lineLexemes (escaped line).toList = [lineLexeme line.toList] := by
  rw [escaped, String.toList_ofList, lineLexemes_escape text.2]
  exact ⟨isLine_escape text.1 last, rfl⟩

namespace Draft

section Lines

variable {lines : List String}
  (h : ∀ line ∈ lines, IsTextLine line.toList ∧ line.toList.getLast? ≠ some '\r')
include h

theorem isLine_of_mem_escaped : ∀ written ∈ lines.map escaped, IsLine written.toList := by
  intro written mem
  obtain ⟨line, inside, rfl⟩ := List.mem_map.mp mem
  exact (lineLexemes_escaped (h line inside).1 (h line inside).2).1

/-- Escaped lines say their lines, one after the other. -/
@[simp]
theorem lexemes_escaped (first : Int) :
    (Token.tokenize (textOf (lines.map escaped)) first).map Token.lexeme =
      (lines.map String.toList).map lineLexeme := by
  rw [map_lexeme_tokenize_textOf (isLine_of_mem_escaped h)]
  induction lines with
  | nil => rfl
  | cons line lines ih =>
    obtain ⟨one, others⟩ := List.forall_mem_cons.mp h
    rw [List.map_cons, List.flatMap_cons, ih others, (lineLexemes_escaped one.1 one.2).2]
    rfl

/-- What comes after escaped lines is counted from the line after them. -/
theorem tokenize_escaped (after : String) (first : Int) :
    Token.tokenize (textOf (lines.map escaped) ++ after) first =
      Token.tokenize (textOf (lines.map escaped)) first ++
        Token.tokenize after (first + lines.length) := by
  rw [Token.tokenize_append (endsLine_textOf _), splitLines_textOf (isLine_of_mem_escaped h),
    List.length_map, List.length_map]

/-- **Escaped lines are read back.** -/
theorem read_lines (around : Surroundings) (s : Slideshow) (open_ : Slide)
    (size position : Option Vec2) (body : TextBody) (after : String) (first : Int) :
    read around (onSection s open_ ⟨size, position, .text body⟩ .text)
        (Token.tokenize (textOf (lines.map escaped) ++ after) first) =
      read around
        (onSection s open_
          ⟨size, position, .text { body with text := body.text ++ textOf lines }⟩ .text)
        (Token.tokenize after (first + lines.length)) := by
  have taken : Takes around (onSection s open_ ⟨size, position, .text body⟩ .text)
      ((lines.map String.toList).map lineLexeme)
      (onSection s open_
        ⟨size, position, .text { body with text := body.text ++ textOf lines }⟩ .text) := by
    rw [← String.ofList_toList (s := textOf lines), textOf_toList]
    exact takes_textLines _ body
  rw [tokenize_escaped h, read, taken _ _ (lexemes_escaped h first), read]

end Lines

/-- The escaped form of a text replaces its colons, and holds no marker; the reader replaces the escaped
colons, and has the text as it was. So lines of text that are written escaped into a text section are
read back exactly, and what comes after them is read as it is without them. -/
theorem read_escaped_lines :
    (∀ cs : List Char, escape cs = replace [':'] ['\\', ':'] cs ∧ hasMarker (escape cs) = false ∧
      unescape (escape cs) = replace ['\\', ':'] [':'] (escape cs) ∧ unescape (escape cs) = cs) ∧
    ∀ lines : List String,
      (∀ line ∈ lines, IsTextLine line.toList ∧ line.toList.getLast? ≠ some '\r') →
      ∀ (around : Surroundings) (s : Slideshow) (open_ : Slide) (size position : Option Vec2)
        (body : TextBody) (after : String) (first : Int),
        read around (onSection s open_ ⟨size, position, .text body⟩ .text)
            (Token.tokenize (textOf (lines.map escaped) ++ after) first) =
          read around
            (onSection s open_
              ⟨size, position, .text { body with text := body.text ++ textOf lines }⟩ .text)
            (Token.tokenize after (first + lines.length)) :=
  ⟨fun cs => ⟨escape_eq_replace cs, hasMarker_escape cs, unescape_eq_replace _, unescape_escape cs⟩,
    fun _ h => read_lines h⟩

/-- Two lines, with backslashes before their colons and with colons in a row, and a slide after them. -/
theorem read_escaped_lines_backslashes :
    let around : Surroundings := ⟨{}, Path.ofString ".", Deck.loader {} {} []⟩
    let lines := ["\\:a\\\\:", "::b"]
    textOf (lines.map escaped) = "\\\\:a\\\\\\:\n\\:\\:b\n" ∧
      read around (onSection {} {} ⟨none, none, .text { text := "A\n" }⟩ .text)
          (Token.tokenize (textOf (lines.map escaped) ++ ":sl") 7) =
        (⟨⟨[⟨none, [⟨none, none, .text { text := "A\n\\:a\\\\:\n::b\n" }⟩]⟩], {}, none, none, none⟩,
          some {}, .slide⟩, .ok ()) := by
  intro around lines
  refine ⟨by decide +kernel, ?_⟩
  rw [read_escaped_lines.2 lines]
  · decide +kernel
  · intro line mem
    rcases List.mem_cons.mp mem with rfl | mem
    · exact ⟨⟨by decide, by decide⟩, by decide⟩
    · rw [List.mem_singleton.mp mem]
      exact ⟨⟨by decide, by decide⟩, by decide⟩

end Draft

end SlideDeck
