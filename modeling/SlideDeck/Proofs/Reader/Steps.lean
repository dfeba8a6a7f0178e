import SlideDeck.Proofs.Printer.Lexemes
import SlideDeck.Proofs.Reader.Parts

/-!
# Reading what is written

Every directive that is written into a deck brings all its arguments along, so what it does is settled
by its own lexemes: it takes a draft to another one, whatever stands after it (`Draft.Takes`). Such
steps follow each other, and what a list of lexemes does is what its parts do (`Takes.append`).

One thing can go wrong with what is written: the file of a figure may not be there. Then reading stops
at the directive of that figure, of which the tokens hold so many before it (`Draft.Stops`).

A section is read onto the open slide and changed while it is the last one there
(`Draft.onSection`).
-/

namespace SlideDeck.Draft

variable {around : Surroundings} {d d' d'' : Draft} {ls ms : List Lexeme}

/-! ## Steps -/

/-- Reading the lexemes takes the one draft to the other, whatever follows them. -/
def Takes (around : Surroundings) (d : Draft) (ls : List Lexeme) (d' : Draft) : Prop :=
  ∀ tokens rest, tokens.map Token.lexeme = ls →
    readFrom around 0 d (tokens ++ rest) = readFrom around 0 d' rest

/-- The tokens of the directive that figures start with. -/
def figureTokens (tokens : List Token) : List Token :=
  tokens.filter fun t => t.lexeme = .directive .figure

@[simp]
theorem figureTokens_append (a b : List Token) :
    figureTokens (a ++ b) = figureTokens a ++ figureTokens b :=
  List.filter_append ..

/-- Reading the lexemes stops with an error at the directive of a figure, after so many others. -/
def Stops (around : Surroundings) (d : Draft) (ls : List Lexeme) (before : Nat) (e : DeckError) :
    Prop :=
  ∀ tokens rest, tokens.map Token.lexeme = ls →
    ∃ t, (figureTokens tokens)[before]? = some t ∧
      ∃ d', readFrom around 0 d (tokens ++ rest) = (d', .error (.deck ⟨e, some t⟩))

/-- A directive sees its arguments, if they are not too many, and perhaps more. -/
theorem exists_window_append {args : List Token} (few : args.length ≤ windowSize)
    (rest : List Token) :
    ∃ more, ((args ++ rest).take windowSize).map Token.lexeme = args.map Token.lexeme ++ more := by
  rw [List.take_append, List.take_of_length_le few, List.map_append]
  exact ⟨_, rfl⟩

namespace Takes

theorem nil (d : Draft) : Takes around d [] d := by
  intro tokens rest h
  rw [List.map_eq_nil_iff.mp h, List.nil_append]

theorem append (h : Takes around d ls d') (h' : Takes around d' ms d'') :
    Takes around d (ls ++ ms) d'' := by
  intro tokens rest split
  obtain ⟨first, second, rfl, hfirst, hsecond⟩ := List.map_eq_append_iff.mp split
  rw [List.append_assoc, h first _ hfirst, h' second _ hsecond]

/-- Arguments that are taken are passed over. -/
@[simp]
theorem readFrom_length (args rest : List Token) :
    readFrom around args.length d (args ++ rest) = readFrom around 0 d rest := by
  induction args with
  | nil => rfl
  | cons t args ih => exact ih

/-- So are arguments with nothing behind them. -/
@[simp]
theorem readFrom_length_self (args : List Token) :
    readFrom around args.length d args = (d, .ok ()) := by
  have past : readFrom around args.length d (args ++ []) = (d, .ok ()) := readFrom_length args []
  rwa [List.append_nil] at past

/-- A directive with all its arguments, of which there are no more than it looks at. -/
theorem of_apply {l : Lexeme} {args : List Lexeme} (few : args.length ≤ windowSize)
    (h : ∀ more, apply around d l (args ++ more) = (d', .ok args.length)) :
    Takes around d (l :: args) d' := by
  intro tokens rest said
  obtain ⟨t, argTokens, rfl, rfl, rfl⟩ := List.map_eq_cons_iff.mp said
  rw [List.length_map] at few h
  obtain ⟨more, window⟩ := exists_window_append few rest
  simp only [List.cons_append, readFrom, window, h more]
  exact readFrom_length argTokens rest

end Takes

namespace Stops

variable {before : Nat} {e : DeckError}

/-- A draft that is reached before the reading stops. -/
theorem after (h : Takes around d ls d') (h' : Stops around d' ms before e) :
    Stops around d (ls ++ ms) (ls.count (.directive .figure) + before) e := by
  intro tokens rest split
  obtain ⟨first, second, rfl, hfirst, hsecond⟩ := List.map_eq_append_iff.mp split
  obtain ⟨t, place, stopped, stops⟩ := h' second rest hsecond
  refine ⟨t, ?_, stopped, by rw [List.append_assoc, h first _ hfirst, stops]⟩
  have count : (figureTokens first).length = ls.count (.directive .figure) := by
    rw [← hfirst, List.count_eq_countP, List.countP_map, figureTokens, List.countP_eq_length_filter]
    congr 2
  rw [figureTokens_append, ← count, List.getElem?_append_right (Nat.le_add_right _ _),
    Nat.add_sub_cancel_left]
  exact place

/-- What would come after makes no difference. -/
theorem append (h : Stops around d ls before e) (ms : List Lexeme) :
    Stops around d (ls ++ ms) before e := by
  intro tokens rest split
  obtain ⟨first, second, rfl, hfirst, _⟩ := List.map_eq_append_iff.mp split
  obtain ⟨t, place, stopped, stops⟩ := h first (second ++ rest) hfirst
  refine ⟨t, ?_, stopped, by rw [List.append_assoc, stops]⟩
  rw [figureTokens_append, List.getElem?_append_left (List.getElem?_eq_some_iff.mp place).1]
  exact place

end Stops

/-! ## The last section -/

section Section

variable {s : Slideshow} {open_ : Slide} {last : Section} {c : Context}

@[simp]
theorem size_pair (x y : Float) (more : List Lexeme) :
    Argument.size (.number x :: .number y :: more) = .ok (⟨x, y⟩, 2) := rfl

@[simp]
theorem color_toHex (c : Color) (more : List Lexeme) :
    Argument.color (.word c.toHex :: more) = .ok (c, 1) := by
  have word : ∀ failed, (Argument.colorWord failed (.word c.toHex)).map (·, 1) = .ok (c, 1) := by
    intro failed
    simp only [Argument.colorWord, parse_toHex]
    rfl
  match more with
  | [] | [_] | [_, _] => exact word none
  | g :: b :: a :: more =>
    have failed : ∃ e, Argument.channels (.word c.toHex) g b a = .error e := ⟨_, rfl⟩
    obtain ⟨e, failed⟩ := failed
    simp only [Argument.color, failed]
    exact word (some e)

variable {size position : Option Vec2} {body : Body}

theorem takes_position (h : c = .text ∨ c = .figure) (v : Vec2) :
    Takes around (onSection s open_ ⟨size, position, body⟩ c) (pairLexemes .position v)
      (onSection s open_ ⟨size, some v, body⟩ c) := by
  refine Takes.of_apply (by simp [windowSize]) fun more => ?_
  simp [apply, applyPosition, Argument.number, attemptDeck, h]

theorem takes_size (h : c = .text ∨ c = .figure) (v : Vec2) :
    Takes around (onSection s open_ ⟨size, position, body⟩ c) (pairLexemes .size v)
      (onSection s open_ ⟨some v, position, body⟩ c) := by
  refine Takes.of_apply (by simp [windowSize]) fun more => ?_
  have inside : c ≠ .defaults := by rcases h with rfl | rfl <;> decide
  simp [apply, applySize, attemptDeck, h, inside]

theorem takes_rotation (path : String) (before rotation : Float) :
    Takes around (onSection s open_ ⟨size, position, .figure ⟨path, before⟩⟩ .figure)
      [.directive .rotation, .number rotation]
      (onSection s open_ ⟨size, position, .figure ⟨path, rotation⟩⟩ .figure) := by
  refine Takes.of_apply (by simp [windowSize]) fun more => ?_
  simp [apply, applyRotation, Argument.number, attemptDeck]

theorem takes_fontColor (body : TextBody) (color : Color) :
    Takes around (onSection s open_ ⟨size, position, .text body⟩ .text)
      (colorLexemes .fontColor color)
      (onSection s open_ ⟨size, position, .text { body with color := some color }⟩ .text) := by
  refine Takes.of_apply (by simp [windowSize]) fun more => ?_
  simp [apply, applyFontColor, attemptDeck]

theorem takes_textLine (body : TextBody) (line : List Char) :
    Takes around (onSection s open_ ⟨size, position, .text body⟩ .text) [lineLexeme line]
      (onSection s open_
        ⟨size, position, .text { body with text := body.text ++ String.ofList (line ++ ['\n']) }⟩
        .text) := by
  refine Takes.of_apply (by simp [windowSize]) fun more => ?_
  simp [lineLexeme, apply, applyTextLine, attemptDeck, Text.unescape_escape]

/-- A text section is opened on the open slide. -/
theorem takes_text (h : d.slide = some open_) :
    Takes around d [.directive .text]
      (onSection d.slideshow open_ ⟨none, none, .text {}⟩ .text) := by
  refine Takes.of_apply (by simp [windowSize]) fun more => ?_
  simp only [apply, applyText, pushSection, currentSlide, h, changeSlide, Option.map_some]
  rfl

/-- A figure whose file is there is opened on the open slide, under its canonical path. -/
theorem takes_figure (h : d.slide = some open_) {written : String} {found : Path}
    (resolved : around.files.resolve (around.base.join (Path.ofString written)) = .ok found) :
    Takes around d [.directive .figure, .word written]
      (onSection d.slideshow open_ ⟨none, none, .figure ⟨found.text, 0.0⟩⟩ .figure) := by
  refine Takes.of_apply (by simp [windowSize]) fun more => ?_
  have path : Argument.path ([.word written] ++ more) "a figure" = .ok written := rfl
  simp only [apply, applyFigure, pushSection, currentSlide, h, path, resolved, changeSlide,
    Option.map_some]
  rfl

/-- Reading stops at a figure whose file is not there. -/
theorem stops_figure (around : Surroundings) (h : d.slide = some open_) {written : String} {fault : Fault}
    (missing : around.files.resolve (around.base.join (Path.ofString written)) = .error fault)
    (noLoop : ∀ path, fault ≠ .linkLoop path) (more : List Lexeme) :
    Stops around d (.directive .figure :: .word written :: more) 0
      (.figureNotFound written around.base fault) := by
  intro tokens rest said
  obtain ⟨t, args, rfl, ht, hargs⟩ := List.map_eq_cons_iff.mp said
  obtain ⟨u, others, rfl, hu, -⟩ := List.map_eq_cons_iff.mp hargs
  refine ⟨t, ?_, d, ?_⟩
  · rw [figureTokens, List.filter_cons_of_pos (by simp [ht])]
    rfl
  · have window : ∃ later, (((u :: others) ++ rest).take windowSize).map Token.lexeme =
        .word written :: later := by
      rw [List.cons_append]
      exact ⟨_, by rw [show windowSize = 3 + 1 from rfl, List.take_succ_cons, List.map_cons, hu]⟩
    obtain ⟨later, window⟩ := window
    have path : Argument.path (.word written :: later) "a figure" = .ok written := rfl
    have failed : applyFigure around d (.word written :: later) =
        .error (.ofError (.figureNotFound written around.base fault)) := by
      simp only [applyFigure, currentSlide, h, path, missing]
    rw [List.cons_append, readFrom, window, ht]
    simp only [apply, attempt, failed]
    rfl

end Section

/-! ## Slides and defaults -/

/-- A slide is opened, and the one before it closed. -/
theorem takes_slide (d : Draft) :
    Takes around d [.directive .slide] ⟨d.take, some {}, .slide⟩ := by
  refine Takes.of_apply (by simp [windowSize]) fun more => ?_
  rfl

/-- The background of a slide that has no sections yet. -/
theorem takes_background (s : Slideshow) (open_ : Slide) (color : Color) :
    Takes around ⟨s, some open_, .slide⟩ (colorLexemes .background color)
      ⟨s, some { open_ with background := some color }, .slide⟩ := by
  refine Takes.of_apply (by simp [windowSize]) fun more => ?_
  simp [apply, applyBackground, currentSlide, changeSlide, attemptDeck]

theorem takes_defaults (d : Draft) :
    Takes around d [.directive .defaults] (d.enter .defaults) :=
  Takes.of_apply (by simp [windowSize]) fun _ => rfl

theorem takes_defaultBackground (s : Slideshow) (open_ : Option Slide) (color : Color) :
    Takes around ⟨s, open_, .defaults⟩ (colorLexemes .background color)
      ⟨{ s with background := some color }, open_, .defaults⟩ := by
  refine Takes.of_apply (by simp [windowSize]) fun more => ?_
  simp [apply, applyBackground, changeDefaults, attemptDeck]

theorem takes_defaultColor (s : Slideshow) (open_ : Option Slide) (color : Color) :
    Takes around ⟨s, open_, .defaults⟩ (colorLexemes .fontColor color)
      ⟨{ s with fontColor := some color }, open_, .defaults⟩ := by
  refine Takes.of_apply (by simp [windowSize]) fun more => ?_
  simp [apply, applyFontColor, changeDefaults, attemptDeck]

theorem takes_defaultSize (s : Slideshow) (open_ : Option Slide) (v : Vec2) :
    Takes around ⟨s, open_, .defaults⟩ (pairLexemes .size v)
      ⟨{ s with fontSize := some v }, open_, .defaults⟩ := by
  refine Takes.of_apply (by simp [windowSize]) fun more => ?_
  simp [apply, applySize, changeDefaults, attemptDeck]

end SlideDeck.Draft
