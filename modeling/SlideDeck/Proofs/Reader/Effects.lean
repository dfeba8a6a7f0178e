import SlideDeck.Proofs.Reader.CarriedOut
import SlideDeck.Reader.Deck

/-!
# What a lexeme does to a draft

Twelve kinds of lexemes change a draft, and each in one way only: `Draft.Step` lists the ways, with
what has to hold for them. A lexeme that succeeds makes one of these steps (`step_of_apply`), so what
every step preserves is preserved by reading.

**The law** (`apply_error_unchanged`): a lexeme that fails leaves the draft as it was, its context, its
open slide, its closed slides and its defaults. An import whose path can be read is the exception. It
closes the open slide before it knows whether the other deck can be read; the slide is then the last
of the closed ones, and nothing else is different.
-/

namespace SlideDeck

/-! ## Steps -/

/-- A text with one more line, the escaped colons of which are read as colons. -/
def TextBody.addLine (b : TextBody) (line : String) : TextBody :=
  { b with text := b.text ++ String.ofList (Text.unescape line.toList ++ ['\n']) }

/-- What a directive, or a line of text, makes of the last section. -/
inductive Section.Amends : Lexeme → Section → Section → Prop where
  | position (s : Section) (v : Vec2) :
    Amends (.directive .position) s { s with position := some v }
  | size (s : Section) (v : Vec2) : Amends (.directive .size) s { s with size := some v }
  | rotation {s : Section} {b : FigureBody} (shows : s.body = .figure b) (degrees : Float) :
    Amends (.directive .rotation) s { s with body := .figure { b with rotation := degrees } }
  | fontColor {s : Section} {b : TextBody} (shows : s.body = .text b) (color : Color) :
    Amends (.directive .fontColor) s { s with body := .text { b with color := some color } }
  | line {s : Section} {b : TextBody} (shows : s.body = .text b) (line : String) :
    Amends (.textLine line) s { s with body := .text (b.addLine line) }

/-- What a directive makes of the defaults. -/
inductive Slideshow.SetsDefault : Lexeme → Slideshow → Slideshow → Prop where
  | background (s : Slideshow) (color : Color) :
    SetsDefault (.directive .background) s { s with background := some color }
  | fontColor (s : Slideshow) (color : Color) :
    SetsDefault (.directive .fontColor) s { s with fontColor := some color }
  | fontSize (s : Slideshow) (v : Vec2) :
    SetsDefault (.directive .size) s { s with fontSize := some v }

namespace Draft

variable {around : Surroundings} {d d' : Draft} {l : Lexeme} {window : List Lexeme} {count : Nat}

/-- What a lexeme that succeeds does to a draft. -/
inductive Step (around : Surroundings) : Lexeme → Draft → Draft → Prop where
  | comment (line : String) (d : Draft) : Step around (.comment line) d d
  | blank {line : String} {d : Draft} (outside : d.context ≠ .text)
    (blank : Text.isBlankLine line.toList = true) : Step around (.textLine line) d d
  | defaults (d : Draft) : Step around (.directive .defaults) d (d.enter .defaults)
  | slide (d : Draft) : Step around (.directive .slide) d ⟨d.take, some {}, .slide⟩
  | text {d : Draft} {open_ : Slide} (there : d.slide = some open_) :
    Step around (.directive .text) d (onSection d.slideshow open_ ⟨none, none, .text {}⟩ .text)
  | figure {d : Draft} {open_ : Slide} (there : d.slide = some open_) {written : String}
    {found : Path}
    (resolved : around.files.resolve (around.base.join (Path.ofString written)) = .ok found) :
    Step around (.directive .figure) d
      (onSection d.slideshow open_ ⟨none, none, .figure ⟨found.text, 0.0⟩⟩ .figure)
  | default {l : Lexeme} {d : Draft} {s : Slideshow} (inside : d.context = .defaults)
    (sets : Slideshow.SetsDefault l d.slideshow s) : Step around l d { d with slideshow := s }
  | background {d : Draft} {open_ : Slide} (inside : d.context = .slide)
    (there : d.slide = some open_) (color : Color) :
    Step around (.directive .background) d
      { d with slide := some { open_ with background := some color } }
  | amend {l : Lexeme} {s : Slideshow} {open_ : Slide} {last last' : Section} {c : Context}
    (inside : c = .text ∨ c = .figure) (amends : Section.Amends l last last') :
    Step around l (onSection s open_ last c) (onSection s open_ last' c)
  | importDeck {d : Draft} {written : String} {other : Slideshow}
    (read : around.load (around.base.join (Path.ofString written)) = .ok other) :
    Step around (.directive .importDeck) d
      ⟨{ d.take with slides := d.take.slides ++ other.slides }, none, .imported⟩

/-- The last section of a draft is changed where it stands. -/
theorem Step.of_lastSection {last last' : Section} {f : Section → Section}
    (there : d.lastSection = .ok last) (inside : d.context = .text ∨ d.context = .figure)
    (amends : Section.Amends l last last') (changed : f last = last') :
    Step around l d (d.changeSection f) := by
  obtain ⟨open_, on⟩ := eq_onSection there
  rw [on]
  simpa [changed] using Step.amend inside amends

theorem shows_of_lastText {b : TextBody} (h : d.lastText = .ok b) :
    ∃ last, d.lastSection = .ok last ∧ last.body = .text b := by
  unfold lastText at h
  split at h
  · cases h
  · rename_i last there
    split at h
    · rename_i shows
      cases h
      exact ⟨last, there, shows⟩
    · cases h

theorem shows_of_lastFigure {b : FigureBody} (h : d.lastFigure = .ok b) :
    ∃ last, d.lastSection = .ok last ∧ last.body = .figure b := by
  unfold lastFigure at h
  split at h
  · cases h
  · rename_i last there
    split at h
    · rename_i shows
      cases h
      exact ⟨last, there, shows⟩
    · cases h

/-! ## Lexemes that succeed -/

/-- What is carried out is one of the steps. -/
theorem CarriesOut.step (h : CarriesOut around d window l d' count) : Step around l d d' := by
  cases h with
  | defaults => exact .defaults d
  | slide => exact .slide d
  | comment => exact .comment _ d
  | blank outside blank => exact .blank outside blank
  | text pushed =>
    obtain ⟨open_, there, rfl⟩ := eq_onSection_of_pushSection pushed
    exact .text there
  | figure path resolved pushed =>
    obtain ⟨open_, there, rfl⟩ := eq_onSection_of_pushSection pushed
    exact .figure there resolved
  | defaultSize inside => exact .default inside (.fontSize _ _)
  | defaultFontColor inside => exact .default inside (.fontColor _ _)
  | defaultBackground inside => exact .default inside (.background _ _)
  | position inside there =>
    exact .of_lastSection there (by simpa using inside) (.position _ _) rfl
  | size inside there => exact .of_lastSection there (by simpa using inside) (.size _ _) rfl
  | rotation inside shown =>
    obtain ⟨last, there, shows⟩ := shows_of_lastFigure shown
    exact .of_lastSection there (.inr inside) (.rotation shows _) rfl
  | fontColor inside shown =>
    obtain ⟨last, there, shows⟩ := shows_of_lastText shown
    exact .of_lastSection there (.inl inside) (.fontColor shows _) rfl
  | line inside shown =>
    obtain ⟨last, there, shows⟩ := shows_of_lastText shown
    exact .of_lastSection there (.inl inside) (.line shows _) rfl
  | @background open_ color _ inside current =>
    have there := currentSlide_eq_ok_iff.mp current
    have changed : d.changeSlide (fun s => { s with background := some color }) =
        { d with slide := some { open_ with background := some color } } := by
      rw [changeSlide, there, Option.map_some]
    rw [changed]
    exact .background inside there color
  | @importDeck _ other _ loaded =>
    have made : (d.flush.changeDefaults fun s => { s with slides := s.slides ++ other.slides }).enter
        .imported = ⟨{ d.take with slides := d.take.slides ++ other.slides }, none, .imported⟩ := by
      simp [changeDefaults, enter]
    rw [made]
    exact .importDeck loaded

/-- **A lexeme that succeeds makes one of the steps.** -/
theorem step_of_apply (h : apply around d l window = (d', .ok count)) : Step around l d d' :=
  (carriesOut_of_apply h).step

/-! ## Lexemes that fail -/

/-- A lexeme that closes the open slide while it may still fail: an import that has its path. -/
def ClosesFirst (l : Lexeme) (window : List Lexeme) : Prop :=
  l = .directive .importDeck ∧ ∃ written rest, window = .word written :: rest

variable {failure : Failure}

theorem eq_of_attemptDeck_error {x : Except DeckError (Draft × Nat)}
    (h : d.attemptDeck x = (d', .error failure)) : d' = d := by
  cases x with
  | error e =>
    cases h
    rfl
  | ok pair => cases h

theorem eq_of_attempt_error {x : Except Failure (Draft × Nat)}
    (h : d.attempt x = (d', .error failure)) : d' = d := by
  cases x with
  | error e =>
    cases h
    rfl
  | ok pair => cases h

/-- An import that fails has closed the open slide if its path could be read. -/
theorem eq_of_applyImport_error (h : applyImport around d window = (d', .error failure)) :
    (∃ written rest, window = .word written :: rest) ∧ d' = d.flush ∨
      (¬ ∃ written rest, window = .word written :: rest) ∧ d' = d := by
  unfold applyImport at h
  split at h
  · rename_i unread
    cases h
    refine .inr ⟨?_, rfl⟩
    rintro ⟨written, rest, rfl⟩
    cases unread
  · rename_i written path
    refine .inl ⟨?_, ?_⟩
    · unfold Argument.path at path
      split at path
      · exact ⟨_, _, rfl⟩
      · cases path
      · cases path
    · simp only at h
      split at h
      · cases h
        rfl
      · cases h

/-- **A lexeme that fails changes nothing**, or closes the open slide first. -/
theorem eq_of_apply_error (h : apply around d l window = (d', .error failure)) :
    ClosesFirst l window ∧ d' = d.flush ∨ ¬ ClosesFirst l window ∧ d' = d := by
  -- All lexemes but the import are checked before they change anything.
  have other : l ≠ .directive .importDeck → d' = d →
      ClosesFirst l window ∧ d' = d.flush ∨ ¬ ClosesFirst l window ∧ d' = d :=
    fun differs same => .inr ⟨fun closes => differs closes.1, same⟩
  cases l with
  | directive directive =>
    cases directive with
    | defaults | slide => cases h
    | figure => exact other (by simp) (eq_of_attempt_error h)
    | importDeck =>
      rcases eq_of_applyImport_error h with ⟨path, closed⟩ | ⟨noPath, same⟩
      · exact .inl ⟨⟨rfl, path⟩, closed⟩
      · exact .inr ⟨fun closes => noPath closes.2, same⟩
    | text | position | size | rotation | fontColor | background =>
      exact other (by simp) (eq_of_attemptDeck_error h)
  | textLine line => exact other (by simp) (eq_of_attemptDeck_error h)
  | comment line => cases h
  | word | number =>
    cases h
    exact other (by simp) rfl

/-- **A lexeme that fails leaves the draft as it was**, unless it is an import that has its path and
finds a slide open. Even then the context stays, and the slides with the open one behind them. -/
theorem apply_error_unchanged (h : apply around d l window = (d', .error failure)) :
    (d' = d ↔ ¬ (ClosesFirst l window ∧ d.slide.isSome)) ∧
      d'.context = d.context ∧ d'.take = d.take := by
  rcases eq_of_apply_error h with ⟨closes, rfl⟩ | ⟨keeps, rfl⟩
  · refine ⟨⟨fun same open_ => ?_, fun shut => ?_⟩, by simp, by simp⟩
    · rw [← same] at open_
      simp at open_
    · exact flush_of_none (Option.not_isSome_iff_eq_none.mp fun open_ => shut ⟨closes, open_⟩)
  · exact ⟨⟨fun _ open_ => keeps open_.1, fun _ => rfl⟩, rfl, rfl⟩

/-- A missing deck is imported into a text section. -/
theorem apply_error_unchanged_import :
    ∃ d' failure, apply ⟨{}, Path.ofString ".", Deck.loader {} {} []⟩
        (onSection {} {} ⟨none, none, .text {}⟩ .text) (.directive .importDeck)
        [.word "missing.deck"] = (d', .error failure) ∧
      d' ≠ onSection {} {} ⟨none, none, .text {}⟩ .text ∧ d'.context = .text ∧
      d'.take = { slides := [{ sections := [⟨none, none, .text {}⟩] }] } := by
  have failed : apply ⟨{}, Path.ofString ".", Deck.loader {} {} []⟩
      (onSection {} {} ⟨none, none, .text {}⟩ .text) (.directive .importDeck)
      [.word "missing.deck"] =
        (⟨{ slides := [{ sections := [⟨none, none, .text {}⟩] }] }, none, .text⟩,
          .error (.ofError (.importNotFound (Path.ofString "missing.deck")
            (.refused .noEntry "missing.deck")))) := by decide +kernel
  obtain ⟨unchanged, context, slides⟩ := apply_error_unchanged failed
  exact ⟨_, _, failed, fun same => unchanged.mp same ⟨⟨rfl, _, _, rfl⟩, rfl⟩, context, slides⟩

/-- Not every lexeme that fails leaves an open slide open: one that imports a missing deck has closed
it. -/
theorem slide_closed_by_missing_import :
    ¬ ∀ (around : Surroundings) (tokens : List Token) (l : Lexeme) (window : List Lexeme)
      (d' : Draft) (failure : Failure),
      apply around (read around {} tokens).1 l window = (d', .error failure) →
      d'.slideshow = (read around {} tokens).1.slideshow ∧
        d'.slide = (read around {} tokens).1.slide ∧
        d'.context = (read around {} tokens).1.context := by
  intro law
  have same := law ⟨{}, Path.ofString ".", Deck.loader {} {} []⟩ (Token.tokenize ":sl\n" 0)
    (.directive .importDeck) [.word "missing.deck"] ⟨{ slides := [{}] }, none, .slide⟩
    (.ofError (.importNotFound (Path.ofString "missing.deck") (.refused .noEntry "missing.deck")))
    (by decide +kernel)
  exact absurd same.2.1 (by decide +kernel)

end Draft

end SlideDeck
