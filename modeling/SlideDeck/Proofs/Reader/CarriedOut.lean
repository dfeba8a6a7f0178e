import SlideDeck.Proofs.Reader.Colors
import SlideDeck.Proofs.Reader.Parts
import SlideDeck.Proofs.Reader.Window

/-!
# A lexeme that is carried out

`Draft.CarriesOut` lists the ways in which a lexeme succeeds: what it asks of the draft, what it reads
from its window, how many lexemes of it that are, and what becomes of the draft. These are all the ways
(`carriesOut_of_apply`), and what is carried out in one of them does succeed (`CarriesOut.apply_eq`).
So a fact about lexemes that succeed is shown by its cases, and no directive has to be opened again.
-/

namespace SlideDeck

/-! ## Counts of arguments

What is read from a window stands in it. -/

namespace Argument

variable {window : List Lexeme} {count : Nat}

theorem length_pos_of_path {what p : String} (h : path window what = .ok p) :
    1 ≤ window.length := by
  cases window with
  | nil => cases h
  | cons l rest => exact Nat.succ_le_succ (Nat.zero_le _)

theorem size_count_le {v : Vec2} (h : size window = .ok (v, count)) : count ≤ window.length := by
  unfold size at h
  split at h <;> cases h <;> simp

theorem color_count_le {c : Color} (h : color window = .ok (c, count)) :
    count ≤ window.length := by
  rcases (color_eq_ok_iff window c count).mp h with
    ⟨rfl, r, g, b, a, rest, rfl, -⟩ | ⟨rfl, w, rest, rfl, -⟩
  · simp
  · simp

end Argument

namespace Draft

/-! ## Lexemes that succeed -/

/-- A lexeme succeeds: what it makes of the draft, and how many lexemes it takes. -/
inductive CarriesOut (around : Surroundings) (d : Draft) (window : List Lexeme) :
    Lexeme → Draft → Nat → Prop where
  | defaults : CarriesOut around d window (.directive .defaults) (d.enter .defaults) 0
  | slide : CarriesOut around d window (.directive .slide) d.applySlide 0
  | text {d' : Draft} (pushed : d.pushSection (.text {}) = .ok d') :
    CarriesOut around d window (.directive .text) (d'.enter .text) 0
  | figure {written : String} {found : Path} {d' : Draft}
    (path : Argument.path window "a figure" = .ok written)
    (resolved : around.files.resolve (around.base.join (Path.ofString written)) = .ok found)
    (pushed : d.pushSection (.figure ⟨found.text, 0.0⟩) = .ok d') :
    CarriesOut around d window (.directive .figure) (d'.enter .figure) 1
  | position {last : Section} {x y : Float} (inside : d.context ∈ [.text, .figure])
    (there : d.lastSection = .ok last) (first : Argument.number window 0 "position" = .ok x)
    (second : Argument.number window 1 "position" = .ok y) :
    CarriesOut around d window (.directive .position)
      (d.changeSection fun s => { s with position := some ⟨x, y⟩ }) 2
  | defaultSize {v : Vec2} {count : Nat} (inside : d.context = .defaults)
    (size : Argument.size window = .ok (v, count)) :
    CarriesOut around d window (.directive .size)
      (d.changeDefaults fun s => { s with fontSize := some v }) count
  | size {last : Section} {v : Vec2} {count : Nat} (inside : d.context ∈ [.text, .figure])
    (there : d.lastSection = .ok last) (size : Argument.size window = .ok (v, count)) :
    CarriesOut around d window (.directive .size)
      (d.changeSection fun s => { s with size := some v }) count
  | rotation {body : FigureBody} {degrees : Float} (inside : d.context = .figure)
    (shown : d.lastFigure = .ok body)
    (first : Argument.number window 0 "rotation" = .ok degrees) :
    CarriesOut around d window (.directive .rotation)
      (d.changeSection fun s => { s with body := .figure { body with rotation := degrees } }) 1
  | defaultFontColor {c : Color} {count : Nat} (inside : d.context = .defaults)
    (color : Argument.color window = .ok (c, count)) :
    CarriesOut around d window (.directive .fontColor)
      (d.changeDefaults fun s => { s with fontColor := some c }) count
  | fontColor {body : TextBody} {c : Color} {count : Nat} (inside : d.context = .text)
    (shown : d.lastText = .ok body) (color : Argument.color window = .ok (c, count)) :
    CarriesOut around d window (.directive .fontColor)
      (d.changeSection fun s => { s with body := .text { body with color := some c } }) count
  | defaultBackground {c : Color} {count : Nat} (inside : d.context = .defaults)
    (color : Argument.color window = .ok (c, count)) :
    CarriesOut around d window (.directive .background)
      (d.changeDefaults fun s => { s with background := some c }) count
  | background {open_ : Slide} {c : Color} {count : Nat} (inside : d.context = .slide)
    (there : d.currentSlide = .ok open_) (color : Argument.color window = .ok (c, count)) :
    CarriesOut around d window (.directive .background)
      (d.changeSlide fun s => { s with background := some c }) count
  | importDeck {written : String} {other : Slideshow}
    (path : Argument.path window "an import" = .ok written)
    (loaded : around.load (around.base.join (Path.ofString written)) = .ok other) :
    CarriesOut around d window (.directive .importDeck)
      ((d.flush.changeDefaults fun s => { s with slides := s.slides ++ other.slides }).enter
        .imported) 1
  | line {line : String} {body : TextBody} (inside : d.context = .text)
    (shown : d.lastText = .ok body) :
    CarriesOut around d window (.textLine line)
      (d.changeSection fun s => { s with body := .text { body with
        text := body.text ++ String.ofList (Text.unescape line.toList ++ ['\n']) } }) 0
  | blank {line : String} (outside : d.context ≠ .text)
    (blank : Text.isBlankLine line.toList = true) : CarriesOut around d window (.textLine line) d 0
  | comment {line : String} : CarriesOut around d window (.comment line) d 0

variable {around : Surroundings} {d d' : Draft} {l : Lexeme} {window : List Lexeme} {count : Nat}

/-- A step of a directive takes what its reading takes. -/
theorem of_attemptDeck {x : Except DeckError (Draft × Nat)}
    (h : d.attemptDeck x = (d', .ok count)) : x = .ok (d', count) := by
  cases x with
  | error e => cases h
  | ok pair =>
    cases h
    rfl

theorem carriesOut_of_applyFigure (h : applyFigure around d window = .ok (d', count)) :
    CarriesOut around d window (.directive .figure) d' count := by
  unfold applyFigure at h
  split at h
  · cases h
  split at h
  · cases h
  next written path =>
    split at h
    · cases h
    · cases h
    next found resolved =>
      split at h
      · cases h
      next pushed =>
        cases h
        exact .figure path resolved pushed

theorem carriesOut_of_applySize (h : d.applySize window = .ok (d', count)) :
    CarriesOut around d window (.directive .size) d' count := by
  obtain ⟨_, allowed, h⟩ := ok_of_bind h
  split at h
  next inside =>
    obtain ⟨_, size, h⟩ := ok_of_bind h
    cases h
    exact .defaultSize inside size
  next outside =>
    obtain ⟨_, there, h⟩ := ok_of_bind h
    obtain ⟨_, size, h⟩ := ok_of_bind h
    cases h
    exact .size (List.mem_of_ne_of_mem outside (mem_of_requireContext allowed)) there size

theorem carriesOut_of_applyFontColor (h : d.applyFontColor window = .ok (d', count)) :
    CarriesOut around d window (.directive .fontColor) d' count := by
  obtain ⟨_, allowed, h⟩ := ok_of_bind h
  split at h
  next inside =>
    obtain ⟨_, color, h⟩ := ok_of_bind h
    cases h
    exact .defaultFontColor inside color
  next outside =>
    obtain ⟨_, shown, h⟩ := ok_of_bind h
    obtain ⟨_, color, h⟩ := ok_of_bind h
    cases h
    have inside := List.mem_of_ne_of_mem outside (mem_of_requireContext allowed)
    exact .fontColor (List.mem_singleton.mp inside) shown color

theorem carriesOut_of_applyBackground (h : d.applyBackground window = .ok (d', count)) :
    CarriesOut around d window (.directive .background) d' count := by
  obtain ⟨_, allowed, h⟩ := ok_of_bind h
  split at h
  next inside =>
    obtain ⟨_, color, h⟩ := ok_of_bind h
    cases h
    exact .defaultBackground inside color
  next outside =>
    obtain ⟨_, there, h⟩ := ok_of_bind h
    obtain ⟨_, color, h⟩ := ok_of_bind h
    cases h
    have inside := List.mem_of_ne_of_mem outside (mem_of_requireContext allowed)
    exact .background (List.mem_singleton.mp inside) there color

theorem carriesOut_of_applyTextLine {line : String} (h : d.applyTextLine line = .ok (d', count)) :
    CarriesOut around d window (.textLine line) d' count := by
  unfold applyTextLine at h
  split at h
  next inside =>
    split at h
    · cases h
    next shown =>
      cases h
      exact .line inside shown
  next outside =>
    split at h
    next blank =>
      cases h
      exact .blank outside blank
    · cases h

theorem carriesOut_of_applyImport (h : applyImport around d window = (d', .ok count)) :
    CarriesOut around d window (.directive .importDeck) d' count := by
  unfold applyImport at h
  split at h
  · cases h
  next path =>
    simp only at h
    split at h
    · cases h
    next loaded =>
      cases h
      exact .importDeck path loaded

/-- **A lexeme that succeeds is carried out** in one of these ways. -/
theorem carriesOut_of_apply (h : apply around d l window = (d', .ok count)) :
    CarriesOut around d window l d' count := by
  cases l with
  | directive directive =>
    cases directive with
    | defaults =>
      cases h
      exact .defaults
    | slide =>
      cases h
      exact .slide
    | text =>
      have h := of_attemptDeck h
      unfold applyText at h
      split at h
      · cases h
      next pushed =>
        cases h
        exact .text pushed
    | figure =>
      simp only [apply, attempt] at h
      split at h
      · cases h
      next read =>
        cases h
        exact carriesOut_of_applyFigure read
    | position =>
      obtain ⟨_, allowed, h⟩ := ok_of_bind (of_attemptDeck h)
      obtain ⟨_, there, h⟩ := ok_of_bind h
      obtain ⟨_, first, h⟩ := ok_of_bind h
      obtain ⟨_, second, h⟩ := ok_of_bind h
      cases h
      exact .position (mem_of_requireContext allowed) there first second
    | size => exact carriesOut_of_applySize (of_attemptDeck h)
    | rotation =>
      obtain ⟨_, allowed, h⟩ := ok_of_bind (of_attemptDeck h)
      obtain ⟨_, shown, h⟩ := ok_of_bind h
      obtain ⟨_, first, h⟩ := ok_of_bind h
      cases h
      exact .rotation (List.mem_singleton.mp (mem_of_requireContext allowed)) shown first
    | fontColor => exact carriesOut_of_applyFontColor (of_attemptDeck h)
    | background => exact carriesOut_of_applyBackground (of_attemptDeck h)
    | importDeck => exact carriesOut_of_applyImport h
  | textLine line => exact carriesOut_of_applyTextLine (of_attemptDeck h)
  | comment line =>
    cases h
    exact .comment
  | word | number => cases h

namespace CarriesOut

/-- **And no other succeeds**: what is carried out in one of these ways does. -/
theorem apply_eq (h : CarriesOut around d window l d' count) :
    apply around d l window = (d', .ok count) := by
  cases h with
  | defaults | slide | comment => rfl
  | text pushed => simp [apply, applyText, pushed, attemptDeck]
  | figure path resolved pushed =>
    obtain ⟨_, there, -⟩ := eq_onSection_of_pushSection pushed
    simp [apply, applyFigure, currentSlide_eq_ok_iff.mpr there, path, resolved, pushed, attempt]
  | position inside there first second =>
    simp [apply, applyPosition, requireContext_ok inside, there, first, second, attemptDeck]
  | defaultSize inside size => simp [apply, applySize, inside, size, attemptDeck]
  | size inside there size =>
    have outside : d.context ≠ .defaults := by
      intro defaults
      rw [defaults] at inside
      exact absurd inside (by decide)
    have allowed : d.context ∈ [.defaults, .text, .figure] := List.mem_cons_of_mem _ inside
    simp [apply, applySize, requireContext_ok allowed, outside, there, size, attemptDeck]
  | rotation inside shown first => simp [apply, applyRotation, inside, shown, first, attemptDeck]
  | defaultFontColor inside color => simp [apply, applyFontColor, inside, color, attemptDeck]
  | fontColor inside shown color => simp [apply, applyFontColor, inside, shown, color, attemptDeck]
  | defaultBackground inside color => simp [apply, applyBackground, inside, color, attemptDeck]
  | background inside there color =>
    simp [apply, applyBackground, inside, there, color, attemptDeck]
  | importDeck path loaded => simp [apply, applyImport, path, loaded]
  | line inside shown => simp [apply, applyTextLine, inside, shown, attemptDeck]
  | blank outside blank => simp [apply, applyTextLine, outside, blank, attemptDeck]

end CarriesOut

/-- **A lexeme takes no more arguments than it sees.** -/
theorem apply_count_le (h : apply around d l window = (d', .ok count)) : count ≤ window.length := by
  cases carriesOut_of_apply h with
  | defaults | slide | text | line | blank | comment => exact Nat.zero_le _
  | figure path | importDeck path => exact Argument.length_pos_of_path path
  | position _ _ _ second => exact Argument.lt_of_number second
  | rotation _ _ first => exact Argument.lt_of_number first
  | defaultSize _ size | size _ _ size => exact Argument.size_count_le size
  | defaultFontColor _ color | fontColor _ _ color | defaultBackground _ color
  | background _ _ color => exact Argument.color_count_le color

end Draft

end SlideDeck
