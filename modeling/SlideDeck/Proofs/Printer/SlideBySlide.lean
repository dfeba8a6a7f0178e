import SlideDeck.Proofs.Reader.Chunks
import SlideDeck.Proofs.Reader.Steps

/-!
# Decks slide by slide

A slideshow is written as a line of defaults and its slides, one after the other, and it can be written
if each of its slides can (`Slideshow.toDeck_eq`). Each of these pieces is of whole lines, and every
directive in it brings along the arguments that it takes: nothing of what stands behind a piece is
looked at while the piece is read (`Draft.Complete`).

**The law** (`Slideshow.toDeck_slide_by_slide`): the slides of a deck may be written one by one and read
one by one. Reading them so does just what reading the whole deck does, and where it fails it is with
the same error at the same token. That is more than what holds of all decks in pieces, the errors of
which may differ in what they say (`Failure.Alike`).
-/

namespace SlideDeck

open SlideDeck.Text

/-! ## Lexemes with all their arguments -/

namespace Draft

/-- Lexemes that bring along all that they take: what stands behind them is read after them, whatever it
is. -/
def Complete (ls : List Lexeme) : Prop :=
  ∀ (around : Surroundings) (d : Draft) (tokens rest : List Token), tokens.map Token.lexeme = ls →
    readFrom around 0 d (tokens ++ rest) =
      andThen (readFrom around 0 d tokens) fun d => readFrom around 0 d rest

/-- A reading may be gone on with in one step or in two. -/
@[simp]
theorem andThen_andThen (x : Draft × Except Failure Unit)
    (f g : Draft → Draft × Except Failure Unit) :
    andThen (andThen x f) g = andThen x fun d => andThen (f d) g := by
  obtain ⟨d, outcome⟩ := x
  cases outcome <;> rfl

namespace Complete

variable {l : Lexeme} {ls ms args : List Lexeme} {α : Type}

theorem nil : Complete [] := by
  intro around d tokens rest said
  rw [List.map_eq_nil_iff.mp said]
  rfl

theorem append (h : Complete ls) (h' : Complete ms) : Complete (ls ++ ms) := by
  intro around d tokens rest split
  obtain ⟨first, second, rfl, hfirst, hsecond⟩ := List.map_eq_append_iff.mp split
  have both : (fun d => readFrom around 0 d (second ++ rest)) = fun d =>
      andThen (readFrom around 0 d second) fun d => readFrom around 0 d rest :=
    funext fun d => h' around d second rest hsecond
  rw [List.append_assoc, h around d first _ hfirst, h around d first _ hfirst, both, andThen_andThen]

theorem flatMap {f : α → List Lexeme} (h : ∀ a, Complete (f a)) (as : List α) :
    Complete (as.flatMap f) := by
  induction as with
  | nil => exact nil
  | cons a as ih => exact (h a).append ih

/-- A directive with its arguments: it does the same whatever is behind them, and takes them all. -/
theorem of_apply (few : args.length ≤ windowSize)
    (same : ∀ around d more, apply around d l (args ++ more) = apply around d l args)
    (all : ∀ {around d d' count}, apply around d l args = (d', .ok count) → count = args.length) :
    Complete (l :: args) := by
  intro around d tokens rest said
  obtain ⟨t, argTokens, rfl, rfl, rfl⟩ := List.map_eq_cons_iff.mp said
  rw [List.length_map] at few
  have alone : (argTokens.take windowSize).map Token.lexeme = argTokens.map Token.lexeme := by
    rw [List.take_of_length_le few]
  obtain ⟨more, window⟩ := exists_window_append few rest
  simp only [List.cons_append, readFrom, window, alone, same]
  cases made : apply around d t.lexeme (argTokens.map Token.lexeme) with
  | mk next outcome =>
    cases outcome with
    | error failure => rfl
    | ok count =>
      obtain rfl : count = argTokens.length := by rw [all made, List.length_map]
      simp only [Takes.readFrom_length, Takes.readFrom_length_self]
      rfl

/-- A directive that takes nothing looks at nothing. -/
theorem alone (same : ∀ around d window, apply around d l window = apply around d l []) :
    Complete [l] :=
  of_apply (Nat.zero_le _) same fun {_ _ _ _} made => by
    have le := apply_count_le made
    exact Nat.le_zero.mp le

theorem slide : Complete [.directive .slide] := alone fun _ _ _ => rfl

theorem defaults : Complete [.directive .defaults] := alone fun _ _ _ => rfl

theorem text : Complete [.directive .text] := alone fun _ _ _ => rfl

theorem textLine (line : List Char) : Complete [lineLexeme line] := alone fun _ _ _ => rfl

theorem figure (path : String) : Complete [.directive .figure, .word path] :=
  of_apply (by simp [windowSize]) (fun _ _ _ => rfl) fun {_ _ _ _} made => by
    cases carriesOut_of_apply made
    rfl

theorem rotation (x : Float) : Complete (rotationLexemes x) := by
  unfold rotationLexemes
  split
  · refine of_apply (by simp [windowSize]) (fun _ _ _ => rfl) fun {_ _ _ _} made => ?_
    cases carriesOut_of_apply made
    rfl
  · exact nil

theorem position (v : Vec2) : Complete (pairLexemes .position v) :=
  of_apply (by simp [windowSize]) (fun _ _ _ => rfl) fun {_ _ _ _} made => by
    cases carriesOut_of_apply made
    rfl

theorem size (v : Vec2) : Complete (pairLexemes .size v) :=
  of_apply (by simp [windowSize]) (fun _ _ _ => rfl) fun {_ _ _ _} made => by
    cases carriesOut_of_apply made with
    | defaultSize _ size | size _ _ size =>
      cases size
      rfl

theorem fontColor (c : Color) : Complete (colorLexemes .fontColor c) := by
  refine of_apply (by simp [windowSize]) (fun around d more => ?_) fun {_ _ _ _} made => ?_
  · simp [apply, applyFontColor]
  · cases carriesOut_of_apply made with
    | defaultFontColor _ color | fontColor _ _ color =>
      cases (color_toHex c []).symm.trans color
      rfl

theorem background (c : Color) : Complete (colorLexemes .background c) := by
  refine of_apply (by simp [windowSize]) (fun around d more => ?_) fun {_ _ _ _} made => ?_
  · simp [apply, applyBackground]
  · cases carriesOut_of_apply made with
    | defaultBackground _ color | background _ _ color =>
      cases (color_toHex c []).symm.trans color
      rfl

theorem setting {lexemes : α → List Lexeme} (h : ∀ a, Complete (lexemes a)) (a : Option α) :
    Complete (settingLexemes lexemes a) := by
  cases a with
  | none => exact nil
  | some a => exact h a

theorem geometry (s : Section) : Complete s.geometryLexemes :=
  (setting position s.position).append (setting size s.size)

/-- Whatever a section shows, its lexemes are complete. -/
theorem section_ (s : Section) : Complete s.lexemes := by
  unfold Section.lexemes
  cases s.body with
  | figure b => exact ((figure b.path).append (geometry s)).append (rotation b.rotation)
  | text b =>
    have lines : Complete ((textLines b.text).map lineLexeme) := by
      rw [List.map_eq_flatMap]
      exact flatMap textLine _
    exact ((text.append (geometry s)).append (setting fontColor b.color)).append lines

/-- And so are those of a slide. -/
theorem wholeSlide (s : Slide) : Complete s.lexemes :=
  (slide.append (setting background s.background)).append (flatMap section_ s.sections)

theorem defaultSettings (s : Slideshow) : Complete s.defaultSettings :=
  ((setting background s.background).append (setting fontColor s.fontColor)).append
    (setting size s.fontSize)

end Complete

end Draft

/-! ## Complete pieces -/

/-- A piece of whole lines that brings along all that it takes. -/
structure IsPiece (chunk : String) : Prop where
  whole : EndsLine chunk.toList
  complete : ∀ first, Draft.Complete ((Token.tokenize chunk first).map Token.lexeme)

/-- **Such pieces are read as the text that they make together**, by induction on the pieces. -/
theorem Deck.readChunks_eq {around : Surroundings} {chunks : List String}
    (pieces : ∀ c ∈ chunks, IsPiece c) (line : Int) (d : Draft) :
    readChunks around line d chunks =
      Draft.read around d (Token.tokenize (String.join chunks) line) := by
  induction chunks generalizing line d with
  | nil => rfl
  | cons c rest ih =>
    obtain ⟨piece, others⟩ := List.forall_mem_cons.mp pieces
    have parted : readChunks around line d (c :: rest) =
        Draft.andThen (Draft.read around d (Token.tokenize c line)) fun d =>
          readChunks around (line + (splitLines c.toList).length) d rest :=
      rfl
    rw [parted, String.join_cons, Token.tokenize_append piece.whole]
    simp only [ih others]
    exact (piece.complete line around d _ _ rfl).symm

/-! ## Written pieces -/

/-- Lines that say complete lexemes are a piece. -/
theorem LinesSay.isPiece {lines : List String} {ls : List Lexeme} (h : LinesSay lines ls)
    (complete : Draft.Complete ls) : IsPiece (textOf lines) := by
  refine ⟨endsLine_textOf lines, fun first => ?_⟩
  rwa [map_lexeme_tokenize_textOf h.isLine, h.reading]

/-- A slide that is written is a piece. -/
theorem Slide.isPiece {s : Slide} {deck : String} (h : s.toDeck = .ok deck) : IsPiece deck := by
  unfold Slide.toDeck at h
  cases written : s.toLines with
  | error e =>
    rw [written] at h
    cases h
  | ok lines =>
    rw [written] at h
    cases h
    exact (Slide.linesSay written).isPiece (.wholeSlide s)

/-- The line of the defaults as a piece of its own, if there are any. -/
def Slideshow.defaultChunks (s : Slideshow) : List String :=
  s.defaultLines.map (· ++ "\n")

theorem Slideshow.defaultLines_eq_nil_iff (s : Slideshow) :
    s.defaultLines = [] ↔ s.background = none ∧ s.fontColor = none ∧ s.fontSize = none := by
  obtain ⟨slides, fonts, background, fontColor, fontSize⟩ := s
  unfold Slideshow.defaultLines
  cases background <;> cases fontColor <;> cases fontSize <;>
    simp [settingWords, colorWords, pairWords]

theorem Slideshow.length_defaultLines_le (s : Slideshow) : s.defaultLines.length ≤ 1 := by
  simp only [Slideshow.defaultLines]
  split <;> simp

/-- The line of the defaults is a piece. -/
theorem Slideshow.isPiece_of_mem_defaultChunks {s : Slideshow} {chunk : String}
    (mem : chunk ∈ s.defaultChunks) : IsPiece chunk := by
  have piece : IsPiece (textOf s.defaultLines) := by
    refine s.linesSay_defaults.isPiece ?_
    split
    · exact .nil
    · exact .append .defaults (.defaultSettings s)
  obtain ⟨line, there, rfl⟩ := List.mem_map.mp mem
  obtain ⟨only, one⟩ := List.length_eq_one_iff.mp
    (Nat.le_antisymm s.length_defaultLines_le (List.length_pos_of_mem there))
  rw [one, List.mem_singleton] at there
  rwa [one, ← there, textOf, List.map_singleton, String.join_cons, String.join_nil,
    String.append_empty] at piece

@[simp]
theorem textOf_append (as bs : List String) : textOf (as ++ bs) = textOf as ++ textOf bs := by
  rw [textOf, List.map_append, String.join_append, textOf, textOf]

theorem textOf_flatten (ls : List (List String)) : textOf ls.flatten = String.join (ls.map textOf) := by
  induction ls with
  | nil => rfl
  | cons lines ls ih => rw [List.flatten_cons, textOf_append, ih, List.map_cons, String.join_cons]

/-- **A deck is written piece by piece**: the line of the defaults, and then slide after slide. -/
theorem Slideshow.toDeck_eq (s : Slideshow) :
    s.toDeck = (s.slides.mapM Slide.toDeck).map fun decks => String.join (s.defaultChunks ++ decks) := by
  have decks : s.slides.mapM Slide.toDeck = (s.slides.mapM Slide.toLines).map (List.map textOf) :=
    mapM_map Slide.toLines textOf s.slides
  rw [Slideshow.toDeck, decks]
  cases s.slides.mapM Slide.toLines with
  | error e => rfl
  | ok lines =>
    have text : textOf (s.defaultLines ++ lines.flatten) =
        String.join (s.defaultChunks ++ lines.map textOf) := by
      rw [textOf_append, textOf_flatten, String.join_append]
      rfl
    exact congrArg Except.ok text

/-! ## The law -/

/-- **A deck may be written and read slide by slide.** It cannot be written if some slide cannot, for the
reason of the first one that cannot. Otherwise it is the line of the defaults, if there are any, and the
slides as they are written on their own; and reading it is reading these pieces one after the other. -/
theorem Slideshow.toDeck_slide_by_slide (s : Slideshow) :
    (∀ e, s.toDeck = .error e ↔ ∃ before slide after, s.slides = before ++ slide :: after ∧
      (∀ earlier ∈ before, ∃ deck, earlier.toDeck = .ok deck) ∧ slide.toDeck = .error e) ∧
    (∀ deck, s.toDeck = .ok deck ↔
      ∃ decks, List.Forall₂ (fun slide deck => slide.toDeck = .ok deck) s.slides decks ∧
        deck = String.join (s.defaultChunks ++ decks)) ∧
    s.defaultChunks.length ≤ 1 ∧
    (s.defaultChunks = [] ↔ s.background = none ∧ s.fontColor = none ∧ s.fontSize = none) ∧
    ∀ decks, List.Forall₂ (fun slide deck => slide.toDeck = .ok deck) s.slides decks →
      ∀ (options : ReadOptions) (files : FileSystem) (base : Path),
        Deck.parseChunks options files base (s.defaultChunks ++ decks) =
          Deck.parse options files base (String.join (s.defaultChunks ++ decks)) := by
  refine ⟨fun e => ?_, fun deck => ?_, ?_, ?_, fun decks written options files base => ?_⟩
  · rw [s.toDeck_eq, ← mapM_eq_error_iff]
    cases s.slides.mapM Slide.toDeck <;> simp [Except.map]
  · simp only [s.toDeck_eq, ← mapM_eq_ok_iff]
    cases s.slides.mapM Slide.toDeck <;> simp [Except.map, eq_comm]
  · rw [defaultChunks, List.length_map]
    exact s.length_defaultLines_le
  · rw [defaultChunks, List.map_eq_nil_iff]
    exact s.defaultLines_eq_nil_iff
  · have slides : List.Forall₂ (fun deck slide => IsPiece deck ∧ Slide.toDeck slide = .ok deck)
        decks s.slides :=
      written.flip.imp fun _ _ one => ⟨Slide.isPiece one, one⟩
    have pieces : ∀ chunk ∈ s.defaultChunks ++ decks, IsPiece chunk :=
      List.forall_mem_append.mpr
        ⟨fun _ => isPiece_of_mem_defaultChunks, ((List.forall₂_and_left _ _).mp slides).1⟩
    simp only [Deck.parseChunks, Deck.readChunks_eq pieces, Deck.parse, Deck.parseWith]

/-- Two slides and a default; the file of a figure is missing, which is told in the same way. -/
theorem Slideshow.toDeck_slide_by_slide_missing :
    let s : Slideshow := { background := some ⟨16, 32, 48, 255⟩, slides :=
      [{ sections := [{ body := .text { text := "a:b" } }] },
       { sections := [{ body := .figure { path := "missing" } }] }] }
    let decks := [":sl\n:tb\na\\:b\n", ":sl\n:fg missing\n"]
    List.Forall₂ (fun slide deck => slide.toDeck = .ok deck) s.slides decks ∧
      s.toDeck = .ok ":ge :bc #102030ff\n:sl\n:tb\na\\:b\n:sl\n:fg missing\n" ∧
      Deck.parseChunks {} {} (Path.ofString ".") (":ge :bc #102030ff\n" :: decks) =
        .error (.deck ⟨.figureNotFound "missing" (Path.ofString ".") (.refused .noEntry "missing"),
          some ⟨.directive .figure, ⟨5, 0, 3⟩⟩⟩) := by
  intro s decks
  have written : List.Forall₂ (fun slide deck => slide.toDeck = .ok deck) s.slides decks :=
    .cons (by decide +kernel) (.cons (by decide +kernel) .nil)
  obtain ⟨-, whole, -, -, read⟩ := s.toDeck_slide_by_slide
  have defaults : s.defaultChunks = [":ge :bc #102030ff\n"] := by decide +kernel
  have joined : String.join (s.defaultChunks ++ decks) =
      ":ge :bc #102030ff\n:sl\n:tb\na\\:b\n:sl\n:fg missing\n" := by
    rw [defaults]
    decide +kernel
  refine ⟨written, (whole _).mpr ⟨decks, written, joined.symm⟩, ?_⟩
  have same := read decks written {} {} (Path.ofString ".")
  rw [joined, defaults] at same
  refine same.trans ?_
  decide +kernel

end SlideDeck
