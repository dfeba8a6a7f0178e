import SlideDeck.Proofs.Outcome
import SlideDeck.Proofs.Token.Written

/-!
# What a written deck says

A slideshow that can be written as a deck has a list of lexemes of its own: its defaults, its slides,
and for each slide its sections with what is set of them (`Slideshow.lexemes`).

**The law** (`Slideshow.lexemes_of_toDeck`): the deck that is written says these lexemes, and nothing
else. Each line of it is a line of words that starts with a directive, or a line of text; the checks
that writing makes on paths and on lines of text are what keeps them from saying something else.
-/

namespace SlideDeck

open SlideDeck.Text

/-! ## Lexemes of a slideshow -/

/-- A directive and the two numbers of a pair. -/
def pairLexemes (d : Directive) (v : Vec2) : List Lexeme :=
  [.directive d, .number v.x, .number v.y]

/-- A directive and a color. -/
def colorLexemes (d : Directive) (c : Color) : List Lexeme :=
  [.directive d, .word c.toHex]

/-- The lexemes of a setting that may be missing. -/
def settingLexemes {α : Type} (lexemes : α → List Lexeme) : Option α → List Lexeme
  | none => []
  | some a => lexemes a

/-- The lines of a text, without the newline that may end it. -/
def textLines (text : String) : List (List Char) :=
  if text.isEmpty then [] else (dropFinalNewline text.toList).splitOn '\n'

/-- A line of text with its colons escaped. -/
def lineLexeme (line : List Char) : Lexeme :=
  .textLine (String.ofList (escape line))

/-- The place and the size of a section. -/
def Section.geometryLexemes (s : Section) : List Lexeme :=
  settingLexemes (pairLexemes .position) s.position ++ settingLexemes (pairLexemes .size) s.size

/-- The lexemes of a rotation that is written. -/
def rotationLexemes (rotation : Float) : List Lexeme :=
  if isWritten rotation then [.directive .rotation, .number rotation] else []

/-- The lexemes of a section. -/
def Section.lexemes (s : Section) : List Lexeme :=
  match s.body with
  | .figure b =>
    .directive .figure :: .word b.path :: s.geometryLexemes ++ rotationLexemes b.rotation
  | .text b =>
    .directive .text :: s.geometryLexemes ++ settingLexemes (colorLexemes .fontColor) b.color ++
      (textLines b.text).map lineLexeme

/-- The lexemes of a slide. -/
def Slide.lexemes (s : Slide) : List Lexeme :=
  .directive .slide :: settingLexemes (colorLexemes .background) s.background ++
    s.sections.flatMap Section.lexemes

/-- The lexemes of the defaults. -/
def Slideshow.defaultSettings (s : Slideshow) : List Lexeme :=
  settingLexemes (colorLexemes .background) s.background ++
    settingLexemes (colorLexemes .fontColor) s.fontColor ++
    settingLexemes (pairLexemes .size) s.fontSize

/-- The lexemes of a slideshow. -/
def Slideshow.lexemes (s : Slideshow) : List Lexeme :=
  (if s.defaultSettings.isEmpty then [] else .directive .defaults :: s.defaultSettings) ++
    s.slides.flatMap Slide.lexemes

/-! ## Words and lines that say lexemes -/

/-- Words that are read as lexemes. -/
structure Say (words : List String) (lexemes : List Lexeme) : Prop where
  isWord : ∀ w ∈ words, IsWord w
  reading : words.map (fun w => Lexeme.ofWord w.toList) = lexemes

namespace Say

theorem nil : Say [] [] :=
  ⟨fun _ absent => (nomatch absent), rfl⟩

theorem append {ws vs : List String} {ls ms : List Lexeme} (h : Say ws ls) (h' : Say vs ms) :
    Say (ws ++ vs) (ls ++ ms) := by
  refine ⟨fun w mem => ?_, by rw [List.map_append, h.reading, h'.reading]⟩
  rcases List.mem_append.mp mem with mem | mem
  · exact h.isWord w mem
  · exact h'.isWord w mem

theorem pair (d : Directive) (v : Vec2) : Say (pairWords d v) (pairLexemes d v) := by
  refine ⟨fun w mem => ?_, ?_⟩
  · simp only [pairWords, List.mem_cons, List.not_mem_nil, or_false] at mem
    rcases mem with rfl | rfl | rfl
    · exact isWord_mnemonic d
    · exact isWord_number v.x
    · exact isWord_number v.y
  · simp only [pairWords, List.map_cons, List.map_nil, ofWord_mnemonic, ofWord_number]
    rfl

theorem color (d : Directive) (c : Color) : Say (colorWords d c) (colorLexemes d c) := by
  refine ⟨fun w mem => ?_, ?_⟩
  · simp only [colorWords, List.mem_cons, List.not_mem_nil, or_false] at mem
    rcases mem with rfl | rfl
    · exact isWord_mnemonic d
    · exact isWord_toHex c
  · simp only [colorWords, List.map_cons, List.map_nil, ofWord_mnemonic, ofWord_toHex]
    rfl

theorem setting {α : Type} {words : α → List String} {lexemes : α → List Lexeme}
    (h : ∀ a, Say (words a) (lexemes a)) (a : Option α) :
    Say (settingWords words a) (settingLexemes lexemes a) := by
  cases a with
  | none => exact nil
  | some a => exact h a

theorem geometry (s : Section) :
    Say (settingWords (pairWords .position) s.position ++ settingWords (pairWords .size) s.size)
      s.geometryLexemes :=
  (setting (pair .position) s.position).append (setting (pair .size) s.size)

theorem rotation (rotation : Float) :
    Say (if isWritten rotation then [Directive.rotation.mnemonic, numberWord rotation] else [])
      (rotationLexemes rotation) := by
  unfold rotationLexemes
  split
  · refine ⟨fun w mem => ?_, ?_⟩
    · simp only [List.mem_cons, List.not_mem_nil, or_false] at mem
      rcases mem with rfl | rfl
      · exact isWord_mnemonic .rotation
      · exact isWord_number rotation
    · simp only [List.map_cons, List.map_nil, ofWord_mnemonic, ofWord_number]
  · exact nil

end Say

/-- Lines that are read as lexemes. -/
structure LinesSay (lines : List String) (lexemes : List Lexeme) : Prop where
  isLine : ∀ l ∈ lines, IsLine l.toList
  reading : lines.flatMap (fun l => lineLexemes l.toList) = lexemes

namespace LinesSay

theorem nil : LinesSay [] [] :=
  ⟨fun _ absent => (nomatch absent), rfl⟩

theorem cons {l : String} {lines : List String} {ls ms : List Lexeme} (line : IsLine l.toList)
    (reading : lineLexemes l.toList = ls) (more : LinesSay lines ms) :
    LinesSay (l :: lines) (ls ++ ms) := by
  refine ⟨fun m mem => ?_, by rw [List.flatMap_cons, reading, more.reading]⟩
  rcases List.mem_cons.mp mem with rfl | mem
  · exact line
  · exact more.isLine m mem

theorem append {as bs : List String} {ls ms : List Lexeme} (h : LinesSay as ls)
    (h' : LinesSay bs ms) : LinesSay (as ++ bs) (ls ++ ms) := by
  refine ⟨fun m mem => ?_, by rw [List.flatMap_append, h.reading, h'.reading]⟩
  rcases List.mem_append.mp mem with mem | mem
  · exact h.isLine m mem
  · exact h'.isLine m mem

/-- A line of words says its words, after the directive that it starts with. -/
theorem words (d : Directive) {ws : List String} {ls : List Lexeme} (h : Say ws ls)
    {lines : List String} {ms : List Lexeme} (more : LinesSay lines ms) :
    LinesSay (lineOf (d.mnemonic :: ws) :: lines) (.directive d :: ls ++ ms) := by
  have solid : ∀ w ∈ d.mnemonic :: ws, IsWord w := by
    intro w mem
    rcases List.mem_cons.mp mem with rfl | mem
    · exact isWord_mnemonic d
    · exact h.isWord w mem
  refine cons (isLine_lineOf solid) ?_ more
  rw [lineLexemes_lineOf d h.isWord, h.reading]

/-- Lists of lines say what the lists say one by one. -/
theorem flatten {α : Type} {f : α → List Lexeme} {as : List α} {lines : List (List String)}
    (h : List.Forall₂ (fun a ls => LinesSay ls (f a)) as lines) :
    LinesSay lines.flatten (as.flatMap f) := by
  induction h with
  | nil => exact nil
  | cons first _ ih =>
    rw [List.flatten_cons, List.flatMap_cons]
    exact first.append ih

end LinesSay

/-! ## Paths and lines of text -/

/-- A path that can be written is a word that says itself. -/
theorem say_of_pathWord {path w : String} (h : pathWord path = .ok w) :
    w = path ∧ Say [path] [.word path] := by
  unfold pathWord at h
  split at h
  · cases h
  · rename_i solid
    split at h
    · rename_i text said
      cases h
      have same : Lexeme.ofWord path.toList = .word path := by
        rw [Lexeme.ofWord] at said ⊢
        split at said
        · cases said
        · split at said
          · cases said
          · rw [String.ofList_toList]
      simp only [Bool.or_eq_true, not_or, Bool.not_eq_true] at solid
      refine ⟨rfl, fun w mem => ?_, by rw [List.map_singleton, same]⟩
      rw [List.mem_singleton.mp mem]
      refine ⟨fun none => ?_, fun c mem => ?_⟩
      · have empty : path.isEmpty = true := by
          rw [String.isEmpty_iff, ← String.toList_inj, none]
          rfl
        rw [empty] at solid
        cases solid.1
      · exact Bool.eq_false_iff.mpr fun blank =>
          (List.any_eq_false.mp solid.2 c mem) blank
    · cases h

/-- A line of text that can be written holds no escapes of its own, is no comment, and is written with
its colons escaped. -/
theorem of_textLine {line : List Char} {w : String} (h : textLine line = .ok w) :
    holdsEscape line = false ∧ line.getLast? ≠ some '\r' ∧ line.head? ≠ some '#' ∧
      w = String.ofList (escape line) := by
  unfold textLine at h
  simp only at h
  split at h
  · cases h
  · rename_i escapes
    split at h
    · cases h
    · rename_i last
      split at h
      · cases h
      · rename_i head
        cases h
        exact ⟨Bool.eq_false_iff.mpr escapes, last, head, rfl⟩

theorem isLine_escape {line : List Char} (newline : '\n' ∉ line)
    (last : line.getLast? ≠ some '\r') : IsLine (escape line) := by
  refine ⟨fun mem => ?_, by rwa [getLast?_escape]⟩
  rcases mem_escape mem with mem | same
  · exact newline mem
  · cases same

/-- The lines of a text that can be written say themselves. -/
theorem linesSay_of_bodyLines {text : String} {lines : List String}
    (h : bodyLines text = .ok lines) :
    LinesSay lines ((textLines text).map lineLexeme) := by
  unfold bodyLines at h
  unfold textLines
  split at h
  · rename_i empty
    cases h
    rw [if_pos empty]
    exact .nil
  · rename_i filled
    rw [if_neg filled]
    have written := forall₂_of_mapM h
    have pieces : ∀ piece ∈ (dropFinalNewline text.toList).splitOn '\n', '\n' ∉ piece :=
      fun piece => not_mem_of_mem_splitOn
    generalize (dropFinalNewline text.toList).splitOn '\n' = ls at written pieces
    clear h
    induction written with
    | nil => exact .nil
    | @cons line w ls ws first rest ih =>
      obtain ⟨-, last, head, rfl⟩ := of_textLine first
      have more := ih fun piece mem => pieces piece (List.mem_cons_of_mem _ mem)
      refine LinesSay.cons ?_ (?_ : _ = [lineLexeme line]) more
      · rw [String.toList_ofList]
        exact isLine_escape (pieces line List.mem_cons_self) last
      · rw [String.toList_ofList, lineLexemes_escape head]
        rfl

/-! ## The law -/

/-- The lines of a section say its lexemes. -/
theorem Section.linesSay {s : Section} {lines : List String} (h : s.toLines = .ok lines) :
    LinesSay lines s.lexemes := by
  unfold Section.toLines at h
  unfold Section.lexemes
  cases hb : s.body with
  | figure b =>
    simp only [hb] at h ⊢
    obtain ⟨path, word, h⟩ := ok_of_bind h
    cases h
    obtain ⟨rfl, say⟩ := say_of_pathWord word
    have line := LinesSay.words .figure
      ((say.append (.geometry s)).append (.rotation b.rotation)) .nil
    rw [List.append_nil] at line
    exact line
  | text b =>
    simp only [hb] at h ⊢
    obtain ⟨lines, written, h⟩ := ok_of_bind h
    cases h
    have say := (Say.geometry s).append (.setting (.color .fontColor) b.color)
    exact LinesSay.words .text say (linesSay_of_bodyLines written)

/-- The lines of a slide say its lexemes. -/
theorem Slide.linesSay {s : Slide} {lines : List String} (h : s.toLines = .ok lines) :
    LinesSay lines s.lexemes := by
  obtain ⟨sections, written, h⟩ := ok_of_bind h
  cases h
  refine LinesSay.words .slide (.setting (.color .background) s.background) ?_
  exact LinesSay.flatten ((forall₂_of_mapM written).imp fun _ _ => Section.linesSay)

/-- The line of the defaults says them. -/
theorem Slideshow.linesSay_defaults (s : Slideshow) :
    LinesSay s.defaultLines
      (if s.defaultSettings.isEmpty then [] else .directive .defaults :: s.defaultSettings) := by
  have say := ((Say.setting (.color .background) s.background).append
    (.setting (.color .fontColor) s.fontColor)).append (.setting (.pair .size) s.fontSize)
  have empty : (settingWords (colorWords .background) s.background ++
      settingWords (colorWords .fontColor) s.fontColor ++
      settingWords (pairWords .size) s.fontSize).isEmpty = s.defaultSettings.isEmpty := by
    rw [Slideshow.defaultSettings, ← say.reading, List.isEmpty_map]
  unfold Slideshow.defaultLines
  simp only [empty]
  split
  · exact .nil
  · have line := LinesSay.words .defaults say .nil
    rw [List.append_nil] at line
    exact line

/-- **A deck that is written says the lexemes of its slideshow.** -/
theorem Slideshow.lexemes_of_toDeck {s : Slideshow} {deck : String} (h : s.toDeck = .ok deck)
    (first : Int) : (Token.tokenize deck first).map Token.lexeme = s.lexemes := by
  obtain ⟨slides, written, h⟩ := ok_of_bind h
  cases h
  have say := s.linesSay_defaults.append
    (LinesSay.flatten ((forall₂_of_mapM written).imp fun _ _ => Slide.linesSay))
  rw [map_lexeme_tokenize_textOf say.isLine, say.reading]
  rfl

end SlideDeck
