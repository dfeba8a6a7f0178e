import SlideDeck.Proofs.Reader.Steps
import SlideDeck.Reader.Deck

/-!
# A written deck is read back

What a slideshow is read back as, once it has been written as a deck (`Slideshow.reread`): itself,
without fonts, with texts that end in a newline, with the canonical paths of its figures, and without
a negative zero for a rotation. Nothing else of it changes.

**The law** (`parse_toDeck`): the deck of a slideshow is read as just that if the files of all its
figures are there. If one is not, reading stops at the directive of the first of these figures.
Where the links of a path lead back to themselves, the fault that ends the reading is no error of the
deck; the law leaves open what happens at such a figure and after it.

Both halves go through slides and sections in the same way: what is read so far has taken the draft
to a known one (`takes_sections`, `takes_slides`), or it has stopped (`stops_sections`,
`stops_slides`).
-/

namespace SlideDeck

open SlideDeck.Text

/-! ## What is read back -/

/-- Where a path of a deck leads. -/
def FileSystem.find (files : FileSystem) (base : Path) (written : String) : Except Fault Path :=
  files.resolve (base.join (Path.ofString written))

/-- The canonical path of a figure, if its file is there. -/
def canonicalText (files : FileSystem) (base : Path) (written : String) : String :=
  match files.find base written with
  | .ok found => found.text
  | .error _ => written

/-- A text that ends in a newline, unless it is empty. -/
def withFinalNewline (text : String) : String :=
  if text.isEmpty ∨ text.toList.getLast? = some '\n' then text else text ++ "\n"

/-- A number, the negative zero made positive. -/
def withoutNegativeZero (x : Float) : Float :=
  if x = -0.0 then 0.0 else x

variable (files : FileSystem) (base : Path)

/-- What the body of a section is read back as. -/
def Body.reread : Body → Body
  | .text b => .text { b with text := withFinalNewline b.text, font := none }
  | .figure b => .figure ⟨canonicalText files base b.path, withoutNegativeZero b.rotation⟩

/-- What a section is read back as. -/
def Section.reread (s : Section) : Section :=
  { s with body := s.body.reread files base }

/-- What a slide is read back as. -/
def Slide.reread (s : Slide) : Slide :=
  { s with sections := s.sections.map (Section.reread files base) }

/-- What a slideshow is read back as. -/
def Slideshow.reread (s : Slideshow) : Slideshow :=
  { s with slides := s.slides.map (Slide.reread files base), fonts := {} }

variable {files : FileSystem} {base : Path}

/-- The path of a section's figure, if it shows one. -/
def Section.figurePath? (s : Section) : Option String :=
  match s.body with
  | .text _ => none
  | .figure b => some b.path

/-- The paths of the figures of a slide, in order. -/
def Slide.figurePaths (s : Slide) : List String :=
  s.sections.filterMap Section.figurePath?

/-- The paths of the figures of a slideshow, in order. -/
def Slideshow.figurePaths (s : Slideshow) : List String :=
  s.slides.flatMap Slide.figurePaths

/-! ## Texts and rotations -/

/-- The lines of a text, each with a newline, are the text, with one at its end. -/
theorem textLines_flatMap (text : String) :
    String.ofList ((textLines text).flatMap (· ++ ['\n'])) = withFinalNewline text := by
  unfold textLines withFinalNewline
  by_cases empty : text.isEmpty = true
  · rw [if_pos empty, if_pos (.inl empty), String.isEmpty_iff.mp empty]
    rfl
  · rw [if_neg empty, flatMap_concat (List.splitOn_ne_nil _ _), List.intercalate_splitOn,
      dropFinalNewline_eq]
    split
    · rename_i last
      obtain ⟨before, split⟩ := List.getLast?_eq_some_iff.mp last
      rw [if_pos (.inr last), split, List.dropLast_concat, ← split, String.ofList_toList]
    · rename_i last
      rw [if_neg (not_or.mpr ⟨empty, last⟩), String.ofList_append, String.ofList_toList]

/-- A rotation that is not written is zero, and one that is written is no negative zero. -/
theorem withoutNegativeZero_eq (x : Float) :
    withoutNegativeZero x = if isWritten x then x else 0.0 := by
  have written : isWritten x = true ↔ ¬ (x = 0.0 ∨ x = -0.0) := by
    rw [isWritten, Bool.not_eq_true', ← Number.beq_zero_iff, Bool.not_eq_true]
  unfold withoutNegativeZero
  split
  · rename_i zero
    rw [if_neg (mt written.mp (not_not.mpr (.inr zero)))]
  · rename_i other
    split
    · rfl
    · rename_i notWritten
      exact (not_not.mp (mt written.mpr notWritten)).resolve_right other

/-! ## Sections -/

namespace Draft

variable {load : Path → Except Failure Slideshow} {d : Draft} {s : Slideshow}
  {open_ : Slide}

/-- The context that a section leaves behind. -/
def contextOf (s : Section) : Context :=
  match s.body with
  | .text _ => .text
  | .figure _ => .figure

/-- A setting that may be missing takes its draft without it to its draft with it. -/
theorem takes_setting {α : Type} {lexemes : α → List Lexeme} (around : Surroundings)
    (set : Option α → Draft) (read : ∀ x, Takes around (set none) (lexemes x) (set (some x)))
    (a : Option α) : Takes around (set none) (settingLexemes lexemes a) (set a) := by
  cases a with
  | none => exact .nil _
  | some x => exact read x

/-- The place and the size of a section are set on the last section. -/
theorem takes_geometry {around : Surroundings} {c : Context} (h : c = .text ∨ c = .figure)
    (body : Body) (written : Section) :
    Takes around (onSection s open_ ⟨none, none, body⟩ c) written.geometryLexemes
      (onSection s open_ ⟨written.size, written.position, body⟩ c) := by
  have position := takes_setting around (fun v => onSection s open_ ⟨none, v, body⟩ c)
    (takes_position h) written.position
  have size := takes_setting around (fun v => onSection s open_ ⟨v, written.position, body⟩ c)
    (takes_size h) written.size
  exact position.append size

/-- Lines of text are added to the last section one by one. -/
theorem takes_textLines {around : Surroundings} {size position : Option Vec2}
    (lines : List (List Char)) (body : TextBody) :
    Takes around (onSection s open_ ⟨size, position, .text body⟩ .text) (lines.map lineLexeme)
      (onSection s open_
        ⟨size, position, .text
          { body with text := body.text ++ String.ofList (lines.flatMap (· ++ ['\n'])) }⟩
        .text) := by
  induction lines generalizing body with
  | nil =>
    have same : body.text ++ String.ofList ([].flatMap fun l : List Char => l ++ ['\n']) =
        body.text := String.append_empty
    rw [same]
    exact .nil _
  | cons line lines ih =>
    rw [List.flatMap_cons, String.ofList_append, ← String.append_assoc]
    exact (takes_textLine body line).append (ih _)

/-- The settings of a text section, and its lines. -/
theorem takes_textSection {around : Surroundings} (h : d.slide = some open_) {written : Section}
    {b : TextBody} (hb : written.body = .text b) :
    Takes around d written.lexemes
      (onSection d.slideshow open_
        { written with body := .text { b with text := withFinalNewline b.text, font := none } }
        .text) := by
  have color := takes_setting around
    (fun c => onSection d.slideshow open_
      ⟨written.size, written.position, .text { color := c }⟩ .text) (takes_fontColor {}) b.color
  have lines : Takes around
      (onSection d.slideshow open_
        ⟨written.size, written.position, .text { color := b.color }⟩ .text)
      ((textLines b.text).map lineLexeme)
      (onSection d.slideshow open_
        ⟨written.size, written.position,
          .text { b with text := withFinalNewline b.text, font := none }⟩ .text) := by
    rw [← textLines_flatMap, ← String.empty_append (s := String.ofList _)]
    exact takes_textLines (textLines b.text) { color := b.color }
  simp only [Section.lexemes, hb]
  exact (((takes_text h).append (takes_geometry (.inl rfl) _ written)).append color).append lines

/-- The settings of a figure section, whose file is there. -/
theorem takes_figureSection (h : d.slide = some open_) {written : Section} {b : FigureBody}
    (hb : written.body = .figure b) {found : Path} (there : files.find base b.path = .ok found) :
    Takes ⟨files, base, load⟩ d written.lexemes
      (onSection d.slideshow open_
        { written with body := .figure ⟨found.text, withoutNegativeZero b.rotation⟩ } .figure) := by
  have start : Takes ⟨files, base, load⟩ d [.directive .figure, .word b.path]
      (onSection d.slideshow open_ ⟨none, none, .figure ⟨found.text, 0.0⟩⟩ .figure) :=
    takes_figure h there
  have rotation : Takes ⟨files, base, load⟩
      (onSection d.slideshow open_
        ⟨written.size, written.position, .figure ⟨found.text, 0.0⟩⟩ .figure)
      (rotationLexemes b.rotation)
      (onSection d.slideshow open_
        ⟨written.size, written.position,
          .figure ⟨found.text, withoutNegativeZero b.rotation⟩⟩ .figure) := by
    unfold rotationLexemes
    rw [withoutNegativeZero_eq]
    split
    · exact takes_rotation found.text 0.0 b.rotation
    · exact .nil _
  simp only [Section.lexemes, hb]
  exact (start.append (takes_geometry (.inr rfl) _ written)).append rotation

/-- A section is read onto the open slide, if the file of its figure is there. -/
theorem takes_section (h : d.slide = some open_) {written : Section}
    (there : ∀ q ∈ written.figurePath?, ∃ found, files.find base q = .ok found) :
    Takes ⟨files, base, load⟩ d written.lexemes
      (onSection d.slideshow open_ (written.reread files base) (contextOf written)) := by
  unfold Section.reread contextOf
  cases hb : written.body with
  | text b => exact takes_textSection h hb
  | figure b =>
    obtain ⟨found, resolved⟩ := there b.path (by simp [Section.figurePath?, hb])
    have canonical : canonicalText files base b.path = found.text := by
      simp only [canonicalText, resolved]
    simp only [Body.reread, canonical]
    exact takes_figureSection h hb resolved

/-- A setting starts no figure. -/
theorem count_setting {α : Type} {lexemes : α → List Lexeme}
    (none_ : ∀ x, (lexemes x).count (.directive .figure) = 0) (a : Option α) :
    (settingLexemes lexemes a).count (.directive .figure) = 0 := by
  cases a with
  | none => rfl
  | some x => exact none_ x

theorem count_pair {d : Directive} (other : d ≠ .figure) (v : Option Vec2) :
    (settingLexemes (pairLexemes d) v).count (.directive .figure) = 0 :=
  count_setting (fun _ => by simp [pairLexemes, other]) v

theorem count_color {d : Directive} (other : d ≠ .figure) (c : Option Color) :
    (settingLexemes (colorLexemes d) c).count (.directive .figure) = 0 :=
  count_setting (fun _ => by simp [colorLexemes, other]) c

/-- How many figures a section starts. -/
theorem count_figure (written : Section) :
    written.lexemes.count (.directive .figure) = written.figurePath?.toList.length := by
  have geometry : written.geometryLexemes.count (.directive .figure) = 0 := by
    rw [Section.geometryLexemes, List.count_append, count_pair (by decide), count_pair (by decide)]
  unfold Section.lexemes Section.figurePath?
  cases written.body with
  | text b =>
    have color := count_color (d := .fontColor) (by decide) b.color
    have lines : ((textLines b.text).map lineLexeme).count (.directive .figure) = 0 := by
      refine List.count_eq_zero.mpr fun mem => ?_
      obtain ⟨line, -, same⟩ := List.mem_map.mp mem
      cases same
    simp [geometry, color, lines]
  | figure b =>
    have rotation : (rotationLexemes b.rotation).count (.directive .figure) = 0 := by
      unfold rotationLexemes
      split <;> simp
    simp [geometry, rotation]

/-! ## Slides -/

variable {fault : Fault} {q : String} (load)

/-- Sections are read one after the other onto the open slide. -/
theorem takes_sections (h : d.slide = some open_) {sections : List Section}
    (there : ∀ q ∈ sections.filterMap Section.figurePath?, ∃ found,
      files.find base q = .ok found) :
    ∃ d', Takes ⟨files, base, load⟩ d (sections.flatMap Section.lexemes) d' ∧
      d'.slideshow = d.slideshow ∧
      d'.slide = some { open_ with
        sections := open_.sections ++ sections.map (Section.reread files base) } := by
  induction sections generalizing d open_ with
  | nil => exact ⟨d, .nil d, rfl, by rw [h, List.map_nil, List.append_nil]⟩
  | cons written sections ih =>
    have first : ∀ q ∈ written.figurePath?, ∃ found, files.find base q = .ok found :=
      fun q mem => there q (List.mem_filterMap.mpr ⟨written, List.mem_cons_self, mem⟩)
    have others : ∀ q ∈ sections.filterMap Section.figurePath?, ∃ found,
        files.find base q = .ok found := by
      intro q mem
      obtain ⟨other, inside, path⟩ := List.mem_filterMap.mp mem
      exact there q (List.mem_filterMap.mpr ⟨other, List.mem_cons_of_mem _ inside, path⟩)
    have read : Takes ⟨files, base, load⟩ d written.lexemes
        (onSection d.slideshow open_ (written.reread files base) (contextOf written)) :=
      takes_section h first
    obtain ⟨d', rest, slideshow, slide⟩ :=
      ih (d := onSection d.slideshow open_ (written.reread files base) (contextOf written)) rfl others
    refine ⟨d', read.append rest, slideshow, ?_⟩
    rw [slide, List.append_assoc]
    rfl

/-- The line of a slide opens one with its background. -/
theorem takes_slideLine (around : Surroundings) (d : Draft) (background : Option Color) :
    Takes around d (.directive .slide :: settingLexemes (colorLexemes .background) background)
      ⟨d.take, some { background := background }, .slide⟩ := by
  have color := takes_setting around (fun c => ⟨d.take, some { background := c }, .slide⟩)
    (takes_background d.take {}) background
  exact (takes_slide d).append color

/-- A slide is read after the slides so far, if the files of its figures are there. -/
theorem takes_wholeSlide (d : Draft) {written : Slide}
    (there : ∀ q ∈ written.figurePaths, ∃ found, files.find base q = .ok found) :
    ∃ d', Takes ⟨files, base, load⟩ d written.lexemes d' ∧
      d'.take = { d.take with slides := d.take.slides ++ [written.reread files base] } := by
  obtain ⟨d', sections, slideshow, slide⟩ :=
    takes_sections load (d := ⟨d.take, some { background := written.background }, .slide⟩) rfl there
  refine ⟨d', (takes_slideLine _ d written.background).append sections, ?_⟩
  simp only [take, flush, slide, slideshow]
  rfl

/-- Slides are read one after the other. -/
theorem takes_slides (d : Draft) {slides : List Slide}
    (there : ∀ q ∈ slides.flatMap Slide.figurePaths, ∃ found, files.find base q = .ok found) :
    ∃ d', Takes ⟨files, base, load⟩ d (slides.flatMap Slide.lexemes) d' ∧
      d'.take =
        { d.take with slides := d.take.slides ++ slides.map (Slide.reread files base) } := by
  induction slides generalizing d with
  | nil => exact ⟨d, .nil d, by rw [List.map_nil, List.append_nil]⟩
  | cons written slides ih =>
    rw [List.flatMap_cons] at there
    obtain ⟨d', first, after⟩ :=
      takes_wholeSlide load d fun q mem => there q (List.mem_append_left _ mem)
    obtain ⟨d'', rest, after'⟩ :=
      ih d' fun q mem => there q (List.mem_append_right _ mem)
    refine ⟨d'', first.append rest, ?_⟩
    rw [after', after, List.map_cons, List.append_assoc]
    rfl

/-! ## Missing figures -/

/-- Reading sections stops at the first figure whose file is not there. -/
theorem stops_sections (h : d.slide = some open_) {sections : List Section}
    {before after : List String}
    (paths : sections.filterMap Section.figurePath? = before ++ q :: after)
    (there : ∀ p ∈ before, ∃ found, files.find base p = .ok found)
    (missing : files.find base q = .error fault) (noLoop : ∀ path, fault ≠ .linkLoop path) :
    Stops ⟨files, base, load⟩ d (sections.flatMap Section.lexemes) before.length
      (.figureNotFound q base fault) := by
  induction sections generalizing d open_ before with
  | nil => exact absurd paths (by simp)
  | cons written sections ih =>
    -- What stands after the first section, once that has been read.
    have later : ∀ before', (∀ p ∈ written.figurePath?, ∃ found, files.find base p = .ok found) →
        sections.filterMap Section.figurePath? = before' ++ q :: after →
        (∀ p ∈ before', ∃ found, files.find base p = .ok found) →
        Stops ⟨files, base, load⟩ d ((written :: sections).flatMap Section.lexemes)
          (written.figurePath?.toList.length + before'.length) (.figureNotFound q base fault) := by
      intro before' first paths' there'
      rw [List.flatMap_cons, ← count_figure]
      exact (ih rfl paths' there').after (takes_section h first)
    cases shows : written.figurePath? with
    | none =>
      rw [List.filterMap_cons_none shows] at paths
      have stops := later before (by simp [shows]) paths there
      rwa [shows, Option.toList_none, List.length_nil, Nat.zero_add] at stops
    | some p =>
      rw [List.filterMap_cons_some shows] at paths
      rcases List.cons_eq_append_iff.mp paths with ⟨rfl, same⟩ | ⟨before', rfl, paths'⟩
      · obtain ⟨rfl, -⟩ := List.cons_eq_cons.mp same
        obtain ⟨b, hb, rfl⟩ : ∃ b, written.body = .figure b ∧ b.path = q := by
          unfold Section.figurePath? at shows
          split at shows
          · cases shows
          · rename_i b hb
            exact ⟨b, hb, Option.some.inj shows⟩
        simp only [List.flatMap_cons, Section.lexemes, hb]
        have stops := stops_figure ⟨files, base, load⟩ h missing noLoop written.geometryLexemes
        exact (stops.append _).append _
      · have stops := later before' (by simpa [shows] using there p List.mem_cons_self) paths'
          (fun p mem => there p (List.mem_cons_of_mem _ mem))
        rwa [shows, Option.toList_some, List.length_singleton, Nat.add_comm] at stops

/-- How many figures a slide starts. -/
theorem count_figure_slide (written : Slide) :
    written.lexemes.count (.directive .figure) = written.figurePaths.length := by
  have color := count_color (d := .background) (by decide) written.background
  have sections : ∀ ss : List Section, (ss.flatMap Section.lexemes).count (.directive .figure) =
      (ss.filterMap Section.figurePath?).length := by
    intro ss
    induction ss with
    | nil => rfl
    | cons s ss ih =>
      rw [List.flatMap_cons, List.count_append, count_figure, ih]
      cases shows : s.figurePath? with
      | none => rw [List.filterMap_cons_none shows, Option.toList_none, List.length_nil, Nat.zero_add]
      | some p => rw [List.filterMap_cons_some shows, List.length_cons, Nat.add_comm]; rfl
  unfold Slide.lexemes Slide.figurePaths
  rw [List.cons_append, List.count_cons_of_ne (by simp), List.count_append, color, sections,
    Nat.zero_add]

/-- Reading slides stops at the first figure whose file is not there. -/
theorem stops_slides (d : Draft) {slides : List Slide} {before after : List String}
    (paths : slides.flatMap Slide.figurePaths = before ++ q :: after)
    (there : ∀ p ∈ before, ∃ found, files.find base p = .ok found)
    (missing : files.find base q = .error fault) (noLoop : ∀ path, fault ≠ .linkLoop path) :
    Stops ⟨files, base, load⟩ d (slides.flatMap Slide.lexemes) before.length
      (.figureNotFound q base fault) := by
  induction slides generalizing d before with
  | nil => exact absurd paths (by simp)
  | cons written slides ih =>
    -- What stands after the first slide, once that has been read.
    have later : ∀ before', (∀ p ∈ written.figurePaths, ∃ found, files.find base p = .ok found) →
        slides.flatMap Slide.figurePaths = before' ++ q :: after →
        (∀ p ∈ before', ∃ found, files.find base p = .ok found) →
        Stops ⟨files, base, load⟩ d ((written :: slides).flatMap Slide.lexemes)
          (written.figurePaths.length + before'.length) (.figureNotFound q base fault) := by
      intro before' found paths' there'
      obtain ⟨d', read, -⟩ := takes_wholeSlide load d found
      rw [List.flatMap_cons, ← count_figure_slide]
      exact (ih d' paths' there').after read
    rw [List.flatMap_cons] at paths
    rcases List.append_eq_append_iff.mp paths with ⟨before', rfl, paths'⟩ | ⟨more, shows, rest⟩
    · have stops := later before' (fun p mem => there p (List.mem_append_left _ mem)) paths'
        (fun p mem => there p (List.mem_append_right _ mem))
      rwa [← List.length_append] at stops
    · rcases List.cons_eq_append_iff.mp rest with ⟨rfl, paths'⟩ | ⟨more', rfl, -⟩
      · rw [List.append_nil] at shows
        have stops := later [] (by rwa [shows]) paths' (fun _ absent => nomatch absent)
        rwa [shows, List.length_nil, Nat.add_zero] at stops
      · have line := takes_slideLine ⟨files, base, load⟩ d written.background
        have none_ : (Lexeme.directive .slide ::
            settingLexemes (colorLexemes .background) written.background).count
              (.directive .figure) = 0 := by
          rw [List.count_cons_of_ne (by simp), count_color (by decide)]
        have stops := ((stops_sections load
          (d := ⟨d.take, Option.some { background := written.background }, .slide⟩) rfl shows there
          missing noLoop).after line).append (slides.flatMap Slide.lexemes)
        rwa [none_, Nat.zero_add] at stops

/-! ## The law -/

/-- The settings of the defaults are read one after the other. -/
theorem takes_defaultSettings {around : Surroundings} (written : Slideshow) :
    Takes around ⟨{}, none, .defaults⟩ written.defaultSettings
      ⟨{ background := written.background, fontColor := written.fontColor,
         fontSize := written.fontSize }, none, .defaults⟩ := by
  have background := takes_setting around (fun c => ⟨{ background := c }, none, .defaults⟩)
    (takes_defaultBackground {} none) written.background
  have fontColor := takes_setting around
    (fun c => ⟨{ background := written.background, fontColor := c }, none, .defaults⟩)
    (takes_defaultColor _ none) written.fontColor
  have fontSize := takes_setting around
    (fun v =>
      ⟨{ background := written.background, fontColor := written.fontColor, fontSize := v }, none,
        .defaults⟩)
    (takes_defaultSize _ none) written.fontSize
  exact (background.append fontColor).append fontSize

/-- The line of the defaults is read as them, and opens no slide. -/
theorem takes_defaultLine (around : Surroundings) (written : Slideshow) :
    ∃ d', Takes around {}
        (if written.defaultSettings.isEmpty then []
          else .directive .defaults :: written.defaultSettings) d' ∧
      d'.take = { written with slides := [], fonts := {} } := by
  split
  · rename_i nothing
    refine ⟨{}, .nil _, ?_⟩
    obtain ⟨slides, fonts, background, fontColor, fontSize⟩ := written
    cases background <;> cases fontColor <;> cases fontSize <;>
      simp_all [Slideshow.defaultSettings, settingLexemes, colorLexemes, pairLexemes, take, flush]
  · exact ⟨_, (takes_defaults {}).append (takes_defaultSettings written), rfl⟩

end Draft

/-- A written deck is read back as its slideshow reread, if the files of all its figures are there. -/
theorem Slideshow.parse_of_found {written : Slideshow} {deck : String}
    (h : written.toDeck = .ok deck) (options : ReadOptions) {files : FileSystem} {base : Path}
    (there : ∀ q ∈ written.figurePaths, ∃ found, files.find base q = .ok found) :
    Deck.parse options files base deck = .ok (written.reread files base) := by
  have lexemes := Slideshow.lexemes_of_toDeck h 0
  obtain ⟨d, defaults, taken⟩ :=
    Draft.takes_defaultLine ⟨files, base, Deck.loader options files []⟩ written
  obtain ⟨d', slides, all⟩ := Draft.takes_slides (Deck.loader options files []) d there
  have read := (defaults.append slides) (Token.tokenize deck 0) [] lexemes
  rw [List.append_nil] at read
  simp only [Deck.parse, Deck.parseWith, Draft.read]
  rw [read]
  simp only [Draft.readFrom, all, taken, List.nil_append]
  rfl

/-- Reading a written deck stops at the first figure whose file is not there. -/
theorem Slideshow.parse_of_missing {written : Slideshow} {deck : String}
    (h : written.toDeck = .ok deck) (options : ReadOptions) {files : FileSystem} {base : Path}
    {before after : List String} {q : String} {fault : Fault}
    (paths : written.figurePaths = before ++ q :: after)
    (there : ∀ p ∈ before, ∃ found, files.find base p = .ok found)
    (missing : files.find base q = .error fault) (noLoop : ∀ path, fault ≠ .linkLoop path) :
    ∃ t, (Draft.figureTokens (Token.tokenize deck 0))[before.length]? = some t ∧
      Deck.parse options files base deck = .error (.deck ⟨.figureNotFound q base fault, some t⟩) := by
  have lexemes := Slideshow.lexemes_of_toDeck h 0
  obtain ⟨d, defaults, -⟩ :=
    Draft.takes_defaultLine ⟨files, base, Deck.loader options files []⟩ written
  have stops := (Draft.stops_slides (Deck.loader options files []) d paths there missing
    noLoop).after defaults
  have settings : written.defaultSettings.count (.directive .figure) = 0 := by
    rw [Slideshow.defaultSettings, List.count_append, List.count_append,
      Draft.count_color (by decide), Draft.count_color (by decide), Draft.count_pair (by decide)]
  have none_ : (if written.defaultSettings.isEmpty then [] else
      Lexeme.directive .defaults :: written.defaultSettings).count (.directive .figure) = 0 := by
    split
    · rfl
    · rw [List.count_cons_of_ne (by simp), settings]
  obtain ⟨t, place, d', failed⟩ := stops (Token.tokenize deck 0) [] lexemes
  rw [none_, Nat.zero_add] at place
  rw [List.append_nil] at failed
  refine ⟨t, place, ?_⟩
  simp only [Deck.parse, Deck.parseWith, Draft.read]
  rw [failed]

/-- **A written deck is read back**: as its slideshow reread, if the files of all its figures are
there. If one is not, and the files of all figures before it are, reading stops there with an error
of the deck. -/
theorem Slideshow.parse_toDeck {written : Slideshow} {deck : String}
    (h : written.toDeck = .ok deck) (options : ReadOptions) (files : FileSystem) (base : Path) :
    ((∀ q ∈ written.figurePaths, ∃ found, files.find base q = .ok found) →
      Deck.parse options files base deck = .ok (written.reread files base)) ∧
    ∀ before q after fault, written.figurePaths = before ++ q :: after →
      (∀ p ∈ before, ∃ found, files.find base p = .ok found) →
      files.find base q = .error fault → (∀ path, fault ≠ .linkLoop path) →
      ∃ t e, (Draft.figureTokens (Token.tokenize deck 0))[before.length]? = some t ∧
        Deck.parse options files base deck = .error (.deck ⟨e, some t⟩) ∧
        e = .figureNotFound q base fault ∧ e.kind = .deckIO := by
  refine ⟨Slideshow.parse_of_found h options, ?_⟩
  intro before q after fault paths there missing noLoop
  obtain ⟨t, place, failed⟩ := Slideshow.parse_of_missing h options paths there missing noLoop
  exact ⟨t, _, place, failed, rfl, rfl⟩

/-- A deck with a text and a figure whose file is there. -/
theorem Slideshow.parse_toDeck_star :
    Deck.parse {} ⟨[(["star.png"], .file [])], []⟩ (Path.ofString ".")
        ":ge :bc #102030ff\n:sl\n:tb :ps 0.5 0.25\nHello\n:fg star.png\n" =
      .ok (Slideshow.reread ⟨[(["star.png"], .file [])], []⟩ (Path.ofString ".")
        { background := some ⟨16, 32, 48, 255⟩, slides := [{ sections :=
          [{ position := some ⟨0.5, 0.25⟩, body := .text { text := "Hello" } },
           { body := .figure ⟨"star.png", 0.0⟩ }] }] }) := by
  refine (Slideshow.parse_toDeck ?_ {} _ _).1 ?_
  · decide +kernel
  · intro q mem
    obtain rfl : "star.png" = q := by
      simpa [Slideshow.figurePaths, Slide.figurePaths, Section.figurePath?] using mem
    exact ⟨⟨.root, ["star.png"]⟩, by decide +kernel⟩

/-- Not every deck with a missing figure ends in an error of the deck: the links of a figure before it
may lead back to themselves. -/
theorem Slideshow.parse_toDeck_linkLoop :
    ¬ ∀ (written : Slideshow) (deck : String) (files : FileSystem) (base : Path),
      written.toDeck = .ok deck →
      (∃ q ∈ written.figurePaths, ∃ fault, files.find base q = .error fault ∧
        ∀ path, fault ≠ .linkLoop path) →
      ∃ e, Deck.parse {} files base deck = .error (.deck e) ∧ e.cause.kind = .deckIO := by
  intro law
  obtain ⟨e, failed, -⟩ := law
    { slides := [{ sections :=
      [{ body := .figure ⟨"loop", 0.0⟩ }, { body := .figure ⟨"missing", 0.0⟩ }] }] }
    ":sl\n:fg loop\n:fg missing\n" ⟨[(["loop"], .link "loop")], []⟩ (Path.ofString ".")
    (by decide +kernel)
    ⟨"missing", by decide, .refused .noEntry "missing", by decide +kernel, by simp⟩
  have stopped : Deck.parse {} ⟨[(["loop"], .link "loop")], []⟩ (Path.ofString ".")
      ":sl\n:fg loop\n:fg missing\n" = .error (.fault (.linkLoop "loop")) := by decide +kernel
  rw [stopped] at failed
  cases failed

end SlideDeck
