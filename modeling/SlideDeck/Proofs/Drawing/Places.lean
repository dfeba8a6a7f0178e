import SlideDeck.Proofs.Drawing.Shapes

/-!
# Where lines stand

Two rules say where a line of text is drawn. In a section with a place, lines stand below each other
from that place on, and empty lines keep their room. In all other sections a line stands at the margin,
below everything that has been written on the slide so far, and empty lines take no room
(`SlideLine.place`). The two meet in the height that is next: every line that is drawn adds the height
of its cell to it, by whichever rule it stands, and nothing else does (`heightAfter`).

**The law** (`placed_of_drawSlide`): when a slide is drawn, its texts show its lines one by one, each in
a box at its place, as wide as its letters and as high as its cell. Sums are those of floating-point
numbers, added up in the order of the lines. Figures have one shape each, whatever comes of them, and
take part in nothing else: without them the slide is drawn as just these texts.
-/

namespace SlideDeck

/-! ## Lines -/

/-- A line of text on a slide, with what its place hangs on. -/
structure SlideLine where
  chars : List Char
  /-- How many lines of its text stand before it, empty ones included. -/
  index : Nat
  position : Option Vec2
  cell : Vec2
deriving DecidableEq

/-- The lines that are drawn among those of a text, the first of which has the given index. -/
def slideLinesFrom (position : Option Vec2) (cell : Vec2) (index : Nat) (lines : List (List Char)) :
    List SlideLine :=
  ((lines.zipIdx index).filter fun l => l.1 ≠ []).map fun l => ⟨l.1, l.2, position, cell⟩

/-- The lines that are drawn of a section. -/
def Section.slideLines (fallback : Fallback) (s : Section) : List SlideLine :=
  match s.body with
  | .figure _ => []
  | .text b =>
    slideLinesFrom s.position (s.size.getD fallback.cell) 0 (b.text.toList.splitOn '\n')

/-- The lines that are drawn of a slide, in order. -/
def Slide.slideLines (fallback : Fallback) (s : Slide) : List SlideLine :=
  s.sections.flatMap (Section.slideLines fallback)

/-- The height that is next after some lines: the margin and the heights of their cells, added one
after the other. -/
def heightAfter (style : Style) (lines : List SlideLine) : Float :=
  lines.foldl (fun next l => next + l.cell.y) style.margin

namespace SlideLine

variable {style : Style} {before : List SlideLine}

/-- The place of a line after others. -/
def place (style : Style) (before : List SlideLine) (l : SlideLine) : Vec2 :=
  match l.position with
  | none => ⟨style.margin, heightAfter style before⟩
  | some p => ⟨p.x, p.y + l.cell.y * Float.ofNat l.index⟩

/-- A shape shows a line that stands after others: it is a text at the line's place, as wide as its
letters and as high as its cell. -/
def ShownBy (style : Style) (before : List SlideLine) (l : SlideLine) (shape : Shape) : Prop :=
  ∃ t, shape = .text t ∧ drawnText l.chars = .ok t.text ∧
    t.box.Spans ⟨style.width, style.height⟩ (l.place style before)
      ⟨Float.ofNat l.chars.length * l.cell.x, l.cell.y⟩

/-- Shapes show lines one by one, after other lines. -/
inductive ShownInOrder (style : Style) :
    List SlideLine → List SlideLine → List Shape → Prop where
  | nil (before : List SlideLine) : ShownInOrder style before [] []
  | cons {before rest : List SlideLine} {l : SlideLine} {shape : Shape} {shapes : List Shape}
    (first : l.ShownBy style before shape) (later : ShownInOrder style (before ++ [l]) rest shapes) :
    ShownInOrder style before (l :: rest) (shape :: shapes)

namespace ShownInOrder

variable {lines more : List SlideLine} {shapes shapes' : List Shape}

theorem append (h : ShownInOrder style before lines shapes)
    (h' : ShownInOrder style (before ++ lines) more shapes') :
    ShownInOrder style before (lines ++ more) (shapes ++ shapes') := by
  induction h with
  | nil before => simpa using h'
  | cons first _ ih => exact .cons first (ih (by simpa using h'))

theorem length_eq (h : ShownInOrder style before lines shapes) : shapes.length = lines.length := by
  induction h with
  | nil => rfl
  | cons _ _ ih => rw [List.length_cons, List.length_cons, ih]

/-- Each line stands after the lines before it. -/
theorem getElem (h : ShownInOrder style before lines shapes) {k : Nat} {l : SlideLine}
    {shape : Shape} (line : lines[k]? = some l) (shown : shapes[k]? = some shape) :
    l.ShownBy style (before ++ lines.take k) shape := by
  induction h generalizing k with
  | nil => cases line
  | @cons before rest first _ _ here _ ih =>
    cases k with
    | zero =>
      cases line
      cases shown
      simpa only [List.take_zero, List.append_nil] using here
    | succ k =>
      rw [List.take_succ_cons, List.append_cons]
      exact ih line shown

end ShownInOrder

end SlideLine

@[simp]
theorem heightAfter_concat (style : Style) (lines : List SlideLine) (l : SlideLine) :
    heightAfter style (lines ++ [l]) = heightAfter style lines + l.cell.y := by
  rw [heightAfter, List.foldl_append]
  rfl

/-! ## Texts -/

open SlideLine

variable {style : Style} {files : FileSystem} {fallback : Fallback} {next after : Float}
  {before : List SlideLine} {shapes : List Shape}

theorem linePosition_heightAfter (chars : List Char) (looks : LineLooks) (index : Nat) :
    linePosition style looks index (heightAfter style before) =
      SlideLine.place style before ⟨chars, index, looks.position, looks.cell⟩ := by
  unfold linePosition SlideLine.place
  cases looks.position <;> rfl

/-- **The lines of a text stand at their places**, and their cells are added to the height that is
next, by induction on the lines. -/
theorem shownInOrder_of_drawLines {looks : LineLooks} {lines : List (List Char)} {index : Nat}
    (h : drawLines style looks index next lines = .ok (shapes, after))
    (start : next = heightAfter style before) :
    ShownInOrder style before (slideLinesFrom looks.position looks.cell index lines) shapes ∧
      after = heightAfter style (before ++ slideLinesFrom looks.position looks.cell index lines) := by
  unfold slideLinesFrom
  induction lines generalizing index next before shapes after with
  | nil =>
    cases h
    exact ⟨.nil before, by simpa using start⟩
  | cons line rest ih =>
    rw [List.zipIdx_cons]
    cases line with
    | nil =>
      rw [List.filter_cons_of_neg (by simp)]
      exact ih h start
    | cons c cs =>
      obtain ⟨t, drawn, h⟩ := ok_of_bind h
      obtain ⟨⟨others, last⟩, more, h⟩ := ok_of_bind h
      cases h
      let l : SlideLine := ⟨c :: cs, index, looks.position, looks.cell⟩
      unfold drawLine at drawn
      rw [start, linePosition_heightAfter (c :: cs)] at drawn
      obtain ⟨box, text⟩ := drawText_eq_ok drawn
      have follows : next + looks.cell.y = heightAfter style (before ++ [l]) := by
        rw [heightAfter_concat, ← start]
      obtain ⟨shown, height⟩ := ih more follows
      rw [List.filter_cons_of_pos (by simp), List.map_cons]
      refine ⟨.cons ⟨t, rfl, text, Area.box_ofPage_eq_ok_iff.mp box⟩ shown, ?_⟩
      rw [height, List.append_assoc]
      rfl

/-! ## Sections -/

/-- A section and the shapes that it is drawn as. -/
abbrev DrawnSection := Section × List Shape

/-- The shapes of the texts among drawn sections. -/
def textShapes (parts : List DrawnSection) : List Shape :=
  (parts.filter fun part => part.1.body.isText).flatMap Prod.snd

/-- Sections that are drawn, and how. Those that show figures have one shape each. -/
structure DrawnParts (sections : List Section) (shapes : List Shape) (parts : List DrawnSection) :
    Prop where
  sections : parts.map Prod.fst = sections
  shapes : parts.flatMap Prod.snd = shapes
  figures : ∀ part ∈ parts, part.1.body.isFigure = true → part.2.length = 1

theorem DrawnParts.cons {sections : List Section} {parts : List DrawnSection}
    (h : DrawnParts sections shapes parts) {s : Section} {here : List Shape}
    (figure : s.body.isFigure = true → here.length = 1) :
    DrawnParts (s :: sections) (here ++ shapes) ((s, here) :: parts) where
  sections := by rw [List.map_cons, h.sections]
  shapes := by rw [List.flatMap_cons, h.shapes]
  figures := List.forall_mem_cons.mpr ⟨figure, h.figures⟩

/-- **Sections are drawn with their lines at their places**, by induction on the sections: a text goes on
from the height that is next and leaves it raised, and a figure leaves it as it is. -/
theorem shownInOrder_of_drawSections {sections : List Section}
    (h : (drawSections style files fallback next sections).result = .ok shapes)
    (start : next = heightAfter style before) :
    ∃ parts, DrawnParts sections shapes parts ∧
      ShownInOrder style before (sections.flatMap (Section.slideLines fallback)) (textShapes parts) ∧
      (drawSections style files fallback next (sections.filter fun s => s.body.isText)).result =
        .ok (textShapes parts) := by
  induction sections generalizing next before shapes with
  | nil =>
    cases h
    exact ⟨[], ⟨rfl, rfl, fun _ absent => nomatch absent⟩, .nil before, rfl⟩
  | cons s rest ih =>
    obtain ⟨⟨here, left⟩, drawn, h, -⟩ := Drawn.ok_of_bind h
    obtain ⟨others, more, rfl⟩ := Drawn.ok_of_map h
    have made := drawn
    unfold drawSection at drawn
    cases body : s.body with
    | figure b =>
      simp only [body] at drawn
      obtain ⟨shape, -, same⟩ := Drawn.ok_of_map drawn
      cases same
      obtain ⟨parts, whole, shown, alone⟩ := ih more start
      have isText : s.body.isText = false := by rw [body]; rfl
      have none_ : s.slideLines fallback = [] := by rw [Section.slideLines, body]
      refine ⟨(s, [shape]) :: parts, whole.cons fun _ => rfl, ?_, ?_⟩
      · rw [List.flatMap_cons, none_, textShapes, List.filter_cons_of_neg (by simp [isText])]
        exact shown
      · rw [List.filter_cons_of_neg (by simp [isText]), textShapes,
          List.filter_cons_of_neg (by simp [isText])]
        exact alone
    | text b =>
      simp only [body] at drawn
      obtain ⟨first, height⟩ := shownInOrder_of_drawLines drawn start
      obtain ⟨parts, whole, shown, alone⟩ := ih more height
      have isText : s.body.isText = true := by rw [body]; rfl
      have isFigure : s.body.isFigure ≠ true := by rw [body]; nofun
      have lines : s.slideLines fallback = slideLinesFrom s.position (s.size.getD fallback.cell) 0
          (b.text.toList.splitOn '\n') := by rw [Section.slideLines, body]
      have texts : textShapes ((s, here) :: parts) = here ++ textShapes parts := by
        rw [textShapes, List.filter_cons_of_pos (by simp [isText]), List.flatMap_cons, textShapes]
      refine ⟨(s, here) :: parts, whole.cons fun figure => absurd figure isFigure, ?_, ?_⟩
      · rw [List.flatMap_cons, lines, texts]
        exact first.append shown
      · rw [List.filter_cons_of_pos (by simp [isText]), texts, drawSections]
        simp only [Drawn.bind, made, Drawn.map, alone]
        rfl

/-! ## The law -/

/-- A slide without its figures. -/
def Slide.withoutFigures (s : Slide) : Slide :=
  { s with sections := s.sections.filter fun section_ => section_.body.isText }

/-- **A slide that is drawn shows its lines at their places.** The shapes of its texts are as many as its
lines, and the one of each line is a text in a box at the place that the line has after those before
it, as wide as its letters and as high as its cell. Figures have one shape each, and without them the
slide is drawn as the same texts. -/
theorem placed_of_drawSlide {s : Slideshow} {slide : Slide} {page : Page}
    (h : (drawSlide style files s slide).result = .ok page) :
    ∃ parts, DrawnParts slide.sections page.shapes parts ∧
      (textShapes parts).length = (slide.slideLines (s.fallback style)).length ∧
      (∀ (k : Nat) (l : SlideLine) (shape : Shape),
        (slide.slideLines (s.fallback style))[k]? = some l → (textShapes parts)[k]? = some shape →
        l.ShownBy style ((slide.slideLines (s.fallback style)).take k) shape) ∧
      (drawSlide style files s slide.withoutFigures).result =
        .ok { page with shapes := textShapes parts } := by
  obtain ⟨shapes, drawn, rfl⟩ := Drawn.ok_of_map h
  have start : style.margin = heightAfter style [] := rfl
  obtain ⟨parts, whole, shown, alone⟩ := shownInOrder_of_drawSections drawn start
  refine ⟨parts, whole, shown.length_eq, fun k l shape => shown.getElem, ?_⟩
  unfold drawSlide Slide.withoutFigures
  simp only [Drawn.map, alone]
  rfl

/-- Two lines in a cell of their own, a figure whose file is missing, two lines with a place, and one
more line: it stands at the margin, below the four others. -/
theorem placed_of_drawSlide_mixed :
    let files : FileSystem := ⟨[], []⟩
    let slide : Slide := ⟨none, [{ size := some ⟨0.03, 0.1⟩, body := .text { text := "a\n\nb\n" } },
      { body := .figure { path := "gone.bmp" } },
      { position := some ⟨0.5, 0.25⟩, body := .text { text := "c\n\nd\n" } },
      { body := .text { text := "e\n" } }]⟩
    let cell : Vec2 := ({} : Style).cell
    let before : List SlideLine := [⟨['a'], 0, none, ⟨0.03, 0.1⟩⟩, ⟨['b'], 2, none, ⟨0.03, 0.1⟩⟩,
      ⟨['c'], 0, some ⟨0.5, 0.25⟩, cell⟩, ⟨['d'], 2, some ⟨0.5, 0.25⟩, cell⟩]
    ∃ page parts shape, (drawSlide {} files {} slide).result = .ok page ∧
      DrawnParts slide.sections page.shapes parts ∧ (textShapes parts)[4]? = some shape ∧
      SlideLine.ShownBy {} before ⟨['e'], 0, none, cell⟩ shape := by
  intro files slide cell before
  have good : (drawSlide {} files {} slide).result.isOk = true := by decide +kernel
  have lines : slide.slideLines (Slideshow.fallback {} {}) = before ++ [⟨['e'], 0, none, cell⟩] := by
    decide +kernel
  cases made : (drawSlide {} files {} slide).result with
  | error e =>
    rw [made] at good
    cases good
  | ok page =>
    obtain ⟨parts, whole, count, placed, -⟩ := placed_of_drawSlide made
    rw [lines] at count placed
    have five : 4 < (textShapes parts).length := by
      rw [count]
      exact Nat.lt_succ_self 4
    have last := List.getElem?_eq_getElem five
    exact ⟨page, parts, _, rfl, whole, last, placed 4 _ _ rfl last⟩

end SlideDeck
