import SlideDeck.Backend
import SlideDeck.Proofs.Drawing.Images

/-!
# What is drawn

Drawing goes through the slides, the sections of each and the lines of each text, and adds shapes on the
way. What a section comes to is known without drawing it (`Section.DrawnAs`): a figure is one shape, a
picture if its file has an image and a text in its place otherwise; a text is one shape for each line
that is not empty, with the characters of the line.

**The law** (`Backend.drawn_of_render`): when a drawing is made, nothing of this is lost, added or put in
another order. There is a page for each slide, with the shapes of its sections one after the other, and a
warning for each figure without an image. That a figure is drawn as a picture hangs on its file alone and
on the formats that are known, since an image can be fitted to every box that can be drawn
(`Image.raises_fit`).
-/

namespace SlideDeck

/-! ## What there is to draw -/

/-- Whether a file is there that has an image. -/
def FileSystem.hasImage (files : FileSystem) (images : Image.Formats) (path : String) : Bool :=
  match files.bytesAt path with
  | .error _ => false
  | .ok bytes =>
    match images.load bytes with
    | .ok (some _) => true
    | _ => false

/-- A shape with the text of a line. -/
def Shape.IsLine (line : List Char) (shape : Shape) : Prop :=
  ∃ t, shape = .text t ∧ drawnText line = .ok t.text

/-- The lines of a text that are drawn. -/
def TextBody.drawnLines (b : TextBody) : List (List Char) :=
  (b.text.toList.splitOn '\n').filter (· ≠ [])

/-- The shapes that a section is drawn as. -/
inductive Section.DrawnAs (images : Image.Formats) (files : FileSystem) (s : Section) :
    List Shape → Prop where
  | picture {b : FigureBody} {box : Box} {rotation : Int} (body : s.body = .figure b)
    (image : files.hasImage images b.path = true) :
    Section.DrawnAs images files s [.picture ⟨box, b.path, rotation⟩]
  | placeholder {b : FigureBody} {shape : Shape} (body : s.body = .figure b)
    (image : files.hasImage images b.path = false) (text : shape.IsLine (placeholderText b.path)) :
    Section.DrawnAs images files s [shape]
  | text {b : TextBody} {shapes : List Shape} (body : s.body = .text b)
    (lines : List.Forall₂ (fun line shape => shape.IsLine line) b.drawnLines shapes) :
    Section.DrawnAs images files s shapes

/-- A page with the shapes of the sections of a slide, one section after the other. -/
def Slide.DrawnAs (images : Image.Formats) (files : FileSystem) (slide : Slide) (page : Page) : Prop :=
  ∃ parts : List (List Shape),
    List.Forall₂ (Section.DrawnAs images files) slide.sections parts ∧ page.shapes = parts.flatten

/-- The warning that a section gives. -/
def Section.warnings (images : Image.Formats) (files : FileSystem) (s : Section) : List Warning :=
  match s.body with
  | .figure b => if files.hasImage images b.path then [] else [⟨b.path⟩]
  | .text _ => []

/-- The warnings that a slide gives. -/
def Slide.warnings (images : Image.Formats) (files : FileSystem) (slide : Slide) : List Warning :=
  slide.sections.flatMap (Section.warnings images files)

/-! ## Steps of drawing -/

namespace Drawn

variable {α β : Type} {d : Drawn α} {b : β}

theorem ok_of_bind {f : α → Drawn β} (h : (d.bind f).result = .ok b) :
    ∃ a, d.result = .ok a ∧ (f a).result = .ok b ∧
      (d.bind f).warnings = d.warnings ++ (f a).warnings := by
  unfold bind at h ⊢
  cases made : d.result with
  | error e =>
    rw [made] at h
    cases h
  | ok a =>
    rw [made] at h
    exact ⟨a, rfl, h, rfl⟩

theorem ok_of_map {f : α → β} (h : (d.map f).result = .ok b) : ∃ a, d.result = .ok a ∧ f a = b := by
  unfold map at h
  cases made : d.result with
  | error e =>
    rw [made] at h
    cases h
  | ok a =>
    rw [made] at h
    exact ⟨a, rfl, Except.ok.inj h⟩

end Drawn

/-- A text that is drawn has the box of its area and the characters of the text. -/
theorem drawText_eq_ok {style : Style} {a : Area} {text : List Char} {points : Float}
    {color : Option Rgb} {t : TextShape} (h : drawText style a text points color = .ok t) :
    a.box = .ok t.box ∧ drawnText text = .ok t.text := by
  obtain ⟨box, placed, h⟩ := ok_of_bind h
  obtain ⟨drawn, held, h⟩ := ok_of_bind h
  obtain ⟨size, -, h⟩ := ok_of_bind h
  obtain ⟨font, -, h⟩ := ok_of_bind h
  cases h
  exact ⟨placed, held⟩

/-! ## Boxes -/

/-- A box at a place of a page, of a size; both are fractions of the page, which is given in inches. The
lengths of the box are the whole units in as many inches. -/
structure Box.Spans (page position size : Vec2) (b : Box) : Prop where
  left : Drawing.truncate (position.x * page.x * 914400.0) = .ok b.left
  top : Drawing.truncate (position.y * page.y * 914400.0) = .ok b.top
  width : Drawing.truncate (size.x * page.x * 914400.0) = .ok b.width
  height : Drawing.truncate (size.y * page.y * 914400.0) = .ok b.height

/-- **The box of an area of a page spans that area.** -/
theorem Area.box_ofPage_eq_ok_iff {style : Style} {position size : Vec2} {b : Box} :
    (Area.ofPage style position size).box = .ok b ↔
      b.Spans ⟨style.width, style.height⟩ position size := by
  constructor
  · intro h
    obtain ⟨left, hl, h⟩ := ok_of_bind h
    obtain ⟨top, ht, h⟩ := ok_of_bind h
    obtain ⟨width, hw, h⟩ := ok_of_bind h
    obtain ⟨height, hh, h⟩ := ok_of_bind h
    cases h
    exact ⟨hl, ht, hw, hh⟩
  · rintro ⟨hl, ht, hw, hh⟩
    have left : Drawing.lengthOfInches (position.x * style.width) = .ok b.left := hl
    have top : Drawing.lengthOfInches (position.y * style.height) = .ok b.top := ht
    have width : Drawing.lengthOfInches (size.x * style.width) = .ok b.width := hw
    have height : Drawing.lengthOfInches (size.y * style.height) = .ok b.height := hh
    simp only [Area.ofPage, Area.box, left, top, width, height]
    rfl

/-! ## Figures -/

section Figures

variable {style : Style} {images : Image.Formats} {files : FileSystem} {path : String} {a : Area}

/-- Only the file of an image is placed. -/
theorem hasImage_of_placeImage {box : Box} (h : placeImage images files path a = .ok box) :
    files.hasImage images path = true := by
  obtain ⟨outer, -, h⟩ := ok_of_bind h
  obtain ⟨bytes, read, h⟩ := ok_of_bind h
  obtain ⟨found, image, h⟩ := ok_of_bind h
  unfold FileSystem.hasImage
  rw [ok_of_mapError read]
  simp only [ok_of_mapError image]
  cases found with
  | none => cases h
  | some image => rfl

/-- The file of an image is placed in every box, unless a length becomes infinite. -/
theorem hasImage_of_unreadable {box : Box} (placed : a.box = .ok box)
    (h : placeImage images files path a = .error .unreadable) : files.hasImage images path = false := by
  unfold FileSystem.hasImage
  cases read : files.bytesAt path with
  | error fault => rfl
  | ok bytes =>
    simp only
    cases image : images.load bytes with
    | error e => rfl
    | ok found =>
      cases found with
      | none => rfl
      | some found =>
        obtain ⟨sound, few⟩ := Image.isSound_of_load image
        unfold placeImage at h
        rw [placed, read] at h
        simp only [Except.mapError, bind, Except.bind, image] at h
        cases fitted : found.fit box.width box.height with
        | ok lengths =>
          rw [fitted] at h
          cases h
        | error e =>
          -- A length has become infinite, and this is told otherwise.
          obtain rfl := Image.raises_fit sound few _ _ e fitted
          rw [fitted] at h
          cases h

/-- **A figure is drawn as its file asks for**, with a warning if it has no image. -/
theorem drawnAs_of_drawFigure {s : Section} {b : FigureBody} {shape : Shape}
    (body : s.body = .figure b) (h : (drawFigure style files s b).result = .ok shape) :
    s.DrawnAs style.images files [shape] ∧
      (drawFigure style files s b).warnings = s.warnings style.images files := by
  unfold drawFigure at h ⊢
  simp only at h ⊢
  unfold Section.warnings
  rw [body]
  split at h
  · rename_i unreadable
    cases drawn : drawPlaceholder style (figureArea style s) b.path with
    | error e =>
      rw [drawn] at h
      cases h
    | ok t =>
      rw [drawn] at h
      obtain ⟨placed, text⟩ := drawText_eq_ok drawn
      have image := hasImage_of_unreadable placed unreadable
      cases h
      refine ⟨.placeholder body image ⟨t, rfl, text⟩, ?_⟩
      simp only [image, Bool.false_eq_true, if_false]
  · cases h
  · rename_i box placed
    have image := hasImage_of_placeImage placed
    cases turned : Drawing.angleOfDegrees b.rotation with
    | error e =>
      rw [turned] at h
      cases h
    | ok rotation =>
      rw [turned] at h
      cases h
      refine ⟨.picture body image, ?_⟩
      simp only [image, if_true]
      rfl

end Figures

/-! ## Texts -/

/-- **Each line that is not empty is drawn, and nothing else**, by induction on the lines. -/
theorem isLine_of_drawLines {style : Style} {looks : LineLooks} {lines : List (List Char)}
    {index : Nat} {next after : Float} {shapes : List Shape}
    (h : drawLines style looks index next lines = .ok (shapes, after)) :
    List.Forall₂ (fun line shape => Shape.IsLine line shape) (lines.filter (· ≠ [])) shapes := by
  induction lines generalizing index next shapes after with
  | nil =>
    cases h
    exact .nil
  | cons line rest ih =>
    cases line with
    | nil =>
      rw [List.filter_cons_of_neg (by simp)]
      exact ih h
    | cons c cs =>
      obtain ⟨t, drawn, h⟩ := ok_of_bind h
      obtain ⟨⟨more, last⟩, others, h⟩ := ok_of_bind h
      cases h
      rw [List.filter_cons_of_pos (by simp)]
      exact .cons ⟨t, rfl, (drawText_eq_ok drawn).2⟩ (ih others)

/-! ## Slides -/

section Slides

variable {style : Style} {files : FileSystem}

/-- A section is drawn as what it is. -/
theorem drawnAs_of_drawSection {fallback : Fallback} {next after : Float} {s : Section}
    {shapes : List Shape} (h : (drawSection style files fallback next s).result = .ok (shapes, after)) :
    s.DrawnAs style.images files shapes ∧
      (drawSection style files fallback next s).warnings = s.warnings style.images files := by
  unfold drawSection at h ⊢
  cases body : s.body with
  | figure b =>
    simp only [body] at h ⊢
    obtain ⟨shape, drawn, same⟩ := Drawn.ok_of_map h
    cases same
    exact drawnAs_of_drawFigure body drawn
  | text b =>
    simp only [body] at h ⊢
    refine ⟨.text body (isLine_of_drawLines h), ?_⟩
    unfold Section.warnings
    rw [body]
    rfl

/-- Sections are drawn one after the other, by induction on them. -/
theorem drawnAs_of_drawSections {fallback : Fallback} {sections : List Section} {next : Float}
    {shapes : List Shape} (h : (drawSections style files fallback next sections).result = .ok shapes) :
    (∃ parts, List.Forall₂ (Section.DrawnAs style.images files) sections parts ∧ shapes = parts.flatten) ∧
      (drawSections style files fallback next sections).warnings =
        sections.flatMap (Section.warnings style.images files) := by
  induction sections generalizing next shapes with
  | nil =>
    cases h
    exact ⟨⟨[], .nil, rfl⟩, rfl⟩
  | cons s rest ih =>
    obtain ⟨⟨first, after⟩, drawn, h, told⟩ := Drawn.ok_of_bind h
    obtain ⟨others, more, rfl⟩ := Drawn.ok_of_map h
    obtain ⟨here, warned⟩ := drawnAs_of_drawSection drawn
    obtain ⟨⟨parts, drawnAs, rfl⟩, later⟩ := ih more
    refine ⟨⟨first :: parts, .cons here drawnAs, rfl⟩, ?_⟩
    rw [List.flatMap_cons, ← warned, ← later]
    exact told

/-- Slides are drawn one after the other, each on a page of its own, by induction on them. -/
theorem drawnAs_of_drawSlides {s : Slideshow} {slides : List Slide} {pages : List Page}
    (h : (drawSlides style files s slides).result = .ok pages) :
    List.Forall₂ (Slide.DrawnAs style.images files) slides pages ∧
      (drawSlides style files s slides).warnings = slides.flatMap (Slide.warnings style.images files) := by
  induction slides generalizing pages with
  | nil =>
    cases h
    exact ⟨.nil, rfl⟩
  | cons slide rest ih =>
    obtain ⟨page, drawn, h, told⟩ := Drawn.ok_of_bind h
    obtain ⟨others, more, rfl⟩ := Drawn.ok_of_map h
    obtain ⟨shapes, sections, rfl⟩ := Drawn.ok_of_map drawn
    obtain ⟨parts, warned⟩ := drawnAs_of_drawSections sections
    obtain ⟨pages, later⟩ := ih more
    refine ⟨.cons parts pages, ?_⟩
    rw [List.flatMap_cons, ← later, Slide.warnings, ← warned]
    exact told

/-- A drawing has the pages of its slides. -/
theorem drawnAs_of_draw {s : Slideshow} {d : Drawing} (h : (s.draw style files).result = .ok d) :
    List.Forall₂ (Slide.DrawnAs style.images files) s.slides d.pages ∧
      (s.draw style files).warnings = s.slides.flatMap (Slide.warnings style.images files) := by
  obtain ⟨width, -, h, told⟩ := Drawn.ok_of_bind h
  obtain ⟨height, -, h, told'⟩ := Drawn.ok_of_bind h
  obtain ⟨pages, drawn, rfl⟩ := Drawn.ok_of_map h
  obtain ⟨drawnAs, warned⟩ := drawnAs_of_drawSlides drawn
  refine ⟨drawnAs, ?_⟩
  rw [← warned]
  exact told.trans told'

end Slides

/-! ## The law -/

namespace Backend

/-- **A drawing that is made has a page for each slide, with what its sections are drawn as, and a
warning for each figure without an image**; files are looked at once the folders on the way to the
drawing's own file are there, and that file is written last. -/
theorem drawn_of_render {style : Style} {files : FileSystem} {s : Slideshow} {out : Path} {o : Output}
    (h : (render (.drawing style) files (some s) out).result = .ok o) :
    ∃ d ready, o = .drawing d ∧ files.makeParents out = (ready, .ok ()) ∧
      ready.writeBytes out d.fileText.toUTF8.toList =
        .ok (render (.drawing style) files (some s) out).files ∧
      List.Forall₂ (Slide.DrawnAs style.images ready) s.slides d.pages ∧
      (render (.drawing style) files (some s) out).warnings =
        s.slides.flatMap (Slide.warnings style.images ready) := by
  unfold render draw at h ⊢
  simp only at h ⊢
  split at h
  · cases h
  · rename_i ready folders
    have laws := @drawnAs_of_draw style ready s
    split at h
    · cases h
    · rename_i warnings d made
      obtain ⟨pages, warned⟩ := laws (d := d) (by rw [made])
      rw [made] at warned
      unfold Output.save at h ⊢
      split at h
      · cases h
      · rename_i after written
        cases h
        exact ⟨d, ready, rfl, folders, written, pages, warned⟩

/-- Two lines with an empty one between them, an image, and a figure whose file is missing: of the
last alone a warning tells. -/
theorem drawn_of_render_missing :
    let files : FileSystem := ⟨[(["dot.bmp"], .file
      ([0x42, 0x4d] ++ List.replicate 12 0 ++ [12, 0, 0, 0, 1, 0, 1, 0, 1, 0, 24, 0]))], []⟩
    let slide : Slide := ⟨none, [⟨none, none, .text { text := "a\n\nb\n" }⟩,
      ⟨none, none, .figure { path := "dot.bmp" }⟩, ⟨none, none, .figure { path := "gone.bmp" }⟩]⟩
    ∃ d, (render (.drawing {}) files (some { slides := [slide] }) (Path.ofString "a.out")).result =
        .ok (.drawing d) ∧
      List.Forall₂ (Slide.DrawnAs .common files) [slide] d.pages ∧
      (render (.drawing {}) files (some { slides := [slide] }) (Path.ofString "a.out")).warnings =
        [⟨"gone.bmp"⟩] := by
  intro files slide
  have good : (render (.drawing {}) files (some { slides := [slide] })
      (Path.ofString "a.out")).result.isOk = true := by decide +kernel
  cases made : (render (.drawing {}) files (some { slides := [slide] })
      (Path.ofString "a.out")).result with
  | error e =>
    rw [made] at good
    cases good
  | ok o =>
    obtain ⟨d, ready, rfl, folders, -, pages, warned⟩ := drawn_of_render made
    have same : files.makeParents (Path.ofString "a.out") = (files, .ok ()) := by rfl
    cases same.symm.trans folders
    exact ⟨d, rfl, pages, warned.trans (by decide +kernel)⟩

end Backend

end SlideDeck
