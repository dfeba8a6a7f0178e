import SlideDeck.Backend

/-!
# Defaults written into their slides

What a slideshow leaves open is looked for in three places: in the section or the slide itself, among
the defaults of the slideshow, and in the style. The first two can be made one, by writing the defaults
of the slideshow into all that lacks them and dropping them then (`Slideshow.spelledOut`). Figures have no
defaults in a slideshow, and stay as they are.

**The law** (`Backend.render_spelledOut`): that makes no difference to a drawing, whatever is set and
whatever is not. The cell of letters is the delicate part, for it goes into the height on which the next
line stands; so sections are compared with the height that they leave (`drawSection_spelledOut`), and only
then one after the other.
-/

namespace SlideDeck

/-! ## Spelling defaults out -/

/-- A section with the defaults of a slideshow where it has nothing of its own. -/
def Section.spelledOut (show_ : Slideshow) (s : Section) : Section :=
  match s.body with
  | .figure _ => s
  | .text b =>
    { s with
      size := s.size.orElse fun _ => show_.fontSize
      body := .text { b with color := b.color.orElse fun _ => show_.fontColor } }

/-- A slide with the defaults of a slideshow where it has nothing of its own. -/
def Slide.spelledOut (show_ : Slideshow) (s : Slide) : Slide where
  background := s.background.orElse fun _ => show_.background
  sections := s.sections.map (Section.spelledOut show_)

/-- A slideshow whose defaults are written into its slides. -/
def Slideshow.spelledOut (s : Slideshow) : Slideshow :=
  { s with
    slides := s.slides.map (Slide.spelledOut s)
    background := none
    fontColor := none
    fontSize := none }

/-! ## Drawing -/

variable (style : Style) (files : FileSystem) (show_ : Slideshow)

/-- A spelled-out section is drawn without the defaults as it was with them, and leaves the same
height. -/
@[simp]
theorem drawSection_spelledOut (next : Float) (s : Section) :
    drawSection style files (show_.spelledOut.fallback style) next (s.spelledOut show_) =
      drawSection style files (show_.fallback style) next s := by
  unfold Section.spelledOut
  cases body : s.body with
  | figure b => simp only [drawSection, body]
  | text b =>
    simp [drawSection, body, Slideshow.fallback, Slideshow.spelledOut]

/-- Sections after each other, by induction on them: each starts on the height that the ones before
have left. -/
@[simp]
theorem drawSections_spelledOut (next : Float) (sections : List Section) :
    drawSections style files (show_.spelledOut.fallback style) next
        (sections.map (Section.spelledOut show_)) =
      drawSections style files (show_.fallback style) next sections := by
  induction sections generalizing next with
  | nil => rfl
  | cons s rest ih =>
    have later : (fun x : List Shape × Float =>
          (drawSections style files (show_.spelledOut.fallback style) x.2
            (rest.map (Section.spelledOut show_))).map (x.1 ++ ·)) =
        fun x => (drawSections style files (show_.fallback style) x.2 rest).map (x.1 ++ ·) :=
      funext fun x => congrArg _ (ih x.2)
    rw [List.map_cons, drawSections, drawSections, drawSection_spelledOut]
    exact congrArg _ later

/-- The background of a spelled-out slide is what it was. -/
@[simp]
theorem backgroundOf_spelledOut (s : Slide) :
    show_.spelledOut.backgroundOf style (s.spelledOut show_) = show_.backgroundOf style s := by
  simp [Slideshow.backgroundOf, Slideshow.spelledOut, Slide.spelledOut]

/-- A spelled-out slide is drawn as it was. -/
@[simp]
theorem drawSlide_spelledOut (s : Slide) :
    drawSlide style files show_.spelledOut (s.spelledOut show_) = drawSlide style files show_ s := by
  rw [drawSlide, drawSlide, backgroundOf_spelledOut, Slide.spelledOut, drawSections_spelledOut]

@[simp]
theorem drawSlides_spelledOut (slides : List Slide) :
    drawSlides style files show_.spelledOut (slides.map (Slide.spelledOut show_)) =
      drawSlides style files show_ slides := by
  induction slides with
  | nil => rfl
  | cons s rest ih => rw [List.map_cons, drawSlides, drawSlides, drawSlide_spelledOut, ih]

/-- A spelled-out slideshow is drawn as it was. -/
theorem Slideshow.draw_spelledOut : show_.spelledOut.draw style files = show_.draw style files := by
  have slides := drawSlides_spelledOut style files show_ show_.slides
  unfold Slideshow.draw
  rw [← slides]
  rfl

/-! ## The law -/

/-- **Writing the defaults of a slideshow into its slides changes nothing of what is made of it**: the
same drawing or the same error, the same warnings, and the same files. -/
theorem Backend.render_spelledOut (out : Path) :
    render (.drawing style) files (some show_.spelledOut) out =
      render (.drawing style) files (some show_) out := by
  unfold render draw
  simp only [Slideshow.draw_spelledOut]

end SlideDeck
