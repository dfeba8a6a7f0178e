import SlideDeck.Slideshow

/-!
# The numbers of a slideshow

All numbers that a slideshow holds are places and sizes of its sections, rotations of its figures, and
the default size of letters.
-/

namespace SlideDeck

/-- The numbers of a pair. -/
def Vec2.numbers (v : Vec2) : List Float :=
  [v.x, v.y]

/-- The numbers of a section. -/
def Section.numbers (s : Section) : List Float :=
  s.size.toList.flatMap Vec2.numbers ++ s.position.toList.flatMap Vec2.numbers ++
    match s.body with
    | .text _ => []
    | .figure b => [b.rotation]

/-- All numbers of a slideshow. -/
def Slideshow.numbers (s : Slideshow) : List Float :=
  s.fontSize.toList.flatMap Vec2.numbers ++
    s.slides.flatMap fun slide => slide.sections.flatMap Section.numbers

theorem Section.mem_numbers {x : Float} {s : Section} : x ∈ s.numbers ↔
    (∃ v ∈ s.size, x ∈ v.numbers) ∨ (∃ v ∈ s.position, x ∈ v.numbers) ∨
      ∃ b, s.body = .figure b ∧ x = b.rotation := by
  unfold Section.numbers
  cases s.body <;> simp

end SlideDeck
