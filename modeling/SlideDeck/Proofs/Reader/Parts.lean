import SlideDeck.Reader.Draft

/-!
# The parts of a draft

What the operations on drafts make of the context, the open slide and the slideshow, as equations
that `simp` reads from left to right. A draft with a section last on its open slide is an `onSection`,
with the slide as it was before that section: the last section is read off it, and changing the last
section leaves the rest alone. Where there is a last section, the draft is one of these
(`eq_onSection`), and a directive that starts a section makes it one (`pushSection_eq`).
-/

namespace SlideDeck.Draft

variable {d : Draft} {s : Slideshow} {open_ : Slide} {last : Section} {c : Context}

/-! ## Another context -/

@[simp]
theorem slideshow_enter (d : Draft) (c : Context) : (d.enter c).slideshow = d.slideshow := rfl

@[simp]
theorem slide_enter (d : Draft) (c : Context) : (d.enter c).slide = d.slide := rfl

@[simp]
theorem context_enter (d : Draft) (c : Context) : (d.enter c).context = c := rfl

@[simp]
theorem currentSlide_enter (d : Draft) (c : Context) :
    (d.enter c).currentSlide = d.currentSlide := rfl

/-! ## Changed parts -/

@[simp]
theorem slideshow_changeDefaults (d : Draft) (f : Slideshow → Slideshow) :
    (d.changeDefaults f).slideshow = f d.slideshow := rfl

@[simp]
theorem slide_changeDefaults (d : Draft) (f : Slideshow → Slideshow) :
    (d.changeDefaults f).slide = d.slide := rfl

@[simp]
theorem slide_changeSlide (d : Draft) (f : Slide → Slide) :
    (d.changeSlide f).slide = d.slide.map f := rfl

/-! ## The open slide closed -/

@[simp]
theorem slide_flush (d : Draft) : d.flush.slide = none := by
  unfold flush
  split
  · assumption
  · rfl

@[simp]
theorem context_flush (d : Draft) : d.flush.context = d.context := by
  unfold flush
  split <;> rfl

@[simp]
theorem flush_enter (d : Draft) (c : Context) : (d.enter c).flush = d.flush.enter c := by
  simp only [flush, slide_enter]
  cases d.slide <;> rfl

@[simp]
theorem flush_of_none (h : d.slide = none) : d.flush = d := by
  rw [flush, h]

@[simp]
theorem slideshow_flush (d : Draft) : d.flush.slideshow = d.take := rfl

@[simp]
theorem take_of_none (h : d.slide = none) : d.take = d.slideshow := by
  rw [take, flush_of_none h]

/-! ## The last section -/

/-- The draft that has a section last on its open slide. -/
def onSection (s : Slideshow) (open_ : Slide) (last : Section) (c : Context) : Draft :=
  ⟨s, some { open_ with sections := open_.sections ++ [last] }, c⟩

@[simp]
theorem context_onSection : (onSection s open_ last c).context = c := by
  rw [onSection]

@[simp]
theorem lastSection_onSection : (onSection s open_ last c).lastSection = .ok last := by
  simp [lastSection, currentSlide, onSection]

@[simp]
theorem lastText_onSection {size position : Option Vec2} {b : TextBody} :
    (onSection s open_ ⟨size, position, .text b⟩ c).lastText = .ok b := by
  simp [lastText]

@[simp]
theorem lastFigure_onSection {size position : Option Vec2} {b : FigureBody} :
    (onSection s open_ ⟨size, position, .figure b⟩ c).lastFigure = .ok b := by
  simp [lastFigure]

@[simp]
theorem changeSection_onSection (f : Section → Section) :
    (onSection s open_ last c).changeSection f = onSection s open_ (f last) c := by
  have changed := List.modifyTailIdx_add (List.modifyHead f) 0 open_.sections [last]
  simpa [changeSection, changeSlide, onSection, List.modify] using changed

/-- Where there is a last section, the draft is one on it. -/
theorem eq_onSection (h : d.lastSection = .ok last) :
    ∃ open_, d = onSection d.slideshow open_ last d.context := by
  obtain ⟨shown, slide, context⟩ := d
  cases slide with
  | none => cases h
  | some open_ =>
    simp only [lastSection, currentSlide] at h
    cases hl : open_.sections.getLast? with
    | none =>
      rw [hl] at h
      cases h
    | some last' =>
      rw [hl] at h
      cases h
      obtain ⟨before, sections⟩ := List.getLast?_eq_some_iff.mp hl
      exact ⟨{ open_ with sections := before }, by rw [onSection, ← sections]⟩

theorem currentSlide_eq_ok_iff : d.currentSlide = .ok open_ ↔ d.slide = some open_ := by
  unfold currentSlide
  cases d.slide with
  | none => simp
  | some s => rw [Except.ok.injEq, Option.some.injEq]

/-- A slide with a new section is on that section. -/
theorem pushSection_eq (h : d.slide = some open_) (b : Body) :
    d.pushSection b = .ok (onSection d.slideshow open_ ⟨none, none, b⟩ d.context) := by
  simp only [pushSection, currentSlide, changeSlide, onSection, h, Option.map_some]

/-- A new section needs an open slide. -/
theorem eq_onSection_of_pushSection {d' : Draft} {b : Body} (h : d.pushSection b = .ok d') :
    ∃ open_, d.slide = some open_ ∧
      d' = onSection d.slideshow open_ ⟨none, none, b⟩ d.context := by
  cases there : d.slide with
  | none =>
    rw [pushSection, currentSlide, there] at h
    cases h
  | some open_ =>
    rw [pushSection_eq there] at h
    cases h
    exact ⟨open_, rfl, rfl⟩

/-! ## What a directive asks of a draft -/

/-- A directive makes sense where it is allowed. -/
@[simp]
theorem requireContext_ok {directive : Directive} {allowed : List Context}
    (h : d.context ∈ allowed) : d.requireContext directive allowed = .ok () := by
  rw [requireContext, if_pos (List.contains_iff_mem.mpr h)]

/-- And only there. -/
theorem mem_of_requireContext {directive : Directive} {allowed : List Context}
    (h : d.requireContext directive allowed = .ok ()) : d.context ∈ allowed := by
  unfold requireContext at h
  split at h
  · rename_i inside
    exact List.contains_iff_mem.mp inside
  · cases h

end SlideDeck.Draft
