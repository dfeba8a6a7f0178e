import SlideDeck.Proofs.Document.Decode
import SlideDeck.Proofs.Drawing.Shapes
import SlideDeck.Proofs.Number.Infinite
import SlideDeck.Proofs.Number.Monotone

/-!
# Texts in the place of images

A figure whose file cannot be read is replaced by a text that names the file, in the figure's own
box. The letters of this text have a quarter of the box's height, so there is such a text only for
figures that are neither too low nor too high. The font size comes of three products, two quotients
and two whole parts. All of them keep the order of numbers (`counted_placeholderPoints`), so it is
enough to look at the two bounds and the numbers next to them (`fontSize_placeholder_iff`).

Besides this, no length of the box may be infinite, and the name must be one that can be drawn
(`Section.HasRoom`).

**The law** (`Backend.replaced_of_render`): if there is room for all texts, figures without images
are replaced one by one, with a warning of each. The first for whose text there is no room ends the
drawing.
-/

namespace SlideDeck

open Drawing Number

/-! ## Font sizes -/

/-- A font size in hundredths of a point, be there such a size or not. -/
def fontUnits (points : Float) : Except DrawingError Int := do
  let length ← truncate (points * unitsPerPoint)
  truncate (Float.ofInt length / unitsPerFontUnit)

theorem fontSizeOfPoints_eq (points : Float) : fontSizeOfPoints points = (do
    let size ← fontUnits points
    if size < leastFontSize ∨ greatestFontSize < size then .error (.fontSize size)
    else .ok size) := by
  rw [fontUnits, bind_assoc]
  rfl

/-- The numbers by which points are turned into lengths, and lengths into font sizes. -/
theorem parts_units : parts unitsPerPoint = .finite false 6981898836377600 (-39) ∧
    parts unitsPerFontUnit = .finite false 8936830510563328 (-46) ∧
    parts (Float.ofNat 1) = .finite false 4503599627370496 (-52) ∧
    truncate (Float.ofInt (0 : Nat) / unitsPerFontUnit) = .ok (0 : Nat) := by
  decide +kernel

/-- A length has at least one unit, and so it is great enough to be divided. -/
theorem rising_length_div {i j : Nat} (pos : 0 < i) (le : i ≤ j) (few : digitCount j ≤ 310) :
    Rising (Float.ofNat i / unitsPerFontUnit) (Float.ofNat j / unitsPerFontUnit) := by
  obtain ⟨-, unit, found, -⟩ := parts_units
  have one : magnitude (Float.ofNat 1) = 1 := by
    rw [magnitude, found]
    norm_num
  have small : (2 : ℚ) ^ (-1074 : Int) * ((8936830510563328 : Nat) * 2 ^ (-46 : Int)) ≤ 1 := by
    have power : (2 : ℚ) ^ (-1074 : Int) ≤ 2 ^ (-7 : Int) :=
      zpow_le_zpow_right₀ one_le_two (by norm_num)
    refine (mul_le_mul_of_nonneg_right power (by positivity)).trans ?_
    norm_num
  refine (rising_ofNat pos le few).div unit (by decide) ?_
  refine le_trans ?_ (rising_ofNat Nat.one_pos pos (le_trans (digitCount_mono le) few)).le
  rw [one]
  exact_mod_cast small

/-- Lengths in order have font sizes in order. -/
theorem counted_of_lengths {i j : Nat} (le : i ≤ j) (few : digitCount j ≤ 310) :
    Counted (truncate (Float.ofInt i / unitsPerFontUnit))
      (truncate (Float.ofInt j / unitsPerFontUnit)) := by
  rcases Nat.eq_zero_or_pos i with rfl | pos
  · obtain ⟨-, -, -, zero⟩ := parts_units
    rw [zero]
    rcases Nat.eq_zero_or_pos j with rfl | pos
    · rw [zero]
      exact .whole (Nat.le_refl 0)
    · exact (rising_length_div pos le_rfl few).truncate.zero
  · exact (rising_length_div pos le few).truncate

/-- **A greater number of points has no smaller font size.** -/
theorem counted_fontUnits {p q : Float} (h : Rising p q) : Counted (fontUnits p) (fontUnits q) := by
  have rising := h.mul parts_units.1 (by norm_num) (by norm_num)
  have lengths := rising.truncate
  unfold fontUnits
  cases hp : truncate (p * unitsPerPoint) <;> cases hq : truncate (q * unitsPerPoint) <;>
    rw [hp, hq] at lengths <;> cases lengths
  case error.error.both => exact .both
  case ok.ok.whole le => exact counted_of_lengths le (digitCount_of_truncate rising.second hq)
  case ok.error.infinite i =>
    exact (counted_of_lengths (Nat.le_refl i) (digitCount_of_truncate rising.first hp)).to_infinite

/-! ## Heights of figures -/

/-- The size of the text in the place of a figure, in points, by the height of the figure. -/
def placeholderPoints (height : Float) : Float :=
  height * ({} : Style).height * pointsPerInch / 4.0

/-- The least height of a figure whose place a text can take. -/
def leastHeight : Float := 0.007407407407407407

/-- The greatest height of a figure whose place a text can take. -/
def greatestHeight : Float := 29.629703703703697

/-- The numbers by which heights are turned into points. -/
theorem parts_factors :
    parts ({} : Style).height = .finite false 8444249301319680 (-50) ∧
    parts pointsPerInch = .finite false 5066549580791808 (-46) ∧
    parts 4.0 = .finite false 4503599627370496 (-50) ∧
    parts (leastPositive * ({} : Style).height * pointsPerInch) = .finite false 576 (-1074) := by
  decide +kernel

/-- The bounds of heights, and the numbers next to them. -/
theorem parts_bounds :
    parts 0.007407407407407406 = .finite false 8540159293384050 (-60) ∧
    parts leastHeight = .finite false 8540159293384051 (-60) ∧
    parts greatestHeight = .finite false 8340020159943636 (-48) ∧
    parts 29.6297037037037 = .finite false 8340020159943637 (-48) := by
  decide +kernel

/-- At the bounds stand the least font size and the greatest one; next to them there are none. -/
theorem fontUnits_bounds :
    fontUnits (placeholderPoints 0.007407407407407406) = .ok 99 ∧
    fontUnits (placeholderPoints leastHeight) = .ok 100 ∧
    fontUnits (placeholderPoints greatestHeight) = .ok 400000 ∧
    fontUnits (placeholderPoints 29.6297037037037) = .ok 400001 := by
  decide +kernel

/-- A higher figure has no smaller text in its place. -/
theorem counted_placeholderPoints {x y : Float} (h : Rising x y) :
    Counted (fontUnits (placeholderPoints x)) (fontUnits (placeholderPoints y)) := by
  obtain ⟨page, points, quarter, found⟩ := parts_factors
  have product {x y : Float} (h : Rising x y) :
      Rising (x * ({} : Style).height * pointsPerInch) (y * ({} : Style).height * pointsPerInch) :=
    (h.mul page (by norm_num) (by norm_num)).mul points (by norm_num) (by norm_num)
  -- Even the least number is great enough to have a fourth, once it is multiplied.
  have least : magnitude (leastPositive * ({} : Style).height * pointsPerInch) =
      ((576 : Nat) * 2 ^ (-1074 : Int) : ℚ) := by
    rw [magnitude, found]
  refine counted_fontUnits ((product h).div quarter (by decide) ?_)
  refine le_trans ?_ (product h.first.rising_least).le
  rw [least, WithTop.coe_le_coe, mul_comm]
  gcongr
  norm_num

/-- A font size is one that there is if its count is neither too small nor too great. -/
theorem fontSizeOfPoints_of_units {points : Float} {size : Int} (h : fontUnits points = .ok size) :
    (∃ size, fontSizeOfPoints points = .ok size) ↔
      leastFontSize ≤ size ∧ size ≤ greatestFontSize := by
  have same : fontSizeOfPoints points = if size < leastFontSize ∨ greatestFontSize < size then
      .error (.fontSize size) else .ok size := by
    rw [fontSizeOfPoints_eq, h]
    rfl
  rw [same]
  split
  · rename_i outside
    refine iff_of_false nofun fun inside => ?_
    omega
  · rename_i inside
    refine iff_of_true ⟨size, rfl⟩ ?_
    omega

section Heights

variable {height : Float} {m : Nat} {e : Int}

/-- A height between the bounds has a font size that there is. -/
theorem fontSize_of_between (found : parts height = .finite false m e) (pos : 0 < m)
    (low : Below 8540159293384051 (-60) m e) (high : Below m e 8340020159943636 (-48)) :
    ∃ size, fontSizeOfPoints (placeholderPoints height) = .ok size := by
  obtain ⟨-, least, greatest, -⟩ := parts_bounds
  obtain ⟨-, first, last, -⟩ := fontUnits_bounds
  have above := counted_placeholderPoints (rising_of_below least (by decide) found pos low)
  have below := counted_placeholderPoints (rising_of_below found pos greatest (by decide) high)
  rw [last] at below
  obtain ⟨size, no_more, units⟩ := below.ok_of_ok
  rw [first, units] at above
  obtain ⟨⟨⟩⟩ | ⟨_, no_less, ⟨⟩⟩ := above.of_ok
  exact (fontSizeOfPoints_of_units units).mpr ⟨no_less, no_more⟩

/-- Heights above the greatest one have font sizes that are too great, or none. -/
theorem not_fontSize_of_above (found : parts height = .finite false m e) (pos : 0 < m)
    (high : ¬ Below m e 8340020159943636 (-48)) :
    ¬ ∃ size, fontSizeOfPoints (placeholderPoints height) = .ok size := by
  obtain ⟨-, -, -, next⟩ := parts_bounds
  obtain ⟨-, -, -, units⟩ := fontUnits_bounds
  have above := counted_placeholderPoints (rising_of_below next (by decide) found pos
    (by unfold Below at high ⊢; omega))
  rw [units] at above
  rcases above.of_ok with infinite | ⟨size, no_less, units⟩
  · rintro ⟨size, fits⟩
    rw [fontSizeOfPoints_eq, infinite] at fits
    cases fits
  · refine mt (fontSizeOfPoints_of_units units).mp fun inside => ?_
    have most := inside.2
    unfold greatestFontSize at most
    omega

/-- Heights below the least one have font sizes that are too small. -/
theorem not_fontSize_of_below (found : parts height = .finite false m e) (pos : 0 < m)
    (low : ¬ Below 8540159293384051 (-60) m e) :
    ¬ ∃ size, fontSizeOfPoints (placeholderPoints height) = .ok size := by
  obtain ⟨before, -⟩ := parts_bounds
  obtain ⟨units, -⟩ := fontUnits_bounds
  have below := counted_placeholderPoints (rising_of_below found pos before (by decide)
    (by unfold Below at low ⊢; omega))
  rw [units] at below
  obtain ⟨size, no_more, units⟩ := below.ok_of_ok
  refine mt (fontSizeOfPoints_of_units units).mp fun inside => ?_
  have fewest := inside.1
  unfold leastFontSize at fewest
  omega

/-- **The text in the place of a figure has a font size that there is if and only if the figure is
neither too low nor too high.** A size of 135 points goes with the height of a page, and sizes are
cut to hundredths of a point. -/
theorem fontSize_placeholder_iff (positive : IsPositive height)
    (finite : Number.isFinite height = true) :
    (∃ size, fontSizeOfPoints (placeholderPoints height) = .ok size) ↔
      leastHeight ≤ height ∧ height ≤ greatestHeight := by
  obtain ⟨-, least, greatest, -⟩ := parts_bounds
  obtain ⟨m, e, found, pos⟩ : ∃ m e, parts height = .finite false m e ∧ 0 < m := by
    rcases positive with infinite | found
    · rw [Number.isFinite, infinite] at finite
      cases finite
    · exact found
  rw [le_iff_below least (by decide) found pos, le_iff_below found pos greatest (by decide)]
  constructor
  · intro fits
    refine ⟨?_, ?_⟩
    · by_contra low
      exact not_fontSize_of_below found pos low fits
    · by_contra high
      exact not_fontSize_of_above found pos high fits
  · rintro ⟨low, high⟩
    exact fontSize_of_between found pos low high

end Heights

/-! ## Room for a text -/

/-- The place of a figure, as a fraction of the page. -/
def Section.figurePosition (s : Section) : Vec2 :=
  s.position.getD ⟨0.01, 0.01⟩

/-- The size of a figure, as a fraction of the page. -/
def Section.figureSize (s : Section) : Vec2 :=
  s.size.getD ⟨0.1, 0.1⟩

/-- Which images are known makes no difference to the box of a figure. -/
theorem box_figureArea_eq_ok_iff {images : Image.Formats} {s : Section} {b : Box} :
    (figureArea { images } s).box = .ok b ↔ b.Spans ⟨13.333, 7.5⟩ s.figurePosition s.figureSize :=
  Area.box_ofPage_eq_ok_iff

/-- **A text can take the place of a figure.** -/
structure Section.HasRoom (s : Section) : Prop where
  box : ∃ box : Box, box.Spans ⟨13.333, 7.5⟩ s.figurePosition s.figureSize
  low : leastHeight ≤ s.figureSize.y
  high : s.figureSize.y ≤ greatestHeight
  name : ∀ b, s.body = .figure b → ∀ c ∈ (Path.ofString b.path).name.toList, isUndrawable c = false

/-- A file that is not there, or is none that could be an image. -/
def FileSystem.IsUnreadable (files : FileSystem) (images : Image.Formats) (path : String) : Prop :=
  (∃ fault, files.bytesAt path = .error fault) ∨
    ∃ bytes, files.bytesAt path = .ok bytes ∧ images.read? bytes = none

/-- **A figure without an image**, made of finite numbers, and of a positive size if it has one. -/
structure Section.IsMissing (images : Image.Formats) (files : FileSystem) (s : Section) : Prop where
  figure : ∃ b, s.body = .figure b ∧ files.IsUnreadable images b.path
  finite : s.isFinite = true
  positive : ∀ size, s.size = some size → 0.0 < size.x ∧ 0.0 < size.y

/-- A shape is the text in the place of a figure, in the figure's own box. -/
def Section.IsReplacedBy (s : Section) (shape : Shape) : Prop :=
  ∃ b t, s.body = .figure b ∧ shape = .text t ∧
    t.box.Spans ⟨13.333, 7.5⟩ s.figurePosition s.figureSize ∧
    drawnText (placeholderText b.path) = .ok t.text

/-- A warning tells of the file of a figure. -/
def Section.IsWarnedBy (s : Section) (warning : Warning) : Prop :=
  ∃ b, s.body = .figure b ∧ warning = ⟨b.path⟩

/-- The text in the place of a figure cannot be drawn. -/
def Section.FailsWith (s : Section) (e : DrawingError) : Prop :=
  ∃ b, s.body = .figure b ∧ drawPlaceholder {} (figureArea {} s) b.path = .error e

/-- All characters of a text can be drawn, or there is one that cannot. -/
theorem exists_drawnText_iff {cs : List Char} :
    (∃ t, drawnText cs = .ok t) ↔ ∀ c ∈ cs, isUndrawable c = false := by
  unfold drawnText
  split
  next some_ =>
    refine iff_of_false nofun fun all => ?_
    obtain ⟨c, mem, undrawable⟩ := List.any_eq_true.mp some_
    rw [all c mem] at undrawable
    cases undrawable
  next none_ => exact iff_of_true ⟨_, rfl⟩ (by simpa using none_)

/-- A text is drawn if all that it is made of can be. -/
theorem exists_drawText_iff {style : Style} {a : Area} {text : List Char} {points : Float}
    {color : Option Rgb} (font : ∃ font, drawnFont style.font = .ok font) :
    (∃ t, drawText style a text points color = .ok t) ↔ (∃ box, a.box = .ok box) ∧
      (∃ t, drawnText text = .ok t) ∧ ∃ size, fontSizeOfPoints points = .ok size := by
  constructor
  · rintro ⟨t, h⟩
    obtain ⟨box, placed, h⟩ := ok_of_bind h
    obtain ⟨drawn, held, h⟩ := ok_of_bind h
    obtain ⟨size, sized, -⟩ := ok_of_bind h
    exact ⟨⟨box, placed⟩, ⟨drawn, held⟩, ⟨size, sized⟩⟩
  · rintro ⟨⟨box, placed⟩, ⟨drawn, held⟩, ⟨size, sized⟩⟩
    obtain ⟨font, named⟩ := font
    refine ⟨⟨box, drawn, size, color, font⟩, ?_⟩
    rw [drawText, placed, held, sized, named]
    rfl

section Figures

variable {images : Image.Formats} {files : FileSystem} {s : Section} {b : FigureBody}

/-- The height of a figure without an image is a positive number. -/
theorem Section.IsMissing.isPositive_height (h : s.IsMissing images files) :
    IsPositive s.figureSize.y ∧ Number.isFinite s.figureSize.y = true := by
  unfold Section.figureSize
  cases size : s.size with
  | none =>
    have found : parts 0.1 = .finite false 7205759403792794 (-56) := by decide +kernel
    exact ⟨.inr ⟨_, _, found, by decide⟩, by decide +kernel⟩
  | some size' =>
    have finite := h.finite
    simp only [Section.isFinite, size, Option.all_some, Vec2.isFinite, Bool.and_eq_true] at finite
    exact ⟨isPositive_of_lt (h.positive size' size).2, finite.1.1.2⟩

/-- **The text in the place of a figure is drawn if and only if there is room for it.** -/
theorem exists_drawPlaceholder_iff (h : s.IsMissing images files) (body : s.body = .figure b) :
    (∃ t, drawPlaceholder { images } (figureArea { images } s) b.path = .ok t) ↔ s.HasRoom := by
  obtain ⟨positive, finite⟩ := h.isPositive_height
  have sized :
      (∃ size, fontSizeOfPoints ((figureArea { images } s).height * pointsPerInch / 4.0) = .ok size) ↔
        leastHeight ≤ s.figureSize.y ∧ s.figureSize.y ≤ greatestHeight :=
    fontSize_placeholder_iff positive finite
  have named : (∀ c ∈ placeholderText b.path, isUndrawable c = false) ↔
      ∀ c ∈ (Path.ofString b.path).name.toList, isUndrawable c = false := by
    have before : ∀ c ∈ "[Image: ".toList, isUndrawable c = false := by simp [isUndrawable]
    have after : ∀ c ∈ "]".toList, isUndrawable c = false := by simp [isUndrawable]
    rw [placeholderText, String.toList_append, String.toList_append, List.forall_mem_append,
      List.forall_mem_append]
    exact ⟨fun all => all.1.2, fun name => ⟨⟨before, name⟩, after⟩⟩
  have named_ : drawnFont "Courier New" = .ok (some "Courier New") := by decide
  have font : ∃ font, drawnFont ({ images } : Style).font = .ok font := ⟨_, named_⟩
  rw [drawPlaceholder, exists_drawText_iff font, exists_drawnText_iff, sized, named]
  simp only [box_figureArea_eq_ok_iff]
  constructor
  · rintro ⟨box, name, low, high⟩
    refine ⟨box, low, high, fun b' body' => ?_⟩
    cases body.symm.trans body'
    exact name
  · exact fun room => ⟨room.box, room.name b body, room.low, room.high⟩

/-! ## Figures -/

/-- **A figure whose file cannot be read becomes a text**, and a warning tells of it if its box has
been measured. -/
theorem drawFigure_of_unreadable (style : Style) (s : Section)
    (unreadable : files.IsUnreadable style.images b.path) :
    (drawFigure style files s b).result =
        (drawPlaceholder style (figureArea style s) b.path).map Shape.text ∧
      ∀ box, (figureArea style s).box = .ok box →
        (drawFigure style files s b).warnings = [⟨b.path⟩] := by
  cases placed : (figureArea style s).box with
  | error e =>
    have failed : drawPlaceholder style (figureArea style s) b.path = .error e := by
      rw [drawPlaceholder, drawText, placed]
      rfl
    have unplaced :
        placeImage style.images files b.path (figureArea style s) = .error (.ofDrawing e) := by
      rw [placeImage, placed]
      rfl
    refine ⟨?_, nofun⟩
    simp only [drawFigure, unplaced, failed]
    cases e <;> rfl
  | ok box =>
    have unread :
        placeImage style.images files b.path (figureArea style s) = .error .unreadable := by
      unfold placeImage
      rw [placed]
      rcases unreadable with ⟨fault, failed⟩ | ⟨bytes, read, none_⟩
      · rw [failed]
        rfl
      · rw [read]
        simp only [Except.mapError, bind, Except.bind, Image.Formats.load, none_]
    refine ⟨?_, fun _ _ => ?_⟩ <;> simp only [drawFigure, unread]

end Figures

/-! ## One figure after the other -/

/-- The first of some figures for whose text there is no room, and what prevents that text. -/
inductive FirstFailure : List Section → DrawingError → Prop where
  | here {s : Section} {rest : List Section} {e : DrawingError} (full : ¬ s.HasRoom)
    (fails : s.FailsWith e) : FirstFailure (s :: rest) e
  | later {s : Section} {rest : List Section} {e : DrawingError} (room : s.HasRoom)
    (first : FirstFailure rest e) : FirstFailure (s :: rest) e

/-- **What comes of some figures without images**: either all are replaced, with a warning of each,
or the first for whose text there is no room ends the drawing. -/
inductive DrawnInstead {α : Type} (figures : List Section) (shows : α → Prop) : Drawn α → Prop where
  | all {a : α} {warnings : List Warning} (room : ∀ s ∈ figures, s.HasRoom) (shown : shows a)
    (warned : List.Forall₂ Section.IsWarnedBy figures warnings) :
    DrawnInstead figures shows ⟨warnings, .ok a⟩
  | failure {warnings : List Warning} {e : DrawingError} (first : FirstFailure figures e) :
    DrawnInstead figures shows ⟨warnings, .error e⟩

theorem FirstFailure.append {before after : List Section} {e : DrawingError}
    (h : FirstFailure before e) : FirstFailure (before ++ after) e := by
  induction h with
  | here full fails => exact .here full fails
  | later room _ ih => exact .later room ih

theorem FirstFailure.after {before after : List Section} {e : DrawingError}
    (room : ∀ s ∈ before, s.HasRoom) (h : FirstFailure after e) :
    FirstFailure (before ++ after) e := by
  induction before with
  | nil => exact h
  | cons s before ih =>
    obtain ⟨first, rest⟩ := List.forall_mem_cons.mp room
    exact .later first (ih rest)

/-- Where something fails first, there is no room. -/
theorem FirstFailure.not_hasRoom {figures : List Section} {e : DrawingError}
    (h : FirstFailure figures e) : ∃ s ∈ figures, ¬ s.HasRoom := by
  induction h with
  | here full => exact ⟨_, List.mem_cons_self, full⟩
  | later _ _ ih =>
    obtain ⟨s, mem, full⟩ := ih
    exact ⟨s, List.mem_cons_of_mem _ mem, full⟩

namespace DrawnInstead

variable {α β : Type} {figures others : List Section} {P : α → Prop} {Q : β → Prop} {d : Drawn α}

theorem map {f : α → β} (h : DrawnInstead figures P d) (shown : ∀ a, P a → Q (f a)) :
    DrawnInstead figures Q (d.map f) := by
  cases h with
  | all room here warned => exact .all room (shown _ here) warned
  | failure first => exact .failure first

theorem bind {f : α → Drawn β} (h : DrawnInstead figures P d)
    (next : ∀ a, P a → DrawnInstead others Q (f a)) :
    DrawnInstead (figures ++ others) Q (d.bind f) := by
  cases h with
  | failure first => exact .failure first.append
  | @all a warnings room here warned =>
    have later := next a here
    show DrawnInstead (figures ++ others) Q ⟨warnings ++ (f a).warnings, (f a).result⟩
    generalize f a = d' at later
    cases later with
    | all room' here' warned' =>
      exact .all (List.forall_mem_append.mpr ⟨room, room'⟩) here' (List.rel_append warned warned')
    | failure first => exact .failure (first.after room)

end DrawnInstead

variable {images : Image.Formats} {files : FileSystem}

/-- A figure without an image is replaced if and only if there is room for its text. -/
theorem drawnInstead_drawSection {fallback : Fallback} {next : Float} {s : Section}
    (missing : s.IsMissing images files) :
    DrawnInstead [s] (fun drawn => ∃ shape, drawn.1 = [shape] ∧ s.IsReplacedBy shape)
      (drawSection { images } files fallback next s) := by
  obtain ⟨b, body, unreadable⟩ := missing.figure
  obtain ⟨result, warnings⟩ := drawFigure_of_unreadable { images } s unreadable
  have figure : drawSection { images } files fallback next s =
      (drawFigure { images } files s b).map fun shape => ([shape], next) := by
    rw [drawSection, body]
  have drawable := exists_drawPlaceholder_iff missing body
  rw [figure]
  cases drawn : drawPlaceholder { images } (figureArea { images } s) b.path with
  | error e =>
    rw [drawn] at result drawable
    have failed : (drawFigure { images } files s b).map (fun shape => ([shape], next)) =
        ⟨(drawFigure { images } files s b).warnings, .error e⟩ := by
      rw [Drawn.map, result]
      rfl
    rw [failed]
    exact .failure (.here (fun room => nomatch drawable.mpr room) ⟨b, body, drawn⟩)
  | ok t =>
    obtain ⟨placed, text⟩ := drawText_eq_ok drawn
    rw [drawn] at result drawable
    have made : (drawFigure { images } files s b).map (fun shape => ([shape], next)) =
        ⟨[⟨b.path⟩], .ok ([.text t], next)⟩ := by
      rw [Drawn.map, result, warnings t.box placed]
      rfl
    rw [made]
    have room := List.forall_mem_singleton.mpr (drawable.mp ⟨t, rfl⟩)
    refine .all room ?_ (.cons ⟨b, body, rfl⟩ .nil)
    exact ⟨.text t, rfl, b, t, body, rfl, box_figureArea_eq_ok_iff.mp placed, text⟩

/-- Figures without images one after the other, by induction on them. -/
theorem drawnInstead_drawSections {fallback : Fallback} {next : Float} {sections : List Section}
    (missing : ∀ s ∈ sections, s.IsMissing images files) :
    DrawnInstead sections (List.Forall₂ Section.IsReplacedBy sections)
      (drawSections { images } files fallback next sections) := by
  induction sections generalizing next with
  | nil => exact .all nofun .nil .nil
  | cons s rest ih =>
    obtain ⟨first, others⟩ := List.forall_mem_cons.mp missing
    refine (drawnInstead_drawSection first).bind ?_
    rintro ⟨_, after⟩ ⟨shape, rfl, shown⟩
    exact (ih others).map fun shapes more => .cons shown more

/-- A page shows the texts in the places of a slide's figures. -/
def Slide.IsReplacedBy (slide : Slide) (page : Page) : Prop :=
  List.Forall₂ Section.IsReplacedBy slide.sections page.shapes

theorem drawnInstead_drawSlides {s : Slideshow} {slides : List Slide}
    (missing : ∀ slide ∈ slides, ∀ u ∈ slide.sections, u.IsMissing images files) :
    DrawnInstead (slides.flatMap Slide.sections) (List.Forall₂ Slide.IsReplacedBy slides)
      (drawSlides { images } files s slides) := by
  induction slides with
  | nil => exact .all nofun .nil .nil
  | cons slide rest ih =>
    obtain ⟨first, others⟩ := List.forall_mem_cons.mp missing
    have page : DrawnInstead slide.sections slide.IsReplacedBy (drawSlide { images } files s slide) :=
      (drawnInstead_drawSections first).map fun shapes shown => shown
    rw [List.flatMap_cons]
    exact page.bind fun page shown => (ih others).map fun pages more => .cons shown more

theorem drawnInstead_draw {s : Slideshow}
    (missing : ∀ slide ∈ s.slides, ∀ u ∈ slide.sections, u.IsMissing images files) :
    DrawnInstead (s.slides.flatMap Slide.sections)
      (fun d => List.Forall₂ Slide.IsReplacedBy s.slides d.pages) (s.draw { images } files) := by
  have width : pageSizeOfInches ({} : Style).width = .ok 12191695 := by decide +kernel
  have height : pageSizeOfInches ({} : Style).height = .ok 6858000 := by decide +kernel
  rw [Slideshow.draw, width, height]
  exact (drawnInstead_drawSlides missing).map fun pages shown => shown

/-! ## The law -/

namespace Backend

/-- **Figures whose files cannot be read are replaced by texts, as far as there is room for these.**
If there is, a drawing is made with one text for each figure, in the figure's own box and in the
order of the figures, and there is one warning for each. If there is not, the first figure without
room ends the drawing. Files are looked at when the folders on the way to the drawing's own file are
there, which can be written. -/
theorem replaced_of_render {images : Image.Formats} {files ready : FileSystem} {s : Slideshow} {out : Path}
    (folders : files.makeParents out = (ready, .ok ()))
    (writable : ∀ content, ∃ after, ready.writeBytes out content = .ok after)
    (missing : ∀ slide ∈ s.slides, ∀ u ∈ slide.sections, u.IsMissing images ready) :
    let figures := s.slides.flatMap Slide.sections
    let rendered := render (.drawing { images }) files (some s) out
    ((∀ u ∈ figures, u.HasRoom) → ∃ d, rendered.result = .ok (.drawing d) ∧
      List.Forall₂ Slide.IsReplacedBy s.slides d.pages ∧
      List.Forall₂ Section.IsWarnedBy figures rendered.warnings) ∧
    ((∃ u ∈ figures, ¬ u.HasRoom) → ∃ e, FirstFailure figures e ∧
      rendered.result = .error (.drawing e)) := by
  intro figures rendered
  have drawn := drawnInstead_draw missing
  have made : rendered = draw { images } files s out := rfl
  rw [made]
  simp only [draw, folders]
  generalize s.draw { images } ready = d at drawn
  cases drawn with
  | failure first =>
    obtain ⟨u, mem, full⟩ := first.not_hasRoom
    exact ⟨fun room => absurd (room u mem) full, fun _ => ⟨_, first, rfl⟩⟩
  | @all d warnings room shown warned =>
    obtain ⟨after, written⟩ := writable (Output.drawing d).fileText.toUTF8.toList
    refine ⟨fun _ => ⟨d, ?_⟩, fun ⟨u, mem, full⟩ => absurd (room u mem) full⟩
    simp only [Output.save, written]
    exact ⟨trivial, shown, warned⟩

/-- A slide with one figure, whose file is not there. -/
def missingFigure (size : Option Vec2) : Slide :=
  { sections := [{ size, body := .figure { path := "missing.png" } }] }

/-- There are no files. -/
def noFiles : FileSystem := ⟨[], []⟩

theorem isMissing_missingFigure {size : Option Vec2} (finite : size.all Vec2.isFinite = true)
    (positive : ∀ v, size = some v → 0.0 < v.x ∧ 0.0 < v.y) :
    ∀ slide ∈ [missingFigure size], ∀ u ∈ slide.sections, u.IsMissing .common noFiles := by
  intro slide mem u mem'
  obtain rfl := List.mem_singleton.mp mem
  obtain rfl := List.mem_singleton.mp mem'
  have absent : noFiles.bytesAt "missing.png" = .error (.refused .noEntry "missing.png") := by
    decide +kernel
  refine ⟨⟨_, rfl, .inl ⟨_, absent⟩⟩, ?_, positive⟩
  simp only [Section.isFinite, finite, Option.all_none, Body.isFinite, Bool.true_and]
  decide +kernel

/-- A figure of the default size is replaced. -/
theorem replaced_of_render_default :
    let s : Slideshow := { slides := [missingFigure none] }
    let rendered := render (.drawing {}) noFiles (some s) (Path.ofString "a.out")
    ∃ d, rendered.result = .ok (.drawing d) ∧
      List.Forall₂ Slide.IsReplacedBy [missingFigure none] d.pages ∧
      rendered.warnings = [⟨"missing.png"⟩] := by
  intro s rendered
  have folders : noFiles.makeParents (Path.ofString "a.out") = (noFiles, .ok ()) := by rfl
  have writable (content : List UInt8) :
      ∃ after, noFiles.writeBytes (Path.ofString "a.out") content = .ok after := ⟨_, rfl⟩
  obtain ⟨replaced, -⟩ := replaced_of_render (s := s) folders writable
    (isMissing_missingFigure rfl nofun)
  have room : ∀ u ∈ s.slides.flatMap Slide.sections, u.HasRoom := by
    refine List.forall_mem_singleton.mpr ⟨?_, by decide +kernel, by decide +kernel, ?_⟩
    · exact ⟨⟨121916, 68580, 1219169, 685800⟩, by decide +kernel, by decide +kernel,
        by decide +kernel, by decide +kernel⟩
    · rintro b ⟨⟩
      have all :
          ((Path.ofString "missing.png").name.toList.all fun c => ! isUndrawable c) = true := by
        decide +kernel
      simpa using all
  obtain ⟨d, result, shown, warned⟩ := replaced room
  refine ⟨d, result, shown, ?_⟩
  obtain ⟨first, rest, ⟨b, ⟨⟩, rfl⟩, none_, same⟩ := List.forall₂_cons_left_iff.mp warned
  rw [same, List.forall₂_nil_left_iff.mp none_]

/-- **A figure without an image need not be replaced**: the text in the place of a low one would
have a font size that there is not. -/
theorem not_replaced_of_low : ¬ ∀ (files ready : FileSystem) (s : Slideshow) (out : Path),
    files.makeParents out = (ready, .ok ()) →
    (∀ content, ∃ after, ready.writeBytes out content = .ok after) →
    (∀ slide ∈ s.slides, ∀ u ∈ slide.sections, u.IsMissing .common ready) →
    ∃ o, (render (.drawing {}) files (some s) out).result = .ok o := by
  intro all
  have positive : ∀ v : Vec2, some (⟨0.1, 0.001⟩ : Vec2) = some v → 0.0 < v.x ∧ 0.0 < v.y := by
    rintro _ ⟨⟩
    decide +kernel
  obtain ⟨o, drawn⟩ := all noFiles noFiles { slides := [missingFigure (some ⟨0.1, 0.001⟩)] }
    (Path.ofString "a.out") rfl (fun _ => ⟨_, rfl⟩)
    (isMissing_missingFigure (by decide +kernel) positive)
  have failed : (render (.drawing {}) noFiles (some { slides := [missingFigure (some ⟨0.1, 0.001⟩)] })
      (Path.ofString "a.out")).result = .error (.drawing (.fontSize 13)) := by decide +kernel
  cases failed.symm.trans drawn

end Backend

end SlideDeck
