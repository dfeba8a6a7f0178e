import SlideDeck.Drawing.Layout
import SlideDeck.Proofs.Number.Defined
import SlideDeck.Proofs.Outcome

/-!
# Images have a size

Whatever formats are known, an image that is loaded has pixels in both directions and credible resolutions
(`Image.IsSound`), and not too many pixels. So the size that an image asks for is made of small whole numbers
greater than zero, in proportion to which lengths are scaled to numbers.

**The law** (`Image.raises_fit`): the size of an image is fitted to every box, unless a length becomes
infinite.
-/

namespace SlideDeck.Image

variable {images : Formats} {bytes : List UInt8} {i : Image}

/-- **An image that is loaded has a size, and not too many pixels.** -/
theorem isSound_of_load (h : images.load bytes = .ok (some i)) :
    i.IsSound ∧ i.pixels ≤ greatestPixels := by
  unfold Formats.load at h
  split at h
  · cases h
  · rename_i image found
    split at h
    · cases h
    · rename_i few
      cases h
      exact ⟨images.sound found, Nat.not_lt.mp few⟩

/-! ## Sizes -/

/-- The length that so many pixels ask for is small, and not zero. -/
theorem native_bounds {count resolution : Nat} (pos : 0 < count) (few : count ≤ greatestPixels)
    (credible : IsCredible resolution) :
    0 < 914400 * count / resolution ∧ 914400 * count / resolution < 2 ^ 53 := by
  obtain ⟨some, most⟩ := credible
  have most : resolution ≤ 2048 := Int.ofNat_le.mp most
  have few : count ≤ 178956970 := few
  constructor
  · exact Nat.div_pos (by omega) some
  · have le := Nat.div_le_self (914400 * count) resolution
    omega

theorem le_pixels (i : Image) : i.width ≤ i.pixels ∧ i.height ≤ i.pixels := by
  unfold pixels
  constructor
  · calc i.width ≤ max 1 i.width := Nat.le_max_right ..
      _ ≤ max 1 i.width * max 1 i.height := Nat.le_mul_of_pos_right _ (by omega)
  · calc i.height ≤ max 1 i.height := Nat.le_max_right ..
      _ ≤ max 1 i.width * max 1 i.height := Nat.le_mul_of_pos_left _ (by omega)

/-- A length that is a number is rounded, unless it is infinite. -/
theorem raises_scaled {first second : Nat} (given : Int)
    (bounds : 0 < first ∧ first < 2 ^ 53) (bounds' : 0 < second ∧ second < 2 ^ 53) :
    Raises (· = DrawingError.infinite) (scaled given first second) := by
  have number := Number.isDefined_mul_div given bounds.1 bounds.2 bounds'.1 bounds'.2
  unfold scaled Drawing.round
  split
  · rename_i nan
    exact absurd nan number
  · exact .error rfl
  · exact .ok _

/-- **An image is fitted to a box, unless a length becomes infinite.** -/
theorem raises_fit (sound : i.IsSound) (few : i.pixels ≤ greatestPixels) (width height : Int) :
    Raises (· = DrawingError.infinite) (i.fit width height) := by
  have across := native_bounds sound.width (Nat.le_trans i.le_pixels.1 few) sound.across
  have down := native_bounds sound.height (Nat.le_trans i.le_pixels.2 few) sound.down
  unfold fit
  split
  · exact .ok _
  split
  · exact (raises_scaled width across down).map _
  split
  · exact (raises_scaled height down across).map _
  · exact .ok _

end SlideDeck.Image
