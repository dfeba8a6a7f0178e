import SlideDeck.Drawing.Image.Bmp
import SlideDeck.Drawing.Image.Gif
import SlideDeck.Drawing.Image.Png

/-!
# The size of an image

Which files hold an image, and of which size, is for the formats to say that are known (`Image.Formats`).
Whatever they are, an image has pixels in both directions and credible resolutions; one with too many
pixels is refused. An image is drawn with the size that its resolution asks for, or with the one that a
figure gives it.

The formats at hand are PNG, GIF and BMP (`Formats.common`). Their files are recognized by the first bytes,
and damaged ones are no images.
-/

namespace SlideDeck

namespace Image

/-- The most pixels an image may have. -/
def greatestPixels : Nat := 178956970

/-- What recognizes an image in the bytes of a file, and says how large it is. -/
structure Formats where
  read? : List UInt8 → Option Image
  sound : ∀ {bytes : List UInt8} {i : Image}, read? bytes = some i → i.IsSound

namespace Formats

/-- The first of three formats that a file has. -/
def common : Formats where
  read? bytes := (ofPng? bytes).orElse fun _ => (ofGif? bytes).orElse fun _ => ofBmp? bytes
  sound {bytes i} h := by
    cases png : ofPng? bytes with
    | some image =>
      rw [png] at h
      cases h
      exact isSound_of_ofPng? png
    | none =>
      cases gif : ofGif? bytes with
      | some image =>
        rw [png, gif] at h
        cases h
        exact isSound_of_ofGif? gif
      | none =>
        rw [png, gif] at h
        exact isSound_of_ofBmp? h

/-- The image in a file, if it holds one; it must not have too many pixels. -/
def load (images : Formats) (bytes : List UInt8) : Except DrawingError (Option Image) :=
  match images.read? bytes with
  | none => .ok none
  | some image =>
    if greatestPixels < image.pixels then .error (.tooManyPixels image.pixels greatestPixels)
    else .ok (some image)

end Formats

/-! ## Sizes -/

/-- The width that an image asks for. -/
def nativeWidth (i : Image) : Int :=
  (914400 * i.width / i.across : Nat)

/-- The height that an image asks for. -/
def nativeHeight (i : Image) : Int :=
  (914400 * i.height / i.down : Nat)

/-- The second length scaled as the first is to the given one. -/
def scaled (given first second : Int) : Except DrawingError Int :=
  Drawing.round (Float.ofInt second * (Float.ofInt given / Float.ofInt first))

/-- The width and the height to draw an image with: a zero stands for what fits the other, and two
zeros for what the image asks for. -/
def fit (i : Image) (width height : Int) : Except DrawingError (Int × Int) :=
  if width = 0 ∧ height = 0 then .ok (i.nativeWidth, i.nativeHeight)
  else if height = 0 then (scaled width i.nativeWidth i.nativeHeight).map (width, ·)
  else if width = 0 then (scaled height i.nativeHeight i.nativeWidth).map (·, height)
  else .ok (width, height)

end Image

end SlideDeck
