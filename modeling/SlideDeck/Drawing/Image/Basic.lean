import SlideDeck.Drawing.Units

/-!
# Images

What a drawing needs to know of an image file: its size in pixels and how many of them make an inch.
Here are numbers and fields in the bytes of such a file, and which sizes are credible.
-/

namespace SlideDeck

/-- An image, as far as its size goes. -/
structure Image where
  width : Nat
  height : Nat
  across : Nat
  down : Nat
deriving DecidableEq, Repr

namespace Image

/-! ## Bytes -/

/-- A number from its bytes, the most significant first. -/
def ofBig (bytes : List UInt8) : Nat :=
  bytes.foldl (fun n b => 256 * n + b.toNat) 0

/-- A number from its bytes, the least significant first. -/
def ofLittle (bytes : List UInt8) : Nat :=
  ofBig bytes.reverse

/-- So many bytes of a file from a place on, if it has them. -/
def field? (bytes : List UInt8) (start count : Nat) : Option (List UInt8) :=
  let field := (bytes.drop start).take count
  if field.length = count then some field else none

/-- ASCII characters as bytes. -/
def ascii (s : String) : List UInt8 :=
  s.toList.map fun c => UInt8.ofNat c.toNat

/-! ## Resolution -/

/-- The pixels to the inch of images that do not say. -/
def standardResolution : Nat := 72

/-- The greatest credible count of pixels to the inch. -/
def greatestResolution : Int := 2048

/-- A whole count of pixels to the inch; the standard one if the given one is not credible. -/
def resolutionOf (pixels : Float) : Nat :=
  match Drawing.round pixels with
  | .error _ => standardResolution
  | .ok n => if n < 1 ∨ greatestResolution < n then standardResolution else n.toNat

/-- A count of pixels to the inch that is credible. -/
def IsCredible (pixels : Nat) : Prop :=
  0 < pixels ∧ (pixels : Int) ≤ greatestResolution

theorem isCredible_standardResolution : IsCredible standardResolution :=
  ⟨by decide, by decide⟩

theorem isCredible_resolutionOf (pixels : Float) : IsCredible (resolutionOf pixels) := by
  unfold resolutionOf
  split
  · exact isCredible_standardResolution
  · split
    · exact isCredible_standardResolution
    · unfold IsCredible
      omega

/-! ## Images -/

/-- The pixels that an image counts as; a side without any counts as one. -/
def pixels (i : Image) : Nat :=
  max 1 i.width * max 1 i.height

/-- An image, unless a side of it has no pixels. -/
def visible? (i : Image) : Option Image :=
  if i.width = 0 ∨ i.height = 0 then none else some i

/-- An image with a size, in pixels and in inches. -/
structure IsSound (i : Image) : Prop where
  width : 0 < i.width
  height : 0 < i.height
  across : IsCredible i.across
  down : IsCredible i.down

theorem isSound_of_visible? {i j : Image} (h : visible? i = some j) (across : IsCredible i.across)
    (down : IsCredible i.down) : j.IsSound := by
  unfold visible? at h
  split at h
  · cases h
  · cases h
    exact ⟨by omega, by omega, across, down⟩

end Image

end SlideDeck
