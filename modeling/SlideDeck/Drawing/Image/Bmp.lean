import SlideDeck.Drawing.Image.Basic

/-!
# BMP

A BMP file has a header of one of several lengths. The shortest gives a size and the bits to a pixel;
the others also say how the pixels are packed, which channel has which bits, and how many of them make
a meter.
-/

namespace SlideDeck

namespace Image

/-- Inches to the meter. -/
def inchesPerMeter : Float := 39.3701

/-- The rows of an image whose height is negative if they come from the top. -/
def bmpHeight (height : Nat) : Nat :=
  if 0xff000000 ≤ height then 0x100000000 - height else height

/-- The lengths of the headers after the shortest. -/
def bmpHeaderLengths : List Nat := [40, 52, 56, 64, 108, 124]

/-- The bits to a pixel that there are. -/
def bmpDepths : List Nat := [1, 4, 8, 16, 24, 32]

/-- The bits of red, green, blue and alpha that pixels of a length may have. -/
def bmpMasks : Nat → List (List Nat)
  | 16 => [[0xf800, 0x7e0, 0x1f], [0x7c00, 0x3e0, 0x1f]]
  | 24 => [[0xff0000, 0xff00, 0xff]]
  | 32 =>
    [[0xff0000, 0xff00, 0xff, 0], [0xff000000, 0xff0000, 0xff00, 0],
     [0xff000000, 0xff00, 0xff, 0], [0xff000000, 0xff0000, 0xff00, 0xff],
     [0xff, 0xff00, 0xff0000, 0xff000000], [0xff0000, 0xff00, 0xff, 0xff000000],
     [0xff000000, 0xff00, 0xff, 0xff0000], [0, 0, 0, 0]]
  | _ => []

/-- Whether pixels of a length may be packed in a way; in the last way, masks say where the channels
are. Only the headers from 56 bytes on have a mask for alpha. -/
def bmpPacking (bytes : List UInt8) (length depth packing : Nat) : Option Unit :=
  if packing < 3 then some ()
  else if packing = 3 then do
    let mask (i : Nat) := (field? bytes (54 + 4 * i) 4).map ofLittle
    let red ← mask 0
    let green ← mask 1
    let blue ← mask 2
    let alpha ← if 56 ≤ length then mask 3 else some 0
    let masks := [red, green, blue] ++ (if depth = 32 then [alpha] else [])
    guard ((bmpMasks depth).contains masks)
  else none

/-- Whether a palette for pixels of a length may have so many colors; zero stands for all. -/
def bmpPalette (depth colors : Nat) : Option Unit :=
  guard (8 < depth ∨ colors ≤ 65536)

/-- The image in a BMP file. -/
def ofBmp? (bytes : List UInt8) : Option Image := do
  guard (bytes.take 2 = ascii "BM")
  let length ← (field? bytes 14 4).map ofLittle
  let header ← field? bytes 14 length
  let number (start count : Nat) := ofLittle ((header.drop start).take count)
  if length = 12 then
    guard (bmpDepths.contains (number 10 2))
    visible? ⟨number 4 2, number 6 2, standardResolution, standardResolution⟩
  else
    guard (bmpHeaderLengths.contains length)
    guard (bmpDepths.contains (number 14 2))
    bmpPacking bytes length (number 14 2) (number 16 4)
    bmpPalette (number 14 2) (number 32 4)
    visible?
      ⟨number 4 4, bmpHeight (number 8 4), resolutionOf (Float.ofNat (number 24 4) / inchesPerMeter),
        resolutionOf (Float.ofNat (number 28 4) / inchesPerMeter)⟩

theorem isSound_of_ofBmp? {bytes : List UInt8} {i : Image} (h : ofBmp? bytes = some i) : i.IsSound := by
  unfold ofBmp? at h
  obtain ⟨_, -, h⟩ := Option.bind_eq_some_iff.mp h
  obtain ⟨length, -, h⟩ := Option.bind_eq_some_iff.mp h
  obtain ⟨header, -, h⟩ := Option.bind_eq_some_iff.mp h
  by_cases old : length = 12
  · rw [if_pos old] at h
    obtain ⟨_, -, visible⟩ := Option.bind_eq_some_iff.mp h
    exact isSound_of_visible? visible isCredible_standardResolution isCredible_standardResolution
  · rw [if_neg old] at h
    obtain ⟨_, -, h⟩ := Option.bind_eq_some_iff.mp h
    obtain ⟨_, -, h⟩ := Option.bind_eq_some_iff.mp h
    obtain ⟨_, -, h⟩ := Option.bind_eq_some_iff.mp h
    obtain ⟨_, -, visible⟩ := Option.bind_eq_some_iff.mp h
    exact isSound_of_visible? visible (isCredible_resolutionOf _) (isCredible_resolutionOf _)

end Image

end SlideDeck
