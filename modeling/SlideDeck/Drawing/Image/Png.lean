import SlideDeck.Drawing.Image.Basic

/-!
# PNG

A PNG file is a mark and then chunks, each with a length, a name, its content and a checksum of both.
The first chunks say how large the image is and how many pixels make an inch; they go up to the pixels.
-/

namespace SlideDeck

namespace Image

/-! ## Checksums -/

/-- A checksum with one bit more. -/
def checksumBit (sum : UInt32) : UInt32 :=
  if sum &&& 1 = 1 then (sum >>> 1) ^^^ 0xedb88320 else sum >>> 1

/-- A checksum with a byte more. -/
def checksumByte (sum : UInt32) (b : UInt8) : UInt32 :=
  (List.replicate 8 ()).foldl (fun sum _ => checksumBit sum) (sum ^^^ b.toUInt32)

/-- The cyclic checksum of bytes in 32 bits. -/
def checksum (bytes : List UInt8) : UInt32 :=
  ~~~ bytes.foldl checksumByte 0xffffffff

/-! ## Chunks -/

/-- The first bytes of a PNG file. -/
def pngMark : List UInt8 := [0x89, 0x50, 0x4e, 0x47, 0x0d, 0x0a, 0x1a, 0x0a]

/-- A chunk of a PNG file. -/
structure PngChunk where
  name : List UInt8
  content : List UInt8

/-- Whether a byte may stand in the name of a chunk. -/
def isNameByte (b : UInt8) : Bool :=
  let c := Char.ofNat b.toNat
  c.isAlphanum || c = '_'

/-- The chunks of a PNG file after its mark, up to its pixels or its end, if they are sound. The fuel
bounds their count. -/
def pngChunks? : Nat → List UInt8 → Option (List PngChunk)
  | 0, _ => none
  | fuel + 1, bytes => do
    let length ← (field? bytes 0 4).map ofBig
    let name ← field? bytes 4 4
    guard (name.all isNameByte)
    if name = ascii "IDAT" ∨ name = ascii "IEND" then return []
    let content ← field? bytes 8 length
    let sum ← (field? bytes (8 + length) 4).map ofBig
    guard (sum = (checksum (name ++ content)).toNat)
    return ⟨name, content⟩ :: (← pngChunks? fuel (bytes.drop (12 + length)))

/-! ## Headers -/

/-- The bits to a sample that there are for each kind of color: grey, red with green and blue, palette,
grey with alpha, and color with alpha. -/
def pngDepths : List (UInt8 × List UInt8) :=
  [(0, [1, 2, 4, 8, 16]), (2, [8, 16]), (3, [1, 2, 4, 8]), (4, [8, 16]), (6, [8, 16])]

/-- The width and the height that a header gives. -/
def pngSize? (header : List UInt8) : Option (Nat × Nat) := do
  let width ← (field? header 0 4).map ofBig
  let height ← (field? header 4 4).map ofBig
  match header.drop 8 with
  | depth :: color :: _ :: filter :: _ :: _ =>
    guard (filter = 0 ∧ ((pngDepths.lookup color).getD []).contains depth)
    return (width, height)
  | _ => none

/-- An inch in meters. -/
def metersPerInch : Float := 0.0254

/-- The resolution that a chunk for it gives, across and down, if it gives one in meters; a chunk that is
too short is at fault. -/
def pngResolution? (content : List UInt8) : Option (Option (Nat × Nat)) := do
  let x ← (field? content 0 4).map ofBig
  let y ← (field? content 4 4).map ofBig
  let unit ← content[8]?
  if unit = 1 then
    return some (resolutionOf (Float.ofNat x * metersPerInch),
      resolutionOf (Float.ofNat y * metersPerInch))
  else return none

/-- The contents of the chunks of a name. -/
def contents (chunks : List PngChunk) (name : String) : List (List UInt8) :=
  (chunks.filter (·.name = ascii name)).map (·.content)

/-- The image in a PNG file. Of chunks that say the same thing, the last one counts, but none may be at
fault. -/
def ofPng? (bytes : List UInt8) : Option Image := do
  guard (bytes.take 8 = pngMark)
  let chunks ← pngChunks? bytes.length (bytes.drop 8)
  let (width, height) ← (← (contents chunks "IHDR").mapM pngSize?).getLast?
  let resolutions ← (contents chunks "pHYs").mapM pngResolution?
  let standard := (standardResolution, standardResolution)
  let (across, down) := ((resolutions.filterMap id).getLast?).getD standard
  visible? ⟨width, height, across, down⟩

/-- What is read of each member of a list is read of one of them. -/
theorem exists_of_mem_mapM {α β : Type} {f : α → Option β} {as : List α} {bs : List β} {b : β}
    (h : as.mapM f = some bs) (mem : b ∈ bs) : ∃ a, f a = some b := by
  induction as generalizing bs with
  | nil =>
    cases h
    cases mem
  | cons a as ih =>
    rw [List.mapM_cons] at h
    obtain ⟨first, ha, h⟩ := Option.bind_eq_some_iff.mp h
    obtain ⟨rest, more, h⟩ := Option.bind_eq_some_iff.mp h
    cases h
    rcases List.mem_cons.mp mem with rfl | mem
    · exact ⟨a, ha⟩
    · exact ih more mem

/-- A resolution that a chunk gives is credible. -/
theorem isCredible_of_pngResolution? {content : List UInt8} {across down : Nat}
    (h : pngResolution? content = some (some (across, down))) :
    IsCredible across ∧ IsCredible down := by
  unfold pngResolution? at h
  obtain ⟨x, -, h⟩ := Option.bind_eq_some_iff.mp h
  obtain ⟨y, -, h⟩ := Option.bind_eq_some_iff.mp h
  obtain ⟨unit, -, given⟩ := Option.bind_eq_some_iff.mp h
  split at given
  · cases given
    exact ⟨isCredible_resolutionOf _, isCredible_resolutionOf _⟩
  · cases given

theorem isSound_of_ofPng? {bytes : List UInt8} {i : Image} (h : ofPng? bytes = some i) : i.IsSound := by
  unfold ofPng? at h
  obtain ⟨_, -, h⟩ := Option.bind_eq_some_iff.mp h
  obtain ⟨chunks, -, h⟩ := Option.bind_eq_some_iff.mp h
  obtain ⟨sizes, -, h⟩ := Option.bind_eq_some_iff.mp h
  obtain ⟨⟨width, height⟩, -, h⟩ := Option.bind_eq_some_iff.mp h
  obtain ⟨resolutions, read, visible⟩ := Option.bind_eq_some_iff.mp h
  have credible : ∀ pair, ((resolutions.filterMap id).getLast?).getD
      (standardResolution, standardResolution) = pair → IsCredible pair.1 ∧ IsCredible pair.2 := by
    rintro pair rfl
    cases last : (resolutions.filterMap id).getLast? with
    | none => exact ⟨isCredible_standardResolution, isCredible_standardResolution⟩
    | some pair =>
      obtain ⟨given, mem, rfl⟩ := List.mem_filterMap.mp (List.mem_of_getLast? last)
      obtain ⟨content, chunk⟩ := exists_of_mem_mapM read mem
      exact isCredible_of_pngResolution? chunk
  obtain ⟨across, down⟩ := credible _ rfl
  exact isSound_of_visible? visible across down

end Image

end SlideDeck
