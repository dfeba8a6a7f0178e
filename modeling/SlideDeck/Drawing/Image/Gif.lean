import SlideDeck.Drawing.Image.Basic

/-!
# GIF

A GIF file gives the size of its screen, and then has extensions and frames. The first frame may reach
beyond the screen, which is then as large as the frame asks for. A file without a frame is no image.
-/

namespace SlideDeck

namespace Image

/-- What follows a block of a GIF file, which its first byte gives the length of, and the block; there
is none if the length is zero. -/
def gifBlock : List UInt8 → Option (List UInt8) × List UInt8
  | [] => (none, [])
  | n :: bytes =>
    if n = 0 then (none, bytes) else (some (bytes.take n.toNat), bytes.drop n.toNat)

/-- A block is at least its length. -/
theorem length_gifBlock_le (bytes : List UInt8) : (gifBlock bytes).2.length ≤ bytes.length := by
  unfold gifBlock
  split
  · simp
  · split <;> simp only [List.length_drop, List.length_cons] <;> omega

/-- What follows blocks up to an empty one. -/
def afterBlocks : List UInt8 → List UInt8
  | [] => []
  | n :: bytes => if n = 0 then bytes else afterBlocks (bytes.drop n.toNat)
termination_by bytes => bytes.length
decreasing_by simp only [List.length_drop, List.length_cons]; omega

/-- Blocks up to an empty one are left out. -/
theorem length_afterBlocks_le (bytes : List UInt8) : (afterBlocks bytes).length ≤ bytes.length := by
  fun_induction afterBlocks bytes with
  | case1 => simp
  | case2 => simp
  | case3 n bytes _ ih =>
    simp only [List.length_drop] at ih
    simp only [List.length_cons]
    omega

/-- What follows an extension with the given label, if the extension is sound. One that controls how a
frame is shown has at least a time, and a color if it says so. -/
def afterExtension? (label : UInt8) (bytes : List UInt8) : Option (List UInt8) :=
  let (block, rest) := gifBlock bytes
  match block with
  | none => if label = 0xfe then some rest else some (afterBlocks rest)
  | some block =>
    if label = 0xf9 then
      let least := if (block.headD 0) &&& 1 = 1 then 4 else 3
      if block.length < least then none else some (afterBlocks rest)
    else if label = 0xff ∧ block.take 11 = ascii "NETSCAPE2.0" then
      some (afterBlocks (gifBlock rest).2)
    else some (afterBlocks rest)

/-- An extension is left out. -/
theorem length_le_of_afterExtension? {label : UInt8} {bytes rest : List UInt8}
    (h : afterExtension? label bytes = some rest) : rest.length ≤ bytes.length := by
  have h₁ := length_gifBlock_le bytes
  have h₂ := length_afterBlocks_le (gifBlock bytes).2
  have h₃ := length_gifBlock_le (gifBlock bytes).2
  have h₄ := length_afterBlocks_le (gifBlock (gifBlock bytes).2).2
  unfold afterExtension? at h
  grind

/-- The size of the first frame with its distance from the corner of the screen. -/
def frame? : List UInt8 → Option (Nat × Nat)
  | [] => none
  | b :: bytes =>
    if b = 0x3b then none
    else if b = 0x2c then do
      let fields ← field? bytes 0 9
      let number start := ofLittle ((fields.drop start).take 2)
      let flags := fields.getLastD 0
      let palette := if 0x80 ≤ flags then 3 * Nat.pow 2 ((flags &&& 7).toNat + 1) else 0
      let _ ← field? bytes (9 + palette) 1
      return (number 0 + number 4, number 2 + number 6)
    else if b = 0x21 then
      match bytes with
      | [] => none
      | label :: bytes =>
        match _ : afterExtension? label bytes with
        | some rest => frame? rest
        | none => none
    else frame? bytes
termination_by bytes => bytes.length
decreasing_by
  · have := length_le_of_afterExtension? ‹_›
    simp only [List.length_cons]
    omega
  · simp only [List.length_cons]
    omega

/-- The image in a GIF file. -/
def ofGif? (bytes : List UInt8) : Option Image := do
  guard (bytes.take 6 = ascii "GIF87a" ∨ bytes.take 6 = ascii "GIF89a")
  let width ← (field? bytes 6 2).map ofLittle
  let height ← (field? bytes 8 2).map ofLittle
  let fields ← field? bytes 10 3
  let flags := fields.headD 0
  let palette := if 0x80 ≤ flags then 3 * Nat.pow 2 ((flags &&& 7).toNat + 1) else 0
  let (right, bottom) ← frame? (bytes.drop (13 + palette))
  visible? ⟨max width right, max height bottom, standardResolution, standardResolution⟩

theorem isSound_of_ofGif? {bytes : List UInt8} {i : Image} (h : ofGif? bytes = some i) : i.IsSound := by
  unfold ofGif? at h
  obtain ⟨_, -, h⟩ := Option.bind_eq_some_iff.mp h
  obtain ⟨width, -, h⟩ := Option.bind_eq_some_iff.mp h
  obtain ⟨height, -, h⟩ := Option.bind_eq_some_iff.mp h
  obtain ⟨fields, -, h⟩ := Option.bind_eq_some_iff.mp h
  obtain ⟨⟨right, bottom⟩, -, visible⟩ := Option.bind_eq_some_iff.mp h
  exact isSound_of_visible? visible isCredible_standardResolution isCredible_standardResolution

end Image

end SlideDeck
