import SlideDeck.Number.Binary
import SlideDeck.Number.Numeral

/-!
# Units of drawings

Lengths are whole English metric units, 914400 to the inch, font sizes hundredths of a point, and
angles sixty-thousandths of a degree. A number becomes a whole count of units by losing its
fraction, an angle by rounding; what is not finite has no count.
-/

namespace SlideDeck

/-- Why nothing can be drawn. -/
inductive DrawingError where
  | notANumber
  | infinite
  | fontSize (size : Int)
  | pageSize (size : Int)
  | unprintable
  | tooManyPixels (count greatest : Nat)
deriving DecidableEq, Repr

namespace Drawing

/-- The least font size. -/
def leastFontSize : Int := 100

/-- The greatest font size. -/
def greatestFontSize : Int := 400000

/-- The least width or height of a page. -/
def leastPageSize : Int := 914400

/-- The greatest width or height of a page. -/
def greatestPageSize : Int := 51206400

end Drawing

open Drawing

/-- A drawing error in words. -/
def DrawingError.message : DrawingError → String
  | .notANumber => "cannot convert float NaN to integer"
  | .infinite => "cannot convert float infinity to integer"
  | .fontSize size =>
    "value must be in range " ++ toString leastFontSize ++ " to " ++ toString greatestFontSize ++
      " inclusive, got " ++ toString size
  | .pageSize size =>
    "value must be in range(" ++ toString leastPageSize ++ ", " ++ toString greatestPageSize ++
      ") (1-56 inches), got " ++ toString size
  | .unprintable =>
    "All strings must be XML compatible: Unicode or ASCII, no NULL bytes or control characters"
  | .tooManyPixels count greatest =>
    "Image size (" ++ toString count ++ " pixels) exceeds limit of " ++ toString greatest ++
      " pixels, could be decompression bomb DOS attack."

namespace Drawing

/-- The whole part of a finite number. -/
def truncate (x : Float) : Except DrawingError Int :=
  match Number.parts x with
  | .nan => .error .notANumber
  | .infinite _ => .error .infinite
  | .finite negative mantissa exponent =>
    .ok (Number.signed negative (Number.wholePart mantissa exponent))

/-- The whole number next to a finite one, the even one of two. -/
def round (x : Float) : Except DrawingError Int :=
  match Number.parts x with
  | .nan => .error .notANumber
  | .infinite _ => .error .infinite
  | .finite negative mantissa exponent =>
    .ok (Number.signed negative (Number.nearestWhole mantissa exponent))

/-- Units of length to the inch. -/
def unitsPerInch : Float := 914400.0

/-- Units of length to the point. -/
def unitsPerPoint : Float := 12700.0

/-- Units of length to the hundredth of a point. -/
def unitsPerFontUnit : Float := 127.0

/-- Units of angle to the degree. -/
def unitsPerDegree : Float := 60000.0

/-- Units of angle to the full turn. -/
def fullTurn : Int := 21600000

/-- A length in units from inches. -/
def lengthOfInches (inches : Float) : Except DrawingError Int :=
  truncate (inches * unitsPerInch)

/-- The width or the height of pages from inches. -/
def pageSizeOfInches (inches : Float) : Except DrawingError Int := do
  let size ← lengthOfInches inches
  if size < leastPageSize ∨ greatestPageSize < size then .error (.pageSize size) else .ok size

/-- A font size in hundredths of a point; the point is first turned into whole units of length. -/
def fontSizeOfPoints (points : Float) : Except DrawingError Int := do
  let length ← truncate (points * unitsPerPoint)
  let size ← truncate (Float.ofInt length / unitsPerFontUnit)
  if size < leastFontSize ∨ greatestFontSize < size then .error (.fontSize size) else .ok size

/-- An angle in units, within one turn. -/
def angleOfDegrees (degrees : Float) : Except DrawingError Int := do
  let angle ← round (degrees * unitsPerDegree)
  return angle % fullTurn

end Drawing

end SlideDeck
