import Std.Data.HashSet
import SlideDeck.Text.Encoding.Chart.Big5
import SlideDeck.Text.Encoding.Chart.Gb
import SlideDeck.Text.Encoding.Chart.HongKong
import SlideDeck.Text.Encoding.Chart.Jis
import SlideDeck.Text.Encoding.Chart.JisExtended
import SlideDeck.Text.Encoding.Chart.JisSupplement
import SlideDeck.Text.Encoding.Chart.Ks

/-!
# Charts of characters

A chart has numbered rows of numbered cells, from zero on, and a character in some of the cells. The
large sets of East Asia are made from a few charts and from the characters that a chart lacks, in the
order of their code points.
-/

namespace SlideDeck.Text

/-- The rows of a chart, each with its cells. A space stands for an empty cell. -/
abbrev Chart := Array (Array Char)

namespace Chart

/-- A chart from its rows as texts. -/
def ofRows (rows : List String) : Chart :=
  (rows.map fun row => row.toList.toArray).toArray

/-- The character in a cell. -/
def char? (chart : Chart) (row cell : Nat) : Option Char :=
  (chart[row]?.bind (·[cell]?)).filter (· ≠ ' ')

/-- The characters of a list that are not among others, in order. -/
def lacking (cs others : List Char) : Array Char :=
  let held := Std.HashSet.ofList (others.map Char.toNat)
  (cs.filter fun c => !held.contains c.toNat).toArray

/-- The characters from a code point on, of the given count. -/
def span (first count : Nat) : List Char :=
  (List.range count).map fun i => Char.ofNat (first + i)

/-- JIS X 0208. -/
def jis : Chart := ofRows jisRows

/-- JIS X 0212. -/
def jisSupplement : Chart := ofRows jisSupplementRows

/-- GB 2312. -/
def gb : Chart := ofRows gbRows

/-- KS X 1001. -/
def ks : Chart := ofRows ksRows

/-- Big5, with two rows for each lead byte. -/
def big5 : Chart := ofRows big5Rows

/-- The unified ideographs that GB 2312 lacks. -/
def beyondGb : Array Char :=
  lacking (span 0x4e00 20902) (gbRows.flatMap String.toList)

/-- The syllables that KS X 1001 lacks. -/
def beyondKs : Array Char :=
  lacking (span 0xac00 11172) (ksRows.flatMap String.toList)

end Chart

end SlideDeck.Text
