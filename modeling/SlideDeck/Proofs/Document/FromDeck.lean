import SlideDeck.Proofs.Document.RoundTrip
import SlideDeck.Proofs.Number.Infinite
import SlideDeck.Proofs.Reader.Numbers

/-!
# Decks as documents

The words of a deck may be infinite numbers, and documents have no text for these. So a deck that has
been read comes back from its document if and only if none of its numbers is infinite, apart from
those that are no numbers at all. Reading itself makes no number infinite: the cell of a letter is
infinite only if its size is (`Number.isInfinite_of_cellOfSize`).

**The law** (`Deck.read_write_of_parse`): what has been read from a deck comes back from its document
in every layout, or is refused for its infinite numbers, each at its place; and each of them is a word
of the deck or of one that it imports.
-/

namespace SlideDeck

open Deck

/-! ## Infinite numbers -/

/-- A number that is not finite is infinite, unless it is none. -/
theorem Number.isFinite_eq_false_iff {x : Float} (number : x.isNaN = false) :
    isFinite x = false ↔ IsInfinite x := by
  have defined : IsDefined x := by
    rw [isDefined_iff]
    intro none
    have notNumber : x.toModel.unpack.isNaN = false := number
    rw [none] at notNumber
    cases notNumber
  cases h : parts x with
  | nan => exact absurd h defined
  | infinite negative =>
    have notFinite : isFinite x = false := by rw [isFinite, h]
    exact iff_of_true notFinite ⟨negative, h⟩
  | finite negative m e =>
    have finite : isFinite x = true := by rw [isFinite, h]
    rw [finite]
    refine iff_of_false Bool.noConfusion ?_
    rintro ⟨_, infinite⟩
    rw [h] at infinite
    cases infinite

/-- An infinite number is given by an infinite one. -/
theorem Lexeme.Gives.exists_infinite {l : Lexeme} {x : Float} (h : l.Gives x)
    (infinite : Number.IsInfinite x) : ∃ y, l = .number y ∧ Number.IsInfinite y := by
  cases h with
  | self => exact ⟨x, rfl, infinite⟩
  | @side y _ side =>
    refine ⟨y, rfl, Number.isInfinite_of_cellOfSize ?_⟩
    rcases List.mem_cons.mp side with rfl | side
    · exact .inl infinite
    · obtain rfl := List.mem_singleton.mp side
      exact .inr infinite

/-- **An infinite number is given by an infinite word** of a text that is read. -/
theorem Reading.exists_infinite {options : ReadOptions} {files : FileSystem} {r : Reading}
    {s : Slideshow} {x : Float} (h : r.outcome options files = .ok s) (mem : x ∈ s.numbers)
    (infinite : Number.IsInfinite x) :
    ∃ inner, Relation.ReflTransGen (Makes options files) r inner ∧
      ∃ y, .number y ∈ inner.lexemes ∧ Number.IsInfinite y := by
  rcases given_of_outcome h mem with rfl | ⟨inner, made, l, word, gives⟩
  · obtain ⟨negative, zero⟩ := infinite
    have finite : Number.parts 0.0 = .finite false 0 (-1074) := by decide +kernel
    rw [finite] at zero
    cases zero
  · obtain ⟨y, rfl, infinite⟩ := gives.exists_infinite infinite
    exact ⟨inner, made, y, word, infinite⟩

/-! ## The law -/

namespace Document

variable {s : Slideshow}

/-- The problems of a document that has lost its infinite numbers: each of them is missed at its
place. -/
def MissesInfinite (s : Slideshow) (problems : List Problem) : Prop :=
  ∀ p, p ∈ problems ↔ p.complaint = .notNumber ∧
    ∃ x, s.toJson.LeadsTo p.place (.real x) ∧ Number.IsInfinite x

/-- A slideshow without numbers that are none comes back from its document, if no number is
infinite. -/
theorem read_write_iff (numbers : ∀ x ∈ s.numbers, x.isNaN = false) (indent : Json.Indent) :
    read (write indent s).toList = .ok s ↔ ∀ x ∈ s.numbers, ¬ Number.IsInfinite x := by
  have finite : s.toJson.lost Number.isFinite = [] ↔ ∀ x ∈ s.numbers, ¬ Number.IsInfinite x := by
    rw [Slideshow.lost_eq_nil_iff]
    refine forall₂_congr fun x mem => ?_
    rw [← Number.isFinite_eq_false_iff (numbers x mem), Bool.not_eq_false]
  rw [read_write, ← finite]
  constructor
  · intro reads
    by_contra some_
    rw [Checked.without_of_ne_nil some_] at reads
    cases reads
  · intro none
    rw [none]
    rfl

/-- Otherwise it is refused for them. -/
theorem exists_missesInfinite (numbers : ∀ x ∈ s.numbers, x.isNaN = false) {x : Float}
    (mem : x ∈ s.numbers) (infinite : Number.IsInfinite x) (indent : Json.Indent) :
    ∃ problems, read (write indent s).toList = .error (.invalidDocument problems) ∧
      MissesInfinite s problems := by
  have some_ : s.toJson.lost Number.isFinite ≠ [] := by
    intro none
    have finite := Slideshow.lost_eq_nil_iff.mp none x mem
    rw [(Number.isFinite_eq_false_iff (numbers x mem)).mpr infinite] at finite
    cases finite
  refine ⟨(s.toJson.lost Number.isFinite).map fun place => ⟨.notNumber, place⟩, ?_, ?_⟩
  · rw [read_write, Checked.without_of_ne_nil some_]
    rfl
  · have lost {y : Float} {place : List Step} (leads : s.toJson.LeadsTo place (.real y)) :
        Number.isFinite y = false ↔ Number.IsInfinite y :=
      Number.isFinite_eq_false_iff (numbers y (Slideshow.mem_numbers_iff.mpr ⟨place, leads⟩))
    intro p
    rw [List.mem_map]
    constructor
    · rintro ⟨place, mem, rfl⟩
      obtain ⟨y, leads, notFinite⟩ := Json.mem_lost.mp mem
      exact ⟨rfl, y, leads, (lost leads).mp notFinite⟩
    · rintro ⟨complaint, y, leads, infinite⟩
      obtain ⟨_, place⟩ := p
      cases complaint
      exact ⟨place, Json.mem_lost.mpr ⟨y, leads, (lost leads).mpr infinite⟩, rfl⟩

end Document

namespace Deck

/-- **A deck comes back from its document, unless it has infinite numbers.** What has been read from a
deck and holds no number that is none is read back from the text of its document, in every layout, if and
only if none of its numbers is infinite. Otherwise the document is refused, with a complaint for each
infinite number at its place and with no other; and each infinite number is given by an infinite word,
of the deck or of one that it imports. -/
theorem read_write_of_parse {options : ReadOptions} {files : FileSystem} {base text : String}
    {s : Slideshow} (parsed : parse options files (Path.ofString base) text = .ok s)
    (numbers : ∀ x ∈ s.numbers, x.isNaN = false) (indent : Json.Indent) :
    (Document.read (Document.write indent s).toList = .ok s ↔
      ∀ x ∈ s.numbers, ¬ Number.IsInfinite x) ∧
    ∀ x ∈ s.numbers, Number.IsInfinite x →
      (∃ problems, Document.read (Document.write indent s).toList =
          .error (.invalidDocument problems) ∧ Document.MissesInfinite s problems) ∧
      ∃ r, EntryPoint.Creates options files (.text base text) r ∧
        ∃ y, .number y ∈ r.lexemes ∧ Number.IsInfinite y := by
  refine ⟨Document.read_write_iff numbers indent, fun x mem infinite =>
    ⟨Document.exists_missesInfinite numbers mem infinite indent, ?_⟩⟩
  have outcome := (Reading.outcome_text options files (Path.ofString base) [] text).trans parsed
  obtain ⟨r, made, word⟩ := Reading.exists_infinite outcome mem infinite
  exact ⟨r, ⟨_, .text base text, made⟩, word⟩

/-- A place that is infinite in an imported deck. -/
theorem read_write_of_parse_import :
    let files : FileSystem := ⟨[(["far.deck"], .file ":sl :tb :ps 0.5 -inf\n".toUTF8.toList)], []⟩
    let s : Slideshow := { slides := [{ sections :=
      [{ position := some ⟨0.5, -Number.infinity⟩, body := .text {} }] }] }
    parse {} files (Path.ofString ".") ":im far.deck\n" = .ok s ∧
      (∀ x ∈ s.numbers, x.isNaN = false) ∧
      (∃ problems, Document.read (Document.write (some 2) s).toList =
          .error (.invalidDocument problems) ∧ Document.MissesInfinite s problems) ∧
      ∃ r, EntryPoint.Creates {} files (.text "." ":im far.deck\n") r ∧
        ∃ y, .number y ∈ r.lexemes ∧ Number.IsInfinite y := by
  intro files s
  have parsed : parse {} files (Path.ofString ".") ":im far.deck\n" = .ok s := by decide +kernel
  have numbers : ∀ x ∈ s.numbers, x.isNaN = false := by decide +kernel
  have mem : -Number.infinity ∈ s.numbers := List.mem_cons_of_mem _ List.mem_cons_self
  have infinite : Number.IsInfinite (-Number.infinity) := ⟨true, by decide +kernel⟩
  exact ⟨parsed, numbers, (read_write_of_parse parsed numbers (some 2)).2 _ mem infinite⟩

/-- A deck whose letters have an infinite size is read, holds no number that is none, and does not come
back from its document. -/
theorem infinite_size_lost :
    let s : Slideshow := { fontSize := some ⟨Number.infinity, Number.infinity⟩ }
    parse {} ⟨[], []⟩ (Path.ofString ".") ":ge :sz inf inf\n" = .ok s ∧
      (∀ x ∈ s.numbers, x.isNaN = false) ∧
      Document.read (Document.write (some 2) s).toList = .error (.invalidDocument
        [⟨.notNumber, [.key "font_size", .key "x"]⟩, ⟨.notNumber, [.key "font_size", .key "y"]⟩]) := by
  decide +kernel

end Deck

end SlideDeck
