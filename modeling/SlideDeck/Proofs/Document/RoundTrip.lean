import SlideDeck.Document.File
import SlideDeck.Proofs.Document.Decode
import SlideDeck.Proofs.Files.Written
import SlideDeck.Proofs.Text.Lines
import SlideDeck.Proofs.Text.Utf8

/-!
# Documents are read back

A slideshow whose numbers are finite comes back from the text of its document, however that is laid
out, from the bytes of the text, and from the file that it is saved to. Any other slideshow does not
come back: its numbers that are not finite are missed, each at its place (`read_write`).

**The law** (`read_write_and_load_save`): all three readings give the slideshow itself, its fonts and
the order of its slides and sections included.
-/

namespace SlideDeck.Document

open SlideDeck.Text

variable {s : Slideshow}

/-- A number has a text in documents, if it is finite. -/
theorem text_of_not_finite {x : Float} (h : Number.isFinite x = false) :
    Number.document.text x = "null" := by
  unfold Number.isFinite at h
  unfold Number.Layout.text
  split
  next => rfl
  next negative _ => cases negative <;> rfl
  next finite =>
    rw [finite] at h
    cases h

/-- The text of a document has nulls for the numbers that are not finite. -/
theorem writeAt_toJson (s : Slideshow) (indent : Json.Indent) (level : Nat) :
    s.toJson.writeAt indent level = (s.toJson.nulled Number.isFinite).writeAt indent level :=
  (Json.writeAt_nulled (fun _ => text_of_not_finite) indent level s.toJson).symm

/-- A document is read from its text, with line ends after it, up to the numbers that are not
finite. -/
theorem read_write_append (s : Slideshow) (indent : Json.Indent) {gap : List Char}
    (ends : ∀ c ∈ gap, c = '\n') : read ((write indent s).toList ++ gap) =
      (Checked.without (s.toJson.lost Number.isFinite) s).mapError .invalidDocument := by
  have readable : Json.IsWritable nestingLimit s.toJson := s.isWritable
  have text : (write indent s).toList = (s.toJson.nulled Number.isFinite).writeAt indent 0 := by
    rw [← writeAt_toJson]
    exact String.toList_ofList
  rw [read, text, Json.parse_writeAt readable indent gap ends]
  have reads : Slideshow.ofJson .text (s.toJson.nulled Number.isFinite) =
      .without (s.toJson.lost Number.isFinite) s := s.readsBack .text
  simp only [reads]
  cases Checked.without (s.toJson.lost Number.isFinite) s <;> rfl

/-- **A document is read from its text up to the numbers that are not finite.** Each of these is
missed at its place, and nothing else is wrong. -/
theorem read_write (s : Slideshow) (indent : Json.Indent) : read (write indent s).toList =
    (Checked.without (s.toJson.lost Number.isFinite) s).mapError .invalidDocument := by
  have whole : read ((write indent s).toList ++ []) = _ :=
    read_write_append s indent fun _ absent => nomatch absent
  rwa [List.append_nil] at whole

theorem read_write_append_of_isFinite (finite : s.isFinite = true) (indent : Json.Indent)
    {gap : List Char} (ends : ∀ c ∈ gap, c = '\n') :
    read ((write indent s).toList ++ gap) = .ok s := by
  rw [read_write_append s indent ends, Slideshow.lost_isFinite.mpr finite]
  rfl

/-- The text of a file holds no carriage return. -/
theorem return_not_mem_fileText (s : Slideshow) : '\r' ∉ (fileText s).toList := by
  have readable : Json.IsWritable nestingLimit s.toJson := s.isWritable
  have inside := Json.return_not_mem_writeAt readable fileIndent 0
  rw [← writeAt_toJson] at inside
  have text : (fileText s).toList = s.toJson.writeAt fileIndent 0 ++ ['\n'] := by
    rw [fileText, String.toList_append, write, Json.write, String.toList_ofList]
    rfl
  rw [text]
  simp [inside]

/-- The characters of a file that is saved are those of its text. -/
theorem readText_save {files files' : FileSystem} {path : Path}
    (saved : save files path s = .ok files') :
    readText files' "utf-8" path = .ok (fileText s).toList := by
  have bytes : files'.readBytes path = .ok (fileText s).toUTF8.toList :=
    FileSystem.readBytes_writeBytes saved
  have encoding : Encoding.ofName "utf-8" = .ok .utf8 := by decide +kernel
  rw [readText, bytes, encoding]
  simp only [Encoding.decode, decodeUtf8_toUTF8, Except.mapError]
  rw [universalNewlines_of_not_mem (return_not_mem_fileText s)]

/-- **A slideshow comes back from its document**: from the text in every layout, from its bytes, and
from every file that it can be saved to. -/
theorem read_write_and_load_save (finite : s.isFinite = true) :
    (∀ indent, read (write indent s).toList = .ok s) ∧
    (∀ indent, readBytes (write indent s).toUTF8.toList = .ok s) ∧
    ∀ files path files', save files path s = .ok files' → load files' path = .ok s := by
  have text : ∀ indent, read (write indent s).toList = .ok s := by
    intro indent
    have whole : read ((write indent s).toList ++ []) = .ok s :=
      read_write_append_of_isFinite finite indent fun _ absent => nomatch absent
    rwa [List.append_nil] at whole
  refine ⟨text, fun indent => ?_, fun files path files' saved => ?_⟩
  · rw [readBytes, decodeUtf8_toUTF8]
    exact text indent
  · have file : read (fileText s).toList = .ok s := by
      rw [fileText, String.toList_append]
      exact read_write_append_of_isFinite finite fileIndent fun c mem => List.mem_singleton.mp mem
    rw [load, readText_save saved]
    simp only [file]

/-- A slide with a quoted text, in the layout of files. -/
theorem read_write_quoted :
    read (write (some 2)
      { fonts := ⟨[("title", "a b.ttf")], by decide⟩
        fontSize := some ⟨0.1, -2.5e-7⟩
        slides := [{ sections := [{ body := .text { text := "\"\\\n", font := "title" } }] }] }).toList =
    .ok
      { fonts := ⟨[("title", "a b.ttf")], by decide⟩
        fontSize := some ⟨0.1, -2.5e-7⟩
        slides := [{ sections := [{ body := .text { text := "\"\\\n", font := "title" } }] }] } :=
  (read_write_and_load_save (by decide +kernel)).1 (some 2)

end SlideDeck.Document
