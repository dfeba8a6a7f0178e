import SlideDeck.Document.Encode
import SlideDeck.Json.Reader
import SlideDeck.Json.Writer
import SlideDeck.Reader.Deck

/-!
# Documents as text and as files

`Document.write` gives the text of a slideshow's document and `Document.read` the slideshow of a
text. A file holds a document in UTF-8 with a line end after it; since no string of a document holds
a line end as it is, reading a file with line ends as newlines changes nothing.
-/

namespace SlideDeck

namespace Document

/-- How deep the arrays and objects of a document may be nested. -/
def nestingLimit : Nat := 200

/-- The text of a slideshow's document. -/
def write (indent : Json.Indent) (s : Slideshow) : String :=
  s.toJson.write indent

/-- The slideshow that the text of a document describes. -/
def read (text : List Char) : Except DeckError Slideshow :=
  match Json.parse nestingLimit text with
  | none => .error (.invalidDocument [⟨.notJson, []⟩])
  | some v =>
    match Slideshow.ofJson .text v with
    | .error problems => .error (.invalidDocument problems)
    | .ok s => .ok s

/-- The slideshow that the bytes of a document describe. -/
def readBytes (bytes : List UInt8) : Except DeckError Slideshow :=
  match Text.decodeUtf8 bytes with
  | .error _ => .error (.invalidDocument [⟨.notJson, []⟩])
  | .ok text => read text

/-- The slideshow that the document in a file describes. -/
def load (files : FileSystem) (path : Path) : Except Failure Slideshow :=
  match readText files "utf-8" path with
  | .error fault => .error (readFailure path fault)
  | .ok text =>
    match read text with
    | .error e => .error (.ofError e)
    | .ok s => .ok s

/-- The indent of documents in files. -/
def fileIndent : Json.Indent := some 2

/-- The text of the file that holds a slideshow's document. -/
def fileText (s : Slideshow) : String :=
  write fileIndent s ++ "\n"

/-- Writes a slideshow's document to a file. -/
def save (files : FileSystem) (path : Path) (s : Slideshow) : Except Fault FileSystem :=
  files.writeBytes path (fileText s).toUTF8.toList

end Document

end SlideDeck
