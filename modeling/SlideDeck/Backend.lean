import SlideDeck.Document.File
import SlideDeck.Drawing.Describe
import SlideDeck.Drawing.Layout
import SlideDeck.Text.Lower

/-!
# Backends

A backend turns a slideshow into a file: a drawing or a document. It is chosen by the name of its
target, in any case. A drawing makes the folders on the way to its file first, whether or not the
slideshow can then be drawn; a document needs its folder to be there.
-/

namespace SlideDeck

/-- What turns a slideshow into a file. -/
inductive Backend where
  | drawing (style : Style)
  | document

/-- Why a backend gives nothing. -/
inductive BackendError where
  | unknownTarget (target : String)
  | noSlideshow
  | drawing (error : DrawingError)
  | fault (fault : Fault)
deriving DecidableEq

/-- A backend error in words. -/
def BackendError.message : BackendError → String
  | .unknownTarget target => "No backend available for target: " ++ target
  | .noSlideshow => "no document set, call set_document() first"
  | .drawing e => e.message
  | .fault f => f.message

/-- What a backend makes. -/
inductive Output where
  | drawing (drawing : Drawing)
  | document (text : String)
deriving DecidableEq

/-- The text of the file of an output. -/
def Output.fileText : Output → String
  | .drawing d => d.fileText
  | .document text => text

/-- What came of an output: the files after it, the warnings, and the output or what prevents it. -/
structure Rendered where
  files : FileSystem
  warnings : List Warning
  result : Except BackendError Output

/-- Writes an output to a file. -/
def Output.save (o : Output) (files : FileSystem) (warnings : List Warning) (out : Path) :
    Rendered :=
  match files.writeBytes out o.fileText.toUTF8.toList with
  | .error f => ⟨files, warnings, .error (.fault f)⟩
  | .ok files => ⟨files, warnings, .ok o⟩

/-- Makes the folder of a file and all folders on the way to it. -/
def FileSystem.makeParents (files : FileSystem) (out : Path) : FileSystem × Except Fault Unit :=
  files.makeFolders out.parent out.parent.names.length

namespace Backend

/-- The target of a backend. -/
def target : Backend → String
  | .drawing _ => "pptx"
  | .document => "json"

/-- Whether a backend has a target, in any case. -/
def accepts (b : Backend) (wanted : String) : Bool :=
  Text.lower wanted == b.target

/-- The backend of a target. -/
def ofTarget (style : Style) (wanted : String) : Except BackendError Backend :=
  match [Backend.drawing style, .document].find? fun b => b.accepts wanted with
  | none => .error (.unknownTarget wanted)
  | some b => .ok b

/-- Draws a slideshow into a file. -/
def draw (style : Style) (files : FileSystem) (s : Slideshow) (out : Path) : Rendered :=
  match files.makeParents out with
  | (files, .error f) => ⟨files, [], .error (.fault f)⟩
  | (files, .ok ()) =>
    match s.draw style files with
    | ⟨warnings, .error e⟩ => ⟨files, warnings, .error (.drawing e)⟩
    | ⟨warnings, .ok d⟩ => (Output.drawing d).save files warnings out

/-- Writes a slideshow, if there is one, to a file. -/
def render (b : Backend) (files : FileSystem) (s : Option Slideshow) (out : Path) : Rendered :=
  match s, b with
  | none, _ => ⟨files, [], .error .noSlideshow⟩
  | some s, .drawing style => draw style files s out
  | some s, .document => (Output.document (Document.fileText s)).save files [] out

end Backend

end SlideDeck
