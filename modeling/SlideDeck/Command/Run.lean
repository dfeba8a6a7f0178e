import SlideDeck.Backend
import SlideDeck.Command.Options
import SlideDeck.Printer
import SlideDeck.Reader.Journal

/-!
# Running a command line

`run` carries out a command line on a file system: it reads the slideshow, prints what is asked for,
draws it, and sums it up if nothing else was asked for. What is printed before a fault stays
printed. An error of the deck or of the file system is reported and gives the code 1; other faults
are no part of the command line's business and come out as they are.
-/

namespace SlideDeck.Command

/-- A fault that a run does not report but ends with. -/
inductive Escape where
  | fault (fault : Fault)
  | backend (error : BackendError)
  | noLevel
deriving DecidableEq

/-- A fault in words. -/
def Escape.message : Escape → String
  | .fault f => f.message
  | .backend e => e.message
  | .noLevel => "attribute name must be string, not 'list'"

/-- How a run ends. -/
inductive Ending where
  | returned (code : Nat)
  | exited (code : Nat)
  | escaped (escape : Escape)
deriving DecidableEq

/-- The state of a run. -/
structure State where
  out : String := ""
  err : String := ""
  files : FileSystem

namespace State

/-- Prints a text. -/
def print (st : State) (text : String) : State :=
  { st with out := st.out ++ text }

/-- Reports a text. -/
def report (st : State) (text : String) : State :=
  { st with err := st.err ++ text }

/-- Tells the events that the options ask for. -/
def tell (st : State) (o : Options) (events : List Event) : State :=
  match o.threshold? with
  | some level => st.report (logLines level events)
  | none => st

/-- Reports an error. -/
def complain (st : State) (message : String) : State :=
  st.report ("ERROR: " ++ message ++ "\n")

end State

/-- The end that a failure of reading or printing gives. -/
def fail (st : State) (f : Failure) : State × Ending :=
  match f with
  | .deck e => (st.complain (Failure.deck e).message, .returned 1)
  | .fault (.refused why path) => (st.complain (Fault.refused why path).message, .returned 1)
  | .fault f => (st, .escaped (.fault f))

/-- The end that a backend error gives. -/
def failBackend (st : State) (e : BackendError) : State × Ending :=
  match e with
  | .fault f => fail st (.fault f)
  | e => (st, .escaped (.backend e))

/-- Reads the slideshow. -/
def readInput (o : Options) (files : FileSystem) : Except Failure Slideshow :=
  let path := Path.ofString o.path
  if o.fromJson then Document.load files path else Deck.parseFile {} files path

/-- The events of reading the slideshow. -/
def inputEvents (o : Options) (files : FileSystem) : List Event :=
  let path := Path.ofString o.path
  if o.fromJson then Document.loadEvents files path else Deck.parseFileEvents {} files path

/-- A slide in one line. -/
def slideLine (index : Nat) (s : Slide) : String :=
  let count (kind : Body → Bool) : String :=
    toString (s.sections.filter fun section_ => kind section_.body).length
  "  [" ++ toString index ++ "] " ++ count Body.isText ++ " text, " ++ count Body.isFigure ++
    " figure section(s)\n"

/-- A slideshow in a few lines. -/
def summary (s : Slideshow) : String :=
  "Slides   : " ++ toString s.slides.length ++ "\n" ++
    String.join (s.slides.mapIdx slideLine)

/-- The event of losing the font table, if there is one. -/
def fontEvents (s : Slideshow) : List Event :=
  match s.fonts.entries with
  | [] => []
  | es => [.fontsDropped es.length]

/-- Draws the slideshow, and sums up if nothing was asked for. -/
def drawIfAsked (images : Image.Formats) (o : Options) (s : Slideshow) (st : State) : State × Ending :=
  match o.pptx with
  | none | some "" =>
    (if o.json || o.text then st else st.print (summary s), .returned 0)
  | some written =>
    let path := Path.ofString written
    let r := Backend.draw { images } st.files s path
    let st := { st with files := r.files }.tell o (r.warnings.map Event.imageMissing)
    match r.result with
    | .error e => failBackend st e
    | .ok _ =>
      let st := st.tell o [.drawn s.slides.length path]
      (st.print ("Output   : " ++ path.text ++ "\n"), .returned 0)

/-- Prints the deck text if asked for, and goes on. -/
def printIfAsked (images : Image.Formats) (o : Options) (s : Slideshow) (st : State) : State × Ending :=
  if o.text then
    match s.toDeck with
    | .error e => fail st (.ofError e)
    | .ok text => drawIfAsked images o s ((st.tell o (fontEvents s)).print text)
  else drawIfAsked images o s st

/-- Prints the document if asked for, and goes on. -/
def dumpIfAsked (images : Image.Formats) (o : Options) (s : Slideshow) (st : State) : State × Ending :=
  printIfAsked images o s (if o.json then st.print (Document.fileText s) else st)

/-- Carries out what a command line asks for, if there is a level of events to tell. -/
def runOptions (images : Image.Formats) (files : FileSystem) (o : Options) : State × Ending :=
  let st : State := { files }
  match o.threshold? with
  | none => (st, .escaped .noLevel)
  | some _ =>
    let st := st.tell o (inputEvents o files)
    match readInput o files with
    | .error f => fail st f
    | .ok s => dumpIfAsked images o s st

/-- Carries out a command line, with the formats of images that are known. -/
def run (files : FileSystem) (words : List String) (images : Image.Formats := .common) :
    State × Ending :=
  match Options.ofWords words with
  | .error e => ({ files, err := e.report }, .exited 2)
  | .ok .help => ({ files, out := help }, .exited 0)
  | .ok (.run o) => runOptions images files o

end SlideDeck.Command
