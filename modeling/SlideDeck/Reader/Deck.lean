import SlideDeck.Reader.Draft
import SlideDeck.Token.Scan

/-!
# Decks in files

`parse` reads a deck from text, `parseFile` from a file, and `parseChunks` from texts that are whole
on their own and follow each other. All of them read the decks that a deck imports: an import is
resolved to a canonical path, which must not be on the way already if cycles are looked for, and the
way must be shorter than the limit. The number of further imports that the limit leaves is what the
reading of imports recurses on.
-/

namespace SlideDeck

/-- How decks are read. -/
structure ReadOptions where
  encoding : String := "utf-8"
  detectCycles : Bool := true
  /-- How many decks may be on the way to an imported one. -/
  importLimit : Int := 64
deriving DecidableEq, Repr

/-- The characters of a file of the named encoding, line ends as newlines. -/
def readText (files : FileSystem) (encoding : String) (path : Path) : Except Fault (List Char) :=
  match files.readBytes path with
  | .error fault => .error fault
  | .ok bytes =>
    match Text.Encoding.ofName encoding with
    | .error why => .error (.noEncoding why)
    | .ok encoding =>
      match encoding.decode bytes with
      | .error why => .error (.undecodable why)
      | .ok chars => .ok (Text.universalNewlines chars)

/-- How a fault in reading a file is reported: what the file system and the decoder refuse is an error
of the deck, and all else passes through. -/
def readFailure (path : Path) : Fault → Failure
  | .refused why place => .ofError (.unreadable path (.refused why place))
  | .undecodable (.bytes fault) => .ofError (.unreadable path (.undecodable (.bytes fault)))
  | fault => .fault fault

namespace Deck

/-- Reads the text of a deck, given how imports are read. -/
def parseWith (files : FileSystem) (load : Path → Except Failure Slideshow) (base : Path)
    (text : String) : Except Failure Slideshow :=
  match Draft.read ⟨files, base, load⟩ {} (Token.tokenize text 0) with
  | (_, .error failure) => .error failure
  | (d, .ok ()) => .ok d.take

/-- Reads the deck in a file, given how imports are read. Its paths start from its folder. -/
def parseFileWith (options : ReadOptions) (files : FileSystem)
    (load : Path → Except Failure Slideshow) (path : Path) : Except Failure Slideshow :=
  match files.isFile path with
  | .error fault => .error (.fault fault)
  | .ok false => .error (.ofError (.notFile path))
  | .ok true =>
    match readText files options.encoding path with
    | .error fault => .error (readFailure path fault)
    | .ok chars => parseWith files load path.parent (String.ofList chars)

/-- An error in an imported deck, as seen from the deck that imports it. -/
def wrapImport (path : Path) : Failure → Failure
  | .deck e => .ofError (.inImport path e.cause e.token)
  | .fault fault => .fault fault

/-- Reads a deck for an import: `way` holds the canonical paths of the decks that are being read, and
the number is how many more the limit admits. -/
def importDeck (options : ReadOptions) (files : FileSystem) :
    Nat → List Path → Path → Except Failure Slideshow
  | budget, way, path =>
    match files.resolve path with
    | .error (.linkLoop place) => .error (.fault (.linkLoop place))
    | .error fault => .error (.ofError (.importNotFound path fault))
    | .ok found =>
      if options.detectCycles && way.contains found then
        .error (.ofError (.importCycle (way ++ [found]) found))
      else
        match budget with
        | 0 => .error (.ofError (.importTooDeep options.importLimit found))
        | budget + 1 =>
          match parseFileWith options files (importDeck options files budget (way ++ [found]))
              found with
          | .error failure => .error (wrapImport found failure)
          | .ok slideshow => .ok slideshow

/-- How many more imports the limit admits after the given way. -/
def importBudget (options : ReadOptions) (way : List Path) : Nat :=
  (options.importLimit - way.length).toNat

/-- How imports are read after the given way. -/
def loader (options : ReadOptions) (files : FileSystem) (way : List Path) :
    Path → Except Failure Slideshow :=
  importDeck options files (importBudget options way) way

/-- Reads the text of a deck whose paths start from a folder. -/
def parse (options : ReadOptions) (files : FileSystem) (base : Path) (text : String) :
    Except Failure Slideshow :=
  parseWith files (loader options files []) base text

/-- Reads the deck in a file. -/
def parseFile (options : ReadOptions) (files : FileSystem) (path : Path) :
    Except Failure Slideshow :=
  match files.resolveLenient path with
  | .error fault => .error (.fault fault)
  | .ok found => parseFileWith options files (loader options files [found]) path

/-- Reads texts one after the other into a draft; lines are counted through. -/
def readChunks (around : Surroundings) : Int → Draft → List String → Draft × Except Failure Unit
  | _, d, [] => (d, .ok ())
  | line, d, chunk :: rest =>
    match Draft.read around d (Token.tokenize chunk line) with
    | (d, .error failure) => (d, .error failure)
    | (d, .ok ()) => readChunks around (line + (Text.splitLines chunk.toList).length) d rest

/-- Reads a deck from texts that follow each other, none of which parts a directive from its
arguments. -/
def parseChunks (options : ReadOptions) (files : FileSystem) (base : Path) (chunks : List String) :
    Except Failure Slideshow :=
  match readChunks ⟨files, base, loader options files []⟩ 0 {} chunks with
  | (_, .error failure) => .error failure
  | (d, .ok ()) => .ok d.take

end Deck

end SlideDeck
