import SlideDeck.Command.Run
import SlideDeck.Reader.Mention

/-!
# The program

The program carries out its command line on the part of the disk that the command line can reach:
the input, what it mentions, and the way to the output. It prints what the run prints, and puts on
the disk what the run adds to the files.
-/

namespace SlideDeck.Command

/-- What the disk has at a place, and the place that it has without links. -/
def lookAt (place : String) : IO (Option (Path × Entry)) := do
  try
    let real ← IO.FS.realPath place
    let entry ← (do return Entry.file (← IO.FS.readBinFile real).toList) <|> pure Entry.folder
    return some (Path.ofString real.toString, entry)
  catch _ => return none

/-- The files with what the disk has at an absolute path. -/
def addPlace (files : FileSystem) (p : Path) : IO FileSystem := do
  match ← lookAt p.text with
  | none => return files
  | some (real, entry) =>
    let named := (Trail.append ⟨.root, []⟩ p.names).names
    let files := files.putDeep real.names.reverse entry
    return if named = real.names.reverse then files else files.putDeep named (.link real.text)

/-- The files with what the disk has at a path and on the way to it. -/
def addPath (files : FileSystem) (p : Path) : IO FileSystem :=
  let whole := (Location.path files.here).join p
  (List.range whole.names.length).foldlM
    (fun files count => addPlace files ⟨whole.anchor, whole.names.take (count + 1)⟩) files

/-- What a deck mentions; nothing if it cannot be read. -/
def mentionsOf (files : FileSystem) (deck : Path) : List Mention :=
  match readText files "utf-8" deck with
  | .ok chars => mentions (Token.tokenize (String.ofList chars) 0)
  | .error _ => []

/-- The files with some decks and what they mention. -/
partial def addDecks (seen : List Path) (files : FileSystem) : List Path → IO FileSystem
  | [] => return files
  | deck :: rest => do
    if seen.contains deck then addDecks seen files rest
    else
      let mut files ← addPath files deck
      let mut found := []
      for m in mentionsOf files deck do
        match m with
        | .figure written => files ← addPath files (deck.parent.join (Path.ofString written))
        | .deck written =>
          let path := deck.parent.join (Path.ofString written)
          files ← addPath files path
          found := found ++ (files.resolve path).toOption.toList
      addDecks (deck :: seen) files (rest ++ found)

/-- The paths of the figures of a slideshow. -/
def figurePaths (s : Slideshow) : List Path :=
  s.slides.flatMap fun slide => slide.sections.filterMap fun part =>
    match part.body with
    | .figure b => some (Path.ofString b.path)
    | .text _ => none

/-- The files that a run can reach. -/
def reachable (o : Options) (files : FileSystem) : IO FileSystem := do
  let input := Path.ofString o.path
  let files ←
    if o.fromJson then do
      let files ← addPath files input
      match Document.load files input with
      | .ok s => (figurePaths s).foldlM addPath files
      | .error _ => pure files
    else addDecks [] files [input]
  addPath files (Path.ofString (o.pptx.getD "."))

/-- Puts on the disk what a run has added to the files. -/
def keep (before after : FileSystem) : IO Unit :=
  for (location, entry) in after.entries do
    if before.entries.lookup location ≠ some entry then
      let place := (Location.path location).text
      match entry with
      | .file content => IO.FS.writeBinFile place ⟨content.toArray⟩
      | .folder => IO.FS.createDir place
      | .link _ => pure ()

/-- The code that an end gives to the caller of the program. -/
def Ending.code : Ending → Nat
  | .returned code | .exited code => code
  | .escaped _ => 1

/-- What an end reports. -/
def Ending.report : Ending → String
  | .escaped e => e.message ++ "\n"
  | _ => ""

end SlideDeck.Command

open SlideDeck SlideDeck.Command in
/-- Carries out a command line and gives its code. -/
def main (words : List String) : IO UInt32 := do
  let here := (Path.ofString (← IO.currentDir).toString).names.reverse
  let empty : FileSystem := { ({} : FileSystem).putFolders here with here }
  let files ←
    match Options.ofWords words with
    | .ok (.run o) => reachable o empty
    | _ => pure empty
  let (st, ending) := run files words
  keep files st.files
  IO.print st.out
  IO.eprint (st.err ++ ending.report)
  return UInt32.ofNat ending.code
