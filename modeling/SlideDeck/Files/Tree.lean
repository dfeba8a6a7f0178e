import SlideDeck.Files.Path
import SlideDeck.Files.Fault

/-!
# File systems

A file system is a value: the entries of its locations, and the current folder. A location is the
list of names that lead to it, innermost first, so a folder's location is the tail of its members'.
`status` looks at an entry without following it, `follow` goes through links as an opened path does.
-/

namespace SlideDeck

/-- A place in a file system: the names that lead to it from the root, innermost first. -/
abbrev Location := List String

/-- What stands at a location. -/
inductive Entry where
  | file (content : List UInt8)
  | folder
  | link (target : String)
deriving DecidableEq, Repr

/-- A file system. -/
structure FileSystem where
  /-- The entries; the root is a folder and not among them. -/
  entries : List (Location × Entry) := []
  here : Location := []

/-- The greatest count of bytes of a name. -/
def nameLimit : Nat := 255

/-- The count of bytes that a path as text stays below. -/
def pathLimit : Nat := 4096

/-- The greatest count of links followed on the way to one file. -/
def linkLimit : Nat := 40

/-- Whether a link's target starts at the root. -/
def isAbsolute (target : String) : Bool :=
  Anchor.ofChars target.toList != .relative

namespace FileSystem

/-- What stands at a location, or why nothing is found there. -/
def status (fs : FileSystem) : Location → Except Refusal Entry
  | [] => .ok .folder
  | name :: parent =>
    match fs.status parent with
    | .error why => .error why
    | .ok .folder =>
      if nameLimit < name.utf8ByteSize then .error .nameTooLong
      else
        match fs.entries.lookup (name :: parent) with
        | some entry => .ok entry
        | none => .error .noEntry
    | .ok _ => .error .notFolder

/-- How far names lead without passing through a link. -/
inductive Reach where
  | arrived (location : Location)
  | link (folder : Location) (target : String) (rest : List String)
  | blocked (why : Refusal)

/-- Follows names from a location up to the first link. An empty name asks for a folder, as a dot
does. With `create`, a last name that is missing from its folder is reached too, and a last name with
a slash after it is refused at once. -/
def reach (fs : FileSystem) (create : Bool) : Location → List String → Reach
  | location, [] => .arrived location
  | location, name :: rest =>
    if name = "" ∨ name = "." ∨ name = ".." then
      match fs.status location with
      | .ok .folder => fs.reach create (if name = ".." then location.tail else location) rest
      | .ok _ => .blocked .notFolder
      | .error why => .blocked why
    else if create && ! rest.isEmpty && rest.all (· = "") then
      match fs.status location with
      | .ok .folder => .blocked .isFolder
      | .ok _ => .blocked .notFolder
      | .error why => .blocked why
    else
      match fs.status (name :: location) with
      | .ok (.link target) => .link location target rest
      | .ok _ => fs.reach create (name :: location) rest
      | .error why =>
        if create && why == .noEntry && rest.isEmpty then .arrived (name :: location)
        else .blocked why

/-- Follows names from a location, which must be a folder, through at most the given count of
links. -/
def followFrom (fs : FileSystem) (create : Bool) :
    Nat → Location → List String → Except Refusal Location
  | links, location, names =>
    match fs.status location with
    | .error why => .error why
    | .ok .folder =>
      match fs.reach create location names with
      | .arrived location => .ok location
      | .blocked why => .error why
      | .link folder target rest =>
        match links with
        | 0 => .error .tooManyLinks
        | links + 1 =>
          fs.followFrom create links (if isAbsolute target then [] else folder)
            (slashPieces target ++ rest)
    | .ok _ => .error .notFolder

/-- The location where a path starts. -/
def startOf (fs : FileSystem) (p : Path) : Location :=
  if p.anchor = .relative then fs.here else []

/-- The location of a path, links followed. -/
def locate (fs : FileSystem) (create : Bool) (p : Path) : Except Fault Location :=
  let text := p.text
  if text.toList.contains '\x00' then .error .nulInPath
  else if pathLimit ≤ text.utf8ByteSize then .error (.refused .nameTooLong text)
  else
    match fs.followFrom create linkLimit (fs.startOf p) p.names with
    | .ok location => .ok location
    | .error why => .error (.refused why text)

/-- The entry of a path, links followed. -/
def stat (fs : FileSystem) (p : Path) : Except Fault Entry :=
  match fs.locate false p with
  | .error fault => .error fault
  | .ok location =>
    match fs.status location with
    | .ok entry => .ok entry
    | .error why => .error (.refused why p.text)

/-- Whether a path leads to a file. That it leads nowhere is no fault, but a path that is too long
is. -/
def isFile (fs : FileSystem) (p : Path) : Except Fault Bool :=
  match fs.stat p with
  | .ok (.file _) => .ok true
  | .ok _ => .ok false
  | .error (.refused .nameTooLong path) => .error (.refused .nameTooLong path)
  | .error _ => .ok false

/-- Whether a path leads to a folder. -/
def isFolder (fs : FileSystem) (p : Path) : Bool :=
  match fs.stat p with
  | .ok .folder => true
  | _ => false

/-- The bytes of the file that a path leads to. -/
def readBytes (fs : FileSystem) (p : Path) : Except Fault (List UInt8) :=
  match fs.stat p with
  | .error fault => .error fault
  | .ok (.file content) => .ok content
  | .ok .folder => .error (.refused .isFolder p.text)
  | .ok (.link _) => .error (.refused .tooManyLinks p.text)

/-- The bytes of the file that a text leads to, taken as it is written: a slash at its end asks for a
folder, and an empty text leads nowhere. -/
def bytesAt (fs : FileSystem) (written : String) : Except Fault (List UInt8) :=
  if written.toList.contains '\x00' then .error .nulInPath
  else if pathLimit ≤ written.utf8ByteSize then .error (.refused .nameTooLong written)
  else if written = "" then .error (.refused .noEntry written)
  else
    let start := if isAbsolute written then [] else fs.here
    match fs.followFrom false linkLimit start (slashPieces written) with
    | .error why => .error (.refused why written)
    | .ok location =>
      match fs.status location with
      | .ok (.file content) => .ok content
      | .ok _ => .error (.refused .isFolder written)
      | .error why => .error (.refused why written)

/-! ## Changes -/

/-- Puts an entry at a location. -/
def put (fs : FileSystem) (location : Location) (entry : Entry) : FileSystem :=
  { fs with entries := fs.entries.filter (fun e => e.1 ≠ location) ++ [(location, entry)] }

/-- Makes every folder on the way to a location where nothing stands yet, the location included. -/
def putFolders (fs : FileSystem) : Location → FileSystem
  | [] => fs
  | name :: parent =>
    let fs := fs.putFolders parent
    match fs.entries.lookup (name :: parent) with
    | some _ => fs
    | none => fs.put (name :: parent) .folder

/-- The location that a location's names lead to, links followed as far as they lead somewhere. -/
def landing (fs : FileSystem) : Location → Location
  | [] => []
  | name :: parent =>
    let folder := fs.landing parent
    match fs.status (name :: folder) with
    | .ok (.link target) =>
      match fs.followFrom false linkLimit (if isAbsolute target then [] else folder)
          (slashPieces target) with
      | .ok location => location
      | .error _ => name :: folder
    | _ => name :: folder

/-- Puts an entry at a location, and folders on the way to it where nothing stands. Links on the way are
followed. -/
def putDeep (fs : FileSystem) : Location → Entry → FileSystem
  | [], _ => fs
  | name :: parent, entry =>
    let folder := fs.landing parent
    (fs.putFolders folder).put (name :: folder) entry

/-- Writes a file at a path whose folder exists. -/
def writeBytes (fs : FileSystem) (p : Path) (content : List UInt8) : Except Fault FileSystem :=
  match fs.locate true p with
  | .error fault => .error fault
  | .ok location =>
    match fs.status location with
    | .ok .folder => .error (.refused .isFolder p.text)
    | _ => .ok (fs.put location (.file content))

/-- Makes one folder whose own folder exists. -/
def makeFolder (fs : FileSystem) (p : Path) : Except Fault FileSystem :=
  let text := p.text
  if text.toList.contains '\x00' then .error .nulInPath
  else if pathLimit ≤ text.utf8ByteSize then .error (.refused .nameTooLong text)
  else
    match p.names.getLast? with
    | none => .error (.refused .exists text)
    | some name =>
      if name = ".." then
        match fs.followFrom false linkLimit (fs.startOf p) p.names with
        | .ok _ => .error (.refused .exists text)
        | .error why => .error (.refused why text)
      else
        match fs.followFrom false linkLimit (fs.startOf p) (p.names.dropLast ++ ["."]) with
        | .error why => .error (.refused why text)
        | .ok folder =>
          match fs.status (name :: folder) with
          | .ok _ => .error (.refused .exists text)
          | .error .noEntry => .ok (fs.put (name :: folder) .folder)
          | .error why => .error (.refused why text)

/-- The outcome of making a folder, where one that is there already is as good as a new one. -/
def allowExisting (fs : FileSystem) (folder : Path) :
    Except Fault FileSystem → FileSystem × Except Fault Unit
  | .ok fs => (fs, .ok ())
  | .error (.refused why path) =>
    if fs.isFolder folder then (fs, .ok ()) else (fs, .error (.refused why path))
  | .error fault => (fs, .error fault)

/-- Makes the folder that the first names of a path lead to, and before it every folder on the way
that is missing. The number is how many names of the path to take. Folders made before a fault
stay. -/
def makeFolders (fs : FileSystem) (p : Path) : Nat → FileSystem × Except Fault Unit
  | 0 => fs.allowExisting ⟨p.anchor, []⟩ (fs.makeFolder ⟨p.anchor, []⟩)
  | count + 1 =>
    let folder : Path := ⟨p.anchor, p.names.take (count + 1)⟩
    match fs.makeFolder folder with
    | .error (.refused .noEntry _) =>
      match fs.makeFolders p count with
      | (fs, .error fault) => (fs, .error fault)
      | (fs, .ok ()) => fs.allowExisting folder (fs.makeFolder folder)
    | outcome => fs.allowExisting folder outcome

end FileSystem

end SlideDeck
