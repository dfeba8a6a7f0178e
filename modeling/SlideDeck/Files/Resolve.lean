import SlideDeck.Files.Tree

/-!
# Canonical paths

`resolve` turns a path into the absolute path without links that it stands for. The names are walked
from left to right; a link is replaced by the walk of its target, and two dots take the last name
off the way so far. The way so far is a `Trail`, which knows whether it started at the root or at
the current folder, because a fault names the way as it was walked.

The strict walk asks that every name be there. The lenient walk goes on where nothing is found, and
fails only on links that lead back to themselves.
-/

namespace SlideDeck

/-- Where a trail starts. -/
inductive TrailStart where
  | root
  | above (levels : Nat)
deriving DecidableEq, Repr

/-- The way that a walk has gone: names of entries that are no links, innermost first. -/
structure Trail where
  start : TrailStart
  names : List String
deriving DecidableEq, Repr

namespace Trail

/-- The trail to an entry of the folder at its end. -/
def push (t : Trail) (name : String) : Trail :=
  { t with names := name :: t.names }

/-- The trail one name shorter; above its start it rises, but never above the root. -/
def pop (t : Trail) : Trail :=
  match t.names, t.start with
  | _ :: names, start => ⟨start, names⟩
  | [], .root => t
  | [], .above levels => ⟨.above (levels + 1), []⟩

/-- The location at the end of a trail, given the current folder. -/
def location (t : Trail) (here : Location) : Location :=
  match t.start with
  | .root => t.names
  | .above levels => t.names ++ here.drop levels

/-- A trail as text. -/
def text (t : Trail) : String :=
  match t.start with
  | .root => "/" ++ "/".intercalate t.names.reverse
  | .above levels => "/".intercalate (List.replicate levels ".." ++ t.names.reverse)

/-- The trail of a link's target, read from the folder of the link. -/
def ofTarget (folder : Trail) (target : String) : Trail :=
  if isAbsolute target then ⟨.root, []⟩ else folder

/-- The trail after names that are not looked at: two dots shorten it, one dot and an empty name leave
it as it is. -/
def append (t : Trail) (names : List String) : Trail :=
  names.foldl
    (fun t name =>
      if name = "" ∨ name = "." then t else if name = ".." then t.pop else t.push name) t

/-- The trail after names that are left over. An empty name before others is a second slash in a row,
and what is left then starts at the root. -/
def leave (t : Trail) (names : List String) : Trail :=
  match names with
  | "" :: name :: rest => append ⟨.root, []⟩ (name :: rest)
  | names => t.append names

end Trail

/-- The absolute path of a location. -/
def Location.path (l : Location) : Path :=
  ⟨.root, l.reverse⟩

/-- What a walk comes to. -/
inductive WalkEnd where
  | arrived (trail : Trail)
  /-- A link that is on the way already; the trail ends with the names that were left. -/
  | looped (trail : Trail)

namespace FileSystem

/-- Looks at the entry at the end of a trail. A name that holds U+0000 is never looked at. -/
def look (fs : FileSystem) (t : Trail) : Except Fault Entry :=
  let text := t.text
  if text.toList.contains '\x00' then .error .nulInPath
  else if pathLimit ≤ text.utf8ByteSize then .error (.refused .nameTooLong text)
  else
    match fs.status (t.location fs.here) with
    | .ok entry => .ok entry
    | .error why => .error (.refused why text)

/-- The fault of a strict walk that meets a link which is on the way already: following the link does
not end, unless something on its way is refused first. -/
def loopFault (fs : FileSystem) (t : Trail) : Fault :=
  let p : Path :=
    match t.start with
    | .root => ⟨.root, t.names.reverse⟩
    | .above levels => ⟨.relative, List.replicate levels ".." ++ t.names.reverse⟩
  match fs.locate false p with
  | .error (.refused .tooManyLinks _) => .linkLoop t.text
  | .error fault => fault
  | .ok _ => .linkLoop t.text

/-- Walks names from a trail. How the target of a link is walked is a parameter: it is given the
link's trail, the trail and the names of the target. -/
def walkWith (fs : FileSystem) (strict : Bool) (busy : List Trail)
    (enter : Trail → Trail → List String → Except Fault WalkEnd) :
    Trail → List String → Except Fault WalkEnd
  | t, [] => .ok (.arrived t)
  | t, name :: rest =>
    if name = "" ∨ name = "." then fs.walkWith strict busy enter t rest
    else if name = ".." then fs.walkWith strict busy enter t.pop rest
    else
      let next := t.push name
      match fs.look next with
      | .ok (.link target) =>
        if busy.contains next then
          if strict then .error (fs.loopFault next) else .ok (.looped (next.leave rest))
        else
          match enter next (Trail.ofTarget t target) (slashPieces target) with
          | .error fault => .error fault
          | .ok (.looped t) => .ok (.looped (t.leave rest))
          | .ok (.arrived t) => fs.walkWith strict busy enter t rest
      | .ok _ => fs.walkWith strict busy enter next rest
      | .error (.refused why path) =>
        if strict then .error (.refused why path) else fs.walkWith strict busy enter next rest
      | .error fault => .error fault

/-- Walks names from a trail, entering links up to the given depth; `busy` holds the links that are
being walked. -/
def walk (fs : FileSystem) (strict : Bool) :
    Nat → List Trail → Trail → List String → Except Fault WalkEnd
  | 0, busy =>
    fs.walkWith strict busy fun link _ _ =>
      if strict then .error (.linkLoop link.text) else .ok (.looped link)
  | depth + 1, busy =>
    fs.walkWith strict busy fun link t names => fs.walk strict depth (link :: busy) t names

/-- Links cannot be nested deeper than there are entries, each seen from the root and from the
current folder. -/
def walkDepth (fs : FileSystem) : Nat :=
  2 * fs.entries.length + 1

/-- The trail where a path starts. -/
def trailStart (p : Path) : Trail :=
  if p.anchor = .relative then ⟨.above 0, []⟩ else ⟨.root, []⟩

/-- The canonical path of a path, all of whose names must be there. -/
def resolve (fs : FileSystem) (p : Path) : Except Fault Path :=
  match fs.walk true fs.walkDepth [] (trailStart p) p.names with
  | .error fault => .error fault
  | .ok (.arrived t) => .ok (Location.path (t.location fs.here))
  | .ok (.looped t) => .error (.linkLoop t.text)

/-- The canonical path of a path, as far as its names are there. -/
def resolveLenient (fs : FileSystem) (p : Path) : Except Fault Path :=
  match fs.walk false fs.walkDepth [] (trailStart p) p.names with
  | .error fault => .error fault
  | .ok (.arrived t) | .ok (.looped t) =>
    let found := Location.path (t.location fs.here)
    match fs.locate false found with
    | .error (.refused .tooManyLinks path) => .error (.linkLoop path)
    | .error .nulInPath => .error .nulInPath
    | _ => .ok found

end FileSystem

end SlideDeck
