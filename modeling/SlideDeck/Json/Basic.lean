import SlideDeck.Entries
import SlideDeck.Number.Layout

/-!
# JSON values

The values that documents are made of. Whole numbers and other numbers are kept apart, and an object
keeps its members in order. Members of one object may share a name, and then the last one counts;
`settled` leaves out the others.
-/

namespace SlideDeck

/-- A JSON value. -/
inductive Json where
  | null
  | bool (value : Bool)
  | integer (value : Int)
  | real (value : Float)
  | string (value : String)
  | array (items : List Json)
  | object (members : List (String × Json))

namespace Json

/-- The member of an object. -/
def member? (name : String) : Json → Option Json
  | .object members => lastNamed? name members
  | _ => none

mutual

/-- A value whose objects have one member for each name. -/
def settled : Json → Json
  | .array vs => .array (settledItems vs)
  | .object ms => .object (mergeEntries (settledMembers ms))
  | v => v

/-- Items whose objects have one member for each name. -/
def settledItems : List Json → List Json
  | [] => []
  | v :: vs => settled v :: settledItems vs

/-- Members whose values have objects with one member for each name. -/
def settledMembers : List (String × Json) → List (String × Json)
  | [] => []
  | (name, v) :: ms => (name, settled v) :: settledMembers ms

end

end Json

end SlideDeck
