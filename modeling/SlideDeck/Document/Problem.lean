/-!
# Problems of a document

What can be wrong with a document that should describe a slideshow, and where. A place is the list
of keys and indexes that lead to it from the root. The wording depends on whether the document was
read from text or given as a value (`Origin`).
-/

namespace SlideDeck

/-- One step into a document. -/
inductive Step where
  | key (name : String)
  | index (position : Nat)
deriving DecidableEq, Repr

/-- What is wrong with a value. -/
inductive Complaint where
  | notJson
  | missing
  | notModel (model : String)
  | notTable
  | notList
  | notString
  | notNumber
  | notNumeral
  | notInteger
  | notIntegerNumeral
  | integerTooLong
  | fractional
  | notFinite
  | below (bound : Nat)
  | above (bound : Nat)
  | untagged
  | wrongTag (tag : String)
deriving DecidableEq, Repr

/-- Something wrong, and where. -/
structure Problem where
  complaint : Complaint
  place : List Step
deriving DecidableEq, Repr

/-- Where a document comes from. It decides on how problems are worded, and on whether a whole number
may be too great for a binary one. -/
inductive Origin where
  | text
  | value
deriving DecidableEq, Repr

/-- The short name of a complaint. -/
def Complaint.code : Complaint → String
  | .notJson => "json_invalid"
  | .missing => "missing"
  | .notModel _ => "model_type"
  | .notTable => "dict_type"
  | .notList => "list_type"
  | .notString => "string_type"
  | .notNumber => "float_type"
  | .notNumeral => "float_parsing"
  | .notInteger => "int_type"
  | .notIntegerNumeral => "int_parsing"
  | .integerTooLong => "int_parsing_size"
  | .fractional => "int_from_float"
  | .notFinite => "finite_number"
  | .below _ => "greater_than_equal"
  | .above _ => "less_than_equal"
  | .untagged => "value_error"
  | .wrongTag _ => "literal_error"

/-- A complaint in words; that a text is no document has no fixed wording. -/
def Complaint.message (origin : Origin) : Complaint → Option String
  | .notJson => none
  | .missing => some "Field required"
  | .notModel model =>
    match origin with
    | .text => some "Input should be an object"
    | .value => some ("Input should be a valid dictionary or instance of " ++ model)
  | .notTable =>
    match origin with
    | .text => some "Input should be an object"
    | .value => some "Input should be a valid dictionary"
  | .notList =>
    match origin with
    | .text => some "Input should be a valid array"
    | .value => some "Input should be a valid list"
  | .notString => some "Input should be a valid string"
  | .notNumber => some "Input should be a valid number"
  | .notNumeral => some "Input should be a valid number, unable to parse string as a number"
  | .notInteger => some "Input should be a valid integer"
  | .notIntegerNumeral =>
    some "Input should be a valid integer, unable to parse string as an integer"
  | .integerTooLong =>
    some "Unable to parse input string as an integer, exceeded maximum size"
  | .fractional => some "Input should be a valid integer, got a number with a fractional part"
  | .notFinite => some "Input should be a finite number"
  | .below bound => some ("Input should be greater than or equal to " ++ toString bound)
  | .above bound => some ("Input should be less than or equal to " ++ toString bound)
  | .untagged => some "Value error, sec_main must be tagged as either 'Figure' or 'Text'"
  | .wrongTag tag => some ("Input should be '" ++ tag ++ "'")

/-- The headline of a report of problems. -/
def problemCount (problems : List Problem) : String :=
  if problems.length = 1 then "1 validation error"
  else toString problems.length ++ " validation errors"

end SlideDeck
