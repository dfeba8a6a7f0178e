import SlideDeck.Log
import SlideDeck.Text.Digit
import SlideDeck.Text.Lines
import SlideDeck.Text.Quoted

/-!
# The words of a command line

A command line has one path and options around it. An option may be shortened as far as it stays
unambiguous, and its value may follow an equals sign or be the next word. After a double dash no
word is an option. `Options.ofWords` reads the words from left to right; the first fault found
decides, except that what is left over is only reported if nothing else is wrong, and that a word
that could be several options is found out before any other fault.
-/

namespace SlideDeck.Command

open SlideDeck.Text

/-- The options. -/
inductive Switch where
  | help
  | json
  | text
  | pptx
  | fromJson
  | logLevel
  | verbose
deriving DecidableEq, Repr

namespace Switch

/-- The options by the words for them. -/
def names : List (String × Switch) :=
  [("-h", help), ("--help", help), ("--json", json), ("--text", text), ("--pptx", pptx),
   ("--from-json", fromJson), ("--log-level", logLevel), ("--verbose", verbose)]

/-- The words for an option, as messages list them. -/
def title (s : Switch) : String :=
  "/".intercalate ((names.filter fun n => n.2 = s).map Prod.fst)

/-- Whether an option has a value. -/
def hasValue : Switch → Bool
  | pptx | logLevel => true
  | _ => false

end Switch

/-- What is wrong with a command line. -/
inductive UsageError where
  | ambiguous (word : String) (options : List String)
  | valueMissing (option : Switch)
  | valueIgnored (option : Switch) (value : String)
  | noChoice (option : Switch) (value : String) (choices : List String)
  | pathMissing
  | leftOver (words : List String)
deriving DecidableEq, Repr

/-- A usage error in words. -/
def UsageError.message : UsageError → String
  | ambiguous word options =>
    "ambiguous option: " ++ word ++ " could match " ++ ", ".intercalate options
  | valueMissing option => "argument " ++ option.title ++ ": expected one argument"
  | valueIgnored option value =>
    "argument " ++ option.title ++ ": ignored explicit argument " ++ quoted value
  | noChoice option value choices =>
    "argument " ++ option.title ++ ": invalid choice: " ++ quoted value ++ " (choose from " ++
      ", ".intercalate (choices.map quoted) ++ ")"
  | pathMissing => "the following arguments are required: slide_path"
  | leftOver words => "unrecognized arguments: " ++ " ".intercalate words

/-! ## Kinds of words -/

/-- What a word is. -/
inductive Item where
  | value (word : String)
  | divider
  | switch (option : Switch) (given : Option String)
  | letters (behind : String)
  | unknown (word : String)
deriving DecidableEq, Repr

/-- A text before its first equals sign, and the text after it, if it has one. -/
def cutAtEquals (cs : List Char) : List Char × Option (List Char) :=
  match cs.dropWhile (· ≠ '=') with
  | [] => (cs, none)
  | _ :: value => (cs.takeWhile (· ≠ '='), some value)

/-- The options that a word of at least two characters may stand for, without being the word for
one. -/
def candidates (cs : List Char) : List (String × Switch × Option String) :=
  match cs with
  | '-' :: '-' :: _ =>
    let (start, value) := cutAtEquals cs
    (Switch.names.filter fun n => start.isPrefixOf n.1.toList).map fun n =>
      (n.1, n.2, value.map String.ofList)
  | _ =>
    Switch.names.filterMap fun n =>
      if n.1.toList = cs.take 2 then some (n.1, n.2, some (String.ofList (cs.drop 2)))
      else if cs.isPrefixOf n.1.toList then some (n.1, n.2, none)
      else none

/-- A negative number, which is a value. -/
def isNegativeNumber (cs : List Char) : Bool :=
  let isDigit (c : Char) : Bool := (decimalDigit? c).isSome
  match dropFinalNewline cs with
  | '-' :: rest =>
    match rest.dropWhile isDigit with
    | [] => ! rest.isEmpty
    | '.' :: fraction => ! fraction.isEmpty && fraction.all isDigit
    | _ => false
  | _ => false

/-- An option under one of its words, with a text behind it. -/
def Item.ofSwitch (name : String) (option : Switch) (behind : Option String) : Item :=
  match behind with
  | some text => if name = "-h" then .letters text else .switch option (some text)
  | none => .switch option none

/-- What a word is that starts with a dash and is not the word for an option. -/
def Item.ofDashed (cs : List Char) : Except UsageError Item :=
  let word := String.ofList cs
  let exact :=
    match cutAtEquals cs with
    | (start, some text) =>
      let name := String.ofList start
      (Switch.names.lookup name).map fun option =>
        Item.ofSwitch name option (some (String.ofList text))
    | _ => none
  match exact, candidates cs with
  | some item, _ => .ok item
  | none, [(name, option, behind)] => .ok (Item.ofSwitch name option behind)
  | none, [] =>
    if isNegativeNumber cs || cs.contains ' ' then .ok (.value word) else .ok (.unknown word)
  | none, several => .error (.ambiguous word (several.map Prod.fst))

/-- What a word is. -/
def Item.ofWord (word : String) : Except UsageError Item :=
  match word.toList, Switch.names.lookup word with
  | _, some option => .ok (.switch option none)
  | '-' :: c :: cs, none => Item.ofDashed ('-' :: c :: cs)
  | _, none => .ok (.value word)

/-- What the words of a command line are. -/
def Item.ofWords : List String → Except UsageError (List Item)
  | [] => .ok []
  | word :: rest =>
    if word = "--" then .ok (.divider :: rest.map Item.value)
    else
      match Item.ofWord word with
      | .error e => .error e
      | .ok item => (Item.ofWords rest).map (item :: ·)

/-! ## Options -/

/-- What a command line asks for. -/
structure Options where
  path : String
  json : Bool := false
  text : Bool := false
  pptx : Option String := none
  fromJson : Bool := false
  /-- The least level of events to tell, unless it has been taken back. -/
  level : Option Level := some .warning
  verbose : Bool := false
deriving DecidableEq, Repr

/-- The least level of events that a run tells, if there is one. -/
def Options.threshold? (o : Options) : Option Level :=
  if o.verbose then some .debug else o.level

/-- What a command line comes to. -/
inductive Request where
  | help
  | run (options : Options)
deriving DecidableEq, Repr

/-- The options of the words so far. -/
structure Partial where
  /-- The options; the path is only good if it has been found. -/
  options : Options := { path := "" }
  found : Bool := false
  left : List String := []

/-- An option without a value. -/
def Partial.turnOn (p : Partial) (option : Switch) : Partial :=
  match option with
  | .json => { p with options := { p.options with json := true } }
  | .text => { p with options := { p.options with text := true } }
  | .fromJson => { p with options := { p.options with fromJson := true } }
  | .verbose => { p with options := { p.options with verbose := true } }
  | _ => p

/-- An option with its value. -/
def Partial.set (p : Partial) (option : Switch) (value : String) : Except UsageError Partial :=
  match option with
  | .logLevel =>
    match Level.ofName? value with
    | some level => .ok { p with options := { p.options with level := some level } }
    | none => .error (.noChoice option value (Level.all.map Level.name))
  | .pptx => .ok { p with options := { p.options with pptx := some value } }
  | _ => .ok p

/-- An option that loses its value. -/
def Partial.unset (p : Partial) (option : Switch) : Partial :=
  match option with
  | .logLevel => { p with options := { p.options with level := none } }
  | .pptx => { p with options := { p.options with pptx := none } }
  | _ => p

/-- An option with the text after its equals sign; a double dash there is no value. -/
def Partial.setGiven (p : Partial) (option : Switch) (value : String) :
    Except UsageError Partial :=
  if value = "--" then .ok (p.unset option) else p.set option value

/-- A word that is left over. -/
def Partial.leave (p : Partial) (word : String) : Partial :=
  { p with left := p.left ++ [word] }

/-- A word that is the path, if there is none yet. -/
def Partial.take (p : Partial) (word : String) : Partial :=
  if p.found then p.leave word
  else { p with options := { p.options with path := word }, found := true }

/-- The letter for help with a text behind it. Further letters for options may stand there, and help
is the only option with a letter; anything else would be a value. -/
def readLetters : List Char → Except UsageError Request
  | ['h'] => .ok .help
  | 'h' :: c :: cs => readLetters (c :: cs)
  | cs => .error (.valueIgnored .help (String.ofList cs))

/-- The request of the words read, and of those left. -/
def Partial.finish (p : Partial) : Except UsageError Request :=
  if ! p.found then .error .pathMissing
  else if p.left ≠ [] then .error (.leftOver p.left)
  else .ok (.run p.options)

/-- Goes through the words of a command line. -/
def readItems : Partial → List Item → Except UsageError Request
  | p, [] => p.finish
  | p, .value word :: .divider :: rest =>
    readItems (if p.found then (p.leave word).leave "--" else p.take word) rest
  | p, .value word :: rest => readItems (p.take word) rest
  | p, .divider :: .value word :: rest =>
    readItems ((if p.found then p.leave "--" else p).take word) rest
  | p, .divider :: rest => readItems (p.leave "--") rest
  | p, .unknown word :: rest => readItems (p.leave word) rest
  | p, .switch option none :: rest =>
    if option.hasValue then
      match rest with
      | .value word :: rest =>
        match p.set option word with
        | .error e => .error e
        | .ok p => readItems p rest
      | _ => .error (.valueMissing option)
    else if option = .help then .ok .help
    else readItems (p.turnOn option) rest
  | p, .switch option (some value) :: rest =>
    if option.hasValue then
      match p.setGiven option value with
      | .error e => .error e
      | .ok p => readItems p rest
    else .error (.valueIgnored option value)
  | _, .letters text :: _ => readLetters text.toList

/-- What a command line asks for. -/
def Options.ofWords (words : List String) : Except UsageError Request :=
  match Item.ofWords words with
  | .error e => .error e
  | .ok items => readItems {} items

/-! ## Texts -/

/-- The name of the program. -/
def programName : String := "run_slidy.py"

/-- How a command line looks. -/
def usage : String :=
  "usage: " ++ programName ++ " [-h] [--json] [--text] [--pptx OUT] [--from-json]\n" ++
  "                    [--log-level \x7bDEBUG,INFO,WARNING,ERROR\x7d] [--verbose]\n" ++
  "                    slide_path\n"

/-- The help text. -/
def help : String :=
  usage ++
  "\n" ++
  "Parse a slidy deck and dump or render it.\n" ++
  "\n" ++
  "positional arguments:\n" ++
  "  slide_path            Deck file (.slidy text, or JSON with --from-json)\n" ++
  "\n" ++
  "options:\n" ++
  "  -h, --help            show this help message and exit\n" ++
  "  --json                Print interchange JSON\n" ++
  "  --text                Print slidy text\n" ++
  "  --pptx OUT            Render to a .pptx file\n" ++
  "  --from-json           Input is interchange JSON\n" ++
  "  --log-level \x7bDEBUG,INFO,WARNING,ERROR\x7d\n" ++
  "                        Logging level (default: WARNING)\n" ++
  "  --verbose             Enable debug logging\n" ++
  "\n" ++
  "scripts/" ++ programName ++ " — Parse a slidy deck and dump or render it.\n" ++
  "\n" ++
  "Usage:\n" ++
  "    python scripts/run_slidy.py deck.slidy                    # parse and summarize\n" ++
  "    python scripts/run_slidy.py deck.slidy --json             # dump interchange JSON\n" ++
  "    python scripts/run_slidy.py deck.slidy --text             # dump normalized slidy text\n" ++
  "    python scripts/run_slidy.py deck.slidy --pptx out.pptx    # render to PowerPoint\n" ++
  "    python scripts/run_slidy.py deck.json --from-json --pptx out.pptx\n" ++
  "\n" ++
  "Options:\n" ++
  "    --json          Print the document as interchange JSON\n" ++
  "    --text          Print the document as slidy text\n" ++
  "    --pptx OUT      Render the document to a .pptx file\n" ++
  "    --from-json     Read the input as an interchange JSON document\n" ++
  "    --log-level LV  Logging level (default: WARNING)\n" ++
  "    --verbose       Show debug logging\n"

/-- What a usage error prints. -/
def UsageError.report (e : UsageError) : String :=
  usage ++ programName ++ ": error: " ++ e.message ++ "\n"

end SlideDeck.Command
