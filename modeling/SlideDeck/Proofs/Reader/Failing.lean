import SlideDeck.Proofs.Reader.Located
import SlideDeck.Proofs.Reader.Nesting

/-!
# How readers fail

A reader that fails stops at a token of its own texts. If this is the directive of an import that has a
file read (`Reading.Enters`), the failure is that of the file: it holds no text, or the reader of its
text fails in turn. Otherwise the failure is the reader's own: an import whose file is missing, is on
the way already, or finds no room, fails before any file is read for it. So every failure is found some
imports down, where nothing more is entered (`Reading.Fails`).

**The law** (`Reading.outcome_eq_error_iff`): what comes up of a failure is the failure itself, wrapped
once for each import on the way down to it, with the token of the directive at each of them.
-/

namespace SlideDeck

open Deck Draft

/-! ## Texts of files -/

namespace Deck

/-- The text of the deck in a file. -/
def deckText (options : ReadOptions) (files : FileSystem) (path : Path) : Except Failure String :=
  match files.isFile path with
  | .error fault => .error (.fault fault)
  | .ok false => .error (.ofError (.notFile path))
  | .ok true =>
    match readText files options.encoding path with
    | .error fault => .error (readFailure path fault)
    | .ok chars => .ok (String.ofList chars)

/-- The deck in a file is read as its text is. -/
theorem parseFileWith_eq (options : ReadOptions) (files : FileSystem)
    (load : Path → Except Failure Slideshow) (path : Path) :
    parseFileWith options files load path =
      deckText options files path >>= parseWith files load path.parent := by
  unfold parseFileWith deckText
  cases files.isFile path with
  | error fault => rfl
  | ok there =>
    cases there with
    | false => rfl
    | true => cases readText files options.encoding path <;> rfl

end Deck

/-! ## Where readers stop -/

/-- The tokens that are left when the reading of texts ends: those of the text that it fails in, from
the one on at which it fails. -/
def unreadOfChunks (around : Surroundings) : Int → Draft → List String → List Token
  | _, _, [] => []
  | line, d, chunk :: rest =>
    match read around d (Token.tokenize chunk line) with
    | (_, .error _) => unread around d (Token.tokenize chunk line)
    | (d, .ok ()) => unreadOfChunks around (line + (Text.splitLines chunk.toList).length) d rest

section Chunks

variable {around : Surroundings} {line : Int} {d d' : Draft} {chunks : List String}
  {failure : Failure}

theorem stops_of_readChunks (h : readChunks around line d chunks = (d', .error failure)) :
    ∃ t after reached raised, unreadOfChunks around line d chunks = t :: after ∧
      apply around reached t.lexeme ((after.take windowSize).map Token.lexeme) =
        (d', .error raised) ∧
      failure = raised.attach t := by
  induction chunks generalizing line d with
  | nil => cases h
  | cons chunk rest ih =>
    simp only [readChunks, unreadOfChunks] at h ⊢
    cases first : read around d (Token.tokenize chunk line) with
    | mk next outcome =>
      rw [first] at h
      cases outcome with
      | error failure =>
        cases h
        obtain ⟨_, t, after, reached, raised, -, -, left, -, fails, attached⟩ :=
          readFrom_stops first
        exact ⟨t, after, reached, raised, left, fails, attached⟩
      | ok _ => exact ih h

theorem unreadOfChunks_of_ok (h : readChunks around line d chunks = (d', .ok ())) :
    unreadOfChunks around line d chunks = [] := by
  induction chunks generalizing line d with
  | nil => rfl
  | cons chunk rest ih =>
    simp only [readChunks, unreadOfChunks] at h ⊢
    cases first : read around d (Token.tokenize chunk line) with
    | mk next outcome =>
      rw [first] at h
      cases outcome with
      | error failure => cases h
      | ok _ => exact ih h

end Chunks

/-! ## Ways down to failures -/

/-- An import on the way down to a failure. -/
structure ImportStep where
  token : Token
  found : Path

/-- What comes out of an import when its file fails. -/
def ImportStep.carry (step : ImportStep) (failure : Failure) : Failure :=
  (wrapImport step.found failure).attach step.token

/-- What comes up of a failure along imports, the outermost first. -/
def carried (steps : List ImportStep) (failure : Failure) : Failure :=
  steps.foldr ImportStep.carry failure

theorem ImportStep.carry_eq_fault_iff {step : ImportStep} {failure : Failure} {fault : Fault} :
    step.carry failure = .fault fault ↔ failure = .fault fault := by
  cases failure with
  | deck e => exact iff_of_false nofun nofun
  | fault other => exact Iff.rfl

/-- A fault comes up as it is, and nothing else comes up as one. -/
theorem carried_eq_fault_iff {steps : List ImportStep} {failure : Failure} {fault : Fault} :
    carried steps failure = .fault fault ↔ failure = .fault fault := by
  induction steps with
  | nil => exact Iff.rfl
  | cons step steps ih =>
    rw [carried, List.foldr_cons, ← carried, ImportStep.carry_eq_fault_iff, ih]

namespace Reading

variable {options : ReadOptions} {files : FileSystem} {r : Reading} {failure : Failure}

/-- What a reader reads in. -/
def around (options : ReadOptions) (files : FileSystem) (r : Reading) : Surroundings :=
  ⟨files, r.base, loader options files r.way⟩

/-- The tokens that a reader leaves unread, the one at which it fails first. -/
def unread (options : ReadOptions) (files : FileSystem) (r : Reading) : List Token :=
  unreadOfChunks (r.around options files) 0 {} r.texts

/-- The draft that a reader leaves. -/
def left (options : ReadOptions) (files : FileSystem) (r : Reading) : Draft :=
  (readChunks (r.around options files) 0 {} r.texts).1

/-- The reader of the text of an imported file. -/
def inside (r : Reading) (found : Path) (text : String) : Reading :=
  ⟨found.parent, r.way ++ [found], [text]⟩

/-- Tokens start with an import that has a file read: its path is found, is not guarded against, and the
limit leaves room for it. -/
inductive Enters (options : ReadOptions) (files : FileSystem) (r : Reading) :
    List Token → ImportStep → Prop where
  | intro {place place' : Span} {written : String} {found : Path} {rest : List Token}
    (resolved : files.resolve (r.base.join (Path.ofString written)) = .ok found)
    (free : (options.detectCycles && r.way.contains found) = false)
    (room : (r.way.length : Int) < options.importLimit) :
    Enters options files r
      (⟨.directive .importDeck, place⟩ :: ⟨.word written, place'⟩ :: rest)
      ⟨⟨.directive .importDeck, place⟩, found⟩

/-- **How a reader fails**: the imports that lead down to the failure, and the failure as it is there. -/
inductive Fails (options : ReadOptions) (files : FileSystem) :
    Reading → List ImportStep → Failure → Prop where
  | own {r : Reading} {failure : Failure}
    (outside : ∀ step, ¬ r.Enters options files (r.unread options files) step)
    (raised : r.outcome options files = .error failure) : Fails options files r [] failure
  | unopened {r : Reading} {step : ImportStep} {failure : Failure}
    (enters : r.Enters options files (r.unread options files) step)
    (unopened : deckText options files step.found = .error failure) :
    Fails options files r [step] failure
  | nested {r : Reading} {step : ImportStep} {text : String} {steps : List ImportStep}
    {failure : Failure} (enters : r.Enters options files (r.unread options files) step)
    (opened : deckText options files step.found = .ok text)
    (below : Fails options files (r.inside step.found text) steps failure) :
    Fails options files r (step :: steps) failure

theorem stops_of_outcome (h : r.outcome options files = .error failure) :
    ∃ t after reached raised, r.unread options files = t :: after ∧
      apply (r.around options files) reached t.lexeme
        ((after.take windowSize).map Token.lexeme) = (r.left options files, .error raised) ∧
      failure = raised.attach t := by
  unfold outcome outcomeWith at h
  split at h
  · rename_i d _ failed
    cases h
    have left : d = r.left options files := (congrArg Prod.fst failed).symm
    obtain ⟨t, after, reached, raised, tokens, fails, attached⟩ := stops_of_readChunks failed
    exact ⟨t, after, reached, raised, tokens, left ▸ fails, attached⟩
  · cases h

/-- A reader that leaves tokens unread fails. -/
theorem exists_outcome_error {t : Token} {after : List Token}
    (h : r.unread options files = t :: after) : ∃ failure, r.outcome options files = .error failure := by
  unfold outcome outcomeWith
  cases made : readChunks ⟨files, r.base, loader options files r.way⟩ 0 {} r.texts with
  | mk d outcome =>
    cases outcome with
    | error failure => exact ⟨failure, rfl⟩
    | ok _ =>
      have none : r.unread options files = [] := unreadOfChunks_of_ok made
      rw [none] at h
      cases h

/-- How an import that has a file read stands in a text, and how its deck is read. -/
theorem Enters.window {tokens : List Token} {step : ImportStep}
    (h : r.Enters options files tokens step) :
    ∃ written place rest, tokens = step.token :: ⟨.word written, place⟩ :: rest ∧
      step.token.lexeme = .directive .importDeck ∧
      (r.way.length : Int) < options.importLimit ∧
      loader options files r.way (r.base.join (Path.ofString written)) =
        (parseImport options files (r.way ++ [step.found]) step.found).mapError
          (wrapImport step.found) := by
  cases h with
  | @intro _ place' written found rest resolved free room =>
    refine ⟨written, place', rest, rfl, rfl, room, ?_⟩
    rw [loader_eq]
    unfold importWith
    simp only [resolved, free, Bool.false_eq_true, if_false, if_neg (Int.not_le.mpr room)]
    cases parseImport options files (r.way ++ [found]) found <;> rfl

/-- A token that asks for a deck which is found, not guarded against and in reach has a file read. -/
theorem enters_of_asked {t : Token} {after : List Token} {path found : Path}
    (mem : path ∈ asked r.base t.lexeme ((after.take windowSize).map Token.lexeme))
    (resolved : files.resolve path = .ok found)
    (free : (options.detectCycles && r.way.contains found) = false) {further : Nat}
    (left : importBudget options r.way = further + 1) :
    ∃ step, r.Enters options files (t :: after) step := by
  have room : (r.way.length : Int) < options.importLimit := by
    unfold importBudget at left
    omega
  obtain ⟨lexeme, span⟩ := t
  unfold asked at mem
  split at mem
  · rename_i written more directive window
    obtain rfl := List.mem_singleton.mp mem
    obtain rfl : lexeme = .directive .importDeck := directive
    cases after with
    | nil => cases window
    | cons next rest =>
      obtain ⟨lexeme, place⟩ := next
      obtain ⟨rfl, -⟩ := List.cons.inj window
      exact ⟨_, .intro resolved free room⟩
  · cases mem

/-- A token comes first in the window that starts with it. -/
theorem window_cons (t : Token) (rest : List Token) :
    ((t :: rest).take windowSize).map Token.lexeme =
      t.lexeme :: (rest.take (windowSize - 1)).map Token.lexeme :=
  rfl

/-- A reader that stops at an import of a path fails as the import does. -/
theorem outcome_of_import {t : Token} {written : String} {place : Span} {rest : List Token}
    (left : r.unread options files = t :: ⟨.word written, place⟩ :: rest)
    (directive : t.lexeme = .directive .importDeck) :
    ∃ failure, loader options files r.way (r.base.join (Path.ofString written)) = .error failure ∧
      r.outcome options files = .error (failure.attach t) := by
  obtain ⟨failure, failed⟩ := exists_outcome_error left
  obtain ⟨t', after, reached, raised, left', fails, rfl⟩ := stops_of_outcome failed
  obtain ⟨rfl, rfl⟩ := List.cons.inj (left.symm.trans left')
  -- The window of the directive starts with its path, so that is what is asked for.
  rw [directive, window_cons] at fails
  generalize (rest.take (windowSize - 1)).map Token.lexeme = later at fails
  have path : Argument.path (.word written :: later) "an import" = .ok written := rfl
  simp only [apply, applyImport, path, around] at fails
  split at fails
  · rename_i load
    obtain ⟨-, same⟩ := Prod.mk.inj fails
    cases same
    exact ⟨_, load, failed⟩
  · obtain ⟨-, same⟩ := Prod.mk.inj fails
    cases same

/-- **A reader that stops at an import which has a file read fails by this file.** -/
theorem outcome_of_enters {step : ImportStep}
    (enters : r.Enters options files (r.unread options files) step) :
    ∃ inner, parseImport options files (r.way ++ [step.found]) step.found = .error inner ∧
      r.outcome options files = .error (step.carry inner) := by
  obtain ⟨written, place, rest, left, directive, -, load⟩ := enters.window
  obtain ⟨failure, unread, failed⟩ := outcome_of_import left directive
  rw [load] at unread
  cases read : parseImport options files (r.way ++ [step.found]) step.found with
  | ok s =>
    rw [read] at unread
    cases unread
  | error inner =>
    rw [read] at unread
    cases unread
    exact ⟨inner, rfl, failed⟩

/-- The deck in a file is read for an import by a reader of its text. -/
theorem parseImport_eq (options : ReadOptions) (files : FileSystem) (r : Reading) (found : Path) :
    parseImport options files (r.way ++ [found]) found =
      deckText options files found >>= fun text => (r.inside found text).outcome options files := by
  rw [parseImport, parseFileWith_eq]
  simp only [inside, outcome_text]

/-- What comes up of a failure. -/
theorem Fails.outcome_eq {steps : List ImportStep} (h : r.Fails options files steps failure) :
    r.outcome options files = .error (carried steps failure) := by
  induction h with
  | own _ raised => exact raised
  | unopened enters unopened =>
    obtain ⟨inner, read, failed⟩ := outcome_of_enters enters
    rw [parseImport_eq, unopened] at read
    cases read
    exact failed
  | nested enters opened _ ih =>
    obtain ⟨inner, read, failed⟩ := outcome_of_enters enters
    rw [parseImport_eq, opened] at read
    have same : (Except.error (carried _ _) : Except Failure Slideshow) = .error inner :=
      ih.symm.trans read
    cases same
    exact failed

/-- **Every failure comes up from where nothing more is entered**, by induction on the room that the
limit leaves. -/
theorem exists_fails (h : r.outcome options files = .error failure) :
    ∃ steps inner, r.Fails options files steps inner := by
  generalize room : importBudget options r.way = budget
  induction budget using Nat.strongRecOn generalizing r failure with
  | ind budget ih =>
    by_cases entered : ∃ step, r.Enters options files (r.unread options files) step
    · obtain ⟨step, enters⟩ := entered
      obtain ⟨inner, read, -⟩ := outcome_of_enters enters
      rw [parseImport_eq] at read
      rcases error_of_bind read with unopened | ⟨text, opened, failed⟩
      · exact ⟨_, _, .unopened enters unopened⟩
      · have less : importBudget options (r.inside step.found text).way < budget := by
          have left : 0 < importBudget options r.way := by
            obtain ⟨_, _, _, -, -, room, -⟩ := enters.window
            unfold importBudget
            omega
          rw [inside, importBudget_concat, ← room]
          omega
        obtain ⟨steps, inner, below⟩ := ih _ less failed rfl
        exact ⟨_, _, .nested enters opened below⟩
    · exact ⟨[], failure, .own (not_exists.mp entered) h⟩

/-- **A failure is carried up from where it is found.** -/
theorem outcome_eq_error_iff :
    r.outcome options files = .error failure ↔
      ∃ steps inner, r.Fails options files steps inner ∧ failure = carried steps inner := by
  constructor
  · intro h
    obtain ⟨steps, inner, fails⟩ := exists_fails h
    refine ⟨steps, inner, fails, ?_⟩
    rw [fails.outcome_eq] at h
    cases h
    rfl
  · rintro ⟨steps, inner, fails, rfl⟩
    exact fails.outcome_eq

end Reading

/-! ## Decks that are asked for first -/

namespace EntryPoint

variable {options : ReadOptions} {files : FileSystem} {entry : EntryPoint} {failure : Failure}

/-- **How having a deck read fails.** -/
inductive Fails (options : ReadOptions) (files : FileSystem) :
    EntryPoint → List ImportStep → Failure → Prop where
  | reader {entry : EntryPoint} {r : Reading} {steps : List ImportStep} {failure : Failure}
    (starts : entry.Starts options files r) (fails : r.Fails options files steps failure) :
    Fails options files entry steps failure
  | unopened {path : String} {found : Path} {failure : Failure}
    (resolved : files.resolveLenient (Path.ofString path) = .ok found)
    (unopened : deckText options files (Path.ofString path) = .error failure) :
    Fails options files (.file path) [] failure
  | unresolved {path : String} {fault : Fault}
    (unresolved : files.resolveLenient (Path.ofString path) = .error fault) :
    Fails options files (.file path) [] (.fault fault)

/-- The deck in a file is read as its text is, the file itself on the way. -/
theorem outcome_file {path : String} {found : Path}
    (resolved : files.resolveLenient (Path.ofString path) = .ok found) :
    outcome options files (.file path) =
      deckText options files (Path.ofString path) >>= fun text =>
        Reading.outcome options files ⟨(Path.ofString path).parent, [found], [text]⟩ := by
  simp only [outcome, parseFile, resolved, parseFileWith_eq, Reading.outcome_text]

/-- What comes of it is what comes of the first reader. -/
theorem Starts.outcome_eq {r : Reading} (starts : entry.Starts options files r) :
    entry.outcome options files = r.outcome options files := by
  cases starts with
  | text base deck => exact (Reading.outcome_text ..).symm
  | chunks base pieces => rfl
  | file resolved file read =>
    rw [outcome_file resolved]
    simp only [deckText, file, read]
    rfl

/-- A file that holds a text has a first reader. -/
theorem starts_of_deckText {path text : String} {found : Path}
    (resolved : files.resolveLenient (Path.ofString path) = .ok found)
    (opened : deckText options files (Path.ofString path) = .ok text) :
    Starts options files (.file path) ⟨(Path.ofString path).parent, [found], [text]⟩ := by
  unfold deckText at opened
  split at opened
  · cases opened
  · cases opened
  · rename_i file
    split at opened
    · cases opened
    · rename_i read
      cases opened
      exact .file resolved file read

/-- What comes up of a failure. -/
theorem Fails.outcome_eq {steps : List ImportStep} (h : entry.Fails options files steps failure) :
    entry.outcome options files = .error (carried steps failure) := by
  cases h with
  | reader starts fails => rw [starts.outcome_eq, fails.outcome_eq]
  | unopened resolved unopened =>
    rw [outcome_file resolved, unopened]
    rfl
  | unresolved unresolved =>
    simp only [outcome, parseFile, unresolved]
    rfl

/-- Every failure is one of the first reader, or of a file that no reader is made for. -/
theorem exists_fails (h : entry.outcome options files = .error failure) :
    ∃ steps inner, entry.Fails options files steps inner := by
  have of_starts : ∀ {r : Reading}, entry.Starts options files r →
      ∃ steps inner, entry.Fails options files steps inner := by
    intro r starts
    rw [starts.outcome_eq] at h
    obtain ⟨steps, inner, fails⟩ := Reading.exists_fails h
    exact ⟨steps, inner, .reader starts fails⟩
  cases entry with
  | text base deck => exact of_starts (.text base deck)
  | chunks base pieces => exact of_starts (.chunks base pieces)
  | file path =>
    cases resolved : files.resolveLenient (Path.ofString path) with
    | error fault => exact ⟨[], _, .unresolved resolved⟩
    | ok found =>
      cases opened : deckText options files (Path.ofString path) with
      | error failure => exact ⟨[], _, .unopened resolved opened⟩
      | ok text => exact of_starts (starts_of_deckText resolved opened)

end EntryPoint

end SlideDeck
