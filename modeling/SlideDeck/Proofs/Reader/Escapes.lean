import SlideDeck.Proofs.Reader.Failing

/-!
# Faults that come through

A reader fails with an error of the deck, told at a token of its text, or with a fault of the
surroundings, which comes through to the caller as it is. Most faults never do: a path that is not found,
and a file that is no text, are told as errors. But the links of a path may lead back to themselves, and
the canonical path of an imported deck may be too long to be looked at; neither is caught.

**The law** (`Deck.parse_fault_iff`): these are the only faults that come through, and they do so
wherever a reader stops at such a path (`Reading.Escapes`). All other failures are errors with the token
that reading stopped at.
-/

namespace SlideDeck

open Deck Draft

/-! ## Files -/

/-- Only of a path that is too long it is not known whether it leads to a file. -/
theorem FileSystem.isFile_eq_error {fs : FileSystem} {p : Path} {fault : Fault}
    (h : fs.isFile p = .error fault) : ∃ path, fault = .refused .nameTooLong path := by
  unfold isFile at h
  split at h
  · cases h
  · cases h
  · cases h
    exact ⟨_, rfl⟩
  · cases h

/-- A file has bytes. -/
theorem FileSystem.readBytes_of_isFile {fs : FileSystem} {p : Path} (h : fs.isFile p = .ok true) :
    ∃ content, fs.readBytes p = .ok content := by
  unfold isFile at h
  split at h
  · rename_i content there
    refine ⟨content, ?_⟩
    unfold readBytes
    rw [there]
  all_goals cases h

/-- In UTF-8, a file is read, or some of its bytes are at fault. -/
theorem undecodable_of_readText {files : FileSystem} {path : Path} {fault : Fault}
    (file : files.isFile path = .ok true) (h : readText files "utf-8" path = .error fault) :
    ∃ bytes, fault = .undecodable (.bytes bytes) := by
  obtain ⟨content, bytes⟩ := FileSystem.readBytes_of_isFile file
  have utf8 : Text.Encoding.ofName "utf-8" = .ok .utf8 := by decide +kernel
  unfold readText at h
  simp only [bytes, utf8, Text.Encoding.decode] at h
  cases decoded : Text.decodeUtf8 content with
  | error at_ =>
    rw [decoded] at h
    cases h
    exact ⟨at_, rfl⟩
  | ok chars =>
    rw [decoded] at h
    cases h

namespace Deck

variable {options : ReadOptions} {files : FileSystem} {path : Path} {fault : Fault}

/-- In UTF-8, the text of a file is read or an error is told, unless the path is too long to be looked
at. -/
theorem isFile_of_deckText (utf8 : options.encoding = "utf-8")
    (h : deckText options files path = .error (.fault fault)) : files.isFile path = .error fault := by
  unfold deckText at h
  split at h
  · rename_i refused
    cases h
    exact refused
  · cases h
  · rename_i file
    split at h
    · rename_i other unread
      rw [utf8] at unread
      obtain ⟨bytes, rfl⟩ := undecodable_of_readText file unread
      cases h
    · cases h

/-- What comes of a path that does not resolve, given the error that is told of it. -/
def unresolved (e : Fault → DeckError) : Fault → Failure
  | .linkLoop place => .fault (.linkLoop place)
  | fault => .ofError (e fault)

theorem unresolved_eq_ofError {e : Fault → DeckError} (noLoop : ∀ place, fault ≠ .linkLoop place) :
    unresolved e fault = .ofError (e fault) := by
  cases fault with
  | linkLoop place => exact absurd rfl (noLoop place)
  | _ => rfl

theorem loader_of_resolve {way : List Path} (h : files.resolve path = .error fault) :
    loader options files way path = .error (unresolved (.importNotFound path) fault) := by
  rw [loader_eq]
  unfold importWith
  rw [h]
  cases fault <;> rfl

end Deck

/-! ## Lexemes -/

namespace Draft

variable {around : Surroundings} {d d' : Draft} {l : Lexeme} {window : List Lexeme} {fault : Fault}

theorem attemptDeck_ne_fault {x : Except DeckError (Draft × Nat)} :
    d.attemptDeck x ≠ (d', .error (.fault fault)) := by
  intro h
  cases x with
  | error e => cases h
  | ok pair => cases h

theorem applyFigure_of_resolve {s : Slide} {written : String} {more : List Lexeme}
    (slide : d.slide = some s)
    (h : around.files.resolve (around.base.join (Path.ofString written)) = .error fault) :
    applyFigure around d (.word written :: more) =
      .error (unresolved (.figureNotFound written around.base) fault) := by
  have path : Argument.path (.word written :: more) "a figure" = .ok written := rfl
  simp only [applyFigure, currentSlide, slide, path, h]
  cases fault <;> rfl

/-- A figure fails with a fault only on an open slide, if the links of its path loop. -/
theorem applyFigure_eq_fault (h : applyFigure around d window = .error (.fault fault)) :
    ∃ written more s place, window = .word written :: more ∧ d.slide = some s ∧
      around.files.resolve (around.base.join (Path.ofString written)) = .error (.linkLoop place) ∧
      fault = .linkLoop place := by
  unfold applyFigure at h
  split at h
  · cases h
  · rename_i s current
    have slide : d.slide = some s := by
      unfold currentSlide at current
      split at current
      · cases current
      · rename_i open_
        cases current
        exact open_
    split at h
    · cases h
    · rename_i written path
      obtain ⟨more, rfl⟩ := Argument.eq_cons_of_path path
      split at h
      · rename_i place loop
        cases h
        exact ⟨written, more, s, place, rfl, slide, loop, rfl⟩
      · cases h
      · split at h <;> cases h

/-- **Only figures and imports fail with faults**: a figure if the links of its path loop, an import if
reading the deck does. -/
theorem apply_eq_fault (h : apply around d l window = (d', .error (.fault fault))) :
    ∃ written more, window = .word written :: more ∧
      ((l = .directive .figure ∧ ∃ s place, d'.slide = some s ∧
          around.files.resolve (around.base.join (Path.ofString written)) =
            .error (.linkLoop place) ∧ fault = .linkLoop place) ∨
        (l = .directive .importDeck ∧
          around.load (around.base.join (Path.ofString written)) = .error (.fault fault))) := by
  cases l with
  | directive directive =>
    cases directive with
    | figure =>
      simp only [apply, attempt] at h
      split at h
      · rename_i failed
        cases h
        obtain ⟨written, more, s, place, rfl, slide, loop, rfl⟩ := applyFigure_eq_fault failed
        exact ⟨written, more, rfl, .inl ⟨rfl, s, place, slide, loop, rfl⟩⟩
      · cases h
    | importDeck =>
      cases hp : Argument.path window "an import" with
      | error e =>
        simp only [apply, applyImport, hp] at h
        cases h
      | ok written =>
        obtain ⟨more, rfl⟩ := Argument.eq_cons_of_path hp
        simp only [apply, applyImport, hp] at h
        split at h
        · rename_i load
          obtain ⟨-, same⟩ := Prod.mk.inj h
          cases same
          exact ⟨written, more, rfl, .inr ⟨rfl, load⟩⟩
        · cases h
    | defaults | slide => cases h
    | _ => exact absurd h attemptDeck_ne_fault
  | textLine => exact absurd h attemptDeck_ne_fault
  | comment | word | number => cases h

end Draft

/-! ## Readers -/

namespace Reading

variable {options : ReadOptions} {files : FileSystem} {r : Reading} {fault : Fault}

/-- **Where a fault comes through a reader.** -/
inductive Escapes (options : ReadOptions) (files : FileSystem) : Reading → Fault → Prop where
  | figure {r : Reading} {s : Slide} {t : Token} {place : Span} {written loop : String}
    {rest : List Token} (stops : r.unread options files = t :: ⟨.word written, place⟩ :: rest)
    (directive : t.lexeme = .directive .figure) (slide : (r.left options files).slide = some s)
    (loops : files.resolve (r.base.join (Path.ofString written)) = .error (.linkLoop loop)) :
    Escapes options files r (.linkLoop loop)
  | importDeck {r : Reading} {t : Token} {place : Span} {written loop : String} {rest : List Token}
    (stops : r.unread options files = t :: ⟨.word written, place⟩ :: rest)
    (directive : t.lexeme = .directive .importDeck)
    (loops : files.resolve (r.base.join (Path.ofString written)) = .error (.linkLoop loop)) :
    Escapes options files r (.linkLoop loop)
  | tooLong {r : Reading} {step : ImportStep} {path : String}
    (enters : r.Enters options files (r.unread options files) step)
    (long : files.isFile step.found = .error (.refused .nameTooLong path)) :
    Escapes options files r (.refused .nameTooLong path)
  | nested {r : Reading} {step : ImportStep} {text : String} {fault : Fault}
    (enters : r.Enters options files (r.unread options files) step)
    (opened : deckText options files step.found = .ok text)
    (below : Escapes options files (r.inside step.found text) fault) :
    Escapes options files r fault

/-- A reader that stops at a figure on a slide fails as its path does. -/
theorem outcome_of_figure {s : Slide} {t : Token} {place : Span} {written : String}
    {rest : List Token} (stops : r.unread options files = t :: ⟨.word written, place⟩ :: rest)
    (directive : t.lexeme = .directive .figure) (slide : (r.left options files).slide = some s)
    (h : files.resolve (r.base.join (Path.ofString written)) = .error fault) :
    r.outcome options files =
      .error ((unresolved (.figureNotFound written r.base) fault).attach t) := by
  obtain ⟨failure, failed⟩ := exists_outcome_error stops
  obtain ⟨t', after, reached, raised, stops', fails, rfl⟩ := stops_of_outcome failed
  obtain ⟨rfl, rfl⟩ := List.cons.inj (stops.symm.trans stops')
  rw [directive, window_cons, apply] at fails
  -- A figure that fails leaves the draft as it was, so its slide was open before.
  have same : reached = r.left options files := by
    unfold attempt at fails
    split at fails
    · exact (Prod.mk.inj fails).1
    · cases (Prod.mk.inj fails).2
  rw [same, applyFigure_of_resolve slide h] at fails
  cases (Prod.mk.inj fails).2
  exact failed

/-- A reader that stops at an import whose path does not resolve fails as the path does. -/
theorem outcome_of_import_of_resolve {t : Token} {place : Span} {written : String}
    {rest : List Token} (stops : r.unread options files = t :: ⟨.word written, place⟩ :: rest)
    (directive : t.lexeme = .directive .importDeck)
    (h : files.resolve (r.base.join (Path.ofString written)) = .error fault) :
    r.outcome options files =
      .error ((unresolved (.importNotFound (r.base.join (Path.ofString written))) fault).attach t) := by
  obtain ⟨failure, load, failed⟩ := outcome_of_import stops directive
  cases (loader_of_resolve h).symm.trans load
  exact failed

/-- What escapes comes out. -/
theorem Escapes.outcome_eq (h : r.Escapes options files fault) :
    r.outcome options files = .error (.fault fault) := by
  induction h with
  | figure stops directive slide loops => exact outcome_of_figure stops directive slide loops
  | importDeck stops directive loops => exact outcome_of_import_of_resolve stops directive loops
  | @tooLong r step path enters long =>
    have unopened : deckText options files step.found =
        .error (.fault (.refused .nameTooLong path)) := by
      unfold deckText
      rw [long]
    exact (Fails.unopened enters unopened).outcome_eq
  | nested enters opened _ ih =>
    obtain ⟨inner, read, failed⟩ := outcome_of_enters enters
    rw [parseImport_eq, opened] at read
    cases ih.symm.trans read
    exact failed

/-- **A fault is found where it escapes**: a reader by itself fails with one only at a path whose links
loop, and a file holds no text for a fault only if its path is too long. -/
theorem Fails.escapes (utf8 : options.encoding = "utf-8") {steps : List ImportStep}
    {failure : Failure} (h : r.Fails options files steps failure) (escaped : failure = .fault fault) :
    r.Escapes options files fault := by
  induction h with
  | nested enters opened _ ih => exact .nested enters opened (ih escaped)
  | unopened enters unopened =>
    subst escaped
    have long := isFile_of_deckText utf8 unopened
    obtain ⟨path, rfl⟩ := FileSystem.isFile_eq_error long
    exact .tooLong enters long
  | @own r _ outside raised =>
    subst escaped
    obtain ⟨t, after, reached, failure, stops, fails, attached⟩ := stops_of_outcome raised
    obtain rfl : failure = .fault fault := by
      cases failure with
      | deck e => cases attached
      | fault other => exact attached.symm
    obtain ⟨written, more, window, place⟩ := apply_eq_fault fails
    have next : ∃ place rest, after = ⟨.word written, place⟩ :: rest := by
      cases after with
      | nil => cases window
      | cons next rest =>
        obtain ⟨lexeme, place⟩ := next
        obtain ⟨rfl, -⟩ := List.cons.inj window
        exact ⟨place, rest, rfl⟩
    obtain ⟨span', rest, rfl⟩ := next
    rcases place with ⟨directive, s, loop, slide, loops, rfl⟩ | ⟨directive, load⟩
    · exact .figure stops directive slide loops
    · generalize escaped : Failure.fault fault = failure at load
      cases importDeck_eq_error load with
      | linkLoop loops =>
        cases escaped
        exact .importDeck stops directive loops
      | notFound | cycle | tooDeep => cases escaped
      | nested resolved free room _ =>
        -- The deck is found and in reach, so a file is read for it, against the assumption.
        have mem : r.base.join (Path.ofString written) ∈ asked r.base t.lexeme
            (((⟨.word written, span'⟩ :: rest).take windowSize).map Token.lexeme) := by
          rw [directive]
          exact List.mem_singleton_self _
        obtain ⟨step, enters⟩ := enters_of_asked mem resolved free room
        rw [← stops] at enters
        exact absurd enters (outside step)

/-- **The faults that come through a reader are those that escape somewhere.** -/
theorem outcome_eq_fault_iff (utf8 : options.encoding = "utf-8") :
    r.outcome options files = .error (.fault fault) ↔ r.Escapes options files fault := by
  constructor
  · intro h
    obtain ⟨steps, inner, fails⟩ := exists_fails h
    rw [fails.outcome_eq] at h
    exact fails.escapes utf8 (carried_eq_fault_iff.mp (Except.error.inj h))
  · exact Escapes.outcome_eq

end Reading

/-! ## The law -/

namespace Deck

/-- **Reading a deck returns a slideshow, raises an error with a token of its text, or lets a fault
escape**, and which faults escape is known: those of a path whose links lead back to themselves, at a
figure or an import, and those of an imported deck whose canonical path is too long. Every other path of a
figure or an import that does not resolve is told as an error at its directive. -/
theorem parse_fault_iff (detectCycles : Bool) (importLimit : Int) (files : FileSystem) (base : Path)
    (text : String) :
    let options : ReadOptions := ⟨"utf-8", detectCycles, importLimit⟩
    let r : Reading := ⟨base, [], [text]⟩
    (∀ fault, parse options files base text = .error (.fault fault) ↔
      r.Escapes options files fault) ∧
    (∀ e, parse options files base text = .error (.deck e) →
      ∃ t ∈ Token.tokenize text 0, e.token = some t) ∧
    (∀ (t : Token) (written : String) (place : Span) (rest : List Token) (fault : Fault),
      r.unread options files = t :: ⟨.word written, place⟩ :: rest →
      files.resolve (base.join (Path.ofString written)) = .error fault →
      (∀ loop, fault ≠ .linkLoop loop) →
      (t.lexeme = .directive .figure → ∀ s, (r.left options files).slide = some s →
        parse options files base text =
          .error (.deck ⟨.figureNotFound written base fault, some t⟩)) ∧
      (t.lexeme = .directive .importDeck →
        parse options files base text =
          .error (.deck ⟨.importNotFound (base.join (Path.ofString written)) fault, some t⟩))) := by
  intro options r
  have outcome : r.outcome options files = parse options files base text :=
    Reading.outcome_text ..
  refine ⟨fun fault => ?_, fun e failed => ?_, fun t written place rest fault stops h noLoop => ⟨?_, ?_⟩⟩
  · rw [← outcome]
    exact Reading.outcome_eq_fault_iff rfl
  · obtain ⟨i, t, _, at_, token, -⟩ := located_of_parse failed
    exact ⟨t, List.mem_of_getElem? at_, token⟩
  · intro directive s slide
    rw [← outcome, Reading.outcome_of_figure stops directive slide h, unresolved_eq_ofError noLoop]
    rfl
  · intro directive
    rw [← outcome, Reading.outcome_of_import_of_resolve stops directive h,
      unresolved_eq_ofError noLoop]
    rfl

/-- The links of an import in an imported deck loop, and the fault comes through both. -/
theorem parse_fault_iff_import :
    parse {} ⟨[(["a.deck"], .file ":sl\n:im loop\n".toUTF8.toList), (["loop"], .link "loop")], []⟩
      (Path.ofString ".") ":im a.deck\n" = .error (.fault (.linkLoop "/loop")) := by
  let files : FileSystem :=
    ⟨[(["a.deck"], .file ":sl\n:im loop\n".toUTF8.toList), (["loop"], .link "loop")], []⟩
  let outer : Reading := ⟨Path.ofString ".", [], [":im a.deck\n"]⟩
  let inner : Reading := outer.inside ⟨.root, ["a.deck"]⟩ ":sl\n:im loop\n"
  have first : outer.unread {} files =
      [⟨.directive .importDeck, ⟨0, 0, 3⟩⟩, ⟨.word "a.deck", ⟨0, 4, 10⟩⟩] := by decide +kernel
  have second : inner.unread {} files =
      [⟨.directive .importDeck, ⟨1, 0, 3⟩⟩, ⟨.word "loop", ⟨1, 4, 8⟩⟩] := by decide +kernel
  have enters : outer.Enters {} files (outer.unread {} files)
      ⟨⟨.directive .importDeck, ⟨0, 0, 3⟩⟩, ⟨.root, ["a.deck"]⟩⟩ := by
    rw [first]
    exact .intro (by decide +kernel) rfl (by decide)
  have opened : deckText {} files ⟨.root, ["a.deck"]⟩ = .ok ":sl\n:im loop\n" := by decide +kernel
  have loops : files.resolve (inner.base.join (Path.ofString "loop")) =
      .error (.linkLoop "/loop") := by decide +kernel
  have law := parse_fault_iff true 64 files (Path.ofString ".") ":im a.deck\n"
  exact (law.1 _).mpr (.nested enters opened (.importDeck second rfl loops))

/-- A link to itself: the path of a figure is neither found nor told as an error of the deck. -/
theorem parse_escapes_figure :
    let outcome := parse {} ⟨[(["loop"], .link "loop")], []⟩ (Path.ofString ".") ":sl\n:fg loop\n"
    outcome = .error (.fault (.linkLoop "loop")) ∧
      ¬ ((∃ s, outcome = .ok s) ∨ ∃ e, outcome = .error (.deck e)) := by
  intro outcome
  have escapes : outcome = .error (.fault (.linkLoop "loop")) := by decide +kernel
  refine ⟨escapes, ?_⟩
  rw [escapes]
  rintro (⟨s, read⟩ | ⟨e, told⟩)
  · cases read
  · cases told

end Deck

end SlideDeck
