import SlideDeck.Proofs.Reader.Complaints
import SlideDeck.Proofs.Reader.Imports
import SlideDeck.Proofs.Reader.Runs

/-!
# Drafts keep what their contexts promise

The context of a draft, its open slide, the sections of that slide and the kind of the last of them are
changed by different directives, and each context promises something of the others
(`Draft.Consistent`). A reader that is called again and again keeps these promises, whatever tokens it
gets, and also where a call fails (`Session.consistent_after`).

One promise is not among them: that a slide is open in the contexts of slides and sections
(`Draft.IsOpen`). This one holds as long as no call has failed at an import, which closes the slide and
leaves the context.

**The law** (`Session.consistent_and_open`): both, and what they are good for. The errors that would
tell of a broken promise, of a slide without sections or a last section of the wrong kind, are never
raised, neither by the reader itself nor in a deck that it imports.
-/

namespace SlideDeck

/-! ## Errors of broken promises -/

/-- An error that tells of a draft that is not as its context promises, also in an imported deck. -/
def DeckError.IsLapse : DeckError → Prop
  | .noSection | .lastNotText | .lastNotFigure => True
  | .inImport _ error _ => error.IsLapse
  | _ => False

/-- A failure that tells of such a draft. -/
def Failure.IsLapse : Failure → Prop
  | .deck e => e.cause.IsLapse
  | .fault _ => False

theorem Failure.isLapse_attach (t : Token) (f : Failure) : (f.attach t).IsLapse ↔ f.IsLapse := by
  cases f <;> rfl

theorem DeckError.IsPlain.not_isLapse {e : DeckError} (h : e.IsPlain) : ¬ e.IsLapse := by
  cases e with
  | noSection | lastNotText | lastNotFigure | inImport => exact h.elim
  | _ => exact id

/-! ## Promises -/

/-- What is made of a section leaves it a text or a figure. -/
theorem Section.Amends.kind {l : Lexeme} {last last' : Section} (h : Section.Amends l last last') :
    last'.body.isText = last.body.isText ∧ last'.body.isFigure = last.body.isFigure := by
  cases h with
  | position | size => exact ⟨rfl, rfl⟩
  | rotation shows | fontColor shows | line shows =>
    rw [shows]
    exact ⟨rfl, rfl⟩

namespace Draft

variable {around : Surroundings} {d d' : Draft} {l : Lexeme} {window : List Lexeme}
  {failure : Failure}

/-- What the context of a draft promises of the rest. -/
def Consistent (d : Draft) : Prop :=
  match d.context with
  | .start => d.slide = none ∧ d.slideshow = {}
  | .defaults => True
  | .slide => ∀ s ∈ d.slide, s.sections = []
  | .text => ∀ s ∈ d.slide, ∃ last ∈ s.sections.getLast?, last.body.isText
  | .figure => ∀ s ∈ d.slide, ∃ last ∈ s.sections.getLast?, last.body.isFigure
  | .imported => d.slide = none

/-- A slide is open where a slide or a section is being read. -/
def IsOpen (d : Draft) : Prop :=
  d.context ∈ [Context.slide, .text, .figure] → d.slide.isSome

theorem consistent_fresh : Consistent {} :=
  ⟨rfl, rfl⟩

theorem consistent_onSection {s : Slideshow} {open_ : Slide} {last : Section} {c : Context} :
    (onSection s open_ last c).Consistent ↔
      (c = .text → last.body.isText) ∧ (c = .figure → last.body.isFigure) ∧
        c ∈ [Context.defaults, .text, .figure] := by
  unfold Consistent onSection
  cases c <;> simp

/-- **A step keeps the promises.** -/
theorem Step.consistent (h : Step around l d d') (start : d.Consistent) : d'.Consistent := by
  cases h with
  | comment | blank => exact start
  | defaults => trivial
  | slide =>
    rintro s ⟨⟩
    rfl
  | text => exact consistent_onSection.mpr ⟨fun _ => rfl, nofun, by simp⟩
  | figure => exact consistent_onSection.mpr ⟨nofun, fun _ => rfl, by simp⟩
  | default inside sets =>
    unfold Consistent
    rw [inside]
    trivial
  | @background _ open_ inside there color =>
    unfold Consistent at start ⊢
    simp only [inside, there] at start ⊢
    rintro s ⟨⟩
    exact start open_ rfl
  | amend inside amends =>
    rw [consistent_onSection] at start ⊢
    rw [amends.kind.1, amends.kind.2]
    exact start
  | importDeck read => exact rfl

/-- Closing the slide keeps the promises. -/
theorem consistent_flush (start : d.Consistent) : d.flush.Consistent := by
  cases hc : d.context with
  | start =>
    have closed : d.slide = none := by
      simp only [Consistent, hc] at start
      exact start.1
    rwa [flush_of_none closed]
  | defaults | slide | text | figure | imported => simp [Consistent, hc]

/-- A lexeme that fails keeps the promises. -/
theorem consistent_of_apply_error (h : apply around d l window = (d', .error failure))
    (start : d.Consistent) : d'.Consistent := by
  rcases eq_of_apply_error h with ⟨_, rfl⟩ | ⟨_, rfl⟩
  · exact consistent_flush start
  · exact start

/-- A step keeps a slide open where one is being read. -/
theorem Step.isOpen (h : Step around l d d') (start : d.IsOpen) : d'.IsOpen := by
  cases h with
  | comment | blank => exact start
  | defaults | importDeck => exact fun inside => absurd inside (by simp [enter])
  | default inside _ => exact fun here => absurd here (by simp [inside])
  | slide | text | figure | background | amend => exact fun _ => rfl

/-! ## What lexemes may complain of -/

/-- In a section, the last section is there, unless no slide is open. -/
theorem noLapse_lastSection (start : d.Consistent) (inside : d.context = .text ∨ d.context = .figure) :
    Raises (¬ DeckError.IsLapse ·) d.lastSection := by
  unfold lastSection currentSlide
  cases there : d.slide with
  | none => exact .error id
  | some s =>
    -- Both contexts promise a last section, of one kind or the other.
    have last : ∃ last, s.sections.getLast? = some last := by
      unfold Consistent at start
      rcases inside with inside | inside
      · simp only [inside, there] at start
        obtain ⟨last, shown, -⟩ := start s rfl
        exact ⟨last, shown⟩
      · simp only [inside, there] at start
        obtain ⟨last, shown, -⟩ := start s rfl
        exact ⟨last, shown⟩
    obtain ⟨last, shown⟩ := last
    simp only [shown]
    exact .ok _

theorem noLapse_lastText (start : d.Consistent) (inside : d.context = .text) :
    Raises (¬ DeckError.IsLapse ·) d.lastText := by
  have last := noLapse_lastSection start (.inl inside)
  unfold lastText
  cases there : d.lastSection with
  | error e => exact .error (last e there)
  | ok s =>
    obtain ⟨open_, on⟩ := eq_onSection there
    rw [on, consistent_onSection] at start
    have text := start.1 inside
    cases hb : s.body with
    | text b =>
      simp only [hb]
      exact .ok b
    | figure b =>
      rw [hb] at text
      cases text

theorem noLapse_lastFigure (start : d.Consistent) (inside : d.context = .figure) :
    Raises (¬ DeckError.IsLapse ·) d.lastFigure := by
  have last := noLapse_lastSection start (.inr inside)
  unfold lastFigure
  cases there : d.lastSection with
  | error e => exact .error (last e there)
  | ok s =>
    obtain ⟨open_, on⟩ := eq_onSection there
    rw [on, consistent_onSection] at start
    have figure := start.2.1 inside
    cases hb : s.body with
    | figure b =>
      simp only [hb]
      exact .ok b
    | text b =>
      rw [hb] at figure
      cases figure

/-- How imports are read raises no errors of broken promises. -/
def LoadsWithoutLapse (load : Path → Except Failure Slideshow) : Prop :=
  ∀ path failure, load path = .error failure → ¬ failure.IsLapse

/-- **On a draft that is as its context promises, no lexeme complains of a broken promise.** -/
theorem not_isLapse_of_apply (load : LoadsWithoutLapse around.load) (start : d.Consistent)
    (failed : apply around d l window = (d', .error failure)) : ¬ failure.IsLapse := by
  have about : d.ComplainsOf (¬ DeckError.IsLapse ·) :=
    ⟨fun _ => DeckError.IsPlain.not_isLapse, noLapse_lastSection start, noLapse_lastText start,
      noLapse_lastFigure start⟩
  cases stems_of_apply about failed with
  | own such => exact such
  | fault fault => exact id
  | load _ unread => exact load _ _ unread

/-! ## Token lists -/

theorem Run.consistent {tokens : List Token} (run : Run around tokens d d') (start : d.Consistent) :
    d'.Consistent :=
  run.preserves (fun _ _ _ _ => Step.consistent) start

/-- **Reading keeps the promises, and fails without complaints of them.** -/
theorem consistent_of_read (around : Surroundings) (load : LoadsWithoutLapse around.load)
    (start : d.Consistent) (tokens : List Token) :
    (read around d tokens).1.Consistent ∧
      ∀ failure, (read around d tokens).2 = .error failure → ¬ failure.IsLapse := by
  obtain ⟨d', run, ends⟩ := run_of_readFrom around tokens 0 d
  have there := run.consistent start
  unfold read
  generalize readFrom around 0 d tokens = outcome, unreadFrom around 0 d tokens = left at ends
  cases ends with
  | read => exact ⟨there, nofun⟩
  | @failed t _ _ _ failure mem fails =>
    refine ⟨consistent_of_apply_error fails there, ?_⟩
    rintro _ ⟨⟩
    exact mt (Failure.isLapse_attach t failure).mp (not_isLapse_of_apply load there fails)

/-- Reading stops at the directive of an import. -/
def StopsAtImport (around : Surroundings) (d : Draft) (tokens : List Token) : Prop :=
  ∃ t ∈ (unread around d tokens).head?, t.lexeme = .directive .importDeck

/-- Reading that does not stop at an import keeps slides open. -/
theorem isOpen_of_read (start : d.IsOpen) {tokens : List Token}
    (passes : ¬ StopsAtImport around d tokens) : (read around d tokens).1.IsOpen := by
  obtain ⟨d', run, ends⟩ := run_of_readFrom around tokens 0 d
  have there : d'.IsOpen := run.preserves (fun _ _ _ _ => Step.isOpen) start
  unfold StopsAtImport unread at passes
  unfold read
  generalize readFrom around 0 d tokens = outcome, unreadFrom around 0 d tokens = left
    at ends passes
  cases ends with
  | read => exact there
  | @failed t _ _ _ _ mem fails =>
    rcases eq_of_apply_error fails with ⟨closes, rfl⟩ | ⟨_, rfl⟩
    · exact absurd ⟨t, rfl, closes.1⟩ passes
    · exact there

end Draft


/-! ## Imported decks -/

namespace Deck

variable {options : ReadOptions} {files : FileSystem} {load : Path → Except Failure Slideshow}

open Draft

theorem not_isLapse_of_parseWith (withoutLapse : LoadsWithoutLapse load) {base : Path}
    {text : String} {failure : Failure} (h : parseWith files load base text = .error failure) :
    ¬ failure.IsLapse := by
  have told := (consistent_of_read ⟨files, base, load⟩ withoutLapse consistent_fresh
    (Token.tokenize text 0)).2
  unfold parseWith at h
  split at h
  · rename_i d _ failed
    cases h
    exact told failure (congrArg Prod.snd failed)
  · cases h

theorem not_isLapse_readFailure (path : Path) (fault : Fault) :
    ¬ (readFailure path fault).IsLapse := by
  unfold readFailure
  split <;> exact id

theorem loadsWithoutLapse_parseFileWith (withoutLapse : LoadsWithoutLapse load) :
    LoadsWithoutLapse (parseFileWith options files load) := by
  intro path failure h
  cases parseFileWith_eq_error h with
  | fault | notFile => exact id
  | unreadable fault => exact not_isLapse_readFailure path fault
  | text _ _ unread => exact not_isLapse_of_parseWith withoutLapse unread

theorem not_isLapse_wrapImport (path : Path) {failure : Failure} (h : ¬ failure.IsLapse) :
    ¬ (wrapImport path failure).IsLapse := by
  cases failure with
  | deck e => exact h
  | fault fault => exact h

/-- **Reading imports raises no errors of broken promises**, by induction on how many more there may
be: each imported deck is read into a fresh draft. -/
theorem loadsWithoutLapse_importDeck (budget : Nat) (way : List Path) :
    LoadsWithoutLapse (importDeck options files budget way) := by
  induction budget using Nat.strongRecOn generalizing way with
  | ind budget ih =>
    intro path failure h
    cases importDeck_eq_error h with
    | linkLoop | notFound | cycle | tooDeep => exact id
    | @nested found further inner _ _ room unread =>
      have below : LoadsWithoutLapse (importDeck options files further (way ++ [found])) :=
        ih further (by omega) (way ++ [found])
      exact not_isLapse_wrapImport found
        (loadsWithoutLapse_parseFileWith below found inner unread)

end Deck

/-! ## Readers that are called again and again -/

/-- A reader of token lists, as it is made: what stays the same from call to call. -/
structure Session where
  options : ReadOptions := {}
  base : Path
  way : List Path := []

/-- A call of a reader, with the files as they are then. -/
structure Session.Call where
  files : FileSystem
  tokens : List Token

namespace Session

open Draft

/-- What a reader reads in. -/
def around (σ : Session) (files : FileSystem) : Surroundings :=
  ⟨files, σ.base, Deck.loader σ.options files σ.way⟩

/-- The draft after a call, whatever comes of it. -/
def call (σ : Session) (d : Draft) (c : Call) : Draft :=
  (read (σ.around c.files) d c.tokens).1

/-- The draft after calls. -/
def after (σ : Session) (d : Draft) (calls : List Call) : Draft :=
  calls.foldl σ.call d

/-- One of the calls fails at an import. -/
def FailsAtImport (σ : Session) : Draft → List Call → Prop
  | _, [] => False
  | d, c :: rest =>
    StopsAtImport (σ.around c.files) d c.tokens ∨ σ.FailsAtImport (σ.call d c) rest

/-- One call of a reader. -/
theorem consistent_of_call (σ : Session) {d : Draft} (start : d.Consistent) (c : Call) :
    (σ.call d c).Consistent ∧
      ∀ failure, (read (σ.around c.files) d c.tokens).2 = .error failure → ¬ failure.IsLapse :=
  consistent_of_read _ (Deck.loadsWithoutLapse_importDeck _ _) start c.tokens

theorem consistent_after (σ : Session) {d : Draft} (start : d.Consistent) (calls : List Call) :
    (σ.after d calls).Consistent := by
  induction calls generalizing d with
  | nil => exact start
  | cons c rest ih => exact ih (σ.consistent_of_call start c).1

theorem isOpen_after (σ : Session) {d : Draft} (start : d.IsOpen) (calls : List Call)
    (passes : ¬ σ.FailsAtImport d calls) : (σ.after d calls).IsOpen := by
  induction calls generalizing d with
  | nil => exact start
  | cons c rest ih =>
    obtain ⟨here, later⟩ := not_or.mp passes
    exact ih (isOpen_of_read start here) later

/-- **A reader keeps the promises of its contexts over all calls**, those that fail included, and the
slide open where there should be one if none of them fails at an import. So no call fails with an error
that tells of a broken promise. -/
theorem consistent_and_open (σ : Session) (calls : List Call) :
    (σ.after {} calls).Consistent ∧
      (¬ σ.FailsAtImport {} calls → (σ.after {} calls).IsOpen) ∧
      ∀ (c : Call) (failure : Failure),
        (read (σ.around c.files) (σ.after {} calls) c.tokens).2 = .error failure →
          ¬ failure.IsLapse := by
  have there := σ.consistent_after consistent_fresh calls
  refine ⟨there, fun passes => ?_, fun c => (σ.consistent_of_call there c).2⟩
  refine σ.isOpen_after ?_ calls passes
  exact fun inside => absurd inside (by decide)

/-- A text section is begun, and then a missing deck imported. -/
theorem consistent_and_open_missing_import :
    let σ : Session := { base := Path.ofString "." }
    let calls : List Call := [⟨{}, Token.tokenize ":sl\n:tb\n" 0⟩]
    (σ.after {} calls).Consistent ∧ (σ.after {} calls).IsOpen ∧
      ∃ failure, (read (σ.around {}) (σ.after {} calls) (Token.tokenize ":im missing.deck" 0)).2 =
        .error failure ∧ ¬ failure.IsLapse := by
  intro σ calls
  obtain ⟨consistent, isOpen, sound⟩ := σ.consistent_and_open calls
  have passes : ¬ σ.FailsAtImport {} calls := by
    have readAll : unread (σ.around {}) {} (Token.tokenize ":sl\n:tb\n" 0) = [] := by decide +kernel
    rintro (⟨t, stops, _⟩ | later)
    · rw [readAll] at stops
      cases stops
    · exact later
  have failed : (read (σ.around {}) (σ.after {} calls) (Token.tokenize ":im missing.deck" 0)).2 =
      .error (.deck ⟨.importNotFound (Path.ofString "missing.deck")
        (.refused .noEntry "missing.deck"), some ⟨.directive .importDeck, ⟨0, 0, 3⟩⟩⟩) := by
    decide +kernel
  exact ⟨consistent, isOpen passes, _, failed, sound ⟨{}, _⟩ _ failed⟩

end Session

end SlideDeck
