import SlideDeck.Proofs.Outcome
import SlideDeck.Proofs.Reader.Effects

/-!
# What lexemes ask for and complain of

A lexeme that fails complains of its place, its arguments or the file of a figure
(`DeckError.IsPlain`), or of a last section that is not as the context has it. Other decks it knows
only through what reading them gives, which it asks for at one path (`Draft.asked`); an import passes
on the failure that it gets there.

So what holds of all those errors holds of all that a lexeme raises by itself (`Draft.stems_of_apply`),
and a list of tokens raises no others (`Draft.stems_of_readFrom`). And what is not asked for makes no
difference, nor does anything of an imported deck but its slides (`Draft.readFrom_congr`).
-/

namespace SlideDeck

/-- An error that a lexeme may raise on every draft: of its place, of its arguments, or of the file of a
figure. -/
def DeckError.IsPlain : DeckError → Prop
  | .noSlide | .strayText | .misplaced .. | .strayArgument | .numberMissing _ | .numberExpected ..
  | .sizeMissing | .pathExpected .. | .colorMissing | .badColorWord .. | .notColor ..
  | .figureNotFound .. => True
  | _ => False

namespace Argument

variable (window : List Lexeme)

theorem raises_number (place : Nat) (what : String) :
    Raises DeckError.IsPlain (number window place what) := by
  unfold number
  split
  · exact .error trivial
  · exact .ok _
  · exact .error trivial

theorem raises_path (what : String) : Raises DeckError.IsPlain (path window what) := by
  unfold path
  split
  · exact .ok _
  · exact .error trivial
  · exact .error trivial

/-- A path that is read is the first of the arguments. -/
theorem eq_cons_of_path {window : List Lexeme} {what written : String}
    (h : path window what = .ok written) : ∃ more, window = .word written :: more := by
  unfold path at h
  split at h
  · cases h
    exact ⟨_, rfl⟩
  · cases h
  · cases h

theorem raises_size : Raises DeckError.IsPlain (size window) := by
  unfold size
  split
  · exact .error trivial
  · exact .ok _
  · exact .ok _
  · exact .error trivial

theorem raises_colorWord (failed : Option ChannelError) (first : Lexeme) :
    Raises DeckError.IsPlain (colorWord failed first) := by
  unfold colorWord
  split
  · split
    · exact .ok _
    · exact .error trivial
  · exact .error trivial

theorem raises_color : Raises DeckError.IsPlain (color window) := by
  unfold color
  split
  · exact .error trivial
  · split
    · exact .ok _
    · exact (raises_colorWord _ _).map _
  · exact (raises_colorWord _ _).map _

end Argument

namespace Draft

variable {around : Surroundings} {d d' : Draft} {l : Lexeme} {window : List Lexeme}
  {failure : Failure} {P : DeckError → Prop}

/-! ## Parts of a draft -/

/-- All that a lexeme may complain of on a draft are such errors. -/
structure ComplainsOf (P : DeckError → Prop) (d : Draft) : Prop where
  plain : ∀ e : DeckError, e.IsPlain → P e
  lastSection : d.context = .text ∨ d.context = .figure → Raises P d.lastSection
  lastText : d.context = .text → Raises P d.lastText
  lastFigure : d.context = .figure → Raises P d.lastFigure

theorem raises_currentSlide : Raises DeckError.IsPlain d.currentSlide := by
  unfold currentSlide
  split
  · exact .error trivial
  · exact .ok _

theorem raises_requireContext (directive : Directive) (allowed : List Context) :
    Raises DeckError.IsPlain (d.requireContext directive allowed) := by
  unfold requireContext
  split
  · exact .ok _
  · exact .error trivial

theorem raises_pushSection (b : Body) : Raises DeckError.IsPlain (d.pushSection b) := by
  unfold pushSection
  cases there : d.currentSlide with
  | error e => exact .error (raises_currentSlide e there)
  | ok s => exact .ok _

/-- Errors that may be raised on every draft, and all that may be wrong with a last section. -/
theorem ComplainsOf.of_all (plain : ∀ e : DeckError, e.IsPlain → P e) (noSection : P .noSection)
    (lastNotText : P .lastNotText) (lastNotFigure : P .lastNotFigure) (d : Draft) :
    d.ComplainsOf P := by
  have last : Raises P d.lastSection := by
    unfold Draft.lastSection
    cases there : d.currentSlide with
    | error e => exact .error (plain e (raises_currentSlide e there))
    | ok s =>
      simp only
      split
      · exact .error noSection
      · exact .ok _
  refine ⟨plain, fun _ => last, fun _ => ?_, fun _ => ?_⟩
  · unfold Draft.lastText
    cases there : d.lastSection with
    | error e => exact .error (last e there)
    | ok s =>
      simp only
      split
      · exact .ok _
      · exact .error lastNotText
  · unfold Draft.lastFigure
    cases there : d.lastSection with
    | error e => exact .error (last e there)
    | ok s =>
      simp only
      split
      · exact .ok _
      · exact .error lastNotFigure

/-! ## Directives -/

theorem raises_applyText : Raises DeckError.IsPlain d.applyText := by
  unfold applyText
  cases there : d.pushSection (.text {}) with
  | error e => exact .error (raises_pushSection _ e there)
  | ok _ => exact .ok _

theorem raises_applyPosition (about : d.ComplainsOf P) : Raises P (d.applyPosition window) := by
  refine .bind ((raises_requireContext _ _).mono about.plain) fun _ allowed => ?_
  refine .bind (about.lastSection ?_) fun _ _ => ?_
  · simpa using mem_of_requireContext allowed
  · exact .bind ((Argument.raises_number _ _ _).mono about.plain) fun _ _ =>
      .bind ((Argument.raises_number _ _ _).mono about.plain) fun _ _ => .ok _

theorem raises_applySize (about : d.ComplainsOf P) : Raises P (d.applySize window) := by
  refine .bind ((raises_requireContext _ _).mono about.plain) fun _ allowed => ?_
  split
  · exact .bind ((Argument.raises_size _).mono about.plain) fun _ _ => .ok _
  · rename_i outside
    refine .bind (about.lastSection ?_) fun _ _ => ?_
    · simpa [outside] using mem_of_requireContext allowed
    · exact .bind ((Argument.raises_size _).mono about.plain) fun _ _ => .ok _

theorem raises_applyRotation (about : d.ComplainsOf P) : Raises P (d.applyRotation window) := by
  refine .bind ((raises_requireContext _ _).mono about.plain) fun _ allowed => ?_
  refine .bind (about.lastFigure ?_) fun _ _ => ?_
  · simpa using mem_of_requireContext allowed
  · exact .bind ((Argument.raises_number _ _ _).mono about.plain) fun _ _ => .ok _

theorem raises_applyFontColor (about : d.ComplainsOf P) : Raises P (d.applyFontColor window) := by
  refine .bind ((raises_requireContext _ _).mono about.plain) fun _ allowed => ?_
  split
  · exact .bind ((Argument.raises_color _).mono about.plain) fun _ _ => .ok _
  · rename_i outside
    refine .bind (about.lastText ?_) fun _ _ => ?_
    · simpa [outside] using mem_of_requireContext allowed
    · exact .bind ((Argument.raises_color _).mono about.plain) fun _ _ => .ok _

theorem raises_applyBackground : Raises DeckError.IsPlain (d.applyBackground window) := by
  refine .bind (raises_requireContext _ _) fun _ _ => ?_
  split
  · exact .bind (Argument.raises_color _) fun _ _ => .ok _
  · exact .bind raises_currentSlide fun _ _ => .bind (Argument.raises_color _) fun _ _ => .ok _

theorem raises_applyTextLine (about : d.ComplainsOf P) (line : String) :
    Raises P (d.applyTextLine line) := by
  unfold applyTextLine
  split
  · rename_i inside
    cases there : d.lastText with
    | error e => exact .error (about.lastText inside e there)
    | ok b => exact .ok _
  · split
    · exact .ok _
    · exact .error (about.plain _ trivial)

/-! ## One lexeme -/

/-- The path of the deck that a lexeme asks for, if it is an import. -/
def asked (base : Path) (l : Lexeme) (window : List Lexeme) : List Path :=
  match l, window with
  | .directive .importDeck, .word written :: _ => [base.join (Path.ofString written)]
  | _, _ => []

/-- Where a failure comes from, given the paths of the decks that are asked for. -/
inductive Stems (P : DeckError → Prop) (load : Path → Except Failure Slideshow)
    (paths : List Path) : Failure → Prop where
  | own {e : DeckError} (such : P e) : Stems P load paths (.ofError e)
  | fault (fault : Fault) : Stems P load paths (.fault fault)
  | load {path : Path} {failure : Failure} (mem : path ∈ paths)
    (unread : load path = .error failure) : Stems P load paths failure

theorem Stems.mono {load : Path → Except Failure Slideshow} {paths paths' : List Path}
    (h : Stems P load paths failure) (sub : paths ⊆ paths') : Stems P load paths' failure := by
  cases h with
  | own such => exact .own such
  | fault fault => exact .fault fault
  | load mem unread => exact .load (sub mem) unread

theorem stems_of_attemptDeck {load : Path → Except Failure Slideshow} {paths : List Path}
    {x : Except DeckError (Draft × Nat)} (raises : Raises P x)
    (h : d.attemptDeck x = (d', .error failure)) : Stems P load paths failure := by
  cases x with
  | error e =>
    cases h
    exact .own (raises e rfl)
  | ok pair => cases h

theorem stems_of_applyFigure (plain : ∀ e : DeckError, e.IsPlain → P e)
    {load : Path → Except Failure Slideshow} {paths : List Path}
    (h : applyFigure around d window = .error failure) : Stems P load paths failure := by
  unfold applyFigure at h
  split at h
  · rename_i e missing
    cases h
    exact .own (plain e (raises_currentSlide e missing))
  · split at h
    · rename_i e noPath
      cases h
      exact .own (plain e (Argument.raises_path _ _ e noPath))
    · split at h
      · cases h
        exact .fault _
      · cases h
        exact .own (plain _ trivial)
      · split at h
        · rename_i e missing
          cases h
          exact .own (plain e (raises_pushSection _ e missing))
        · cases h

theorem stems_of_applyImport (plain : ∀ e : DeckError, e.IsPlain → P e)
    (h : applyImport around d window = (d', .error failure)) :
    Stems P around.load (asked around.base (.directive .importDeck) window) failure := by
  cases hp : Argument.path window "an import" with
  | error e =>
    simp only [applyImport, hp] at h
    cases h
    exact .own (plain e (Argument.raises_path _ _ e hp))
  | ok written =>
    obtain ⟨more, rfl⟩ := Argument.eq_cons_of_path hp
    simp only [applyImport, hp] at h
    split at h
    · rename_i failure unread
      cases h
      exact .load List.mem_cons_self unread
    · cases h

/-- **A lexeme that fails raises an error of its own, or passes one on.** -/
theorem stems_of_apply (about : d.ComplainsOf P)
    (h : apply around d l window = (d', .error failure)) :
    Stems P around.load (asked around.base l window) failure := by
  cases l with
  | directive directive =>
    cases directive with
    | defaults | slide => cases h
    | text => exact stems_of_attemptDeck (raises_applyText.mono about.plain) h
    | figure =>
      simp only [apply, attempt] at h
      split at h
      · rename_i unread
        cases h
        exact stems_of_applyFigure about.plain unread
      · cases h
    | position => exact stems_of_attemptDeck (raises_applyPosition about) h
    | size => exact stems_of_attemptDeck (raises_applySize about) h
    | rotation => exact stems_of_attemptDeck (raises_applyRotation about) h
    | fontColor => exact stems_of_attemptDeck (raises_applyFontColor about) h
    | background => exact stems_of_attemptDeck (raises_applyBackground.mono about.plain) h
    | importDeck => exact stems_of_applyImport about.plain h
  | textLine line => exact stems_of_attemptDeck (raises_applyTextLine about line) h
  | comment line => cases h
  | word | number =>
    cases h
    exact .own (about.plain _ trivial)

/-- **What a lexeme does hangs on the slides of the deck that it asks for**, and on nothing else of
other decks. -/
theorem apply_congr {files : FileSystem} {base : Path} {load load' : Path → Except Failure Slideshow}
    (same : ∀ path ∈ asked base l window,
      (load path).map Slideshow.slides = (load' path).map Slideshow.slides) (d : Draft) :
    apply ⟨files, base, load⟩ d l window = apply ⟨files, base, load'⟩ d l window := by
  cases l with
  | directive directive =>
    cases directive with
    | importDeck =>
      simp only [apply, applyImport]
      cases hp : Argument.path window "an import" with
      | error e => rfl
      | ok written =>
        obtain ⟨more, rfl⟩ := Argument.eq_cons_of_path hp
        have agree := same _ List.mem_cons_self
        simp only
        generalize load (base.join (Path.ofString written)) = x,
          load' (base.join (Path.ofString written)) = y at agree ⊢
        cases x with
        | error failure =>
          cases y with
          | error failure' =>
            cases agree
            rfl
          | ok other => cases agree
        | ok other =>
          cases y with
          | error failure => cases agree
          | ok other' =>
            have slides : other.slides = other'.slides := Except.ok.inj agree
            simp only [slides]
    | _ => rfl
  | _ => rfl

/-! ## Token lists -/

/-- The paths of the decks that reading asks for, in order. The first tokens of the list are arguments
already taken. -/
def asksFrom (around : Surroundings) : Nat → Draft → List Token → List Path
  | _, _, [] => []
  | taken + 1, d, _ :: rest => asksFrom around taken d rest
  | 0, d, t :: rest =>
    asked around.base t.lexeme ((rest.take windowSize).map Token.lexeme) ++
      match apply around d t.lexeme ((rest.take windowSize).map Token.lexeme) with
      | (_, .error _) => []
      | (d, .ok taken) => asksFrom around taken d rest

/-- What is asked for is a path as it is written, seen from the folder of the deck. -/
theorem exists_of_mem_asksFrom {path : Path} {taken : Nat} {tokens : List Token}
    (h : path ∈ asksFrom around taken d tokens) :
    ∃ written, path = around.base.join (Path.ofString written) := by
  induction tokens generalizing taken d with
  | nil => cases h
  | cons t rest ih =>
    cases taken with
    | succ taken => exact ih h
    | zero =>
      rcases List.mem_append.mp h with here | later
      · unfold asked at here
        split at here
        · exact ⟨_, List.mem_singleton.mp here⟩
        · cases here
      · split at later
        · cases later
        · exact ih later

/-- **Reading that fails raises an error of a lexeme, or passes on that of a deck that it asks for**,
with a token attached. -/
theorem stems_of_readFrom (about : ∀ d : Draft, d.ComplainsOf P) {tokens : List Token} {taken : Nat}
    (h : readFrom around taken d tokens = (d', .error failure)) :
    ∃ t raised, failure = raised.attach t ∧
      Stems P around.load (asksFrom around taken d tokens) raised := by
  induction tokens generalizing taken d with
  | nil => cases h
  | cons t rest ih =>
    cases taken with
    | succ taken => exact ih h
    | zero =>
      simp only [readFrom, asksFrom] at h ⊢
      cases made : apply around d t.lexeme ((rest.take windowSize).map Token.lexeme) with
      | mk next outcome =>
        rw [made] at h
        cases outcome with
        | error raised =>
          cases h
          exact ⟨t, raised, rfl,
            (stems_of_apply (about d) made).mono (List.subset_append_left _ _)⟩
        | ok count =>
          obtain ⟨t, raised, attached, stems⟩ := ih h
          exact ⟨t, raised, attached, stems.mono (List.subset_append_right _ _)⟩

/-- **Reading hangs on the slides of the decks that it asks for**, and on nothing else of other
decks. -/
theorem readFrom_congr {files : FileSystem} {base : Path}
    {load load' : Path → Except Failure Slideshow} {tokens : List Token} {taken : Nat} {d : Draft}
    (same : ∀ path ∈ asksFrom ⟨files, base, load⟩ taken d tokens,
      (load path).map Slideshow.slides = (load' path).map Slideshow.slides) :
    readFrom ⟨files, base, load⟩ taken d tokens = readFrom ⟨files, base, load'⟩ taken d tokens := by
  induction tokens generalizing taken d with
  | nil => rfl
  | cons t rest ih =>
    cases taken with
    | succ taken => exact ih same
    | zero =>
      simp only [asksFrom, List.forall_mem_append] at same
      simp only [readFrom]
      rw [← apply_congr same.1]
      cases made : apply ⟨files, base, load⟩ d t.lexeme
          ((rest.take windowSize).map Token.lexeme) with
      | mk next outcome =>
        cases outcome with
        | error failure => rfl
        | ok count =>
          rw [made] at same
          exact ih same.2

end Draft

end SlideDeck
