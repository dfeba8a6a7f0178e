import SlideDeck.Proofs.Reader.Chunks
import SlideDeck.Proofs.Reader.Runs

/-!
# Decks one after the other

A new slide, and an import, close whatever is open. What a reader has read before them is then a
number of closed slides and some defaults, and all that comes later is read behind these
(`Draft.behind`) as it is read by a fresh reader (`readFrom_behind`): no lexeme looks at closed slides,
and a default is only ever replaced.

**The law** (`read_append_opening`): tokens that start with a new slide or an import are read after
others as on their own, or fail at the same token. The slides of both are put one after the other, and
the defaults are those of the second ones where they set them (`Slideshow.followedBy`).
-/

namespace SlideDeck

/-- The slides of two slideshows one after the other. A default is that of the second one, if that has
it; fonts are those of the first one, for no lexeme sets any. -/
def Slideshow.followedBy (s t : Slideshow) : Slideshow where
  slides := s.slides ++ t.slides
  fonts := s.fonts
  background := t.background.or s.background
  fontColor := t.fontColor.or s.fontColor
  fontSize := t.fontSize.or s.fontSize

namespace Draft

variable {around : Surroundings} {s : Slideshow} {d dA : Draft} {l : Lexeme} {window : List Lexeme}

/-- The draft with the slides of another slideshow before its own, and with its defaults. -/
def behind (s : Slideshow) (d : Draft) : Draft :=
  { d with slideshow := s.followedBy d.slideshow }

/-! ## Parts of a draft -/

@[simp]
theorem slide_behind (s : Slideshow) (d : Draft) : (d.behind s).slide = d.slide := rfl

@[simp]
theorem context_behind (s : Slideshow) (d : Draft) : (d.behind s).context = d.context := rfl

@[simp]
theorem currentSlide_behind (s : Slideshow) (d : Draft) :
    (d.behind s).currentSlide = d.currentSlide := rfl

@[simp]
theorem lastText_behind (s : Slideshow) (d : Draft) : (d.behind s).lastText = d.lastText := rfl

@[simp]
theorem pushSection_behind (b : Body) :
    (d.behind s).pushSection b = behind s <$> d.pushSection b := by
  simp only [pushSection, currentSlide_behind]
  cases d.currentSlide <;> rfl

@[simp]
theorem flush_behind (s : Slideshow) (d : Draft) : (d.behind s).flush = d.flush.behind s := by
  simp only [flush, slide_behind]
  cases d.slide with
  | none => rfl
  | some open_ => simp [behind, Slideshow.followedBy]

@[simp]
theorem take_behind (s : Slideshow) (d : Draft) : (d.behind s).take = s.followedBy d.take := by
  rw [take, flush_behind]
  rfl

/-! ## One lexeme -/

@[simp]
theorem applyText_behind :
    (d.behind s).applyText = Prod.map (behind s) id <$> d.applyText := by
  simp only [applyText, pushSection_behind]
  cases d.pushSection (.text {}) <;> rfl

@[simp]
theorem applyPosition_behind :
    (d.behind s).applyPosition window = Prod.map (behind s) id <$> d.applyPosition window := by
  simp only [applyPosition, map_bind, map_pure]
  rfl

@[simp]
theorem applySize_behind :
    (d.behind s).applySize window = Prod.map (behind s) id <$> d.applySize window := by
  simp only [applySize, map_bind, map_pure, apply_ite]
  rfl

@[simp]
theorem applyRotation_behind :
    (d.behind s).applyRotation window = Prod.map (behind s) id <$> d.applyRotation window := by
  simp only [applyRotation, map_bind, map_pure]
  rfl

@[simp]
theorem applyFontColor_behind :
    (d.behind s).applyFontColor window = Prod.map (behind s) id <$> d.applyFontColor window := by
  simp only [applyFontColor, map_bind, map_pure, apply_ite]
  rfl

@[simp]
theorem applyBackground_behind :
    (d.behind s).applyBackground window = Prod.map (behind s) id <$> d.applyBackground window := by
  simp only [applyBackground, map_bind, map_pure, apply_ite]
  rfl

@[simp]
theorem applyTextLine_behind (line : String) :
    (d.behind s).applyTextLine line = Prod.map (behind s) id <$> d.applyTextLine line := by
  unfold applyTextLine
  rw [context_behind, lastText_behind]
  split
  · cases d.lastText <;> rfl
  · split <;> rfl

@[simp]
theorem applyFigure_behind :
    applyFigure around (d.behind s) window =
      Prod.map (behind s) id <$> applyFigure around d window := by
  simp only [applyFigure, currentSlide_behind]
  cases d.currentSlide with
  | error e => rfl
  | ok _ =>
    simp only [pushSection_behind]
    cases Argument.path window "a figure" with
    | error e => rfl
    | ok written =>
      simp only
      cases around.files.resolve (around.base.join (Path.ofString written)) with
      | error fault => cases fault <;> rfl
      | ok found =>
        simp only
        cases d.pushSection (.figure ⟨found.text, 0.0⟩) with
        | error e => rfl
        | ok d => rfl

@[simp]
theorem applyImport_behind :
    applyImport around (d.behind s) window =
      Prod.map (behind s) id (applyImport around d window) := by
  unfold applyImport
  cases Argument.path window "an import" with
  | error e => rfl
  | ok written =>
    simp only [flush_behind]
    cases around.load (around.base.join (Path.ofString written)) with
    | error failure => rfl
    | ok other =>
      simp [behind, Slideshow.followedBy, changeDefaults, enter]

@[simp]
theorem attemptDeck_behind (x : Except DeckError (Draft × Nat)) :
    (d.behind s).attemptDeck (Prod.map (behind s) id <$> x) =
      Prod.map (behind s) id (d.attemptDeck x) := by
  cases x with
  | error e => rfl
  | ok pair => rfl

@[simp]
theorem attempt_behind (x : Except Failure (Draft × Nat)) :
    (d.behind s).attempt (Prod.map (behind s) id <$> x) =
      Prod.map (behind s) id (d.attempt x) := by
  cases x with
  | error e => rfl
  | ok pair => rfl

/-- **No lexeme sees what is closed.** -/
@[simp]
theorem apply_behind :
    apply around (d.behind s) l window = Prod.map (behind s) id (apply around d l window) := by
  cases l with
  | directive directive =>
    cases directive with
    | defaults => rfl
    | slide =>
      simp only [apply, applySlide, openSlide, flush_behind]
      rfl
    | _ => simp [apply]
  | textLine line => simp [apply]
  | comment | word | number => rfl

/-! ## Token lists -/

/-- **Tokens are read behind a slideshow as they are read without it.** -/
theorem readFrom_behind (around : Surroundings) (s : Slideshow) (tokens : List Token) (taken : Nat)
    (d : Draft) :
    readFrom around taken (d.behind s) tokens =
        Prod.map (behind s) id (readFrom around taken d tokens) ∧
      unreadFrom around taken (d.behind s) tokens = unreadFrom around taken d tokens := by
  induction tokens generalizing taken d with
  | nil => exact ⟨rfl, rfl⟩
  | cons t rest ih =>
    cases taken with
    | succ taken => exact ih taken d
    | zero =>
      simp only [readFrom, unreadFrom, apply_behind]
      cases apply around d t.lexeme ((rest.take windowSize).map Token.lexeme) with
      | mk next outcome =>
        cases outcome with
        | error failure => exact ⟨rfl, rfl⟩
        | ok count => exact ih count next

/-- Tokens that are read to their end, before one that is no argument, are read so whatever comes
after them, and what comes after them is read next. -/
theorem readFrom_append_of_ok {more : List Token} (afresh : StartsAfresh more)
    {tokens : List Token} {taken : Nat} (le : taken ≤ tokens.length)
    (accepted : readFrom around taken d tokens = (dA, .ok ())) :
    readFrom around taken d (tokens ++ more) = readFrom around 0 dA more ∧
      unreadFrom around taken d (tokens ++ more) = unreadFrom around 0 dA more := by
  induction tokens generalizing taken d with
  | nil =>
    obtain rfl : taken = 0 := Nat.le_zero.mp le
    cases accepted
    exact ⟨rfl, rfl⟩
  | cons t rest ih =>
    cases taken with
    | succ taken => exact ih (Nat.le_of_succ_le_succ le) accepted
    | zero =>
      have step := apply_cut around afresh d t.lexeme rest
      simp only [List.cons_append, readFrom, unreadFrom] at accepted ⊢
      cases made : apply around d t.lexeme ((rest.take windowSize).map Token.lexeme) with
      | mk next outcome =>
        rw [made] at accepted step
        cases outcome with
        | error failure => cases accepted
        | ok count =>
          -- The lexeme has succeeded before the cut, so it does just the same without it.
          generalize apply around d t.lexeme (((rest ++ more).take windowSize).map Token.lexeme) =
            whole at step ⊢
          cases step with
          | ok _ _ => exact ih (count_le_of_apply made) accepted

/-- Where tokens are read to their end, those before one that is no argument have been, and those from
it on after them. -/
theorem ok_of_readFrom_append {more : List Token} (afresh : StartsAfresh more) {tokens : List Token}
    {taken : Nat} {d' : Draft} (le : taken ≤ tokens.length)
    (accepted : readFrom around taken d (tokens ++ more) = (d', .ok ())) :
    ∃ dA, readFrom around taken d tokens = (dA, .ok ()) ∧ readFrom around 0 dA more = (d', .ok ()) := by
  have parted : SameStep
      (andThen (readFrom around taken d tokens) fun d => readFrom around 0 d more)
      (readFrom around taken d (tokens ++ more)) :=
    readFrom_append afresh tokens taken d le
  rw [accepted] at parted
  cases first : readFrom around taken d tokens with
  | mk dA outcome =>
    rw [first] at parted
    cases outcome with
    | error failure => cases parted
    | ok _ =>
      refine ⟨dA, rfl, ?_⟩
      simp only [andThen] at parted
      generalize readFrom around 0 dA more = later at parted ⊢
      cases parted
      rfl

/-- A lexeme that closes what is open: a new slide, or an import. -/
def Opens (l : Lexeme) : Prop :=
  l = .directive .slide ∨ l = .directive .importDeck

/-- What a lexeme does to a fresh draft it does behind what there is, if it closes what is open. -/
theorem apply_opens (around : Surroundings) (opens : Opens l) (d : Draft) (window : List Lexeme) :
    (apply around d l window).2 = (apply around {} l window).2 ∧
      ∀ count, (apply around {} l window).2 = .ok count →
        (apply around d l window).1 = (apply around {} l window).1.behind d.take := by
  rcases opens with rfl | rfl
  · refine ⟨rfl, fun _ _ => ?_⟩
    simp [apply, applySlide, openSlide, enter, behind, take, flush, Slideshow.followedBy]
  · simp only [apply, applyImport]
    cases Argument.path window "an import" with
    | error e =>
      refine ⟨rfl, fun count read => ?_⟩
      cases read
    | ok written =>
      simp only
      cases around.load (around.base.join (Path.ofString written)) with
      | error failure =>
        refine ⟨rfl, fun count read => ?_⟩
        cases read
      | ok other =>
        refine ⟨rfl, fun _ _ => ?_⟩
        simp [changeDefaults, enter, behind, Slideshow.followedBy]

/-- Tokens that close first what is open are read behind it as they are read by a fresh reader. -/
theorem read_opening (around : Surroundings) {t : Token} (opens : Opens t.lexeme)
    (rest : List Token) (d : Draft) :
    (read around d (t :: rest)).2 = (read around {} (t :: rest)).2 ∧
      unread around d (t :: rest) = unread around {} (t :: rest) ∧
      ((read around {} (t :: rest)).2 = .ok () →
        (read around d (t :: rest)).1 = (read around {} (t :: rest)).1.behind d.take) := by
  obtain ⟨same, behind_⟩ := apply_opens around opens d ((rest.take windowSize).map Token.lexeme)
  simp only [read, unread, readFrom, unreadFrom]
  generalize apply around d t.lexeme ((rest.take windowSize).map Token.lexeme) = later,
    apply around {} t.lexeme ((rest.take windowSize).map Token.lexeme) = fresh at same behind_
  obtain ⟨d₁, outcome⟩ := fresh
  obtain ⟨d₂, outcome'⟩ := later
  cases same
  cases outcome with
  | error failure =>
    refine ⟨rfl, rfl, fun read => ?_⟩
    cases read
  | ok count =>
    obtain rfl : d₂ = d₁.behind d.take := behind_ count rfl
    obtain ⟨readSame, unreadSame⟩ := readFrom_behind around d.take rest count d₁
    dsimp only
    rw [readSame, unreadSame]
    exact ⟨rfl, rfl, fun _ => rfl⟩

/-- **Tokens that start with a new slide or an import are read after others as on their own.** They
end in the same way, at the same token if they fail. The slides come one after the other, and the
defaults are those of the later tokens where these set them. -/
theorem read_append_opening {tokens more : List Token}
    (accepted : read around {} tokens = (dA, .ok ()))
    (opens : ∃ t ∈ more.head?, Opens t.lexeme) :
    (read around {} (tokens ++ more)).2 = (read around {} more).2 ∧
      unread around {} (tokens ++ more) = unread around {} more ∧
      ∀ dC, read around {} more = (dC, .ok ()) →
        ∃ d, read around {} (tokens ++ more) = (d, .ok ()) ∧
          d.take.slides = dA.take.slides ++ dC.take.slides ∧
          d.take.background = dC.take.background.or dA.take.background ∧
          d.take.fontColor = dC.take.fontColor.or dA.take.fontColor ∧
          d.take.fontSize = dC.take.fontSize.or dA.take.fontSize := by
  obtain ⟨t, first, opens⟩ := opens
  obtain ⟨rest, rfl⟩ : ∃ rest, more = t :: rest := by
    cases more with
    | nil => cases first
    | cons _ rest =>
      cases first
      exact ⟨rest, rfl⟩
  have afresh : StartsAfresh (t :: rest) := by
    rintro _ ⟨⟩
    rcases opens with opens | opens <;> rw [opens] <;> rfl
  obtain ⟨readOn, unreadOn⟩ := readFrom_append_of_ok afresh (Nat.zero_le _) accepted
  obtain ⟨outcome, left, behind_⟩ := read_opening around opens rest dA
  have readOn : read around {} (tokens ++ t :: rest) = read around dA (t :: rest) := readOn
  refine ⟨readOn ▸ outcome, unreadOn.trans left, fun dC fresh => ?_⟩
  rw [fresh] at outcome behind_
  have read_ : read around dA (t :: rest) = (dC.behind dA.take, .ok ()) :=
    Prod.ext (behind_ rfl) outcome
  refine ⟨dC.behind dA.take, readOn.trans read_, ?_⟩
  rw [take_behind]
  exact ⟨rfl, rfl, rfl, rfl⟩

/-- Two decks with defaults, of which the second one sets the background again. -/
theorem read_append_opening_slides :
    ∃ d, read ⟨{}, Path.ofString ".", Deck.loader {} {} []⟩ {}
        (Token.tokenize ":ge :bc red :sz 0.5 1\n:sl\n:tb\nA\n" 0 ++
          Token.tokenize ":sl\n:ge :bc blue\n" 0) = (d, .ok ()) ∧
      d.take.slides = [{ sections := [⟨none, none, .text { text := "A\n" }⟩] }, {}] ∧
      d.take.background = some ⟨0, 0, 255, 255⟩ ∧ d.take.fontColor = none ∧
      d.take.fontSize = some ⟨0.5, 1⟩ := by
  have accepted : read ⟨{}, Path.ofString ".", Deck.loader {} {} []⟩ {}
      (Token.tokenize ":ge :bc red :sz 0.5 1\n:sl\n:tb\nA\n" 0) =
        (onSection { background := some ⟨255, 0, 0, 255⟩, fontSize := some ⟨0.5, 1⟩ } {}
          ⟨none, none, .text { text := "A\n" }⟩ .text, .ok ()) := by decide +kernel
  have fresh : read ⟨{}, Path.ofString ".", Deck.loader {} {} []⟩ {}
      (Token.tokenize ":sl\n:ge :bc blue\n" 0) =
        (⟨{ background := some ⟨0, 0, 255, 255⟩ }, some {}, .defaults⟩, .ok ()) := by decide +kernel
  have opens : ∃ t ∈ (Token.tokenize ":sl\n:ge :bc blue\n" 0).head?, Opens t.lexeme :=
    ⟨⟨.directive .slide, ⟨0, 0, 3⟩⟩, by decide +kernel, .inl rfl⟩
  exact (read_append_opening accepted opens).2.2 _ fresh

end Draft

end SlideDeck
