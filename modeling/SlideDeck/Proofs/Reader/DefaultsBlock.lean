import SlideDeck.Proofs.Reader.Append

/-!
# Defaults between sections

A block of defaults is announced, and then sets some of them. While it is read nothing but defaults
changes: the closed slides and the open one stay as they are, and the values that are set do not
hang on what was there before (`readFrom_settings`). What comes next is a directive that may stand
anywhere, a new slide, a section, an import or further defaults; it does the same in every context
(`apply_enter`).

**The law** (`read_defaultsBlock`): what follows the block is read as it is read without the block
once the defaults have the values of the block. So a block may stand between any two sections, even
on an open slide.
-/

namespace SlideDeck

/-! ## Defaults -/

/-- The slideshow with the defaults of another one, where that has them. -/
def Slideshow.withDefaults (s t : Slideshow) : Slideshow :=
  { s with
    background := t.background.or s.background
    fontColor := t.fontColor.or s.fontColor
    fontSize := t.fontSize.or s.fontSize }

/-- A lexeme that sets a default among the defaults, or that is an argument. -/
def Lexeme.IsSetting (l : Lexeme) : Prop :=
  l ∈ [.directive .background, .directive .fontColor, .directive .size] ∨ l.isArgument = true

/-- A directive that hangs on no context: defaults, a new slide, a section, or an import. -/
def Lexeme.StandsAnywhere (l : Lexeme) : Prop :=
  l ∈ [.directive .defaults, .directive .slide, .directive .text, .directive .figure,
    .directive .importDeck]

namespace Draft

variable {around : Surroundings} {d dG : Draft} {l : Lexeme} {window : List Lexeme}

/-- The draft with the defaults of a slideshow, where that has them. -/
def withDefaults (d : Draft) (t : Slideshow) : Draft :=
  d.changeDefaults fun s => s.withDefaults t

/-- Tokens that announce defaults and then set any number of them. -/
inductive IsDefaultsBlock : List Token → Prop where
  | mk {t : Token} {settings : List Token} (announced : t.lexeme = .directive .defaults)
    (sets : ∀ u ∈ settings, u.lexeme.IsSetting) : IsDefaultsBlock (t :: settings)

/-! ## Reading a block -/

/-- A setting sets the same default over any slideshow. -/
theorem apply_setting {t : Slideshow} {d' : Draft} {count : Nat} (setting : l.IsSetting)
    (made : apply around ((d.withDefaults t).enter .defaults) l window = (d', .ok count)) :
    ∃ t' : Slideshow,
      apply around ⟨t, none, .defaults⟩ l window = (⟨t', none, .defaults⟩, .ok count) ∧
      t'.slides = t.slides ∧ d' = (d.withDefaults t').enter .defaults := by
  cases carriesOut_of_apply made with
  | defaultSize _ size =>
    exact ⟨_, (CarriesOut.defaultSize (d := ⟨t, none, .defaults⟩) rfl size).apply_eq, rfl, rfl⟩
  | defaultFontColor _ color =>
    exact ⟨_, (CarriesOut.defaultFontColor (d := ⟨t, none, .defaults⟩) rfl color).apply_eq, rfl, rfl⟩
  | defaultBackground _ color =>
    exact ⟨_, (CarriesOut.defaultBackground (d := ⟨t, none, .defaults⟩) rfl color).apply_eq, rfl, rfl⟩
  | size inside | fontColor inside | background inside => exact absurd inside (by simp [enter])
  | defaults | slide | text | figure | position | rotation | importDeck | line | blank | comment =>
    simp [Lexeme.IsSetting, Lexeme.isArgument] at setting

/-- **Settings set the same defaults over any slideshow**, by induction on their tokens: the draft
is always the one from before the block, with the defaults that a fresh reader has by then. -/
theorem readFrom_settings {tokens : List Token} (sets : ∀ u ∈ tokens, u.lexeme.IsSetting)
    {taken : Nat} {t : Slideshow}
    (accepted : readFrom around taken ((d.withDefaults t).enter .defaults) tokens = (dG, .ok ())) :
    ∃ t' : Slideshow, readFrom around taken ⟨t, none, .defaults⟩ tokens =
        (⟨t', none, .defaults⟩, .ok ()) ∧
      t'.slides = t.slides ∧ dG = (d.withDefaults t').enter .defaults := by
  induction tokens generalizing taken t with
  | nil =>
    rw [readFrom] at accepted
    cases accepted
    exact ⟨t, by rw [readFrom], rfl, rfl⟩
  | cons u rest ih =>
    obtain ⟨setting, sets⟩ := List.forall_mem_cons.mp sets
    cases taken with
    | succ taken => exact ih sets accepted
    | zero =>
      rw [readFrom] at accepted
      cases made : apply around ((d.withDefaults t).enter .defaults) u.lexeme
          ((rest.take windowSize).map Token.lexeme) with
      | mk next outcome =>
        rw [made] at accepted
        cases outcome with
        | error failure => cases accepted
        | ok count =>
          obtain ⟨t₁, fresh, slides₁, rfl⟩ := apply_setting setting made
          obtain ⟨t₂, later, slides₂, same⟩ := ih sets accepted
          refine ⟨t₂, ?_, slides₂.trans slides₁, same⟩
          rw [readFrom, fresh]
          exact later

/-- A block sets the defaults that a fresh reader has after it, and changes nothing else. -/
theorem read_block {block : List Token} (isBlock : IsDefaultsBlock block)
    (accepted : read around d block = (dG, .ok ())) :
    ∃ t : Slideshow, read around {} block = (⟨t, none, .defaults⟩, .ok ()) ∧ t.slides = [] ∧
      dG = (d.withDefaults t).enter .defaults := by
  obtain ⟨announced, sets⟩ := isBlock
  rename_i t settings
  have first (e : Draft) : read around e (t :: settings) =
      readFrom around 0 (e.enter .defaults) settings := by
    rw [read, readFrom, announced]
    rfl
  rw [first] at accepted ⊢
  exact readFrom_settings (t := {}) sets accepted

/-! ## What follows a block -/

/-- The outcome of two steps is the same, and so are their drafts if they succeed. -/
def SameOutcome {α : Type} (x y : Draft × Except Failure α) : Prop :=
  x.2 = y.2 ∧ ∀ a, y.2 = .ok a → x.1 = y.1

theorem SameOutcome.refl {α : Type} (x : Draft × Except Failure α) : SameOutcome x x :=
  ⟨rfl, fun _ _ => rfl⟩

theorem SameOutcome.error {α : Type} (d e : Draft) (failure : Failure) :
    SameOutcome (α := α) (d, .error failure) (e, .error failure) := by
  refine ⟨rfl, fun a success => ?_⟩
  cases success

@[simp]
theorem pushSection_enter (d : Draft) (c : Context) (b : Body) :
    (d.enter c).pushSection b = (d.pushSection b).map fun d => d.enter c := by
  simp only [pushSection, currentSlide_enter]
  cases d.currentSlide <;> rfl

@[simp]
theorem applyText_enter (d : Draft) (c : Context) : (d.enter c).applyText = d.applyText := by
  simp only [applyText, pushSection_enter]
  cases d.pushSection (.text {}) <;> rfl

@[simp]
theorem applyFigure_enter (d : Draft) (c : Context) :
    applyFigure around (d.enter c) window = applyFigure around d window := by
  simp only [applyFigure, currentSlide_enter]
  cases d.currentSlide with
  | error e => rfl
  | ok _ =>
    simp only [pushSection_enter]
    cases Argument.path window "a figure" with
    | error e => rfl
    | ok written =>
      simp only
      cases around.files.resolve (around.base.join (Path.ofString written)) with
      | error fault => cases fault <;> rfl
      | ok found =>
        simp only
        cases d.pushSection (.figure ⟨found.text, 0.0⟩) <;> rfl

/-- **A directive that may stand anywhere hangs on no context**, and neither does what it makes. -/
theorem apply_enter (around : Surroundings) (window : List Lexeme) (anywhere : l.StandsAnywhere)
    (d : Draft) (c : Context) :
    SameOutcome (apply around (d.enter c) l window) (apply around d l window) := by
  simp only [Lexeme.StandsAnywhere, List.mem_cons, List.not_mem_nil, or_false] at anywhere
  rcases anywhere with rfl | rfl | rfl | rfl | rfl
  · exact .refl _
  · simp only [apply, applySlide, openSlide, flush_enter]
    exact .refl _
  · simp only [apply, applyText_enter]
    cases d.applyText with
    | error e => exact .error _ _ _
    | ok made => exact .refl _
  · simp only [apply, applyFigure_enter]
    cases applyFigure around d window with
    | error failure => exact .error _ _ _
    | ok made => exact .refl _
  · simp only [apply, applyImport, flush_enter]
    cases Argument.path window "an import" with
    | error e => exact .error _ _ _
    | ok written =>
      simp only
      cases around.load (around.base.join (Path.ofString written)) with
      | error failure => exact .error _ _ _
      | ok other => exact .refl _

/-- Tokens whose first one may stand anywhere are read alike in every context. -/
theorem read_enter (around : Surroundings) {more : List Token}
    (starts : ∃ t ∈ more.head?, t.lexeme.StandsAnywhere) (d : Draft) (c : Context) :
    SameOutcome (read around (d.enter c) more) (read around d more) := by
  obtain ⟨t, first, anywhere⟩ := starts
  obtain ⟨rest, rfl⟩ := List.head?_eq_some_iff.mp first
  have step := apply_enter around ((rest.take windowSize).map Token.lexeme) anywhere d c
  simp only [read, readFrom]
  generalize apply around (d.enter c) t.lexeme ((rest.take windowSize).map Token.lexeme) = x,
    apply around d t.lexeme ((rest.take windowSize).map Token.lexeme) = y at step ⊢
  obtain ⟨dx, outcome⟩ := x
  obtain ⟨dy, outcome'⟩ := y
  obtain ⟨rfl, same⟩ := step
  cases outcome with
  | error failure => exact .error _ _ _
  | ok count =>
    obtain rfl : dx = dy := same count rfl
    exact .refl _

theorem isArgument_of_standsAnywhere (anywhere : l.StandsAnywhere) : l.isArgument = false := by
  simp only [Lexeme.StandsAnywhere, List.mem_cons, List.not_mem_nil, or_false] at anywhere
  rcases anywhere with rfl | rfl | rfl | rfl | rfl <;> rfl

/-! ## The law -/

/-- **Defaults may be set anywhere between sections.** A block that is read sets the defaults `t`
that a fresh reader has after it, and changes nothing else but the context. What comes behind it,
along with the block or later, is read as it is read by the draft that has these defaults, without
the block: it succeeds or fails in the same way, and comes to the same draft if it succeeds. -/
theorem read_defaultsBlock {block more : List Token} (isBlock : IsDefaultsBlock block)
    (accepted : read around d block = (dG, .ok ()))
    (starts : ∃ t ∈ more.head?, t.lexeme.StandsAnywhere) :
    ∃ t : Slideshow, read around {} block = (⟨t, none, .defaults⟩, .ok ()) ∧ t.slides = [] ∧
      dG = (d.withDefaults t).enter .defaults ∧
      read around d (block ++ more) = read around dG more ∧
      (read around dG more).2 = (read around (d.withDefaults t) more).2 ∧
      ∀ d', read around dG more = (d', .ok ()) ↔
        read around (d.withDefaults t) more = (d', .ok ()) := by
  obtain ⟨t, fresh, noSlides, rfl⟩ := read_block isBlock accepted
  have afresh : StartsAfresh more := by
    obtain ⟨u, first, anywhere⟩ := starts
    intro u' first'
    cases first.symm.trans first'
    exact isArgument_of_standsAnywhere anywhere
  obtain ⟨outcome, same⟩ := read_enter around starts (d.withDefaults t) .defaults
  refine ⟨t, fresh, noSlides, rfl, ?_, outcome, fun d' => ⟨fun read_ => ?_, fun read_ => ?_⟩⟩
  · exact (readFrom_append_of_ok afresh (Nat.zero_le _) accepted).1
  · have success : (read around (d.withDefaults t) more).2 = .ok () := by rw [← outcome, read_]
    exact Prod.ext ((same () success).symm.trans (by rw [read_])) success
  · have success : (read around (d.withDefaults t) more).2 = .ok () := by rw [read_]
    exact Prod.ext ((same () success).trans (by rw [read_])) (outcome.trans success)

/-- Defaults between two texts of a slide; the second text and what follows are read as without
them. -/
theorem read_defaultsBlock_between_texts :
    let around : Surroundings := ⟨{}, Path.ofString ".", Deck.loader {} {} []⟩
    let d := onSection { fontSize := some ⟨2, 3⟩ } {} ⟨none, none, .text { text := "A\n" }⟩ .text
    let block := Token.tokenize ":ge :bc red :fc 1 2 3 4\n:bc blue\n" 1
    let more := Token.tokenize ":tb\nB\n:sl\n" 3
    read around d (block ++ more) = (⟨⟨[⟨none, [⟨none, none, .text { text := "A\n" }⟩,
      ⟨none, none, .text { text := "B\n" }⟩]⟩], {}, some ⟨0, 0, 255, 255⟩, some ⟨1, 2, 3, 4⟩,
      some ⟨2, 3⟩⟩, some {}, .slide⟩, .ok ()) := by
  intro around d block more
  have isBlock : IsDefaultsBlock block := by
    have tokens : block = ⟨.directive .defaults, ⟨1, 0, 3⟩⟩ :: block.tail := by decide +kernel
    rw [tokens]
    exact .mk rfl (by unfold Lexeme.IsSetting; decide +kernel)
  have accepted : read around d block =
      (⟨⟨[], {}, some ⟨0, 0, 255, 255⟩, some ⟨1, 2, 3, 4⟩, some ⟨2, 3⟩⟩, d.slide, .defaults⟩,
        .ok ()) := by
    decide +kernel
  have starts : ∃ t ∈ more.head?, t.lexeme.StandsAnywhere :=
    ⟨⟨.directive .text, ⟨3, 0, 3⟩⟩, by decide +kernel, by simp [Lexeme.StandsAnywhere]⟩
  obtain ⟨t, fresh, -, -, joined, -, law⟩ := read_defaultsBlock isBlock accepted starts
  have values : read around {} block =
      (⟨⟨[], {}, some ⟨0, 0, 255, 255⟩, some ⟨1, 2, 3, 4⟩, none⟩, none, .defaults⟩, .ok ()) := by
    decide +kernel
  cases fresh.symm.trans values
  rw [joined, law]
  decide +kernel

end Draft

end SlideDeck
