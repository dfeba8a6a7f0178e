import SlideDeck.Reader.Draft
import SlideDeck.Proofs.Outcome

/-!
# What a directive sees of the tokens after it

A directive looks at no more than `windowSize` tokens, and it reads its arguments from the first of
them on. So what it does cannot hang on what stands behind a token that is no argument: whether the
tokens end there or go on, it does the same, or fails in the same way.

**The law** (`Draft.apply_window`): with the tokens cut before one that is no argument, a lexeme
changes the draft as it does without the cut and takes as many tokens, which are all before the cut;
or it fails both times, and leaves the same draft. The two errors may differ in what they say, since
one of them sees that nothing follows and the other sees what follows. Their classes are the same, up
to a number out of a channel's range, which is told apart from other wrong arguments only if four
tokens are there (`ErrorKind.Akin`).
-/

namespace SlideDeck

/-! ## Errors of one class -/

/-- The class of wrong arguments, or its subclass for numbers that are no channel. -/
def ErrorKind.IsArity (k : ErrorKind) : Prop :=
  k = .arity ∨ k = .channelRange

/-- Classes that are the same, or both of wrong arguments. -/
def ErrorKind.Akin (k k' : ErrorKind) : Prop :=
  k = k' ∨ (k.IsArity ∧ k'.IsArity)

namespace ErrorKind.Akin

theorem refl (k : ErrorKind) : k.Akin k :=
  .inl rfl

theorem trans {k k' k'' : ErrorKind} (h : k.Akin k') (h' : k'.Akin k'') : k.Akin k'' := by
  rcases h with rfl | ⟨hk, hk'⟩
  · exact h'
  · rcases h' with rfl | ⟨_, hk''⟩
    · exact .inr ⟨hk, hk'⟩
    · exact .inr ⟨hk, hk''⟩

end ErrorKind.Akin

/-- Failures that are told apart at most by what they say: errors with one token and akin classes, or
one and the same fault. -/
inductive Failure.Alike : Failure → Failure → Prop where
  | deck {e e' : Located DeckError} (token : e.token = e'.token)
      (kind : e.cause.kind.Akin e'.cause.kind) : Alike (.deck e) (.deck e')
  | fault (f : Fault) : Alike (.fault f) (.fault f)

namespace Failure.Alike

theorem refl (f : Failure) : f.Alike f := by
  cases f with
  | deck e => exact .deck rfl (.refl _)
  | fault f => exact .fault f

theorem trans {f g h : Failure} (fg : f.Alike g) (gh : g.Alike h) : f.Alike h := by
  cases fg with
  | fault f => exact gh
  | deck token kind =>
    cases gh with
    | deck token' kind' => exact .deck (token.trans token') (kind.trans kind')

/-- A token is attached to both or to neither. -/
theorem attach {f g : Failure} (h : f.Alike g) (t : Token) : (f.attach t).Alike (g.attach t) := by
  cases h with
  | fault f => exact .fault f
  | deck token kind => exact .deck (by simp only [Located.attach, token]) kind

end Failure.Alike

/-- Outcomes that are the same, or errors of akin classes. -/
inductive SameReading {α : Type} : Except DeckError α → Except DeckError α → Prop where
  | ok (a : α) : SameReading (.ok a) (.ok a)
  | error {e e' : DeckError} (kind : e.kind.Akin e'.kind) : SameReading (.error e) (.error e')

namespace SameReading

variable {α β : Type}

theorem refl (x : Except DeckError α) : SameReading x x := by
  cases x with
  | ok a => exact .ok a
  | error e => exact .error (.refl _)

/-- Steps that go on in the same way from the same value. -/
theorem bind {x y : Except DeckError α} {f g : α → Except DeckError β} (h : SameReading x y)
    (next : ∀ a, x = .ok a → SameReading (f a) (g a)) : SameReading (x >>= f) (y >>= g) := by
  cases h with
  | ok a => exact next a rfl
  | error kind => exact .error kind

theorem map {x y : Except DeckError α} (f : α → β) (h : SameReading x y) :
    SameReading (x.map f) (y.map f) := by
  cases h with
  | ok a => exact .ok (f a)
  | error kind => exact .error kind

end SameReading

/-! ## Arguments -/

namespace Argument

variable {next : Lexeme}

/-- A number is sought no further than right behind the tokens that are there. -/
theorem number_window (stop : next.isArgument = false) {seen : List Lexeme} (later : List Lexeme)
    {place : Nat} (near : place ≤ seen.length) (what : String) :
    SameReading (number seen place what) (number (seen ++ next :: later) place what) := by
  unfold number
  rcases Nat.lt_or_eq_of_le near with inside | rfl
  · rw [List.getElem?_append_left inside]
    exact .refl _
  · rw [List.getElem?_eq_none (Nat.le_refl _), List.getElem?_append_right (Nat.le_refl _),
      Nat.sub_self, List.getElem?_cons_zero]
    cases next with
    | number x => cases stop
    | _ => exact .error (.refl _)

/-- A number that is read stands within the window. -/
theorem lt_of_number {window : List Lexeme} {place : Nat} {what : String} {x : Float}
    (h : number window place what = .ok x) : place < window.length := by
  unfold number at h
  cases hw : window[place]? with
  | none =>
    rw [hw] at h
    cases h
  | some l => exact (List.getElem?_eq_some_iff.mp hw).1

theorem path_window (stop : next.isArgument = false) (seen later : List Lexeme) (what : String) :
    SameReading (path seen what) (path (seen ++ next :: later) what) := by
  cases seen with
  | cons l seen =>
    cases l with
    | word p => exact .ok p
    | _ => exact .error (.refl _)
  | nil =>
    cases next with
    | word p => cases stop
    | _ => exact .error (.refl _)

theorem size_window (stop : next.isArgument = false) (seen later : List Lexeme) :
    SameReading (size seen) (size (seen ++ next :: later)) := by
  match seen with
  | [] =>
    cases next with
    | number x => cases stop
    | _ => exact .error (.refl _)
  | [.number x] =>
    cases next with
    | number y => cases stop
    | _ => exact .ok _
  | .number x :: l :: rest => cases l <;> exact .refl _
  | .directive _ :: _ | .textLine _ :: _ | .comment _ :: _ | .word _ :: _ => exact .error (.refl _)

/-- Four lexemes are channels only if they are arguments. -/
theorem isArgument_of_channel {l : Lexeme} {c : UInt8} (h : channel l = .ok c) :
    l.isArgument = true := by
  cases l with
  | number x => rfl
  | _ => cases h

/-- Four lexemes one of which is no argument are no color. -/
theorem channels_eq_error {r g b a : Lexeme}
    (stop : ∃ l ∈ [r, g, b, a], l.isArgument = false) : ∃ e, channels r g b a = .error e := by
  unfold channels
  cases hr : channel r with
  | error e => exact ⟨e, rfl⟩
  | ok _ =>
    cases hg : channel g with
    | error e => exact ⟨e, rfl⟩
    | ok _ =>
      cases hb : channel b with
      | error e => exact ⟨e, rfl⟩
      | ok _ =>
        cases ha : channel a with
        | error e => exact ⟨e, rfl⟩
        | ok _ =>
          obtain ⟨l, mem, no⟩ := stop
          have arguments : ∀ l ∈ [r, g, b, a], l.isArgument = true := by
            simp [isArgument_of_channel hr, isArgument_of_channel hg, isArgument_of_channel hb,
              isArgument_of_channel ha]
          rw [arguments l mem] at no
          cases no

/-- What has gone wrong with four channels makes no difference to how a word is read. -/
theorem colorWord_akin (failed failed' : Option ChannelError) (first : Lexeme) :
    SameReading (colorWord failed first) (colorWord failed' first) := by
  have arity : ∀ (failed : Option ChannelError) (l : Lexeme),
      (DeckError.notColor failed l).kind.IsArity := by
    rintro (_ | ⟨_ | _⟩) l
    · exact .inl rfl
    · exact .inl rfl
    · exact .inr rfl
  cases first with
  | word w =>
    simp only [colorWord]
    cases Color.parse w with
    | ok c => exact .ok c
    | error e => exact .error (.refl _)
  | _ => exact .error (.inr ⟨arity _ _, arity _ _⟩)

/-- Where one of the first four lexemes is no argument, only a word can be a color. -/
theorem color_eq_colorWord (first : Lexeme) (rest : List Lexeme)
    (stop : ∃ l ∈ (first :: rest).take windowSize, l.isArgument = false) :
    ∃ failed, color (first :: rest) = (colorWord failed first).map (·, 1) := by
  match rest, stop with
  | [], _ | [_], _ | [_, _], _ => exact ⟨none, rfl⟩
  | g :: b :: a :: rest, stop =>
    obtain ⟨e, he⟩ := channels_eq_error (r := first) (g := g) (b := b) (a := a) stop
    exact ⟨some e, by simp only [color, he]⟩

theorem color_window (stop : next.isArgument = false) {seen : List Lexeme}
    (short : seen.length < windowSize) (later : List Lexeme) :
    SameReading (color seen) (color (seen ++ next :: later)) := by
  cases seen with
  | nil =>
    obtain ⟨failed, h⟩ := color_eq_colorWord next later
      ⟨next, List.mem_cons_self, stop⟩
    rw [List.nil_append, h]
    cases next with
    | word w => cases stop
    | number x => cases stop
    | _ =>
      refine .error (.inr ⟨.inl rfl, ?_⟩)
      rcases failed with _ | ⟨_ | _⟩
      · exact .inl rfl
      · exact .inl rfl
      · exact .inr rfl
  | cons first seen =>
    have near : next ∈ ((first :: seen) ++ next :: later).take windowSize := by
      refine List.mem_take_iff_getElem.mpr ⟨(first :: seen).length, ?_, ?_⟩
      · simp only [List.length_append, List.length_cons] at short ⊢
        omega
      · simp
    obtain ⟨failed, h⟩ := color_eq_colorWord first (seen ++ next :: later)
      ⟨next, near, stop⟩
    have h' : color (first :: seen) = (colorWord none first).map (·, 1) := by
      match seen, short with
      | [], _ | [_], _ | [_, _], _ => rfl
    rw [List.cons_append, h, h']
    exact (colorWord_akin none failed first).map _

end Argument

/-! ## Directives -/

/-- Outcomes of two readings that leave the same draft, with the same answer or with alike
failures. -/
inductive SameStep {α : Type} : Draft × Except Failure α → Draft × Except Failure α → Prop where
  | ok (d : Draft) (a : α) : SameStep (d, .ok a) (d, .ok a)
  | error (d : Draft) {f g : Failure} (alike : f.Alike g) : SameStep (d, .error f) (d, .error g)

theorem SameStep.refl {α : Type} (x : Draft × Except Failure α) : SameStep x x := by
  obtain ⟨d, outcome⟩ := x
  cases outcome with
  | error f => exact .error d (.refl f)
  | ok a => exact .ok d a

namespace Draft

variable {next : Lexeme} {around : Surroundings} {d : Draft}

/-- Readings of one directive that are the same lead to the same step. -/
theorem attemptDeck_same {x y : Except DeckError (Draft × Nat)} (h : SameReading x y) :
    SameStep (d.attemptDeck x) (d.attemptDeck y) := by
  cases h with
  | ok a => exact .refl _
  | error kind => exact .error d (.deck rfl kind)

theorem applyPosition_window (stop : next.isArgument = false) (seen later : List Lexeme) :
    SameReading (d.applyPosition seen) (d.applyPosition (seen ++ next :: later)) := by
  refine .bind (.refl _) fun _ _ => .bind (.refl _) fun _ _ => ?_
  refine .bind (Argument.number_window stop later (Nat.zero_le _) _) fun x hx => ?_
  exact .bind (Argument.number_window stop later (Argument.lt_of_number hx) _) fun y _ => .refl _

theorem applySize_window (stop : next.isArgument = false) (seen later : List Lexeme) :
    SameReading (d.applySize seen) (d.applySize (seen ++ next :: later)) := by
  refine .bind (.refl _) fun _ _ => ?_
  have size := Argument.size_window stop seen later
  by_cases defaults : d.context = .defaults
  · simp only [if_pos defaults]
    exact .bind size fun _ _ => .refl _
  · simp only [if_neg defaults]
    exact .bind (.refl _) fun _ _ => .bind size fun _ _ => .refl _

theorem applyRotation_window (stop : next.isArgument = false) (seen later : List Lexeme) :
    SameReading (d.applyRotation seen) (d.applyRotation (seen ++ next :: later)) := by
  refine .bind (.refl _) fun _ _ => .bind (.refl _) fun _ _ => ?_
  exact .bind (Argument.number_window stop later (Nat.zero_le _) _) fun x _ => .refl _

theorem applyFontColor_window (stop : next.isArgument = false) {seen : List Lexeme}
    (short : seen.length < windowSize) (later : List Lexeme) :
    SameReading (d.applyFontColor seen) (d.applyFontColor (seen ++ next :: later)) := by
  refine .bind (.refl _) fun _ _ => ?_
  have color := Argument.color_window stop short later
  by_cases defaults : d.context = .defaults
  · simp only [if_pos defaults]
    exact .bind color fun _ _ => .refl _
  · simp only [if_neg defaults]
    exact .bind (.refl _) fun _ _ => .bind color fun _ _ => .refl _

theorem applyBackground_window (stop : next.isArgument = false) {seen : List Lexeme}
    (short : seen.length < windowSize) (later : List Lexeme) :
    SameReading (d.applyBackground seen) (d.applyBackground (seen ++ next :: later)) := by
  refine .bind (.refl _) fun _ _ => ?_
  have color := Argument.color_window stop short later
  by_cases defaults : d.context = .defaults
  · simp only [if_pos defaults]
    exact .bind color fun _ _ => .refl _
  · simp only [if_neg defaults]
    exact .bind (.refl _) fun _ _ => .bind color fun _ _ => .refl _

theorem applyFigure_window (stop : next.isArgument = false) (seen later : List Lexeme) :
    SameStep (d.attempt (applyFigure around d seen))
      (d.attempt (applyFigure around d (seen ++ next :: later))) := by
  unfold applyFigure
  cases d.currentSlide with
  | error e => exact .refl _
  | ok s =>
    have path := Argument.path_window stop seen later "a figure"
    generalize Argument.path seen "a figure" = read, Argument.path (seen ++ _) "a figure" = read'
      at path
    cases path with
    | ok written => exact .refl _
    | error kind => exact .error d (.deck rfl kind)

theorem applyImport_window (stop : next.isArgument = false) (seen later : List Lexeme) :
    SameStep (applyImport around d seen) (applyImport around d (seen ++ next :: later)) := by
  unfold applyImport
  have path := Argument.path_window stop seen later "an import"
  generalize Argument.path seen "an import" = read, Argument.path (seen ++ _) "an import" = read'
    at path
  cases path with
  | ok written => exact .refl _
  | error kind => exact .error d (.deck rfl kind)

/-- **What stands behind a token that is no argument makes no difference to a lexeme**, whether that
token is in sight or not. -/
theorem apply_window (stop : next.isArgument = false) (l : Lexeme) (seen later : List Lexeme) :
    SameStep (apply around d l (seen.take windowSize))
      (apply around d l ((seen ++ next :: later).take windowSize)) := by
  rcases Nat.lt_or_ge seen.length windowSize with short | long
  · obtain ⟨more, cut⟩ : ∃ more,
        (seen ++ next :: later).take windowSize = seen ++ next :: more := by
      refine ⟨later.take (windowSize - seen.length - 1), ?_⟩
      rw [List.take_append, List.take_of_length_le (Nat.le_of_lt short)]
      obtain ⟨room, hroom⟩ : ∃ room, windowSize - seen.length = room + 1 :=
        ⟨windowSize - seen.length - 1, by omega⟩
      rw [hroom, List.take_succ_cons, Nat.add_sub_cancel]
    rw [cut, List.take_of_length_le (Nat.le_of_lt short)]
    cases l with
    | directive directive =>
      cases directive with
      | figure => exact applyFigure_window stop seen more
      | position => exact attemptDeck_same (applyPosition_window stop seen more)
      | size => exact attemptDeck_same (applySize_window stop seen more)
      | rotation => exact attemptDeck_same (applyRotation_window stop seen more)
      | fontColor => exact attemptDeck_same (applyFontColor_window stop short more)
      | background => exact attemptDeck_same (applyBackground_window stop short more)
      | importDeck => exact applyImport_window stop seen more
      | _ => exact .refl _
    | _ => exact .refl _
  · rw [List.take_append_of_le_length long]
    exact .refl _

end Draft

end SlideDeck
