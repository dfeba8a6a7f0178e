import SlideDeck.Proofs.Reader.Append

/-!
# Comments and blank lines

A reader passes over comments, and outside of texts over blank lines (`Draft.passesOver`). Such a token
changes nothing, takes no arguments and is none. But it stands in the window of the directives before
it, and without it they see what is behind it; what keeps this from making a difference is that no
argument can be behind it.

**The step** (`read_idle_iff`): with one such token tokens are read as without it, where no argument
comes next. **The law** (`read_withoutIdle_and_sprinkled`): tokens that can be read are read alike
without all those that are passed over, and with any that are put between them.
-/

namespace SlideDeck.Draft

/-- Whether a draft passes over a lexeme: a comment anywhere, a blank line outside of texts. -/
def passesOver (d : Draft) : Lexeme → Bool
  | .comment _ => true
  | .textLine line => d.context ≠ .text && Text.isBlankLine line.toList
  | _ => false

/-- The tokens that come after the given ones, without those that are passed over: by the draft that
the tokens before them have led to. -/
def withoutIdleAfter (around : Surroundings) (d : Draft) (before : List Token) :
    List Token → List Token
  | [] => []
  | t :: rest =>
    let others := withoutIdleAfter around d (before ++ [t]) rest
    if (read around d before).1.passesOver t.lexeme then others else t :: others

/-- Tokens without those that are passed over. -/
def withoutIdle (around : Surroundings) (d : Draft) (tokens : List Token) : List Token :=
  withoutIdleAfter around d [] tokens

/-- The tokens that come after the given ones, with tokens put between them that are passed over where
they come in: at the end, or before a token that is no argument. -/
inductive Sprinkled (around : Surroundings) (d : Draft) :
    List Token → List Token → List Token → Prop where
  | nil (before : List Token) : Sprinkled around d before [] []
  | keep {before : List Token} {t : Token} {rest more : List Token}
    (later : Sprinkled around d (before ++ [t]) rest more) :
    Sprinkled around d before (t :: rest) (t :: more)
  | insert {before : List Token} {t : Token} {rest more : List Token} (afresh : StartsAfresh rest)
    (idle : (read around d before).1.passesOver t.lexeme = true)
    (later : Sprinkled around d before rest more) : Sprinkled around d before rest (t :: more)

variable {around : Surroundings} {d d' : Draft} {l : Lexeme} {t : Token}
  {before after tokens more : List Token}

/-! ## One token -/

theorem isArgument_of_passesOver (idle : d.passesOver l = true) : l.isArgument = false := by
  cases l with
  | word | number => cases idle
  | directive | textLine | comment => rfl

/-- What is passed over changes nothing and takes nothing. -/
theorem apply_of_passesOver (idle : d.passesOver l = true) (window : List Lexeme) :
    apply around d l window = (d, .ok 0) := by
  cases l with
  | comment line => rfl
  | textLine line =>
    simp only [passesOver, ne_eq, Bool.and_eq_true, decide_eq_true_eq] at idle
    obtain ⟨outside, blank⟩ := idle
    exact (CarriesOut.blank outside blank).apply_eq
  | directive | word | number => cases idle

theorem read_cons_of_passesOver (idle : d.passesOver t.lexeme = true) (rest : List Token) :
    read around d (t :: rest) = read around d rest := by
  simp only [read, readFrom, apply_of_passesOver idle]

/-- Tokens that can be read do not start with an argument. -/
theorem startsAfresh_of_read (accepted : read around d tokens = (d', .ok ())) :
    StartsAfresh tokens := by
  intro t first
  obtain ⟨rest, rfl⟩ := List.head?_eq_some_iff.mp first
  rw [read, readFrom] at accepted
  cases said : t.lexeme with
  | word | number =>
    rw [said] at accepted
    cases accepted
  | directive | textLine | comment => rfl

/-- **With a token that is passed over tokens are read as without it**, where no argument comes next.
The tokens before it are read to their end both times, and so it is passed over by the draft that they
lead to. -/
theorem read_idle_iff (idle : (read around d before).1.passesOver t.lexeme = true) :
    read around d (before ++ t :: after) = (d', .ok ()) ↔
      StartsAfresh after ∧ read around d (before ++ after) = (d', .ok ()) := by
  have afresh : StartsAfresh (t :: after) := by
    rintro _ ⟨⟩
    exact isArgument_of_passesOver idle
  have enough : 0 ≤ before.length := Nat.zero_le _
  constructor
  · intro accepted
    obtain ⟨reached, first, second⟩ := ok_of_readFrom_append afresh enough accepted
    have idle : reached.passesOver t.lexeme = true := by rwa [read, first] at idle
    have rest : read around reached after = (d', .ok ()) :=
      (read_cons_of_passesOver idle after).symm.trans second
    have next := startsAfresh_of_read rest
    exact ⟨next, ((readFrom_append_of_ok next enough first).1).trans rest⟩
  · rintro ⟨next, accepted⟩
    obtain ⟨reached, first, second⟩ := ok_of_readFrom_append next enough accepted
    have idle : reached.passesOver t.lexeme = true := by rwa [read, first] at idle
    have rest : read around reached (t :: after) = (d', .ok ()) :=
      (read_cons_of_passesOver idle after).trans second
    exact ((readFrom_append_of_ok afresh enough first).1).trans rest

/-! ## All tokens -/

/-- Tokens that can be read are read alike without those that are passed over, by induction on the tokens
that have not been looked at yet. -/
theorem read_withoutIdleAfter (accepted : read around d (before ++ tokens) = (d', .ok ())) :
    read around d (before ++ withoutIdleAfter around d before tokens) = (d', .ok ()) := by
  induction tokens generalizing before with
  | nil => exact accepted
  | cons t rest ih =>
    have step : read around d (before ++ t :: withoutIdleAfter around d (before ++ [t]) rest) =
        (d', .ok ()) := by
      have whole : read around d ((before ++ [t]) ++ rest) = (d', .ok ()) := by
        rwa [List.append_assoc]
      have fewer := ih whole
      rwa [List.append_assoc] at fewer
    rw [withoutIdleAfter]
    split
    · rename_i idle
      exact ((read_idle_iff idle).mp step).2
    · exact step

/-- Tokens that come in leave the start of the others as it is, or come before it. -/
theorem Sprinkled.startsAfresh (h : Sprinkled around d before tokens more)
    (afresh : StartsAfresh tokens) : StartsAfresh more := by
  cases h with
  | nil => exact afresh
  | keep later => exact afresh
  | insert _ idle later =>
    rintro _ ⟨⟩
    exact isArgument_of_passesOver idle

/-- Tokens that can be read are read alike with others between them that are passed over. -/
theorem Sprinkled.read (h : Sprinkled around d before tokens more)
    (accepted : read around d (before ++ tokens) = (d', .ok ())) :
    Draft.read around d (before ++ more) = (d', .ok ()) := by
  induction h with
  | nil => exact accepted
  | @keep before t rest more later ih =>
    have whole : Draft.read around d ((before ++ [t]) ++ rest) = (d', .ok ()) := by
      rwa [List.append_assoc]
    have more := ih whole
    rwa [List.append_assoc] at more
  | insert afresh idle later ih =>
    exact (read_idle_iff idle).mpr ⟨later.startsAfresh afresh, ih accepted⟩

/-- **Comments, and blank lines outside of texts, make no difference.** Tokens that can be read lead to the
same draft without all of these, and with any more of them that are put at the end or before tokens that
are no arguments. -/
theorem read_withoutIdle_and_sprinkled (accepted : read around d tokens = (d', .ok ())) :
    read around d (withoutIdle around d tokens) = (d', .ok ()) ∧
      ∀ more, Sprinkled around d [] tokens more → read around d more = (d', .ok ()) :=
  ⟨@read_withoutIdleAfter around d d' [] tokens accepted, fun _ sprinkled => sprinkled.read accepted⟩

/-- A blank line in a text is one of its lines, and stays; a comment goes, and two other ones and a blank
line come in. -/
theorem read_withoutIdle_and_sprinkled_notes :
    let around : Surroundings := ⟨{}, Path.ofString ".", Deck.loader {} {} []⟩
    let slide : Token := ⟨.directive .slide, ⟨0, 0, 3⟩⟩
    let note : Token := ⟨.comment "# note", ⟨1, 0, 6⟩⟩
    let text : Token := ⟨.directive .text, ⟨2, 0, 3⟩⟩
    let blank : Token := ⟨.textLine " ", ⟨3, 0, 1⟩⟩
    let line : Token := ⟨.textLine "A", ⟨4, 0, 1⟩⟩
    let d := onSection {} {} ⟨none, none, .text { text := " \nA\n" }⟩ .text
    read around {} [slide, text, blank, line] = (d, .ok ()) ∧
      read around {} [slide, blank, note, text, note, blank, line, note] = (d, .ok ()) := by
  intro around slide note text blank line d
  have accepted : read around {} [slide, note, text, blank, line] = (d, .ok ()) := by decide +kernel
  obtain ⟨fewer, more⟩ := read_withoutIdle_and_sprinkled accepted
  have left : withoutIdle around {} [slide, note, text, blank, line] =
      [slide, text, blank, line] := by
    decide +kernel
  have sprinkled : Sprinkled around {} [] [slide, note, text, blank, line]
      [slide, blank, note, text, note, blank, line, note] :=
    .keep <| .insert (by decide) (by decide +kernel) <| .keep <| .keep <|
      .insert (by decide) (by decide +kernel) <| .keep <| .keep <|
        .insert (by decide) (by decide +kernel) <| .nil _
  exact ⟨left ▸ fewer, more _ sprinkled⟩

end SlideDeck.Draft
