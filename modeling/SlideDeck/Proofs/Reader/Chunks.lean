import SlideDeck.Proofs.Reader.CarriedOut
import SlideDeck.Proofs.Text.Lines
import SlideDeck.Reader.Deck

/-!
# Decks in pieces

A deck that comes in pieces is read piece by piece, each with the draft that the one before it has
left. A directive at the end of a piece sees no tokens of the next piece, so the pieces must not part
it from its arguments: each of them starts with something else than an argument (`StartsAfresh`).

**The law** (`parseChunks_agrees`): pieces of whole lines that start afresh are read as the text that
they make together. It rests on two facts. The tokens of the whole are those of the pieces, one after
the other, at the same lines (`Token.tokenize_append`); and a list of tokens may be parted before any
token that is no argument (`Draft.readFrom_append`), for what a lexeme does cannot hang on the tokens
from there on (`Draft.apply_window`).

Where both readings fail, it is at the same token. What the errors say may differ, since at the end of
a piece nothing follows.
-/

namespace SlideDeck

theorem SameStep.trans {α : Type} {x y z : Draft × Except Failure α} (xy : SameStep x y)
    (yz : SameStep y z) : SameStep x z := by
  cases xy with
  | ok d a => exact yz
  | error d fg =>
    cases yz with
    | error d gh => exact .error d (fg.trans gh)

namespace Draft

variable {around : Surroundings}

/-! ## Parting a list of tokens -/

/-- Goes on with the draft of a reading that has come to its end. -/
def andThen (x : Draft × Except Failure Unit) (f : Draft → Draft × Except Failure Unit) :
    Draft × Except Failure Unit :=
  match x with
  | (d, .error failure) => (d, .error failure)
  | (d, .ok ()) => f d

/-- The same reading, gone on with in the same way. -/
theorem andThen_same {x y : Draft × Except Failure Unit}
    {f g : Draft → Draft × Except Failure Unit} (h : SameStep x y)
    (next : ∀ d, SameStep (f d) (g d)) : SameStep (andThen x f) (andThen y g) := by
  cases h with
  | ok d _ => exact next d
  | error d alike => exact .error d alike

/-- The first token of a list, if there is one, is no argument. -/
def StartsAfresh (tokens : List Token) : Prop :=
  ∀ t ∈ tokens.head?, t.lexeme.isArgument = false

instance (tokens : List Token) : Decidable (StartsAfresh tokens) :=
  decidable_of_iff ((tokens.head?.all fun t => !t.lexeme.isArgument) = true) <| by
    cases tokens <;> simp [StartsAfresh]

/-- A lexeme does the same before a cut as without it, or fails in the same way. -/
theorem apply_cut (around : Surroundings) {more : List Token} (afresh : StartsAfresh more) (d : Draft)
    (l : Lexeme) (rest : List Token) :
    SameStep (apply around d l ((rest.take windowSize).map Token.lexeme))
      (apply around d l (((rest ++ more).take windowSize).map Token.lexeme)) := by
  cases more with
  | nil =>
    rw [List.append_nil]
    exact .refl _
  | cons next later =>
    rw [List.map_take, List.map_take, List.map_append, List.map_cons]
    exact apply_window (afresh next rfl) l _ _

/-- The arguments that a lexeme takes are among the tokens after it. -/
theorem count_le_of_apply {rest : List Token} {d d' : Draft} {l : Lexeme} {count : Nat}
    (h : apply around d l ((rest.take windowSize).map Token.lexeme) = (d', .ok count)) :
    count ≤ rest.length := by
  have seen := apply_count_le h
  rw [List.length_map, List.length_take] at seen
  exact Nat.le_trans seen (Nat.min_le_right _ _)

/-- **A list of tokens may be parted before a token that is no argument.** By induction on the tokens
before it: the window of each of them is cut there or is whole, which makes no difference to it, and
it takes no arguments from behind the cut. -/
theorem readFrom_append {more : List Token} (afresh : StartsAfresh more) (tokens : List Token) :
    ∀ (taken : Nat) (d : Draft), taken ≤ tokens.length →
      SameStep (andThen (readFrom around taken d tokens) fun d => readFrom around 0 d more)
        (readFrom around taken d (tokens ++ more)) := by
  induction tokens with
  | nil =>
    intro taken d le
    obtain rfl : taken = 0 := Nat.le_zero.mp le
    exact .refl _
  | cons t rest ih =>
    intro taken d le
    cases taken with
    | succ taken => exact ih taken d (Nat.le_of_succ_le_succ le)
    | zero =>
      have step := apply_cut around afresh d t.lexeme rest
      have bound : ∀ {d' : Draft} {count : Nat},
          apply around d t.lexeme ((rest.take windowSize).map Token.lexeme) = (d', .ok count) →
            count ≤ rest.length := count_le_of_apply
      simp only [List.cons_append, readFrom]
      generalize apply around d t.lexeme ((rest.take windowSize).map Token.lexeme) = cut,
        apply around d t.lexeme (((rest ++ more).take windowSize).map Token.lexeme) = whole
        at step bound
      cases step with
      | ok d' count => exact ih count d' (bound rfl)
      | error d' alike => exact .error d' (alike.attach t)

/-! ## Places of errors -/

/-- An error that reading ends with is one of a token. -/
theorem token_of_readFrom {taken : Nat} {d d' : Draft} {tokens : List Token}
    {e : Located DeckError} (h : readFrom around taken d tokens = (d', .error (.deck e))) :
    ∃ t, e.token = some t := by
  induction tokens generalizing taken d with
  | nil => cases h
  | cons t rest ih =>
    cases taken with
    | succ taken => exact ih h
    | zero =>
      simp only [readFrom] at h
      split at h
      · rename_i failure _
        cases failure with
        | fault fault => cases h
        | deck inner =>
          cases h
          cases hi : inner.token with
          | none => exact ⟨t, by simp [Located.attach, hi]⟩
          | some t' => exact ⟨t', by simp [Located.attach, hi]⟩
      · exact ih h

end Draft

namespace Deck

open Text Draft

variable {around : Surroundings}

/-! ## Pieces -/

/-- How a text starts does not depend on the number of its first line. -/
theorem startsAfresh_line {text : String} {line : Int}
    (afresh : StartsAfresh (Token.tokenize text line)) (line' : Int) :
    StartsAfresh (Token.tokenize text line') := by
  intro t ht
  have same := congrArg List.head? (Token.map_lexeme_tokenize text line' line)
  rw [List.head?_map, List.head?_map, Option.mem_def.mp ht] at same
  obtain ⟨t', ht', lexeme⟩ := Option.map_eq_some_iff.mp same.symm
  rw [← lexeme]
  exact afresh t' ht'

/-- The first token of pieces that start afresh is no argument. -/
theorem startsAfresh_join {chunks : List String}
    (whole : ∀ c ∈ chunks.dropLast, EndsLine c.toList)
    (afresh : ∀ c ∈ chunks, ∀ line, StartsAfresh (Token.tokenize c line)) (line : Int) :
    StartsAfresh (Token.tokenize (String.join chunks) line) := by
  induction chunks generalizing line with
  | nil =>
    intro t ht
    cases ht
  | cons c rest ih =>
    rw [String.join_cons]
    cases rest with
    | nil =>
      rw [String.join_nil, String.append_empty]
      exact afresh c List.mem_cons_self line
    | cons c' rest =>
      have first : EndsLine c.toList := whole c List.mem_cons_self
      have others := ih (fun b hb => whole b (List.mem_cons_of_mem _ hb))
        (fun b hb => afresh b (List.mem_cons_of_mem _ hb))
      intro t ht
      rw [Token.tokenize_append first, List.head?_append, Option.mem_def, Option.or_eq_some_iff]
        at ht
      rcases ht with ht | ⟨_, ht⟩
      · exact afresh c List.mem_cons_self line t ht
      · exact others _ t ht

/-- **Pieces are read as the text that they make together**, by induction on the pieces. -/
theorem readChunks_same {chunks : List String}
    (whole : ∀ c ∈ chunks.dropLast, EndsLine c.toList)
    (afresh : ∀ c ∈ chunks, ∀ line, StartsAfresh (Token.tokenize c line)) (line : Int)
    (d : Draft) :
    SameStep (readChunks around line d chunks)
      (Draft.read around d (Token.tokenize (String.join chunks) line)) := by
  induction chunks generalizing line d with
  | nil => exact .refl _
  | cons c rest ih =>
    have parted : readChunks around line d (c :: rest) =
        andThen (Draft.read around d (Token.tokenize c line)) fun d =>
          readChunks around (line + (splitLines c.toList).length) d rest :=
      rfl
    rw [parted, String.join_cons]
    cases rest with
    | nil =>
      rw [String.join_nil, String.append_empty]
      have alone : andThen (Draft.read around d (Token.tokenize c line)) (fun d => (d, .ok ())) =
          Draft.read around d (Token.tokenize c line) := by
        unfold andThen
        split <;> simp_all
      simp only [readChunks, alone]
      exact .refl _
    | cons c' rest =>
      have first : EndsLine c.toList := whole c List.mem_cons_self
      have whole' : ∀ b ∈ (c' :: rest).dropLast, EndsLine b.toList :=
        fun b hb => whole b (List.mem_cons_of_mem _ hb)
      have afresh' : ∀ b ∈ c' :: rest, ∀ line, StartsAfresh (Token.tokenize b line) :=
        fun b hb => afresh b (List.mem_cons_of_mem _ hb)
      rw [Token.tokenize_append first]
      refine SameStep.trans (andThen_same (.refl _) fun d => ih whole' afresh' _ d) ?_
      exact readFrom_append (startsAfresh_join whole' afresh' _) _ 0 d (Nat.zero_le _)

/-! ## The law -/

/-- Errors of one token, of the same class up to the one of numbers that are no channel. -/
def AtOneToken (e e' : Located DeckError) : Prop :=
  ∃ t, e.token = some t ∧ e'.token = some t ∧ e.cause.kind.Akin e'.cause.kind

/-- **A deck in pieces is read as the text that they make together**: pieces of whole lines, the last
one excepted, none of which starts with an argument. Both readings give the same slideshow, or an error
at the same token and of an akin class, or the same fault. -/
theorem parseChunks_agrees (options : ReadOptions) (files : FileSystem) (base : Path)
    (chunks : List String) (whole : ∀ c ∈ chunks.dropLast, EndsLine c.toList)
    (afresh : ∀ c ∈ chunks, StartsAfresh (Token.tokenize c 0)) :
    (∀ s, parseChunks options files base chunks = .ok s ↔
      parse options files base (String.join chunks) = .ok s) ∧
    (∀ e, parseChunks options files base chunks = .error (.deck e) →
      ∃ e', parse options files base (String.join chunks) = .error (.deck e') ∧ AtOneToken e e') ∧
    (∀ e', parse options files base (String.join chunks) = .error (.deck e') →
      ∃ e, parseChunks options files base chunks = .error (.deck e) ∧ AtOneToken e e') ∧
    ∀ fault, parseChunks options files base chunks = .error (.fault fault) ↔
      parse options files base (String.join chunks) = .error (.fault fault) := by
  have same : SameStep (readChunks ⟨files, base, loader options files []⟩ 0 {} chunks)
      (Draft.read ⟨files, base, loader options files []⟩ {}
        (Token.tokenize (String.join chunks) 0)) :=
    readChunks_same whole (fun c hc => startsAfresh_line (afresh c hc)) 0 {}
  have placed : ∀ {d : Draft} {e : Located DeckError},
      Draft.read ⟨files, base, loader options files []⟩ {}
        (Token.tokenize (String.join chunks) 0) = (d, .error (.deck e)) →
      ∃ t, e.token = some t := fun h => token_of_readFrom h
  unfold parseChunks parse parseWith
  generalize readChunks ⟨files, base, loader options files []⟩ 0 {} chunks = pieces,
    Draft.read ⟨files, base, loader options files []⟩ {} (Token.tokenize (String.join chunks) 0) =
      together at same placed ⊢
  cases same with
  | ok d _ =>
    refine ⟨fun s => Iff.rfl, fun e h => ?_, fun e h => ?_, fun fault => Iff.rfl⟩
    · cases h
    · cases h
  | error d alike =>
    cases alike with
    | fault f =>
      refine ⟨fun s => Iff.rfl, fun e h => ?_, fun e h => ?_, fun fault => Iff.rfl⟩
      · cases h
      · cases h
    | @deck e e' token kind =>
      obtain ⟨t, ht⟩ := placed rfl
      have one : AtOneToken e e' := ⟨t, token.trans ht, ht, kind⟩
      refine ⟨fun s => ?_, fun _ h => ?_, fun _ h => ?_, fun fault => ?_⟩
      · exact ⟨fun h => (nomatch h), fun h => (nomatch h)⟩
      · cases h
        exact ⟨e', rfl, one⟩
      · cases h
        exact ⟨e, rfl, one⟩
      · exact ⟨fun h => (nomatch h), fun h => (nomatch h)⟩

/-- A slide in two pieces, the text in the second one. -/
theorem parseChunks_slide_and_text :
    parseChunks {} {} (Path.ofString ".") [":sl\n:tb :ps 0 0.5\n", "Hello"] =
      .ok { slides := [{ sections :=
        [{ position := some ⟨0, 0.5⟩, body := .text { text := "Hello\n" } }] }] } :=
  ((parseChunks_agrees {} {} (Path.ofString ".") [":sl\n:tb :ps 0 0.5\n", "Hello"]
    (by decide) (by decide)).1 _).mpr (by decide +kernel)

end Deck

end SlideDeck
