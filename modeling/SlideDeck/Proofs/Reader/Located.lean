import SlideDeck.Proofs.Reader.Complaints
import SlideDeck.Proofs.Reader.Imports
import SlideDeck.Proofs.Reader.Taken
import SlideDeck.Proofs.Reader.Runs

/-!
# Where errors are

An error of a deck is told with a token, so that the reader of the message finds its place. The token
is attached when the error comes up to the list of tokens, and the first one attached stays; so it has
to be shown that errors come up without any. Those of directives do, and so do those of imported decks,
which are wrapped on their way (`unlocated_of_apply`, `unlocated_importDeck`).

**The law** (`located_of_parse`): the token of an error is the one that reading stopped at. The
tokens before it can be read on their own, although what stands behind a directive is then cut off, for
the directives there have taken all that they need (`Draft.apply_take`). The slideshow that the failed
reading leaves is the one that they give, also where the failure is that of an import, which has closed
the open slide.
-/

namespace SlideDeck

/-! ## Errors without a token -/

/-- An error that no token is attached to yet. -/
def Failure.Unlocated : Failure → Prop
  | .deck e => e.token = none
  | .fault _ => True

/-- A token is attached to an error that has none. -/
theorem Failure.Unlocated.of_attach {f : Failure} (h : f.Unlocated) {t : Token}
    {e : Located DeckError} (attached : f.attach t = .deck e) :
    e.token = some t ∧ f = .ofError e.cause := by
  cases f with
  | fault fault => cases attached
  | deck inner =>
    obtain ⟨cause, token⟩ := inner
    obtain rfl : token = none := h
    cases attached
    exact ⟨rfl, rfl⟩

namespace Draft

variable {around : Surroundings} {d d' : Draft} {l : Lexeme} {window : List Lexeme}
  {failure : Failure}

/-- How imports are read raises errors without a token only. -/
def LoadsUnlocated (load : Path → Except Failure Slideshow) : Prop :=
  ∀ path failure, load path = .error failure → failure.Unlocated

/-- **The errors of lexemes have no token yet.** -/
theorem unlocated_of_apply (load : LoadsUnlocated around.load)
    (h : apply around d l window = (d', .error failure)) : failure.Unlocated := by
  have about : d.ComplainsOf fun _ => True :=
    .of_all (fun _ _ => trivial) trivial trivial trivial d
  cases stems_of_apply about h with
  | own _ => rfl
  | fault fault => trivial
  | load _ unread => exact load _ _ unread

end Draft

/-- Nor have those of imports: an error in another deck is wrapped, and its token stays inside. -/
theorem Deck.unlocated_importDeck (options : ReadOptions) (files : FileSystem) (budget : Nat)
    (way : List Path) : Draft.LoadsUnlocated (importDeck options files budget way) := by
  intro path failure h
  cases importDeck_eq_error h with
  | linkLoop | notFound | cycle | tooDeep => trivial
  | @nested found further inner _ _ _ _ =>
    cases inner with
    | deck e => rfl
    | fault fault => trivial

/-! ## Lines of tokens -/

/-- The tokens of lines are on these lines. -/
theorem Token.line_of_mem_ofLines {lines : List (List Char)} {first : Int} {t : Token}
    (h : t ∈ ofLines first lines) :
    first ≤ t.span.line ∧ t.span.line < first + lines.length := by
  induction lines generalizing first with
  | nil => cases h
  | cons line lines ih =>
    rw [List.length_cons]
    rcases List.mem_append.mp h with here | later
    · have on : t.span.line = first := by
        unfold ofLine at here
        split at here
        · obtain ⟨w, -, rfl⟩ := List.mem_map.mp here
          rfl
        · rw [List.mem_singleton.mp here]
      omega
    · have on := ih later
      omega

/-! ## Where reading stops -/

namespace Draft

variable {around : Surroundings} {d d' : Draft} {l : Lexeme} {window : List Lexeme}
  {failure : Failure}

/-- A lexeme that fails leaves the slideshow as it was, the open slide closed. -/
theorem take_of_apply_error (h : apply around d l window = (d', .error failure)) :
    d'.take = d.take := by
  rcases eq_of_apply_error h with ⟨_, rfl⟩ | ⟨_, rfl⟩ <;> simp

/-- An argument that no directive has taken fails as such. -/
theorem stray_of_apply {cause : DeckError} (argument : l.isArgument = true)
    (h : apply around d l window = (d', .error (.ofError cause))) : cause = .strayArgument := by
  cases l with
  | word | number =>
    simp only [apply, Failure.ofError, Prod.mk.injEq, Except.error.injEq, Failure.deck.injEq,
      Located.mk.injEq] at h
    exact h.2.1.symm
  | directive | textLine | comment => cases argument

/-- **Reading that fails stops at a token, before which all is read.** By induction on the tokens: the
lexemes that succeed before it do the same when the tokens from there on are cut off, since they take
no argument from behind the cut. -/
theorem readFrom_stops {taken : Nat} {tokens : List Token}
    (h : readFrom around taken d tokens = (d', .error failure)) :
    ∃ before t after reached raised,
      tokens = before ++ t :: after ∧ taken ≤ before.length ∧
        unreadFrom around taken d tokens = t :: after ∧
        readFrom around taken d before = (reached, .ok ()) ∧
        apply around reached t.lexeme ((after.take windowSize).map Token.lexeme) =
          (d', .error raised) ∧
        failure = raised.attach t := by
  induction tokens generalizing taken d with
  | nil => cases h
  | cons first rest ih =>
    cases taken with
    | succ taken =>
      obtain ⟨before, t, after, reached, raised, rfl, le, left, read, fails, same⟩ := ih h
      exact ⟨first :: before, t, after, reached, raised, rfl, Nat.succ_le_succ le, left, read, fails,
        same⟩
    | zero =>
      simp only [readFrom, unreadFrom] at h ⊢
      cases made : apply around d first.lexeme ((rest.take windowSize).map Token.lexeme) with
      | mk next outcome =>
        rw [made] at h
        cases outcome with
        | error raised =>
          cases h
          exact ⟨[], first, rest, d, raised, rfl, Nat.le_refl _, rfl, rfl, made, rfl⟩
        | ok count =>
          obtain ⟨before, t, after, reached, raised, rfl, le, left, read, fails, same⟩ := ih h
          refine ⟨first :: before, t, after, reached, raised, rfl, Nat.zero_le _, left, ?_, fails,
            same⟩
          have cut : (((before ++ t :: after).take windowSize).map Token.lexeme).take before.length =
              (before.take windowSize).map Token.lexeme := by
            rw [← List.map_take, List.take_take, Nat.min_comm, ← List.take_take, List.take_left]
          have alone := apply_take made le
          rw [cut] at alone
          rw [readFrom, alone]
          exact read

end Draft

/-! ## The law -/

namespace Deck

open Draft

/-- What the text of a deck is read in. -/
def surroundings (options : ReadOptions) (files : FileSystem) (base : Path) : Surroundings :=
  ⟨files, base, loader options files []⟩

/-- **The token of an error is the one that reading stopped at.** It is a token of the text itself, on
one of its lines, and an argument only if no directive takes it. The tokens before it are read without
an error, to a draft that its lexeme fails on; and they give the slideshow that the failed reading
leaves. -/
theorem located_of_parse {options : ReadOptions} {files : FileSystem} {base : Path} {text : String}
    {e : Located DeckError} (failed : parse options files base text = .error (.deck e)) :
    ∃ (i : Nat) (t : Token) (reached : Draft),
      (Token.tokenize text 0)[i]? = some t ∧ e.token = some t ∧
      unread (surroundings options files base) {} (Token.tokenize text 0) =
        (Token.tokenize text 0).drop i ∧
      (e.line? = some (t.span.line + 1) ∧ 1 ≤ t.span.line + 1 ∧
        t.span.line + 1 ≤ (Text.splitLines text.toList).length) ∧
      (t.lexeme.isArgument = true → e.cause = .strayArgument) ∧
      read (surroundings options files base) {} ((Token.tokenize text 0).take i) =
        (reached, .ok ()) ∧
      (∃ left, apply (surroundings options files base) reached t.lexeme
        ((((Token.tokenize text 0).drop (i + 1)).take windowSize).map Token.lexeme) =
          (left, .error (.ofError e.cause))) ∧
      (read (surroundings options files base) {} (Token.tokenize text 0)).1.take = reached.take := by
  unfold parse parseWith at failed
  cases hr : read (surroundings options files base) {} (Token.tokenize text 0) with
  | mk left outcome =>
    rw [surroundings] at hr
    rw [hr] at failed
    cases outcome with
    | ok _ => cases failed
    | error failure =>
      cases failed
      obtain ⟨before, t, after, reached, raised, tokens, -, rest, accepted, fails, attached⟩ :=
        readFrom_stops hr
      have unlocated : raised.Unlocated :=
        unlocated_of_apply (unlocated_importDeck options files _ _) fails
      obtain ⟨token, rfl⟩ := unlocated.of_attach attached.symm
      have mem : t ∈ Token.ofLines 0 (Text.splitLines text.toList) := by
        have here : t ∈ before ++ t :: after := List.mem_append_right _ List.mem_cons_self
        rwa [← tokens] at here
      have line := Token.line_of_mem_ofLines mem
      have behind : (before ++ t :: after).drop (before.length + 1) = after := by
        rw [List.drop_append, List.drop_eq_nil_of_le (Nat.le_succ _), Nat.add_sub_cancel_left]
        rfl
      refine ⟨before.length, t, reached, ?_, token, ?_, ⟨?_, ?_, ?_⟩, ?_, ?_, ⟨left, ?_⟩,
        take_of_apply_error fails⟩
      · rw [tokens, List.getElem?_append_right (Nat.le_refl _), Nat.sub_self, List.getElem?_cons_zero]
      · rw [unread, surroundings, rest, tokens, List.drop_left]
      · rw [Located.line?, token, Option.map_some]
      · omega
      · omega
      · exact fun argument => stray_of_apply argument fails
      · rw [tokens, List.take_left]
        exact accepted
      · rw [tokens, behind]
        exact fails

/-- The error of an imported deck is told at the directive that imports it. -/
theorem located_of_parse_import :
    let options : ReadOptions := {}
    let files : FileSystem := ⟨[(["broken.deck"], .file ":sl\n:rt 90\n".toUTF8.toList)], []⟩
    let text := ":sl\n:tb\nx\n:im broken.deck\n"
    ∃ (i : Nat) (reached : Draft),
      (Token.tokenize text 0)[i]? = some ⟨.directive .importDeck, ⟨3, 0, 3⟩⟩ ∧
      read (surroundings options files (Path.ofString ".")) {} ((Token.tokenize text 0).take i) =
        (reached, .ok ()) ∧
      (read (surroundings options files (Path.ofString ".")) {} (Token.tokenize text 0)).1.take =
        reached.take := by
  intro options files text
  have failed : parse options files (Path.ofString ".") text =
      .error (.deck ⟨.inImport ⟨.root, ["broken.deck"]⟩ (.misplaced .rotation .slide)
        (some ⟨.directive .rotation, ⟨1, 0, 3⟩⟩), some ⟨.directive .importDeck, ⟨3, 0, 3⟩⟩⟩) := by
    decide +kernel
  obtain ⟨i, t, reached, place, token, -, -, -, accepted, -, left⟩ := located_of_parse failed
  obtain rfl : ⟨.directive .importDeck, ⟨3, 0, 3⟩⟩ = t := Option.some.inj token
  exact ⟨i, reached, place, accepted, left⟩

end Deck

end SlideDeck
