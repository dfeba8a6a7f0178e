import SlideDeck.Proofs.Reader.CarriedOut
import SlideDeck.Proofs.Reader.Colors
import SlideDeck.Proofs.Reader.Taken

/-!
# Each token has its turn

A reader gives a lexeme the first four of the lexemes after it, and then goes on behind those that it
has taken. The four are as good as all of them (`apply_windowSize`), and what is taken are words and
numbers (`isArgument_of_apply`).

`Loop` is the loop over the indexes of a list of tokens, with the calls that it makes; `loop_iff_read`
says that it is what `Draft.read` does.

**The law** (`Draft.dispatches_of_read`): a lexeme that succeeds takes nothing but arguments, and does
the same with more of the tokens after it, or with fewer if those that it takes are left. So a list that
is accepted falls into calls: each directive, comment and line makes one, each word and number is taken
by one directive, and none reaches behind the end.
-/

namespace SlideDeck

/-! ## Arguments -/

namespace Argument

variable {window : List Lexeme} {what : String} {count : Nat}

theorem number_windowSize (window : List Lexeme) (place : Nat) (inside : place < windowSize)
    (what : String) : number (window.take windowSize) place what = number window place what := by
  unfold number
  rw [List.getElem?_take_of_lt inside]

@[simp]
theorem path_windowSize (window : List Lexeme) (what : String) :
    path (window.take windowSize) what = path window what := by
  match window with
  | [] => rfl
  | l :: _ => cases l <;> rfl

@[simp]
theorem size_windowSize (window : List Lexeme) : size (window.take windowSize) = size window := by
  match window with
  | [] | [_] => rfl
  | l :: l' :: _ => cases l <;> cases l' <;> rfl

@[simp]
theorem color_windowSize (window : List Lexeme) : color (window.take windowSize) = color window := by
  match window with
  | [] | [_] | [_, _] | [_, _, _] | _ :: _ :: _ :: _ :: _ => rfl

/-- A number that is read stands at its place. -/
theorem getElem?_of_number {place : Nat} {x : Float} (h : number window place what = .ok x) :
    window[place]? = some (.number x) := by
  unfold number at h
  split at h
  · cases h
  next there =>
    cases h
    exact there
  · cases h

/-- Numbers at the first places are arguments. -/
theorem isArgument_of_numbers (h : ∀ place < count, ∃ x, window[place]? = some (.number x)) :
    ∀ l ∈ window.take count, l.isArgument = true := by
  intro l mem
  obtain ⟨place, there⟩ := List.mem_iff_getElem?.mp mem
  rw [List.getElem?_take] at there
  split at there
  next inside =>
    obtain ⟨x, number⟩ := h place inside
    rw [number] at there
    cases there
    rfl
  · cases there

theorem isArgument_of_path {p : String} (h : path window what = .ok p) :
    ∀ l ∈ window.take 1, l.isArgument = true := by
  unfold path at h
  split at h
  · simp [Lexeme.isArgument]
  · cases h
  · cases h

theorem isArgument_of_size {v : Vec2} (h : size window = .ok (v, count)) :
    ∀ l ∈ window.take count, l.isArgument = true := by
  unfold size at h
  split at h
  · cases h
  · cases h
    simp [Lexeme.isArgument]
  · cases h
    simp [Lexeme.isArgument]
  · cases h

theorem isArgument_of_isChannel {l : Lexeme} {c : UInt8} (h : l.IsChannel c) :
    l.isArgument = true := by
  obtain ⟨x, rfl, -⟩ := h
  rfl

theorem isArgument_of_color {c : Color} (h : color window = .ok (c, count)) :
    ∀ l ∈ window.take count, l.isArgument = true := by
  rcases (color_eq_ok_iff window c count).mp h with
    ⟨rfl, r, g, b, a, rest, rfl, red, green, blue, opacity⟩ | ⟨rfl, w, rest, rfl, -⟩
  · simp [isArgument_of_isChannel red, isArgument_of_isChannel green,
      isArgument_of_isChannel blue, isArgument_of_isChannel opacity]
  · simp [Lexeme.isArgument]

end Argument

namespace Draft

variable {around : Surroundings} {d d' : Draft} {l : Lexeme} {window : List Lexeme} {count : Nat}

/-! ## One lexeme -/

/-- **Four lexemes are as good as all of them**: no directive looks further. -/
@[simp]
theorem apply_windowSize (around : Surroundings) (d : Draft) (l : Lexeme) (window : List Lexeme) :
    apply around d l (window.take windowSize) = apply around d l window := by
  cases l with
  | directive directive =>
    cases directive with
    | defaults | slide | text => rfl
    | figure => simp [apply, applyFigure]
    | position =>
      have first := Argument.number_windowSize window 0 (by decide) "position"
      have second := Argument.number_windowSize window 1 (by decide) "position"
      simp only [apply, applyPosition, first, second]
    | size => simp [apply, applySize]
    | rotation =>
      have first := Argument.number_windowSize window 0 (by decide) "rotation"
      simp only [apply, applyRotation, first]
    | fontColor => simp [apply, applyFontColor]
    | background => simp [apply, applyBackground]
    | importDeck => simp [apply, applyImport]
  | textLine | comment | word | number => rfl

/-- **What a lexeme takes are arguments**, and only directives take any. -/
theorem isArgument_of_apply (h : apply around d l window = (d', .ok count)) :
    (∀ a ∈ window.take count, a.isArgument = true) ∧ (0 < count → l.isDirective = true) := by
  cases carriesOut_of_apply h with
  | defaults | slide | text | line | blank | comment => simp
  | figure path | importDeck path => exact ⟨Argument.isArgument_of_path path, fun _ => rfl⟩
  | position _ _ first second =>
    refine ⟨Argument.isArgument_of_numbers fun place inside => ?_, fun _ => rfl⟩
    match place, inside with
    | 0, _ => exact ⟨_, Argument.getElem?_of_number first⟩
    | 1, _ => exact ⟨_, Argument.getElem?_of_number second⟩
  | rotation _ _ first =>
    refine ⟨Argument.isArgument_of_numbers fun place inside => ?_, fun _ => rfl⟩
    match place, inside with
    | 0, _ => exact ⟨_, Argument.getElem?_of_number first⟩
  | defaultSize _ size | size _ _ size => exact ⟨Argument.isArgument_of_size size, fun _ => rfl⟩
  | defaultFontColor _ color | fontColor _ _ color | defaultBackground _ color
  | background _ _ color =>
    exact ⟨Argument.isArgument_of_color color, fun _ => rfl⟩

/-! ## The loop -/

/-- A call of a lexeme: the index of its token, and how many tokens after it are taken. -/
structure Call where
  index : Nat
  count : Nat
deriving DecidableEq, Repr

/-- The indexes that a call deals with: its own, and those of the tokens that it takes. -/
def Call.places (c : Call) : List Nat :=
  List.range' c.index (c.count + 1)

/-- A call takes the token at an index. -/
def Call.takes (c : Call) (j : Nat) : Prop :=
  c.index < j ∧ j ≤ c.index + c.count
deriving Decidable

/-- The loop over the indexes of a list of tokens, from one of them on and while it is one: the token is
called with the tokens after it, at most four of them, and the index moves behind those that it takes. -/
inductive Loop (around : Surroundings) (tokens : List Token) :
    Nat → Draft → List Call → Draft → Prop where
  | stop {i : Nat} {d : Draft} (behind : tokens.length ≤ i) : Loop around tokens i d [] d
  | call {i count : Nat} {t : Token} {d d' d'' : Draft} {calls : List Call}
    (here : tokens[i]? = some t)
    (made : apply around d t.lexeme (((tokens.drop (i + 1)).take windowSize).map Token.lexeme) =
      (d', .ok count))
    (more : Loop around tokens (i + 1 + count) d' calls d'') :
    Loop around tokens i d (⟨i, count⟩ :: calls) d''

/-- Reading makes the calls of the loop, by induction on the tokens that are left. -/
theorem loop_of_readFrom {tokens rest : List Token} {i taken : Nat}
    (left : tokens.drop i = rest) (h : readFrom around taken d rest = (d', .ok ())) :
    ∃ calls, Loop around tokens (i + taken) d calls d' := by
  induction rest generalizing i taken d with
  | nil =>
    cases h
    exact ⟨[], .stop (Nat.le_add_right_of_le (List.drop_eq_nil_iff.mp left))⟩
  | cons t rest ih =>
    have here : tokens[i]? = some t := by rw [← List.head?_drop, left, List.head?_cons]
    have next : tokens.drop (i + 1) = rest := by rw [← List.tail_drop, left, List.tail_cons]
    cases taken with
    | succ taken =>
      -- the token has been taken by an earlier call
      obtain ⟨calls, loop⟩ := ih next h
      exact ⟨calls, by rwa [Nat.add_assoc, Nat.add_comm 1] at loop⟩
    | zero =>
      simp only [readFrom] at h
      split at h
      · cases h
      next d₁ count made =>
        obtain ⟨calls, loop⟩ := ih next h
        exact ⟨_, .call here (by rw [next]; exact made) loop⟩

/-- Tokens that are taken are passed over. -/
theorem readFrom_drop (around : Surroundings) (taken : Nat) (d : Draft) (tokens : List Token) :
    readFrom around taken d tokens = readFrom around 0 d (tokens.drop taken) := by
  induction taken generalizing tokens with
  | zero => rfl
  | succ taken ih =>
    cases tokens with
    | nil => rfl
    | cons t rest => exact ih rest

theorem readFrom_of_loop {tokens : List Token} {i : Nat} {calls : List Call}
    (loop : Loop around tokens i d calls d') :
    readFrom around 0 d (tokens.drop i) = (d', .ok ()) := by
  induction loop with
  | stop behind => rw [List.drop_eq_nil_of_le behind, readFrom]
  | @call i count t d d₁ d₂ calls here made more ih =>
    obtain ⟨inside, rfl⟩ := List.getElem?_eq_some_iff.mp here
    rw [List.drop_eq_getElem_cons inside]
    simp only [readFrom, made]
    rw [readFrom_drop, List.drop_drop, ih]

/-- **The loop is what reading does.** -/
theorem loop_iff_read {tokens : List Token} :
    (∃ calls, Loop around tokens 0 d calls d') ↔ read around d tokens = (d', .ok ()) :=
  ⟨fun ⟨_, loop⟩ => readFrom_of_loop loop, fun h => loop_of_readFrom (i := 0) rfl h⟩

/-! ## Whose turn it is -/

/-- A call that fits the tokens: it does not reach behind their end, words and numbers make none, and it
takes nothing but these, which only a directive does. -/
structure Call.Fits (c : Call) (tokens : List Token) : Prop where
  inside : c.index + c.count < tokens.length
  caller : ∃ t, tokens[c.index]? = some t ∧ t.lexeme.isArgument = false ∧
    (0 < c.count → t.lexeme.isDirective = true)
  taken : ∀ j, c.takes j → ∃ t, tokens[j]? = some t ∧ t.lexeme.isArgument = true

theorem isArgument_eq_false_of_apply (h : apply around d l window = (d', .ok count)) :
    l.isArgument = false := by
  cases l with
  | word | number => cases h
  | _ => rfl

/-- A call that succeeds fits. -/
theorem Call.fits_of_apply {tokens : List Token} {i : Nat} {t : Token} (here : tokens[i]? = some t)
    (made : apply around d t.lexeme (((tokens.drop (i + 1)).take windowSize).map Token.lexeme) =
      (d', .ok count)) : Call.Fits ⟨i, count⟩ tokens := by
  have inside := (List.getElem?_eq_some_iff.mp here).1
  have few := apply_count_le made
  obtain ⟨arguments, directive⟩ := isArgument_of_apply made
  rw [List.length_map, List.length_take, List.length_drop] at few
  refine ⟨by simp only; omega, ⟨t, here, isArgument_eq_false_of_apply made, directive⟩, ?_⟩
  rintro j ⟨after, upTo⟩
  simp only at after upTo
  have known : tokens[j]? = some tokens[j] := List.getElem?_eq_getElem (by omega)
  refine ⟨_, known, arguments _ (List.mem_iff_getElem?.mpr ⟨j - (i + 1), ?_⟩)⟩
  rw [List.getElem?_take_of_lt (by omega), List.getElem?_map,
    List.getElem?_take_of_lt (by omega), List.getElem?_drop,
    show i + 1 + (j - (i + 1)) = j by omega, known, Option.map_some]

namespace Loop

variable {tokens : List Token} {i : Nat} {calls : List Call}

/-- All calls of the loop fit. -/
theorem fits (loop : Loop around tokens i d calls d') : ∀ c ∈ calls, c.Fits tokens := by
  induction loop with
  | stop => simp
  | call here made _ ih => exact List.forall_mem_cons.mpr ⟨Call.fits_of_apply here made, ih⟩

/-- **The calls deal with every index once**, in order and up to the last one, by induction on the
loop. -/
theorem places_eq (loop : Loop around tokens i d calls d') (le : i ≤ tokens.length) :
    calls.flatMap Call.places = List.range' i (tokens.length - i) := by
  induction loop with
  | stop behind => simp [Nat.sub_eq_zero_of_le behind]
  | @call i count t d d₁ d₂ calls here made _ ih =>
    have inside := (Call.fits_of_apply here made).inside
    simp only at inside
    have next : i + 1 + count = i + (count + 1) := by omega
    have split : tokens.length - i = (count + 1) + (tokens.length - (i + (count + 1))) := by omega
    rw [List.flatMap_cons, ih (by omega), next, split]
    exact List.range'_append_1

end Loop

/-- Of members with different parts, one has a given part. -/
theorem filter_eq_singleton {α : Type} {parts : α → List Nat} {members : List α} {j : Nat}
    (apart : (members.flatMap parts).Nodup) (mem : j ∈ members.flatMap parts) :
    ∃ c, members.filter (fun c => decide (j ∈ parts c)) = [c] := by
  induction members with
  | nil => cases mem
  | cons a rest ih =>
    rw [List.flatMap_cons, List.nodup_append] at apart
    rw [List.flatMap_cons, List.mem_append] at mem
    obtain ⟨-, rest_apart, other⟩ := apart
    by_cases first : j ∈ parts a
    · have none_ : rest.filter (fun c => decide (j ∈ parts c)) = [] := by
        rw [List.filter_eq_nil_iff]
        intro c inRest both
        exact other j first j (List.mem_flatMap.mpr ⟨c, inRest, of_decide_eq_true both⟩) rfl
      exact ⟨a, by rw [List.filter_cons_of_pos (by simpa using first), none_]⟩
    · obtain ⟨c, one⟩ := ih rest_apart (mem.resolve_left first)
      exact ⟨c, by rw [List.filter_cons_of_neg (by simpa using first), one]⟩

theorem Call.mem_places {c : Call} {j : Nat} :
    j ∈ c.places ↔ c.index = j ∨ c.takes j := by
  simp only [places, takes, List.mem_range'_1]
  omega

namespace Loop

variable {tokens : List Token} {calls : List Call} {j : Nat} {t : Token}

/-- One call deals with the token at an index. -/
theorem filter_places (loop : Loop around tokens 0 d calls d') (here : tokens[j]? = some t) :
    ∃ c, calls.filter (fun c => decide (j ∈ c.places)) = [c] := by
  have inside := (List.getElem?_eq_some_iff.mp here).1
  have places := loop.places_eq (Nat.zero_le _)
  refine filter_eq_singleton ?_ ?_
  · rw [places]
    exact List.nodup_range'
  · rw [places]
    simpa using inside

/-- A directive, a comment or a line makes one call, and no call takes it. -/
theorem called_once (loop : Loop around tokens 0 d calls d') (here : tokens[j]? = some t)
    (noArgument : t.lexeme.isArgument = false) :
    (∃ c, calls.filter (fun c => decide (c.index = j)) = [c]) ∧ ∀ c ∈ calls, ¬ c.takes j := by
  have free : ∀ c ∈ calls, ¬ c.takes j := by
    intro c mem takes
    obtain ⟨u, same, argument⟩ := (loop.fits c mem).taken j takes
    rw [here] at same
    cases same
    rw [noArgument] at argument
    cases argument
  obtain ⟨c, one⟩ := loop.filter_places here
  refine ⟨⟨c, ?_⟩, free⟩
  rw [← one]
  refine List.filter_congr fun c mem => ?_
  simp only [Call.mem_places, or_iff_left (free c mem)]

/-- A word or a number makes no call, and one call takes it, which is that of a directive. -/
theorem taken_once (loop : Loop around tokens 0 d calls d') (here : tokens[j]? = some t)
    (argument : t.lexeme.isArgument = true) :
    (∀ c ∈ calls, c.index ≠ j) ∧
      ∃ c, calls.filter (fun c => decide (c.takes j)) = [c] ∧
        ∃ u directive, tokens[c.index]? = some u ∧ u.lexeme = .directive directive := by
  have silent : ∀ c ∈ calls, c.index ≠ j := by
    rintro c mem rfl
    obtain ⟨u, same, noArgument, -⟩ := (loop.fits c mem).caller
    rw [here] at same
    cases same
    rw [argument] at noArgument
    cases noArgument
  refine ⟨silent, ?_⟩
  obtain ⟨c, one⟩ := loop.filter_places here
  have taker : calls.filter (fun c => decide (c.takes j)) = [c] := by
    rw [← one]
    refine List.filter_congr fun c mem => ?_
    simp only [Call.mem_places, or_iff_right (silent c mem)]
  have ⟨mem, takes⟩ := List.mem_filter.mp (taker ▸ List.mem_cons_self : c ∈ calls.filter _)
  obtain ⟨u, there, -, directive⟩ := (loop.fits c mem).caller
  have ⟨after, upTo⟩ := of_decide_eq_true takes
  have directive := directive (by omega)
  refine ⟨c, taker, u, ?_⟩
  cases said : u.lexeme with
  | directive directive => exact ⟨directive, there, rfl⟩
  | _ =>
    rw [said] at directive
    cases directive

end Loop

/-- **Each token has its turn.** A lexeme that succeeds takes no more lexemes than it is given, which
are words and numbers; with all lexemes after it instead of the first four, or with these cut anywhere
behind those that it takes, it takes as many and makes the same draft. So where a list of tokens is
accepted, its loop calls each directive, each comment and each line once, one directive takes each word
and each number, and the index is never behind the end. -/
theorem dispatches_of_read (around : Surroundings) (d : Draft) :
    (∀ l following d' count, apply around d l (following.take windowSize) = (d', .ok count) →
      count ≤ (following.take windowSize).length ∧
      (∀ a ∈ following.take count, a.isArgument = true) ∧
      apply around d l following = (d', .ok count) ∧
      ∀ enough, count ≤ enough →
        apply around d l ((following.take windowSize).take enough) = (d', .ok count)) ∧
    ∀ tokens d', read around d tokens = (d', .ok ()) →
      ∃ calls, Loop around tokens 0 d calls d' ∧
        (∀ c ∈ calls, c.index + 1 + c.count ≤ tokens.length) ∧
        ∀ j t, tokens[j]? = some t →
          (t.lexeme.isArgument = false →
            (∃ c, calls.filter (fun c => decide (c.index = j)) = [c]) ∧ ∀ c ∈ calls, ¬ c.takes j) ∧
          (t.lexeme.isArgument = true →
            (∀ c ∈ calls, c.index ≠ j) ∧
            ∃ c, calls.filter (fun c => decide (c.takes j)) = [c] ∧
              ∃ u directive, tokens[c.index]? = some u ∧ u.lexeme = .directive directive) := by
  constructor
  · intro l following d' count made
    have all := made
    rw [apply_windowSize] at all
    exact ⟨apply_count_le made, (isArgument_of_apply all).1, all, fun _ le => apply_take made le⟩
  · intro tokens d' accepted
    obtain ⟨calls, loop⟩ := loop_iff_read.mpr accepted
    refine ⟨calls, loop, fun c mem => ?_, fun j t here => ⟨loop.called_once here, loop.taken_once here⟩⟩
    have := (loop.fits c mem).inside
    omega

/-- A red background among the defaults is accepted, so the word is taken once and the two directives are
called once. -/
theorem dispatches_of_red_background :
    let around : Surroundings := ⟨{}, Path.ofString ".", fun p => .error (.ofError (.notFile p))⟩
    let tokens : List Token :=
      [⟨.directive .defaults, ⟨0, 0, 3⟩⟩, ⟨.directive .background, ⟨0, 4, 7⟩⟩,
        ⟨.word "red", ⟨0, 8, 11⟩⟩]
    let d : Draft := ⟨{ background := some ⟨0xff, 0x00, 0x00, 0xff⟩ }, none, .defaults⟩
    apply around ⟨{}, none, .defaults⟩ (.directive .background)
        (([.word "red", .word "blue"].take windowSize).take 1) = (d, .ok 1) ∧
      ∃ calls, Loop around tokens 0 {} calls d ∧
        (∃ c, calls.filter (fun c => decide (c.index = 1)) = [c]) ∧
        ∃ c, calls.filter (fun c => decide (c.takes 2)) = [c] := by
  intro around tokens d
  obtain ⟨one, _⟩ := dispatches_of_read around ⟨{}, none, .defaults⟩
  obtain ⟨_, run⟩ := dispatches_of_read around {}
  obtain ⟨calls, loop, -, turns⟩ := run tokens d rfl
  exact ⟨(one (.directive .background) [.word "red", .word "blue"] d 1 rfl).2.2.2 1 le_rfl, calls, loop,
    ((turns 1 _ rfl).1 rfl).1, (((turns 2 _ rfl).2 rfl).2.imp fun _ h => h.1)⟩

end Draft

end SlideDeck
