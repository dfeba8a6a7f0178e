import SlideDeck.Reader.Argument
import Mathlib.Algebra.Order.Field.Power
import Mathlib.Algebra.Order.Field.Rat
import Mathlib.Data.List.Forall2
import Mathlib.Data.Rat.Cast.Order
import Mathlib.Tactic.Positivity

/-!
# Which arguments are a color

A color is written in two ways: as four numbers, or as one word. `Lexeme.IsChannel` and
`Color.WrittenAs` say what these writings are, by the value of a number (`Number.value?`), the digits
of a word and the names of the palette; they do not mention how arguments are read.

**The law** (`Argument.color_of_four_or_one`): the reader accepts these two writings and no other. It
takes four lexemes or one, and what it gives is what they write. Where it fails, the class of its error
can be told from the lexemes: a first word is no color, a number among four is no channel, or else
there are not the arguments that a color takes.
-/

namespace SlideDeck

/-! ## Numbers that are channels -/

namespace Number

/-- The rational number that a binary number is, if it is finite. -/
def value? (x : Float) : Option ℚ :=
  match parts x with
  | .finite negative mantissa exponent => some (signed negative mantissa * 2 ^ exponent)
  | _ => none

/-- A number without a fraction is its whole part. -/
theorem isWhole_iff (mantissa : Nat) (exponent : Int) :
    isWhole mantissa exponent = true ↔
      (mantissa : ℚ) * 2 ^ exponent = wholePart mantissa exponent := by
  cases exponent with
  | ofNat e => simp [isWhole, wholePart]
  | negSucc e =>
    have pos : (0 : ℚ) < 2 ^ (e + 1) := by positivity
    simp only [isWhole, wholePart, Nat.pow_eq, beq_iff_eq, zpow_negSucc]
    rw [← div_eq_mul_inv, div_eq_iff pos.ne', ← Nat.dvd_iff_mod_eq_zero]
    constructor
    · intro divides
      exact_mod_cast (Nat.div_mul_cancel divides).symm
    · intro whole
      exact Dvd.intro_left _ (by exact_mod_cast whole.symm)

/-- Only a number without a fraction has the value of a whole number. -/
theorem isWhole_of_eq {mantissa n : Nat} {exponent : Int}
    (h : (mantissa : ℚ) * 2 ^ exponent = n) : isWhole mantissa exponent = true := by
  cases exponent with
  | ofNat e => rfl
  | negSucc e =>
    have pos : (0 : ℚ) < 2 ^ (e + 1) := by positivity
    rw [zpow_negSucc, ← div_eq_mul_inv, div_eq_iff pos.ne'] at h
    have whole : mantissa = n * 2 ^ (e + 1) := by exact_mod_cast h
    simp [isWhole, whole]

/-- A finite number is the whole number `n` if it has no fraction, and `n` as its whole part. -/
theorem signed_mul_eq_iff (negative : Bool) (mantissa : Nat) (exponent n : Int) :
    (signed negative mantissa : ℚ) * 2 ^ exponent = n ↔
      isWhole mantissa exponent = true ∧ signed negative (wholePart mantissa exponent) = n := by
  have sign (k : Nat) : ((signed negative k : Int) : ℚ) = (if negative then -1 else 1) * k := by
    cases negative <;> simp [signed]
  constructor
  · intro value
    have size : (mantissa : ℚ) * 2 ^ exponent = n.natAbs := by
      have nonneg : (0 : ℚ) ≤ mantissa * 2 ^ exponent := by positivity
      have abs : |(signed negative mantissa : ℚ) * 2 ^ exponent| = mantissa * 2 ^ exponent := by
        rw [sign, mul_assoc, abs_mul, abs_of_nonneg nonneg]
        cases negative <;> simp
      rw [← abs, value, Nat.cast_natAbs, Int.cast_abs]
    have whole := isWhole_of_eq size
    refine ⟨whole, ?_⟩
    have : ((signed negative (wholePart mantissa exponent) : Int) : ℚ) = n := by
      rw [sign, ← (isWhole_iff mantissa exponent).mp whole, ← value, sign, mul_assoc]
    exact_mod_cast this
  · rintro ⟨whole, rfl⟩
    rw [sign, sign, mul_assoc, (isWhole_iff mantissa exponent).mp whole]

end Number

/-- A lexeme that is a number, with the value of the channel. -/
def Lexeme.IsChannel (l : Lexeme) (c : UInt8) : Prop :=
  ∃ x, l = .number x ∧ Number.value? x = some (c.toNat : ℚ)

namespace Argument

open Number

/-- A number gives the channel that has its value. -/
theorem channelOfNumber?_eq_some_iff (x : Float) (c : UInt8) :
    channelOfNumber? x = some c ↔ value? x = some (c.toNat : ℚ) := by
  have bound := c.toNat_lt
  unfold channelOfNumber? value?
  cases parts x with
  | nan => simp
  | infinite negative => simp
  | finite negative mantissa exponent =>
    rw [Option.some.injEq, ← Int.cast_natCast, signed_mul_eq_iff]
    simp only [Option.ite_none_right_eq_some, Option.some.injEq]
    constructor
    · rintro ⟨⟨whole, low, high⟩, rfl⟩
      refine ⟨whole, ?_⟩
      rw [UInt8.toNat_ofNat_of_lt' (by simp only [UInt8.size]; omega)]
      omega
    · rintro ⟨whole, value⟩
      refine ⟨⟨whole, by omega, by omega⟩, ?_⟩
      rw [value, Int.toNat_natCast, UInt8.ofNat_toNat]

/-- A lexeme gives the channel that it is. -/
theorem channel_eq_ok_iff (l : Lexeme) (c : UInt8) : channel l = .ok c ↔ l.IsChannel c := by
  unfold Lexeme.IsChannel
  cases l with
  | number x =>
    simp only [channel, Lexeme.number.injEq, exists_eq_left', ← channelOfNumber?_eq_some_iff]
    cases channelOfNumber? x <;> simp
  | _ => simp [channel]

/-- A number that is no channel is out of range, an infinity and what is not a number too. -/
theorem channel_eq_outOfRange_iff (l : Lexeme) (x : Float) :
    channel l = .error (.outOfRange x) ↔ l = .number x ∧ ¬ ∃ c, l.IsChannel c := by
  simp only [← channel_eq_ok_iff]
  cases l with
  | number y =>
    simp only [channel, Lexeme.number.injEq]
    cases channelOfNumber? y <;> simp
  | _ => simp [channel]

/-! ## Four channels -/

/-- The first lexeme that is no channel. -/
def FirstBad (ls : List Lexeme) (l : Lexeme) : Prop :=
  ∃ before after, ls = before ++ l :: after ∧ (∀ k ∈ before, ∃ c, k.IsChannel c) ∧
    ¬ ∃ c, l.IsChannel c

theorem firstBad_nil (l : Lexeme) : ¬ FirstBad [] l := by
  rintro ⟨before, after, split, -⟩
  cases before <;> cases split

theorem firstBad_cons (k : Lexeme) (ls : List Lexeme) (l : Lexeme) :
    FirstBad (k :: ls) l ↔
      (k = l ∧ ¬ ∃ c, k.IsChannel c) ∨ (∃ c, k.IsChannel c) ∧ FirstBad ls l := by
  constructor
  · rintro ⟨before, after, split, good, bad⟩
    cases before with
    | nil =>
      cases split
      exact .inl ⟨rfl, bad⟩
    | cons b before =>
      cases split
      exact .inr ⟨good k List.mem_cons_self, before, after, rfl,
        fun k' mem => good k' (List.mem_cons_of_mem _ mem), bad⟩
  · rintro (⟨rfl, bad⟩ | ⟨first, before, after, rfl, good, bad⟩)
    · exact ⟨[], ls, rfl, nofun, bad⟩
    · exact ⟨k :: before, after, rfl, List.forall_mem_cons.mpr ⟨first, good⟩, bad⟩

/-- The error of the channels is the one of the first lexeme that is no channel. -/
theorem channels_eq_error_iff (r g b a : Lexeme) (e : ChannelError) :
    channels r g b a = .error e ↔ ∃ l, FirstBad [r, g, b, a] l ∧ channel l = .error e := by
  have step (k : Lexeme) (ls : List Lexeme) :
      (∃ l, FirstBad (k :: ls) l ∧ channel l = .error e) ↔
        channel k = .error e ∨
          (∃ c, channel k = .ok c) ∧ ∃ l, FirstBad ls l ∧ channel l = .error e := by
    simp only [firstBad_cons, ← channel_eq_ok_iff]
    cases h : channel k <;> simp [h]
  have stop : ¬ ∃ l, FirstBad [] l ∧ channel l = .error e := by simp [firstBad_nil]
  simp only [step, stop, and_false, or_false]
  unfold channels
  cases channel r with
  | error e' => simp
  | ok r =>
    cases channel g with
    | error e' => simp
    | ok g =>
      cases channel b with
      | error e' => simp
      | ok b => cases channel a <;> simp

theorem channels_eq_ok_iff (r g b a : Lexeme) (c : Color) :
    channels r g b a = .ok c ↔
      r.IsChannel c.r ∧ g.IsChannel c.g ∧ b.IsChannel c.b ∧ a.IsChannel c.a := by
  simp only [← channel_eq_ok_iff]
  obtain ⟨cr, cg, cb, ca⟩ := c
  unfold channels
  cases channel r <;> cases channel g <;> cases channel b <;> cases channel a <;> simp

/-- The channels are out of range if the first of them that is none is a number. -/
theorem channels_outOfRange_iff (r g b a : Lexeme) :
    (∃ x, channels r g b a = .error (.outOfRange x)) ↔
      ∃ x, FirstBad [r, g, b, a] (.number x) := by
  simp only [channels_eq_error_iff, channel_eq_outOfRange_iff]
  constructor
  · rintro ⟨x, l, bad, rfl, -⟩
    exact ⟨x, bad⟩
  · rintro ⟨x, bad⟩
    obtain ⟨_, _, _, _, none⟩ := id bad
    exact ⟨x, .number x, bad, rfl, none⟩

end Argument

/-! ## One word -/

/-- Steps that all give a value, one by one. -/
theorem mapM_eq_some_iff {α β : Type} {f : α → Option β} {as : List α} {bs : List β} :
    as.mapM f = some bs ↔ List.Forall₂ (fun a b => f a = some b) as bs := by
  induction as generalizing bs with
  | nil => simp [eq_comm]
  | cons a as ih =>
    rw [List.mapM_cons, List.forall₂_cons_left_iff]
    cases f a with
    | none => simp
    | some b =>
      simp only [Option.bind_eq_bind, Option.bind_some, Option.bind_eq_some_iff, ih,
        Option.pure_def, Option.some.injEq]
      constructor
      · rintro ⟨bs', rest, rfl⟩
        exact ⟨b, bs', rfl, rest, rfl⟩
      · rintro ⟨_, bs', rfl, rest, rfl⟩
        exact ⟨bs', rest, rfl⟩

namespace Color

/-- Two hexadecimal digits, of either case, and the byte that they write. -/
def IsByte (high low : Char) (c : UInt8) : Prop :=
  ∃ h l, hexValue? high = some h ∧ hexValue? low = some l ∧ c.toNat = 16 * h + l

/-- A word that writes a color. -/
inductive WrittenAs (w : String) (c : Color) : Prop where
  | hex {r r' g g' b b' a a' : Char} (word : w.toList = ['#', r, r', g, g', b, b', a, a'])
      (red : IsByte r r' c.r) (green : IsByte g g' c.g) (blue : IsByte b b' c.b)
      (opacity : IsByte a a' c.a)
  | name (plain : w.toList.head? ≠ some '#') (listed : (Text.lower w, c) ∈ palette)

/-- A digit has a small value, and is a character of ASCII. -/
theorem hexValue?_bounds {ch : Char} {n : Nat} (h : hexValue? ch = some n) :
    n < 16 ∧ ch.toNat < 128 := by
  simp only [hexValue?, Char.le_def, UInt32.le_iff_toNat_le, Char.toNat_val] at h
  split at h
  · cases h
    simp only [Char.reduceToNat] at *
    omega
  · split at h
    · cases h
      simp only [Char.reduceToNat] at *
      omega
    · split at h
      · cases h
        simp only [Char.reduceToNat] at *
        omega
      · cases h

/-- Two digit values give the byte that the digits write. -/
theorem isByte_iff (high low : Char) (c : UInt8) :
    IsByte high low c ↔
      ∃ h l, hexValue? high = some h ∧ hexValue? low = some l ∧ channelOf h l = c := by
  refine exists_congr fun h => exists_congr fun l => and_congr_right fun first =>
    and_congr_right fun second => ?_
  have := (hexValue?_bounds first).1
  have := (hexValue?_bounds second).1
  have value : (channelOf h l).toNat = 16 * h + l :=
    UInt8.toNat_ofNat_of_lt' (by simp only [UInt8.size]; omega)
  rw [← UInt8.toNat_inj, value, eq_comm]

/-- Eight digit values and no other count of them are a color. -/
theorem ofHexValues?_eq_some_iff (values : List Nat) (c : Color) :
    ofHexValues? values = some c ↔
      ∃ r r' g g' b b' a a', values = [r, r', g, g', b, b', a, a'] ∧
        channelOf r r' = c.r ∧ channelOf g g' = c.g ∧ channelOf b b' = c.b ∧
        channelOf a a' = c.a := by
  obtain ⟨cr, cg, cb, ca⟩ := c
  constructor
  · intro h
    unfold ofHexValues? at h
    split at h
    · cases h
      exact ⟨_, _, _, _, _, _, _, _, rfl, rfl, rfl, rfl, rfl⟩
    · cases h
  · rintro ⟨r, r', g, g', b, b', a, a', rfl, rfl, rfl, rfl, rfl⟩
    rfl

theorem ofHex_eq_ok_iff (w : String) (c : Color) :
    ofHex w = .ok c ↔
      ∃ values, (dropNumberSign w.toList).mapM hexValue? = some values ∧
        ofHexValues? values = some c := by
  unfold ofHex
  cases (dropNumberSign w.toList).mapM hexValue? with
  | none => simp
  | some values => cases h : ofHexValues? values <;> simp [h]

/-- The names of the palette differ, so a color is found under each of them. -/
theorem lookup_palette_eq_some_iff (name : String) (c : Color) :
    palette.lookup name = some c ↔ (name, c) ∈ palette := by
  constructor
  · intro found
    obtain ⟨before, after, split, -⟩ := List.lookup_eq_some_iff.mp found
    rw [split]
    exact List.mem_append_right _ List.mem_cons_self
  · intro mem
    have each : ∀ entry ∈ palette, palette.lookup entry.1 = some entry.2 := by decide
    exact each _ mem

theorem ofName_eq_ok_iff (w : String) (c : Color) :
    ofName w = .ok c ↔ (Text.lower w, c) ∈ palette := by
  rw [← lookup_palette_eq_some_iff]
  unfold ofName
  cases palette.lookup (Text.lower w) <;> simp

/-- Digits write a color if there are two for each channel, a number sign before them aside. -/
theorem ofHex_eq_ok_iff_isByte (w : String) (c : Color) :
    ofHex w = .ok c ↔
      ∃ r r' g g' b b' a a', dropNumberSign w.toList = [r, r', g, g', b, b', a, a'] ∧
        IsByte r r' c.r ∧ IsByte g g' c.g ∧ IsByte b b' c.b ∧ IsByte a a' c.a := by
  simp only [ofHex_eq_ok_iff, mapM_eq_some_iff, ofHexValues?_eq_some_iff, isByte_iff]
  generalize dropNumberSign w.toList = digits
  constructor
  · rintro ⟨_, each, vr, vr', vg, vg', vb, vb', va, va', rfl, red, green, blue, opacity⟩
    simp only [List.forall₂_cons_right_iff, List.forall₂_nil_right_iff] at each
    obtain ⟨r, _, hr, ⟨r', _, hr', ⟨g, _, hg, ⟨g', _, hg', ⟨b, _, hb, ⟨b', _, hb',
      ⟨a, _, ha, ⟨a', _, ha', rfl, rfl⟩, rfl⟩, rfl⟩, rfl⟩, rfl⟩, rfl⟩, rfl⟩, rfl⟩ := each
    exact ⟨r, r', g, g', b, b', a, a', rfl, ⟨_, _, hr, hr', red⟩, ⟨_, _, hg, hg', green⟩,
      ⟨_, _, hb, hb', blue⟩, ⟨_, _, ha, ha', opacity⟩⟩
  · rintro ⟨r, r', g, g', b, b', a, a', rfl, ⟨vr, vr', hr, hr', red⟩, ⟨vg, vg', hg, hg', green⟩,
      ⟨vb, vb', hb, hb', blue⟩, ⟨va, va', ha, ha', opacity⟩⟩
    exact ⟨[vr, vr', vg, vg', vb, vb', va, va'], by simp [*],
      vr, vr', vg, vg', vb, vb', va, va', rfl, red, green, blue, opacity⟩

/-- A word gives the color that it writes, and one that writes none gives none. -/
theorem parse_eq_ok_iff (w : String) (c : Color) : parse w = .ok c ↔ WrittenAs w c := by
  unfold parse
  split
  next digits word =>
    simp only [ofHex_eq_ok_iff_isByte, word, dropNumberSign]
    constructor
    · rintro ⟨r, r', g, g', b, b', a, a', rfl, red, green, blue, opacity⟩
      exact .hex word red green blue opacity
    · rintro (⟨word', red, green, blue, opacity⟩ | ⟨plain, -⟩)
      · rw [word, List.cons.injEq] at word'
        exact ⟨_, _, _, _, _, _, _, _, word'.2, red, green, blue, opacity⟩
      · exact absurd (by rw [word]; rfl) plain
  next other =>
    rw [ofName_eq_ok_iff]
    constructor
    · intro listed
      refine .name (fun sign => ?_) listed
      obtain ⟨digits, word⟩ := List.head?_eq_some_iff.mp sign
      exact other digits word
    · rintro (⟨word, -⟩ | ⟨-, listed⟩)
      · exact absurd word (other _)
      · exact listed

end Color

/-! ## One writing or the other -/

namespace Argument

/-- Lexemes that look like four channels and are not: a number stands first, and a number is the first
of four that is no channel. -/
def OutOfRange (window : List Lexeme) : Prop :=
  4 ≤ window.length ∧ (∃ x rest, window = .number x :: rest) ∧
    ∃ x, FirstBad (window.take 4) (.number x)

theorem colorWord_eq_ok_iff (failed : Option ChannelError) (first : Lexeme) (c : Color) :
    colorWord failed first = .ok c ↔ ∃ w, first = .word w ∧ Color.WrittenAs w c := by
  simp only [← Color.parse_eq_ok_iff]
  cases first with
  | word w =>
    simp only [colorWord, Lexeme.word.injEq, exists_eq_left']
    cases Color.parse w <;> simp
  | _ => simp [colorWord]

/-- A word that gives no color fails as a word, whatever the channels said. -/
theorem kind_of_colorWord_word {failed : Option ChannelError} {w : String} {e : DeckError}
    (h : colorWord failed (.word w) = .error e) : e.kind = .colorResolution := by
  simp only [colorWord] at h
  split at h <;> cases h
  rfl

/-- What is no word fails as the channels did. -/
theorem kind_of_colorWord_other {failed : Option ChannelError} {first : Lexeme} {e : DeckError}
    (noWord : ∀ w, first ≠ .word w) (h : colorWord failed first = .error e) :
    e.kind = .channelRange ∧ (∃ x, failed = some (.outOfRange x)) ∨
      e.kind = .arity ∧ ¬ ∃ x, failed = some (.outOfRange x) := by
  have other : e = .notColor failed first := by
    cases first with
    | word w => exact absurd rfl (noWord w)
    | _ =>
      cases h
      rfl
  subst other
  match failed with
  | none => exact .inr ⟨rfl, by simp⟩
  | some (.notNumber _) => exact .inr ⟨rfl, by simp⟩
  | some (.outOfRange x) => exact .inl ⟨rfl, x, rfl⟩

/-- Four lexemes out of range are headed by a number, since those before the bad one are channels. -/
theorem outOfRange_cons_iff (r g b a : Lexeme) (rest : List Lexeme) :
    OutOfRange (r :: g :: b :: a :: rest) ↔ ∃ x, channels r g b a = .error (.outOfRange x) := by
  rw [channels_outOfRange_iff]
  refine ⟨fun h => h.2.2, fun h => ⟨by simp, ?_, h⟩⟩
  obtain ⟨x, bad⟩ := h
  rcases (firstBad_cons _ _ _).mp bad with ⟨rfl, -⟩ | ⟨⟨c, y, rfl, -⟩, -⟩
  · exact ⟨x, _, rfl⟩
  · exact ⟨y, _, rfl⟩

/-- What fails as a color, and with which class of error. -/
theorem kind_of_color {window : List Lexeme} {e : DeckError} (h : color window = .error e) :
    (∃ w rest, window = .word w :: rest) ∧ e.kind = .colorResolution ∨
      OutOfRange window ∧ e.kind = .channelRange ∨
      (¬ ∃ w rest, window = .word w :: rest) ∧ ¬ OutOfRange window ∧ e.kind = .arity := by
  -- fewer than four lexemes are not tried as channels
  have few (few : window.length < 4) : ¬ OutOfRange window := fun out => absurd out.1 (by omega)
  -- what the first lexeme is decides, once the channels are known to have failed
  have one {failed : Option ChannelError} {first : Lexeme} {rest : List Lexeme}
      (window_eq : window = first :: rest)
      (out : OutOfRange window ↔ ∃ x, failed = some (.outOfRange x))
      (h : (colorWord failed first).map (·, 1) = .error e) :
      (∃ w rest, window = .word w :: rest) ∧ e.kind = .colorResolution ∨
        OutOfRange window ∧ e.kind = .channelRange ∨
        (¬ ∃ w rest, window = .word w :: rest) ∧ ¬ OutOfRange window ∧ e.kind = .arity := by
    have h : colorWord failed first = .error e := by
      cases word : colorWord failed first with
      | ok c => simp [word, Except.map] at h
      | error e' => simpa [word, Except.map] using h
    by_cases isWord : ∃ w, first = .word w
    · obtain ⟨w, rfl⟩ := isWord
      exact .inl ⟨⟨w, rest, window_eq⟩, kind_of_colorWord_word h⟩
    · have noWord : ¬ ∃ w rest, window = .word w :: rest := by
        rintro ⟨w, rest', same⟩
        rw [window_eq] at same
        cases same
        exact isWord ⟨w, rfl⟩
      rcases kind_of_colorWord_other (fun w same => isWord ⟨w, same⟩) h with
        ⟨kind, failed⟩ | ⟨kind, failed⟩
      · exact .inr (.inl ⟨out.mpr failed, kind⟩)
      · exact .inr (.inr ⟨noWord, fun h => failed (out.mp h), kind⟩)
  unfold color at h
  split at h
  · cases h
    exact .inr (.inr ⟨by simp, few (by simp), rfl⟩)
  next r g b a rest =>
    split at h
    · cases h
    next e' failed =>
      refine one rfl ?_ h
      rw [outOfRange_cons_iff, failed]
      simp
  next first rest short =>
    refine one rfl (iff_of_false (few ?_) (by simp)) h
    match rest, short with
    | [], _ | [_], _ | [_, _], _ => simp
    | g :: b :: a :: rest, short => exact (short g b a rest rfl).elim

/-- The two writings of a color, with the count of lexemes that each takes. No window is both, since
a word is no channel. -/
theorem color_eq_ok_iff (window : List Lexeme) (c : Color) (count : Nat) :
    color window = .ok (c, count) ↔
      (count = 4 ∧ ∃ r g b a rest, window = r :: g :: b :: a :: rest ∧
        r.IsChannel c.r ∧ g.IsChannel c.g ∧ b.IsChannel c.b ∧ a.IsChannel c.a) ∨
      (count = 1 ∧ ∃ w rest, window = .word w :: rest ∧ Color.WrittenAs w c) := by
  have one (failed : Option ChannelError) (first : Lexeme) :
      (colorWord failed first).map (·, 1) = .ok (c, count) ↔
        count = 1 ∧ ∃ w, first = .word w ∧ Color.WrittenAs w c := by
    rw [← colorWord_eq_ok_iff failed]
    cases colorWord failed first <;> simp [Except.map, and_comm, eq_comm]
  constructor
  · intro h
    unfold color at h
    split at h
    · cases h
    next r g b a rest =>
      split at h
      next c' four =>
        cases h
        exact .inl ⟨rfl, r, g, b, a, rest, rfl, (channels_eq_ok_iff r g b a c).mp four⟩
      · obtain ⟨rfl, w, rfl, written⟩ := (one _ _).mp h
        exact .inr ⟨rfl, w, _, rfl, written⟩
    · obtain ⟨rfl, w, rfl, written⟩ := (one _ _).mp h
      exact .inr ⟨rfl, w, _, rfl, written⟩
  · rintro (⟨rfl, r, g, b, a, rest, rfl, four⟩ | ⟨rfl, w, rest, rfl, written⟩)
    · simp only [color, (channels_eq_ok_iff r g b a c).mpr four]
    · match rest with
      | [] | [_] | [_, _] => exact (one none (.word w)).mpr ⟨rfl, w, rfl, written⟩
      | g :: b :: a :: rest =>
        exact (one (some (.notNumber (.word w))) (.word w)).mpr ⟨rfl, w, rfl, written⟩

/-- A color is four numbers that are its channels, or one word that writes it, and nothing else. What
is neither fails: a first word is then no color; without one, a number among the first four is no
channel and only channels stand before it; and in any other case the arguments are not there. -/
theorem color_of_four_or_one (window : List Lexeme) :
    (∀ c, color window = .ok (c, 4) ↔
      ∃ r g b a rest, window = r :: g :: b :: a :: rest ∧
        r.IsChannel c.r ∧ g.IsChannel c.g ∧ b.IsChannel c.b ∧ a.IsChannel c.a) ∧
    (∀ c, color window = .ok (c, 1) ↔
      ∃ w rest, window = .word w :: rest ∧ Color.WrittenAs w c) ∧
    (∀ c count, color window = .ok (c, count) → count = 4 ∨ count = 1) ∧
    ∀ e, color window = .error e →
      (e.kind = .colorResolution ↔ ∃ w rest, window = .word w :: rest) ∧
      (e.kind = .channelRange ↔ OutOfRange window) ∧
      (e.kind = .arity ↔ (¬ ∃ w rest, window = .word w :: rest) ∧ ¬ OutOfRange window) := by
  refine ⟨fun c => by simp [color_eq_ok_iff], fun c => by simp [color_eq_ok_iff], ?_, ?_⟩
  · intro c count h
    exact ((color_eq_ok_iff window c count).mp h).imp And.left And.left
  · intro e h
    -- a first word and numbers out of range exclude each other
    have apart (word : ∃ w rest, window = .word w :: rest) : ¬ OutOfRange window := by
      rintro ⟨-, ⟨x, rest', number⟩, -⟩
      obtain ⟨w, rest, rfl⟩ := word
      cases number
    rcases kind_of_color h with ⟨word, kind⟩ | ⟨out, kind⟩ | ⟨noWord, inRange, kind⟩
    · simp [kind, word, apart word]
    · have noWord : ¬ ∃ w rest, window = .word w :: rest := fun word => apart word out
      simp only [kind, out, noWord, reduceCtorEq, not_true, and_false, and_self]
    · simp only [kind, noWord, inRange, reduceCtorEq, not_false_eq_true, and_self]

/-- A name in any case is a color, and too few digits are none. -/
theorem color_of_word_or_none :
    color [.word "ReD", .word "blue"] = .ok (⟨0xff, 0x00, 0x00, 0xff⟩, 1) ∧
    ∃ e, color [.word "#12", .number 3.0] = .error e ∧ e.kind = .colorResolution :=
  ⟨((color_of_four_or_one _).2.1 _).mpr ⟨"ReD", _, rfl, .name (by decide) (by decide)⟩,
    _, rfl, ((color_of_four_or_one [.word "#12", .number 3.0]).2.2.2 _ rfl).1.mpr ⟨"#12", _, rfl⟩⟩

end Argument
end SlideDeck
