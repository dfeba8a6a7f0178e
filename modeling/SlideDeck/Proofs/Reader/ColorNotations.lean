import SlideDeck.Proofs.Reader.CarriedOut
import SlideDeck.Proofs.Reader.Steps
import SlideDeck.Reader.Deck

/-!
# Notations of a color

A color is noted in three ways: as a word of hexadecimal digits, as four whole numbers, and as the four
bytes that are kept. A word notes one if it has eight digits, of either case, and perhaps a number sign
before them (`Color.IsHexWord`); its written form is the same word with a number sign and in lower case
(`Color.toHex_of_ofHex`). A byte in decimal digits is a number that is read as that byte
(`Argument.channel_decimal`).

A directive of colors takes from its arguments no more than the color
(`Draft.readFrom_of_notes`), so in every draft the two notations of one color do the same.

**The law** (`Color.notations_agree`): these words and no others are taken for colors; the written
form of a color is read back as the color; and where a directive of colors makes sense it sets the
color of its arguments (`Draft.Paints`), whichever notation they have.
-/

namespace SlideDeck

/-! ## Words of digits -/

namespace Color

/-- The hexadecimal digits of either case. -/
def hexCharacters : List Char :=
  "0123456789abcdefABCDEF".toList

/-- A word of eight hexadecimal digits, with or without a number sign before them. -/
structure IsHexWord (w : String) (digits : List Char) : Prop where
  word : w.toList = digits ∨ w.toList = '#' :: digits
  eight : digits.length = 8
  hex : ∀ ch ∈ digits, ch ∈ hexCharacters

/-- A character with a value is a digit, and in lower case the one that the value is written with. -/
theorem hexValue?_eq_some {ch : Char} {n : Nat} (h : hexValue? ch = some n) :
    ch ∈ hexCharacters ∧ ch.toLower = Text.hexDigit n := by
  have ascii : ∀ k : Fin 128, (hexValue? (Char.ofNat k)).all (fun v =>
      decide (Char.ofNat k ∈ hexCharacters ∧ (Char.ofNat k).toLower = Text.hexDigit v)) = true := by
    decide +kernel
  -- the characters are checked one by one, and this one is among them
  have here := ascii ⟨ch.toNat, (hexValue?_bounds h).2⟩
  rw [Char.ofNat_toNat, h, Option.all_some] at here
  exact of_decide_eq_true here

/-- Every digit has a value. -/
theorem exists_hexValue? {ch : Char} (h : ch ∈ hexCharacters) : ∃ n, hexValue? ch = some n := by
  have each : ∀ ch ∈ hexCharacters, (hexValue? ch).isSome = true :=
    List.all_iff_forall_prop.mp (by decide)
  exact Option.isSome_iff_exists.mp (each ch h)

/-- Two digits write some byte. -/
theorem exists_isByte {high low : Char} (first : high ∈ hexCharacters)
    (second : low ∈ hexCharacters) : ∃ c, IsByte high low c := by
  obtain ⟨h, hh⟩ := exists_hexValue? first
  obtain ⟨l, hl⟩ := exists_hexValue? second
  exact ⟨channelOf h l, (isByte_iff high low _).mpr ⟨h, l, hh, hl, rfl⟩⟩

/-- Two digits that write a byte are, in lower case, the ones that it is written with. -/
theorem channelHex_of_isByte {high low : Char} {c : UInt8} (h : IsByte high low c) :
    channelHex c = [high.toLower, low.toLower] := by
  obtain ⟨m, n, first, second, value⟩ := h
  have digits : ∀ m n : Fin 16,
      Text.hexDigits 2 (16 * m + n) = [Text.hexDigit m, Text.hexDigit n] := by
    decide +kernel
  rw [channelHex, value, (hexValue?_eq_some first).2, (hexValue?_eq_some second).2]
  exact digits ⟨m, (hexValue?_bounds first).1⟩ ⟨n, (hexValue?_bounds second).1⟩

/-- A word without the number sign of its digits. -/
theorem IsHexWord.dropNumberSign_eq {w : String} {digits : List Char} (h : IsHexWord w digits) :
    dropNumberSign w.toList = digits := by
  rcases h.word with plain | signed
  · rw [plain]
    unfold dropNumberSign
    split
    · exact absurd (h.hex '#' List.mem_cons_self) (by decide)
    · rfl
  · rw [signed]
    rfl

/-- A word of digits is the color of its bytes. -/
theorem IsHexWord.exists_ofHex {w : String} {digits : List Char} (h : IsHexWord w digits) :
    ∃ c, ofHex w = .ok c := by
  obtain ⟨r, r', g, g', b, b', a, a', rfl⟩ :
      ∃ r r' g g' b b' a a', digits = [r, r', g, g', b, b', a, a'] := by
    match digits, h.eight with
    | [r, r', g, g', b, b', a, a'], _ => exact ⟨r, r', g, g', b, b', a, a', rfl⟩
  have hex := h.hex
  simp only [List.forall_mem_cons] at hex
  obtain ⟨hr, hr', hg, hg', hb, hb', ha, ha', -⟩ := hex
  obtain ⟨red, isRed⟩ := exists_isByte hr hr'
  obtain ⟨green, isGreen⟩ := exists_isByte hg hg'
  obtain ⟨blue, isBlue⟩ := exists_isByte hb hb'
  obtain ⟨opacity, isOpacity⟩ := exists_isByte ha ha'
  exact ⟨⟨red, green, blue, opacity⟩, (ofHex_eq_ok_iff_isByte w _).mpr
    ⟨r, r', g, g', b, b', a, a', h.dropNumberSign_eq, isRed, isGreen, isBlue, isOpacity⟩⟩

/-- A text is what it is without a number sign, or that with one before it. -/
theorem eq_or_eq_of_dropNumberSign {cs digits : List Char} (h : dropNumberSign cs = digits) :
    cs = digits ∨ cs = '#' :: digits := by
  unfold dropNumberSign at h
  split at h
  · exact .inr (by rw [h])
  · exact .inl h

/-- **A word that is a color has eight digits, and the color is written with them in lower case.** -/
theorem toHex_of_ofHex {w : String} {c : Color} (h : ofHex w = .ok c) :
    IsHexWord w (dropNumberSign w.toList) ∧
      c.toHex = String.ofList ('#' :: (dropNumberSign w.toList).map Char.toLower) := by
  obtain ⟨r, r', g, g', b, b', a, a', digits, red, green, blue, opacity⟩ :=
    (ofHex_eq_ok_iff_isByte w c).mp h
  have hex {high low : Char} {byte : UInt8} (two : IsByte high low byte) :
      high ∈ hexCharacters ∧ low ∈ hexCharacters := by
    obtain ⟨_, _, first, second, -⟩ := two
    exact ⟨(hexValue?_eq_some first).1, (hexValue?_eq_some second).1⟩
  refine ⟨⟨eq_or_eq_of_dropNumberSign rfl, by rw [digits]; rfl, ?_⟩, ?_⟩
  · rw [digits]
    simp only [List.forall_mem_cons]
    exact ⟨(hex red).1, (hex red).2, (hex green).1, (hex green).2, (hex blue).1, (hex blue).2,
      (hex opacity).1, (hex opacity).2, nofun⟩
  · rw [toHex, digits, channelHex_of_isByte red, channelHex_of_isByte green,
      channelHex_of_isByte blue, channelHex_of_isByte opacity]
    rfl

/-- The words of the four channels in decimal digits. -/
def decimals (c : Color) : List String :=
  [c.r, c.g, c.b, c.a].map fun channel => toString channel.toNat

end Color

/-! ## Decimal digits -/

/-- A whole number in decimal digits is a number. -/
theorem Lexeme.ofWord_toString (n : Nat) :
    Lexeme.ofWord (toString n).toList = .number (Number.ofDecimal n 0) := by
  have digits : (toString n).toList = Nat.toDigits 10 n := by
    rw [Nat.toString_eq_repr, Nat.toList_repr]
  have read : Number.read? (toString n).toList = some (Number.ofDecimal n 0) := by
    rw [digits, Number.read?_toDigits]
  refine ofWord_of_read? (fun c mem => ?_) read
  rw [digits] at mem
  exact Number.mem_numberChars_of_isDigit (Number.isDigit_toDigits mem)

/-- A byte in decimal digits is read as that byte. -/
theorem Argument.channel_decimal (c : UInt8) :
    Argument.channel (Lexeme.ofWord (toString c.toNat).toList) = .ok c := by
  have bytes : ∀ n : Fin 256,
      Argument.channelOfNumber? (Number.ofDecimal n 0) = some (UInt8.ofNat n) := by
    decide +kernel
  have byte := bytes ⟨c.toNat, c.toNat_lt⟩
  simp only [UInt8.ofNat_toNat] at byte
  rw [Lexeme.ofWord_toString, Argument.channel, byte]

/-! ## Arguments that note a color -/

/-- Lexemes that are read as a color, whatever stands behind them. -/
structure Argument.Notes (ls : List Lexeme) (c : Color) : Prop where
  few : ls.length ≤ windowSize
  color : ∀ more, Argument.color (ls ++ more) = .ok (c, ls.length)

/-- The written form notes the color. -/
theorem Argument.notes_toHex (c : Color) : Argument.Notes [Lexeme.ofWord c.toHex.toList] c := by
  refine ⟨Nat.le_of_ble_eq_true rfl, fun more => ?_⟩
  rw [ofWord_toHex]
  exact Draft.color_toHex c more

/-- And so do its four channels. -/
theorem Argument.notes_decimals (c : Color) :
    Argument.Notes (c.decimals.map fun w => Lexeme.ofWord w.toList) c := by
  refine ⟨Nat.le_of_ble_eq_true rfl, fun more => ?_⟩
  refine (Argument.color_eq_ok_iff _ _ _).mpr (.inl ⟨rfl, _, _, _, _, more, rfl, ?_⟩)
  simp only [← Argument.channel_eq_ok_iff]
  exact ⟨Argument.channel_decimal c.r, Argument.channel_decimal c.g, Argument.channel_decimal c.b,
    Argument.channel_decimal c.a⟩

namespace Draft

variable {around : Surroundings} {d d' : Draft} {c : Color} {directive : Directive}

/-- A directive of colors makes sense in a draft, and gives it the color. -/
inductive Paints (c : Color) (d : Draft) : Directive → Draft → Prop where
  | defaultBackground (inside : d.context = .defaults) :
    Paints c d .background (d.changeDefaults fun s => { s with background := some c })
  | background {open_ : Slide} (inside : d.context = .slide) (there : d.currentSlide = .ok open_) :
    Paints c d .background (d.changeSlide fun s => { s with background := some c })
  | defaultFontColor (inside : d.context = .defaults) :
    Paints c d .fontColor (d.changeDefaults fun s => { s with fontColor := some c })
  | fontColor {body : TextBody} (inside : d.context = .text) (shown : d.lastText = .ok body) :
    Paints c d .fontColor
      (d.changeSection fun s => { s with body := .text { body with color := some c } })

/-! ## Directives of colors -/

/-- What a step makes of a color that it reads after having looked at the draft: the same of any
arguments that note the color. -/
theorem exists_outcome_of_color {α : Type} (seen : Except DeckError α) (paint : α → Color → Draft) :
    ∃ outcome : Except DeckError (Color → Draft),
      ∀ {window : List Lexeme} {c : Color} {count : Nat}, Argument.color window = .ok (c, count) →
        (do let a ← seen
            let (color, count) ← Argument.color window
            return (paint a color, count)) = outcome.map fun paint => (paint c, count) := by
  refine ⟨seen.map paint, fun color => ?_⟩
  rw [color]
  cases seen <;> rfl

/-- What the background is changed to, or why it is not, hangs on the draft and the color alone. -/
theorem applyBackground_of_color (d : Draft) :
    ∃ outcome : Except DeckError (Color → Draft),
      ∀ {window : List Lexeme} {c : Color} {count : Nat}, Argument.color window = .ok (c, count) →
        d.applyBackground window = outcome.map fun paint => (paint c, count) := by
  unfold applyBackground
  cases d.requireContext .background [.defaults, .slide] with
  | error e => exact ⟨.error e, fun _ => rfl⟩
  | ok _ =>
    by_cases inside : d.context = .defaults
    · simp only [if_pos inside]
      exact exists_outcome_of_color (.ok ()) fun _ c =>
        d.changeDefaults fun s => { s with background := some c }
    · simp only [if_neg inside]
      exact exists_outcome_of_color d.currentSlide fun _ c =>
        d.changeSlide fun s => { s with background := some c }

/-- And so does the color of letters. -/
theorem applyFontColor_of_color (d : Draft) :
    ∃ outcome : Except DeckError (Color → Draft),
      ∀ {window : List Lexeme} {c : Color} {count : Nat}, Argument.color window = .ok (c, count) →
        d.applyFontColor window = outcome.map fun paint => (paint c, count) := by
  unfold applyFontColor
  cases d.requireContext .fontColor [.defaults, .text] with
  | error e => exact ⟨.error e, fun _ => rfl⟩
  | ok _ =>
    by_cases inside : d.context = .defaults
    · simp only [if_pos inside]
      exact exists_outcome_of_color (.ok ()) fun _ c =>
        d.changeDefaults fun s => { s with fontColor := some c }
    · simp only [if_neg inside]
      exact exists_outcome_of_color d.lastText fun body c =>
        d.changeSection fun s => { s with body := .text { body with color := some c } }

/-- **A directive of colors takes no more from its arguments than the color.** -/
theorem readFrom_of_notes (around : Surroundings) (d : Draft)
    (colors : directive ∈ [.background, .fontColor]) :
    ∃ outcome : Except DeckError (Color → Draft), ∀ {t : Token} {args : List Token} {c : Color},
      t.lexeme = .directive directive → Argument.Notes (args.map Token.lexeme) c → ∀ rest,
        readFrom around 0 d (t :: (args ++ rest)) =
          match outcome with
          | .error e => (d, .error ((Failure.ofError e).attach t))
          | .ok paint => readFrom around 0 (paint c) rest := by
  have applied : ∃ outcome : Except DeckError (Color → Draft),
      ∀ {window : List Lexeme} {c : Color} {count : Nat}, Argument.color window = .ok (c, count) →
        apply around d (.directive directive) window =
          d.attemptDeck (outcome.map fun paint => (paint c, count)) := by
    simp only [List.mem_cons, List.not_mem_nil, or_false] at colors
    rcases colors with rfl | rfl
    · obtain ⟨outcome, h⟩ := applyBackground_of_color d
      exact ⟨outcome, fun color => by rw [apply, h color]⟩
    · obtain ⟨outcome, h⟩ := applyFontColor_of_color d
      exact ⟨outcome, fun color => by rw [apply, h color]⟩
  obtain ⟨outcome, h⟩ := applied
  refine ⟨outcome, fun {t args c} said notes rest => ?_⟩
  obtain ⟨more, window⟩ := exists_window_append (by simpa using notes.few) rest
  have step := h (window ▸ notes.color more)
  rw [readFrom, said, step]
  cases outcome with
  | error e => rfl
  | ok paint =>
    rw [List.length_map]
    exact Takes.readFrom_length args rest

/-- What a directive of colors sets is what it paints. -/
theorem paints_of_apply {window : List Lexeme} {count count' : Nat}
    (colors : directive ∈ [.background, .fontColor]) (color : Argument.color window = .ok (c, count))
    (h : apply around d (.directive directive) window = (d', .ok count')) :
    Paints c d directive d' := by
  have same {c' : Color} {count' : Nat} (color' : Argument.color window = .ok (c', count')) :
      c = c' := by
    rw [color] at color'
    exact (Prod.mk.inj (Except.ok.inj color')).1
  cases carriesOut_of_apply h with
  | defaultBackground inside color' => exact same color' ▸ .defaultBackground inside
  | background inside there color' => exact same color' ▸ .background inside there
  | defaultFontColor inside color' => exact same color' ▸ .defaultFontColor inside
  | fontColor inside shown color' => exact same color' ▸ .fontColor inside shown
  | _ => exact absurd colors (by decide)

theorem Paints.apply_eq {window : List Lexeme} {count : Nat} (h : Paints c d directive d')
    (color : Argument.color window = .ok (c, count)) :
    apply around d (.directive directive) window = (d', .ok count) := by
  cases h with
  | defaultBackground inside => exact (CarriesOut.defaultBackground inside color).apply_eq
  | background inside there => exact (CarriesOut.background inside there color).apply_eq
  | defaultFontColor inside => exact (CarriesOut.defaultFontColor inside color).apply_eq
  | fontColor inside shown => exact (CarriesOut.fontColor inside shown color).apply_eq

/-- A directive with a color as its arguments is read where it paints, and there it paints. -/
theorem read_eq_ok_iff_paints {t : Token} {args : List Token}
    (colors : directive ∈ [.background, .fontColor]) (said : t.lexeme = .directive directive)
    (notes : Argument.Notes (args.map Token.lexeme) c) :
    read around d (t :: args) = (d', .ok ()) ↔ Paints c d directive d' := by
  have window : (args.take windowSize).map Token.lexeme = args.map Token.lexeme := by
    rw [List.take_of_length_le (by simpa using notes.few)]
  have color := notes.color []
  rw [List.append_nil, List.length_map] at color
  rw [read, readFrom, window, said]
  constructor
  · intro h
    cases step : apply around d (.directive directive) (args.map Token.lexeme) with
    | mk d'' outcome =>
      rw [step] at h
      cases outcome with
      | error failure => cases h
      | ok count =>
        -- what paints takes all arguments, so nothing is left to read
        have paints := paints_of_apply colors color step
        cases step.symm.trans (paints.apply_eq color)
        cases (Takes.readFrom_length_self args).symm.trans h
        exact paints
  · intro paints
    rw [paints.apply_eq color]
    exact Takes.readFrom_length_self args

end Draft

/-- A word is a color in hexadecimal digits if it has eight of them, with one number sign before them
or none, and the color is written with the same digits in lower case. What is written for a color is
read as the color. Where a directive of colors makes sense, it sets the color that is written behind it
in either way; and everywhere what comes after is read alike. -/
theorem Color.notations_agree :
    (∀ w, ((∃ c, ofHex w = .ok c) ↔ ∃ digits, IsHexWord w digits) ∧
      ∀ c digits, ofHex w = .ok c → IsHexWord w digits →
        c.toHex = String.ofList ('#' :: digits.map Char.toLower)) ∧
    (∀ c : Color, parse c.toHex = .ok c) ∧
    ∀ (c : Color) (around : Surroundings) (d : Draft) (directive : Directive) (t : Token)
      (one four rest : List Token),
      directive ∈ [.background, .fontColor] → t.lexeme = .directive directive →
      one.map Token.lexeme = [Lexeme.ofWord c.toHex.toList] →
      four.map Token.lexeme = c.decimals.map (fun w => Lexeme.ofWord w.toList) →
        (∀ d', Draft.read around d (t :: one) = (d', .ok ()) ↔ Draft.Paints c d directive d') ∧
        (∀ d', Draft.read around d (t :: four) = (d', .ok ()) ↔ Draft.Paints c d directive d') ∧
        Draft.read around d (t :: (one ++ rest)) = Draft.read around d (t :: (four ++ rest)) := by
  refine ⟨fun w => ⟨⟨?_, ?_⟩, ?_⟩, parse_toHex, ?_⟩
  · rintro ⟨c, taken⟩
    exact ⟨_, (toHex_of_ofHex taken).1⟩
  · rintro ⟨digits, hex⟩
    exact hex.exists_ofHex
  · intro c digits taken hex
    rw [(toHex_of_ofHex taken).2, hex.dropNumberSign_eq]
  · intro c around d directive t one four rest colors said isOne isFour
    have one_ : Argument.Notes (one.map Token.lexeme) c := isOne ▸ Argument.notes_toHex c
    have four_ : Argument.Notes (four.map Token.lexeme) c := isFour ▸ Argument.notes_decimals c
    obtain ⟨outcome, reads⟩ := Draft.readFrom_of_notes around d colors
    refine ⟨fun d' => Draft.read_eq_ok_iff_paints colors said one_,
      fun d' => Draft.read_eq_ok_iff_paints colors said four_, ?_⟩
    rw [Draft.read, Draft.read, reads said one_, reads said four_]

/-- A word in both cases, and the background of a slide in both notations; two number signs are one too
many. -/
theorem Color.notations_agree_mixed_case :
    let c : Color := ⟨160, 177, 194, 211⟩
    let around : Surroundings := ⟨{}, Path.ofString ".", Deck.loader {} {} []⟩
    let d' : Draft := ⟨{}, some { background := some c }, .slide⟩
    ofHex "A0b1C2d3" = .ok c ∧ c.toHex = "#a0b1c2d3" ∧ (¬ ∃ c, ofHex "##a0b1c2d3" = .ok c) ∧
      Draft.read around ⟨{}, some {}, .slide⟩ (Token.tokenize ":bc #a0b1c2d3" 0) = (d', .ok ()) ∧
      Draft.read around ⟨{}, some {}, .slide⟩ (Token.tokenize ":bc 160 177 194 211" 0) =
        (d', .ok ()) := by
  intro c around d'
  obtain ⟨words, -, read⟩ := notations_agree
  have hex : IsHexWord "A0b1C2d3" "A0b1C2d3".toList :=
    ⟨.inl rfl, by decide +kernel, List.all_iff_forall_prop.mp (by decide +kernel)⟩
  have taken : ofHex "A0b1C2d3" = .ok c := by decide
  have tooMany : ¬ ∃ digits, IsHexWord "##a0b1c2d3" digits := by
    rintro ⟨digits, word | word, eight, signs⟩
    · rw [← word] at eight
      cases eight
    · obtain rfl : digits = "#a0b1c2d3".toList := (List.cons.inj word).2.symm
      cases eight
  let tokens := Token.tokenize ":bc 160 177 194 211" 0
  have split : tokens = ⟨.directive .background, ⟨0, 0, 3⟩⟩ :: tokens.tail := by decide +kernel
  obtain ⟨one, four, -⟩ := read c around ⟨{}, some {}, .slide⟩ .background
    ⟨.directive .background, ⟨0, 0, 3⟩⟩ [⟨.word "#a0b1c2d3", ⟨0, 4, 13⟩⟩] tokens.tail []
    (by decide) rfl (by decide +kernel) (by decide +kernel)
  have paints : Draft.Paints c ⟨{}, some {}, .slide⟩ .background d' := .background rfl rfl
  refine ⟨taken, (words _).2 c _ taken hex, mt (words _).1.mp tooMany, (one d').mpr paints, ?_⟩
  rw [← split] at four
  exact (four d').mpr paints

end SlideDeck
