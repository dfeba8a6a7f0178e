import SlideDeck.Proofs.Json.Scalars

/-!
# JSON text and back

A value is read back from its text in every layout, if it is `Readable`: its numbers can be told by
their text, and its arrays and objects are nested at most to the limit of the reader. The steps that
reading takes are no more than the characters of the text, so the reader's bound on them is never met.

**The law** (`parse_writeAt`): the text of a readable value, with line ends after it, is parsed as the
value.
-/

namespace SlideDeck.Json

open SlideDeck.Text SlideDeck.Number

variable {indent : Indent} {depth : Nat}

/-- The values that are read back, by how deep they may be nested. -/
inductive Readable : Nat → Json → Prop where
  | null {depth : Nat} : Readable depth .null
  | bool {depth : Nat} (value : Bool) : Readable depth (.bool value)
  | integer {depth : Nat} {i : Int} (short : (Nat.toDigits 10 i.natAbs).length ≤ digitLimit) :
    Readable depth (.integer i)
  | real {depth : Nat} {x : Float} {negative : Bool} {m : Nat} {e : Int}
    (finite : parts x = .finite negative m e) : Readable depth (.real x)
  | string {depth : Nat} (s : String) : Readable depth (.string s)
  | noItems {depth : Nat} : Readable depth (.array [])
  | array {depth : Nat} {vs : List Json} (items : ∀ v ∈ vs, Readable depth v) :
    Readable (depth + 1) (.array vs)
  | noMembers {depth : Nat} : Readable depth (.object [])
  | object {depth : Nat} {ms : List (String × Json)} (members : ∀ m ∈ ms, Readable depth m.2) :
    Readable (depth + 1) (.object ms)

theorem Readable.item {v : Json} (h : Readable depth v) : Readable (depth + 1) (.array [v]) :=
  .array (List.forall_mem_singleton.mpr h)

theorem Readable.member {v : Json} (h : Readable depth v) (name : String) :
    Readable (depth + 1) (.object [(name, v)]) :=
  .object (List.forall_mem_singleton.mpr h)

/-! ## Gaps -/

theorem skipGap_cons {c : Char} (h : isGap c = false) (cs : List Char) :
    skipGap (c :: cs) = c :: cs := by
  rw [skipGap, List.dropWhile_cons_of_neg (by simp [h])]

/-- The break before an item is passed over. -/
@[simp]
theorem skipGap_lineBreak (indent : Indent) (level : Nat) (cs : List Char) :
    skipGap (lineBreak indent level ++ cs) = skipGap cs := by
  have blanks : ∀ n, skipGap (List.replicate n ' ' ++ cs) = skipGap cs := by
    intro n
    induction n with
    | zero => rfl
    | succ n ih => exact ih
  cases indent with
  | none => rfl
  | some width => exact blanks (width * level)

/-- So is what stands between a colon and a value. -/
theorem skipGap_colon (indent : Indent) (cs : List Char) :
    ∃ after, colon indent ++ cs = ':' :: after ∧ skipGap after = skipGap cs := by
  cases indent with
  | none => exact ⟨cs, rfl, rfl⟩
  | some width => exact ⟨' ' :: cs, rfl, rfl⟩

theorem first_numeric {text : List Char} {v : Json} (h : Numeric text v) :
    ∃ c cs, text = c :: cs ∧ isGap c = false ∧ c ≠ ']' := by
  obtain ⟨negative, c, cs, rfl, digit, -⟩ := h
  cases negative with
  | true => exact ⟨'-', c :: cs, rfl, rfl, by decide⟩
  | false =>
    have noDigit : ∀ d ∈ [' ', '\t', '\n', '\r', ']'], d.isDigit = false :=
      List.all_iff_forall_prop.mp (by decide)
    have other : ∀ d ∈ [' ', '\t', '\n', '\r', ']'], c ≠ d := by
      rintro d mem rfl
      exact Bool.false_ne_true ((noDigit c mem).symm.trans digit)
    simp only [List.forall_mem_cons] at other
    exact ⟨c, cs, rfl, by simp [isGap, other], other.2.2.2.2.1⟩

/-- How the text of a value starts: not with a gap, and not as an array ends. -/
theorem first_writeAt {v : Json} (h : Readable depth v) (indent : Indent) (level : Nat) :
    ∃ c cs, writeAt indent level v = c :: cs ∧ isGap c = false ∧ c ≠ ']' := by
  cases h with
  | null => exact ⟨'n', _, by rw [writeAt]; rfl, rfl, by decide⟩
  | bool value =>
    cases value with
    | true => exact ⟨'t', _, by rw [writeAt]; rfl, rfl, by decide⟩
    | false => exact ⟨'f', _, by rw [writeAt]; rfl, rfl, by decide⟩
  | integer short =>
    rw [writeAt]
    exact first_numeric (numeric_integer short)
  | real finite =>
    rw [writeAt]
    exact first_numeric (numeric_real finite)
  | string s => exact ⟨'"', _, by rw [writeAt]; rfl, rfl, by decide⟩
  | noItems => exact ⟨'[', _, by rw [writeAt], rfl, by decide⟩
  | @array _ vs items =>
    cases vs with
    | nil => exact ⟨'[', _, by rw [writeAt], rfl, by decide⟩
    | cons v vs => exact ⟨'[', _, by rw [writeAt]; rfl, rfl, by decide⟩
  | noMembers => exact ⟨'\x7b', _, by rw [writeAt], rfl, by decide⟩
  | @object _ ms members =>
    cases ms with
    | nil => exact ⟨'\x7b', _, by rw [writeAt], rfl, by decide⟩
    | cons m ms => exact ⟨'\x7b', _, by rw [writeAt]; rfl, rfl, by decide⟩

/-- No gap comes before a value. -/
theorem skipGap_writeAt {v : Json} (h : Readable depth v) (indent : Indent) (level : Nat)
    (cs : List Char) :
    skipGap (writeAt indent level v ++ cs) = writeAt indent level v ++ cs := by
  obtain ⟨c, text, start, noGap, -⟩ := first_writeAt h indent level
  rw [start, List.cons_append, skipGap_cons noGap]

/-! ## Items and members -/

/-- A value is read back from its text, wherever it stands. -/
def ReadBack (indent : Indent) (depth : Nat) (v : Json) : Prop :=
  ∀ fuel level rest, (writeAt indent level v).length ≤ fuel → Delimited rest →
    value? (fuel + 1) depth (writeAt indent level v ++ rest) = some (v, rest)

/-- What follows an item or a member. -/
theorem delimited_lineBreak (indent : Indent) (level : Nat) {c : Char} (h : c = ']' ∨ c = '\x7d')
    (rest : List Char) : Delimited (lineBreak indent level ++ c :: rest) := by
  cases indent with
  | none =>
    intro d mem
    obtain rfl : c = d := Option.some.inj mem
    rcases h with rfl | rfl <;> decide
  | some width =>
    intro d mem
    obtain rfl : '\n' = d := Option.some.inj mem
    decide

theorem delimited_comma (rest : List Char) : Delimited (',' :: rest) := by
  intro d mem
  obtain rfl : ',' = d := Option.some.inj mem
  decide

/-- An array that does not end at once is read item by item. -/
theorem value?_array {rest text : List Char} {c : Char} (start : skipGap rest = c :: text)
    (noEnd : c ≠ ']') (fuel depth : Nat) :
    value? (fuel + 1) (depth + 1) ('[' :: rest) =
      (items? fuel depth (c :: text)).map fun (vs, rest) => (.array vs, rest) := by
  simp [value?, start, noEnd]

/-- The items of an array are read back. -/
theorem items?_writeItems {v : Json} {vs : List Json}
    (readable : ∀ u ∈ v :: vs, Readable depth u) (back : ∀ u ∈ v :: vs, ReadBack indent depth u)
    (fuel level outer : Nat) (rest : List Char)
    (enough : (writeAt indent level v).length + (writeItems indent level vs).length + 2 ≤ fuel) :
    items? fuel depth (writeAt indent level v ++ (writeItems indent level vs ++
      (lineBreak indent outer ++ ']' :: rest))) = some (v :: vs, rest) := by
  induction vs generalizing v fuel with
  | nil =>
    obtain ⟨fuel, rfl⟩ := Nat.exists_eq_add_of_le' (Nat.le_of_add_left_le enough)
    have last := back v List.mem_cons_self fuel level (lineBreak indent outer ++ ']' :: rest)
      (by omega) (delimited_lineBreak indent outer (.inl rfl) rest)
    rw [writeItems, List.nil_append, items?, last]
    simp only
    rw [skipGap_lineBreak, skipGap_cons rfl]
    rfl
  | cons u us ih =>
    obtain ⟨fuel, rfl⟩ := Nat.exists_eq_add_of_le' (Nat.le_of_add_left_le enough)
    rw [writeItems, List.length_append, List.length_append, List.length_cons] at enough
    have first := back v List.mem_cons_self fuel level
      (writeItems indent level (u :: us) ++ (lineBreak indent outer ++ ']' :: rest)) (by omega)
      (by rw [writeItems]; exact delimited_comma _)
    have others := ih (fun w mem => readable w (List.mem_cons_of_mem _ mem))
      (fun w mem => back w (List.mem_cons_of_mem _ mem)) (fuel + 1) (by omega)
    rw [items?, first]
    simp only [writeItems, List.cons_append, List.append_assoc]
    rw [skipGap_cons rfl]
    simp only
    rw [skipGap_lineBreak, skipGap_writeAt (readable u (by simp)), others]
    rfl

/-- A member is read back, and what comes after it decides how reading goes on. -/
theorem members?_first (name : String) {v : Json} (readable : Readable depth v)
    (back : ReadBack indent depth v) (fuel level : Nat) {rest : List Char}
    (enough : (writeAt indent level v).length ≤ fuel) (delimited : Delimited rest) :
    members? (fuel + 2) depth
      (writeString name ++ (colon indent ++ (writeAt indent level v ++ rest))) =
      match skipGap rest with
      | '\x7d' :: rest => some ([(name, v)], rest)
      | ',' :: rest =>
        (members? (fuel + 1) depth (skipGap rest)).map fun (ms, rest) => ((name, v) :: ms, rest)
      | _ => none := by
  obtain ⟨after, split, same⟩ := skipGap_colon indent (writeAt indent level v ++ rest)
  rw [skipGap_writeAt readable] at same
  have quoted : writeString name ++ (colon indent ++ (writeAt indent level v ++ rest)) =
      '"' :: (name.toList.flatMap escapeChar ++ '"' :: ':' :: after) := by
    rw [split, writeString, List.cons_append, List.cons_append, List.append_assoc]
    rfl
  have itself : name = String.ofList name.toList := String.ofList_toList.symm
  rw [quoted, members?, stringBody_escaped]
  simp only
  rw [skipGap_cons rfl]
  simp only [same, back fuel level rest enough delimited]
  exact itself ▸ rfl

/-- The members of an object are read back. -/
theorem members?_writeMembers {name : String} {v : Json} {ms : List (String × Json)}
    (readable : ∀ m ∈ (name, v) :: ms, Readable depth m.2)
    (back : ∀ m ∈ (name, v) :: ms, ReadBack indent depth m.2) (fuel level outer : Nat)
    (rest : List Char)
    (enough : (writeAt indent level v).length + (writeMembers indent level ms).length + 2 ≤ fuel) :
    members? fuel depth (writeString name ++ (colon indent ++ (writeAt indent level v ++
      (writeMembers indent level ms ++ (lineBreak indent outer ++ '\x7d' :: rest))))) =
      some ((name, v) :: ms, rest) := by
  induction ms generalizing name v fuel with
  | nil =>
    obtain ⟨fuel, rfl⟩ := Nat.exists_eq_add_of_le' (Nat.le_of_add_left_le enough)
    rw [writeMembers, List.nil_append,
      members?_first name (readable (name, v) List.mem_cons_self)
        (back (name, v) List.mem_cons_self) fuel level (by simp only; omega)
        (delimited_lineBreak indent outer (.inr rfl) rest),
      skipGap_lineBreak, skipGap_cons rfl]
    rfl
  | cons m ms ih =>
    obtain ⟨next, u⟩ := m
    obtain ⟨fuel, rfl⟩ := Nat.exists_eq_add_of_le' (Nat.le_of_add_left_le enough)
    simp only [writeMembers, List.length_append, List.length_cons] at enough
    have others := ih (fun w mem => readable w (List.mem_cons_of_mem _ mem))
      (fun w mem => back w (List.mem_cons_of_mem _ mem)) (fuel + 1) (by omega)
    have quoted : ∀ cs, skipGap (writeString next ++ cs) = writeString next ++ cs :=
      fun _ => skipGap_cons rfl _
    simp only [writeMembers, List.cons_append, List.append_assoc]
    rw [members?_first name (readable (name, v) List.mem_cons_self)
        (back (name, v) List.mem_cons_self) fuel level (by simp only; omega) (delimited_comma _),
      skipGap_cons rfl]
    simp only
    rw [skipGap_lineBreak, quoted, others]
    rfl

/-! ## Values -/

/-- The text of a number is no array and no object, so it is read as the number. -/
theorem value?_numeric {text : List Char} {v : Json} (h : Numeric text v) (fuel : Nat)
    {rest : List Char} (delimited : Delimited rest) :
    value? (fuel + 1) depth (text ++ rest) = some (v, rest) := by
  have atom := atom?_numeric h delimited
  obtain ⟨negative, c, cs, rfl, digit, -⟩ := h
  rw [← atom]
  cases negative with
  | true => rfl
  | false =>
    have other : c ≠ '[' ∧ c ≠ '\x7b' := by
      constructor <;> (rintro rfl; cases digit)
    simp [value?, other]

/-- **Every readable value is read back.** -/
theorem readBack {v : Json} (h : Readable depth v) (indent : Indent) : ReadBack indent depth v := by
  induction h with
  | null => exact fun fuel level rest _ _ => by rw [writeAt]; rfl
  | bool value =>
    intro fuel level rest _ _
    cases value <;> (rw [writeAt]; rfl)
  | integer short =>
    intro fuel level rest _ delimited
    rw [writeAt]
    exact value?_numeric (numeric_integer short) fuel delimited
  | real finite =>
    intro fuel level rest _ delimited
    rw [writeAt]
    exact value?_numeric (numeric_real finite) fuel delimited
  | string s =>
    intro fuel level rest _ _
    have quoted : writeAt indent level (.string s) ++ rest =
        '"' :: (s.toList.flatMap escapeChar ++ '"' :: rest) := by
      rw [writeAt, writeString, List.cons_append, List.cons_append, List.append_assoc]
      rfl
    rw [quoted, value?]
    · simp only [atom?, stringBody_escaped, Option.map_some, String.ofList_toList]
    · intro _ same
      cases same
    · intro _ same
      cases same
  | noItems => exact fun fuel level rest _ _ => by rw [writeAt]; rfl
  | noMembers => exact fun fuel level rest _ _ => by rw [writeAt]; rfl
  | @array depth vs items ih =>
    intro fuel level rest enough _
    cases vs with
    | nil =>
      rw [writeAt]
      rfl
    | cons v vs =>
      obtain ⟨c, text, start, noGap, noEnd⟩ :=
        first_writeAt (items v List.mem_cons_self) indent (level + 1)
      have inside := items?_writeItems items ih fuel (level + 1) level rest (by
        simp only [writeAt, List.length_append, List.length_cons] at enough
        omega)
      simp only [writeAt, List.cons_append, List.append_assoc, List.nil_append]
      rw [start, List.cons_append] at inside ⊢
      rw [value?_array (skipGap_lineBreak indent (level + 1) _ |>.trans (skipGap_cons noGap _)) noEnd,
        inside]
      rfl
  | @object depth ms members ih =>
    intro fuel level rest enough _
    cases ms with
    | nil =>
      rw [writeAt]
      rfl
    | cons m ms =>
      obtain ⟨name, v⟩ := m
      have inside := members?_writeMembers members ih fuel (level + 1) level rest (by
        simp only [writeAt, List.length_append, List.length_cons] at enough
        omega)
      simp only [writeAt, List.cons_append, List.append_assoc, List.nil_append]
      obtain ⟨more, start⟩ : ∃ more, writeString name ++ (colon indent ++
          (writeAt indent (level + 1) v ++ (writeMembers indent (level + 1) ms ++
            (lineBreak indent level ++ '\x7d' :: rest)))) = '"' :: more := ⟨_, rfl⟩
      rw [start] at inside ⊢
      unfold value?
      simp only [skipGap_lineBreak]
      rw [skipGap_cons rfl]
      have goesOn : (members? fuel depth ('"' :: more)).map (fun m => (Json.object m.1, m.2)) =
          some (.object ((name, v) :: ms), rest) := by
        rw [inside]
        rfl
      exact goesOn

/-! ## No carriage returns

The text of a value breaks lines with newlines only, so that reading it from a file leaves it as it
is. -/

theorem return_not_mem_lineBreak (indent : Indent) (level : Nat) :
    '\r' ∉ lineBreak indent level := by
  cases indent with
  | none => exact List.not_mem_nil
  | some width => simp [lineBreak]

theorem return_not_mem_colon (indent : Indent) : '\r' ∉ colon indent := by
  cases indent <;> simp [colon]

theorem return_not_mem_writeString (s : String) : '\r' ∉ writeString s := by
  have escaped : ∀ c, '\r' ∉ escapeChar c := by
    intro c mem
    rcases escapeChar_cases c with ⟨d, written, reads⟩ | ⟨control, written⟩ |
      ⟨-, -, visible, written⟩
    · rw [written, List.mem_cons, List.mem_singleton] at mem
      rcases mem with mem | rfl
      · cases mem
      · cases reads
    · have digits : ∀ n : Fin 0x20, '\r' ∉ '\\' :: 'u' :: hexDigits 4 n := by decide
      rw [written] at mem
      exact digits ⟨c.toNat, control⟩ mem
    · rw [written, List.mem_singleton] at mem
      rw [← mem] at visible
      exact absurd visible (by decide)
  have inside : '\r' ∉ s.toList.flatMap escapeChar := by
    intro mem
    obtain ⟨c, -, mem⟩ := List.mem_flatMap.mp mem
    exact escaped c mem
  simp [writeString, inside]

theorem return_not_mem_number {text : List Char} (h : ∀ c ∈ text, c ∈ numberChars) :
    '\r' ∉ text :=
  fun mem => absurd (h _ mem) (by decide)

/-- There is none in the text of a value. -/
theorem return_not_mem_writeAt {v : Json} (h : Readable depth v) (indent : Indent) (level : Nat) :
    '\r' ∉ writeAt indent level v := by
  induction h generalizing level with
  | null => rw [writeAt]; decide
  | bool value => cases value <;> (rw [writeAt]; decide)
  | @integer _ i short =>
    rw [writeAt, toList_integer]
    refine return_not_mem_number fun c mem => ?_
    rcases List.mem_append.mp mem with mem | mem
    · split at mem
      · rw [List.mem_singleton.mp mem]
        decide
      · cases mem
    · exact mem_numberChars_of_isDigit (isDigit_toDigits mem)
  | @real _ x negative m e finite =>
    rw [writeAt]
    obtain ⟨n, wf, -, text⟩ := document.text_finite (by decide) finite
    rw [text]
    have sign : ∀ c ∈ if negative then ['-'] else [], c ∈ numberChars := by
      cases negative <;> exact List.all_iff_forall_prop.mp (by decide)
    refine return_not_mem_number fun c mem => ?_
    rcases List.mem_append.mp mem with mem | mem
    · exact sign c mem
    · exact wf.mem_numberChars mem
  | string s =>
    rw [writeAt]
    exact return_not_mem_writeString s
  | noItems => rw [writeAt]; decide
  | noMembers => rw [writeAt]; decide
  | @array depth vs items ih =>
    have others : ∀ us, (∀ u ∈ us, u ∈ vs) → '\r' ∉ writeItems indent (level + 1) us := by
      intro us inside
      induction us with
      | nil => exact List.not_mem_nil
      | cons u us rest =>
        have first := ih u (inside u List.mem_cons_self) (level + 1)
        have more := rest fun w mem => inside w (List.mem_cons_of_mem _ mem)
        simp [writeItems, first, more, return_not_mem_lineBreak]
    cases vs with
    | nil => rw [writeAt]; decide
    | cons v vs =>
      have first := ih v List.mem_cons_self (level + 1)
      have more := others vs fun w mem => List.mem_cons_of_mem _ mem
      simp [writeAt, first, more, return_not_mem_lineBreak]
  | @object depth ms members ih =>
    have others : ∀ us, (∀ u ∈ us, u ∈ ms) → '\r' ∉ writeMembers indent (level + 1) us := by
      intro us inside
      induction us with
      | nil => exact List.not_mem_nil
      | cons u us rest =>
        have first := ih u (inside u List.mem_cons_self) (level + 1)
        have more := rest fun w mem => inside w (List.mem_cons_of_mem _ mem)
        simp [writeMembers, first, more, return_not_mem_lineBreak, return_not_mem_colon,
          return_not_mem_writeString]
    cases ms with
    | nil => rw [writeAt]; decide
    | cons m ms =>
      have first := ih m List.mem_cons_self (level + 1)
      have more := others ms fun w mem => List.mem_cons_of_mem _ mem
      simp [writeAt, first, more, return_not_mem_lineBreak, return_not_mem_colon,
        return_not_mem_writeString]

/-! ## The law -/

/-- **The text of a readable value is parsed as the value**, with line ends after it. -/
theorem parse_writeAt {limit : Nat} {v : Json} (h : Readable limit v) (indent : Indent)
    (gap : List Char) (ends : ∀ c ∈ gap, c = '\n') :
    parse limit (writeAt indent 0 v ++ gap) = some v := by
  have delimited : Delimited gap := by
    intro c mem
    obtain rfl := ends c (List.mem_of_mem_head? mem)
    decide
  have passed : skipGap gap = [] := by
    rw [skipGap, List.dropWhile_eq_nil_iff]
    intro c mem
    rw [ends c mem]
    rfl
  rw [parse, skipGap_writeAt h, readBack h indent _ 0 gap (by simp) delimited]
  simp only [passed, List.isEmpty_nil, if_true]

theorem parse_write {limit : Nat} {v : Json} (h : Readable limit v) (indent : Indent) :
    parse limit (v.write indent).toList = some v := by
  have back := parse_writeAt h indent [] nofun
  rwa [List.append_nil, ← String.toList_ofList (l := writeAt _ _ _)] at back

end SlideDeck.Json
