import SlideDeck.Proofs.Reader.CarriedOut

/-!
# What a directive takes

A directive takes its arguments from the first of the tokens after it on, and says how many they are.
The tokens behind these it may have looked at, but only to find that they are none of its arguments.

**The law** (`Draft.apply_take`): a lexeme that succeeds does the same if the tokens after it are cut
anywhere behind the ones that it takes. In particular those alone are enough. The tokens cannot be
given more instead: a size of one number would take a second one.
-/

namespace SlideDeck

/-! ## Arguments -/

namespace Argument

variable {window : List Lexeme} {what : String} {count enough : Nat}

theorem number_take {place : Nat} {x : Float} (h : number window place what = .ok x)
    (inside : place < enough) : number (window.take enough) place what = .ok x := by
  unfold number at h ⊢
  rwa [List.getElem?_take_of_lt inside]

theorem path_take {p : String} (h : path window what = .ok p) (some_ : 1 ≤ enough) :
    path (window.take enough) what = .ok p := by
  obtain ⟨more, rfl⟩ := Nat.exists_eq_add_of_le' some_
  cases window with
  | nil => cases h
  | cons l rest =>
    cases l with
    | word written => exact h
    | _ => cases h

theorem size_take {v : Vec2} (h : size window = .ok (v, count)) (le : count ≤ enough) :
    size (window.take enough) = .ok (v, count) := by
  unfold size at h
  split at h
  · cases h
  · cases h
    obtain ⟨more, rfl⟩ := Nat.exists_eq_add_of_le' le
    rfl
  · rename_i x rest single
    cases h
    obtain ⟨more, rfl⟩ := Nat.exists_eq_add_of_le' le
    cases rest with
    | nil =>
      rw [List.take_succ_cons, List.take_nil]
      rfl
    | cons l rest =>
      cases more with
      | zero => rfl
      | succ more =>
        cases l with
        | number y => exact absurd rfl (single y rest)
        | _ => rfl
  · cases h

theorem color_take {c : Color} (h : color window = .ok (c, count)) (le : count ≤ enough) :
    color (window.take enough) = .ok (c, count) := by
  rw [color_eq_ok_iff] at h ⊢
  obtain ⟨more, rfl⟩ := Nat.exists_eq_add_of_le' le
  rcases h with ⟨rfl, r, g, b, a, rest, rfl, four⟩ | ⟨rfl, w, rest, rfl, written⟩
  · exact .inl ⟨rfl, r, g, b, a, rest.take more, rfl, four⟩
  · exact .inr ⟨rfl, w, rest.take more, rfl, written⟩

end Argument

/-! ## Directives -/

namespace Draft

variable {around : Surroundings} {d d' : Draft} {window : List Lexeme} {count enough : Nat}

/-- What is carried out needs no lexemes but those that it takes. -/
theorem CarriesOut.take {l : Lexeme} (h : CarriesOut around d window l d' count)
    (le : count ≤ enough) : CarriesOut around d (window.take enough) l d' count := by
  cases h with
  | defaults => exact .defaults
  | slide => exact .slide
  | text pushed => exact .text pushed
  | figure path resolved pushed => exact .figure (Argument.path_take path le) resolved pushed
  | position inside there first second =>
    exact .position inside there (Argument.number_take first (by omega))
      (Argument.number_take second le)
  | defaultSize inside size => exact .defaultSize inside (Argument.size_take size le)
  | size inside there size => exact .size inside there (Argument.size_take size le)
  | rotation inside shown first => exact .rotation inside shown (Argument.number_take first le)
  | defaultFontColor inside color =>
    exact .defaultFontColor inside (Argument.color_take color le)
  | fontColor inside shown color => exact .fontColor inside shown (Argument.color_take color le)
  | defaultBackground inside color =>
    exact .defaultBackground inside (Argument.color_take color le)
  | background inside there color =>
    exact .background inside there (Argument.color_take color le)
  | importDeck path loaded => exact .importDeck (Argument.path_take path le) loaded
  | line inside shown => exact .line inside shown
  | blank outside blank => exact .blank outside blank
  | comment => exact .comment

/-- **A lexeme that succeeds does the same with the tokens after it cut**, if those that it takes are
left. -/
theorem apply_take {l : Lexeme} (h : apply around d l window = (d', .ok count))
    (le : count ≤ enough) : apply around d l (window.take enough) = (d', .ok count) :=
  ((carriesOut_of_apply h).take le).apply_eq

end Draft

end SlideDeck
