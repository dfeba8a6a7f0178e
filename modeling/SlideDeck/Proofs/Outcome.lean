import Mathlib.Data.List.Forall2

/-!
# Steps that may fail

What becomes of a step that is known to succeed or to fail, what is known of steps one by one when all
of them together have succeeded, and which errors they may raise together (`Raises`).
-/

namespace SlideDeck

variable {ε α β : Type}

@[simp]
theorem ok_bind (a : α) (f : α → Except ε β) : (Except.ok a >>= f) = f a := rfl

@[simp]
theorem error_bind (e : ε) (f : α → Except ε β) : (Except.error e >>= f) = .error e := rfl

@[simp]
theorem pure_eq_ok (a : α) : (pure a : Except ε α) = .ok a := rfl

@[simp]
theorem map_ok (f : α → β) (a : α) : (Except.ok a : Except ε α).map f = .ok (f a) := rfl

@[simp]
theorem map_error (f : α → β) (e : ε) : (Except.error e : Except ε α).map f = .error e := rfl

/-- Steps that succeed have succeeded one by one. -/
theorem ok_of_bind {x : Except ε α} {f : α → Except ε β} {b : β} (h : x >>= f = .ok b) :
    ∃ a, x = .ok a ∧ f a = .ok b := by
  cases x with
  | error e => cases h
  | ok a => exact ⟨a, rfl, h⟩

/-- A step that succeeds has succeeded whatever its errors become. -/
theorem ok_of_mapError {ε' : Type} {f : ε → ε'} {x : Except ε α} {a : α}
    (h : x.mapError f = .ok a) : x = .ok a := by
  cases x with
  | error e => cases h
  | ok a' =>
    cases h
    rfl

/-- A step that succeeds on a list has succeeded on each member. -/
theorem forall₂_of_mapM {f : α → Except ε β} {as : List α} {bs : List β}
    (h : as.mapM f = .ok bs) : List.Forall₂ (fun a b => f a = .ok b) as bs := by
  induction as generalizing bs with
  | nil =>
    cases h
    exact .nil
  | cons a as ih =>
    rw [List.mapM_cons] at h
    obtain ⟨b, first, h⟩ := ok_of_bind h
    obtain ⟨rest, more, h⟩ := ok_of_bind h
    cases h
    exact .cons first (ih more)

theorem exists_ok_of_mapM {f : α → Except ε β} {as : List α} {bs : List β}
    (h : as.mapM f = .ok bs) {a : α} (mem : a ∈ as) : ∃ b, f a = .ok b := by
  have each := forall₂_of_mapM h
  clear h
  induction each with
  | nil => cases mem
  | @cons a' b as bs first _ ih =>
    rcases List.mem_cons.mp mem with rfl | mem
    · exact ⟨b, first⟩
    · exact ih mem

/-- Steps that succeed one by one succeed together. -/
theorem exists_ok_mapM {f : α → Except ε β} {as : List α} (h : ∀ a ∈ as, ∃ b, f a = .ok b) :
    ∃ bs, as.mapM f = .ok bs := by
  induction as with
  | nil => exact ⟨[], rfl⟩
  | cons a as ih =>
    obtain ⟨b, first⟩ := h a List.mem_cons_self
    obtain ⟨bs, rest⟩ := ih fun other mem => h other (List.mem_cons_of_mem _ mem)
    refine ⟨b :: bs, ?_⟩
    rw [List.mapM_cons, first, rest]
    rfl

/-- A step that fails fails in its first part or in the rest of it. -/
theorem error_of_bind {x : Except ε α} {f : α → Except ε β} {e : ε} (h : x >>= f = .error e) :
    x = .error e ∨ ∃ a, x = .ok a ∧ f a = .error e := by
  cases x with
  | error e' =>
    cases h
    exact .inl rfl
  | ok a => exact .inr ⟨a, rfl, h⟩

/-- A step that fails on a list has failed on a member. -/
theorem error_of_mapM {f : α → Except ε β} {as : List α} {e : ε} (h : as.mapM f = .error e) :
    ∃ a ∈ as, f a = .error e := by
  induction as with
  | nil => cases h
  | cons a as ih =>
    rw [List.mapM_cons] at h
    rcases error_of_bind h with first | ⟨b, -, h⟩
    · exact ⟨a, List.mem_cons_self, first⟩
    · rcases error_of_bind h with rest | ⟨bs, -, h⟩
      · obtain ⟨other, mem, failed⟩ := ih rest
        exact ⟨other, List.mem_cons_of_mem _ mem, failed⟩
      · cases h

/-- Steps on a list succeed if and only if they succeed one by one. -/
theorem mapM_eq_ok_iff {f : α → Except ε β} {as : List α} {bs : List β} :
    as.mapM f = .ok bs ↔ List.Forall₂ (fun a b => f a = .ok b) as bs := by
  refine ⟨forall₂_of_mapM, fun each => ?_⟩
  induction each with
  | nil => rfl
  | cons first _ ih =>
    rw [List.mapM_cons, first, ih]
    rfl

/-- Steps on a list fail with the error of the first one that fails. -/
theorem mapM_eq_error_iff {f : α → Except ε β} {as : List α} {e : ε} :
    as.mapM f = .error e ↔ ∃ before a after, as = before ++ a :: after ∧
      (∀ b ∈ before, ∃ c, f b = .ok c) ∧ f a = .error e := by
  constructor
  · intro h
    induction as with
    | nil => cases h
    | cons a as ih =>
      rw [List.mapM_cons] at h
      rcases error_of_bind h with first | ⟨b, first, h⟩
      · exact ⟨[], a, as, rfl, nofun, first⟩
      · rcases error_of_bind h with rest | ⟨bs, -, h⟩
        · obtain ⟨before, failing, after, rfl, earlier, failed⟩ := ih rest
          exact ⟨a :: before, failing, after, rfl, List.forall_mem_cons.mpr ⟨⟨b, first⟩, earlier⟩,
            failed⟩
        · cases h
  · rintro ⟨before, a, after, rfl, earlier, failed⟩
    obtain ⟨bs, done⟩ := exists_ok_mapM earlier
    rw [List.mapM_append, done, List.mapM_cons, failed]
    rfl

/-- What is done with each value may be done with all of them. -/
theorem mapM_map {γ : Type} (f : α → Except ε β) (g : β → γ) (as : List α) :
    as.mapM (fun a => (f a).map g) = (as.mapM f).map (List.map g) := by
  induction as with
  | nil => rfl
  | cons a as ih =>
    rw [List.mapM_cons, List.mapM_cons, ih]
    cases f a with
    | error e => rfl
    | ok b => cases as.mapM f <;> rfl

/-! ## Errors -/

/-- An outcome that is no error but such ones. -/
def Raises (P : ε → Prop) (x : Except ε α) : Prop :=
  ∀ e, x = .error e → P e

namespace Raises

variable {P Q : ε → Prop} {x : Except ε α}

theorem ok (a : α) : Raises P (.ok a : Except ε α) :=
  nofun

theorem error {e : ε} (h : P e) : Raises P (.error e : Except ε α) := by
  rintro _ ⟨⟩
  exact h

theorem mono (h : Raises P x) (le : ∀ e, P e → Q e) : Raises Q x :=
  fun e raised => le e (h e raised)

theorem bind {f : α → Except ε β} (h : Raises P x) (next : ∀ a, x = .ok a → Raises P (f a)) :
    Raises P (x >>= f) := by
  cases x with
  | error e => exact error (h e rfl)
  | ok a => exact next a rfl

theorem map (f : α → β) (h : Raises P x) : Raises P (x.map f) := by
  cases x with
  | error e => exact error (h e rfl)
  | ok a => exact ok _

end Raises

end SlideDeck
