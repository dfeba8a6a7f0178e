import SlideDeck.Document.Problem
import SlideDeck.Proofs.Json.RoundTrip

/-!
# What the text of a value leaves out

The text of a value holds no number that is not finite: `null` stands in its place. So it is the text of
the value in which these numbers have become nulls (`writeAt_nulled`), and that is what is read back.
`nulled` is stated for any choice of numbers that are kept; if all are, it changes nothing
(`nulled_of_all`). The others are lost, each at a place that leads to it (`mem_lost`).
-/

namespace SlideDeck.Json

variable {keep : Float → Bool}

mutual

/-- A value in which the numbers that are not kept have become nulls. -/
def nulled (keep : Float → Bool) : Json → Json
  | .real x => if keep x then .real x else .null
  | .array vs => .array (nulledItems keep vs)
  | .object ms => .object (nulledMembers keep ms)
  | v => v

/-- Items in which the numbers that are not kept have become nulls. -/
def nulledItems (keep : Float → Bool) : List Json → List Json
  | [] => []
  | v :: vs => v.nulled keep :: nulledItems keep vs

/-- Members in which the numbers that are not kept have become nulls. -/
def nulledMembers (keep : Float → Bool) : List (String × Json) → List (String × Json)
  | [] => []
  | (name, v) :: ms => (name, v.nulled keep) :: nulledMembers keep ms

end

@[simp]
theorem nulledItems_eq (keep : Float → Bool) (vs : List Json) :
    nulledItems keep vs = vs.map (nulled keep) := by
  induction vs with
  | nil => rw [nulledItems, List.map_nil]
  | cons v vs ih => rw [nulledItems, ih, List.map_cons]

@[simp]
theorem nulledMembers_eq (keep : Float → Bool) (ms : List (String × Json)) :
    nulledMembers keep ms = ms.map fun m => (m.1, m.2.nulled keep) := by
  induction ms with
  | nil => rw [nulledMembers, List.map_nil]
  | cons m ms ih => rw [nulledMembers, ih, List.map_cons]

@[simp]
theorem nulled_array (keep : Float → Bool) (vs : List Json) :
    (Json.array vs).nulled keep = .array (vs.map (nulled keep)) := by
  rw [nulled, nulledItems_eq]

@[simp]
theorem nulled_object (keep : Float → Bool) (ms : List (String × Json)) :
    (Json.object ms).nulled keep = .object (ms.map fun m => (m.1, m.2.nulled keep)) := by
  rw [nulled, nulledMembers_eq]

mutual

/-- A value is itself if all of its numbers are kept. -/
theorem nulled_of_all (all : ∀ x, keep x = true) : ∀ v : Json, v.nulled keep = v
  | .null | .bool _ | .integer _ | .string _ => by rw [nulled] <;> nofun
  | .real x => by rw [nulled, if_pos (all x)]
  | .array vs => by rw [nulled, nulledItems_of_all all vs]
  | .object ms => by rw [nulled, nulledMembers_of_all all ms]

theorem nulledItems_of_all (all : ∀ x, keep x = true) : ∀ vs, nulledItems keep vs = vs
  | [] => by rw [nulledItems]
  | v :: vs => by rw [nulledItems, nulled_of_all all v, nulledItems_of_all all vs]

theorem nulledMembers_of_all (all : ∀ x, keep x = true) : ∀ ms, nulledMembers keep ms = ms
  | [] => by rw [nulledMembers]
  | (name, v) :: ms => by rw [nulledMembers, nulled_of_all all v, nulledMembers_of_all all ms]

end

/-! ## Places -/

mutual

/-- The places of the numbers that are not kept. -/
def lost (keep : Float → Bool) : Json → List (List Step)
  | .real x => if keep x then [] else [[]]
  | .array vs => lostItems keep 0 vs
  | .object ms => lostMembers keep ms
  | _ => []

/-- The places of the numbers that are not kept in items, counted from a number on. -/
def lostItems (keep : Float → Bool) : Nat → List Json → List (List Step)
  | _, [] => []
  | position, v :: vs =>
    (v.lost keep).map (.index position :: ·) ++ lostItems keep (position + 1) vs

/-- The places of the numbers that are not kept in members. -/
def lostMembers (keep : Float → Bool) : List (String × Json) → List (List Step)
  | [] => []
  | (name, v) :: ms => (v.lost keep).map (.key name :: ·) ++ lostMembers keep ms

end

@[simp]
theorem lost_array (keep : Float → Bool) (vs : List Json) :
    (Json.array vs).lost keep = lostItems keep 0 vs := by
  rw [lost]

@[simp]
theorem lost_object (keep : Float → Bool) (ms : List (String × Json)) :
    (Json.object ms).lost keep = lostMembers keep ms := by
  rw [lost]

@[simp]
theorem lostItems_eq_nil_iff {vs : List Json} {first : Nat} :
    lostItems keep first vs = [] ↔ ∀ v ∈ vs, v.lost keep = [] := by
  induction vs generalizing first with
  | nil => simp [lostItems]
  | cons v vs ih => simp [lostItems, ih]

@[simp]
theorem lostMembers_eq_nil_iff {ms : List (String × Json)} :
    lostMembers keep ms = [] ↔ ∀ m ∈ ms, m.2.lost keep = [] := by
  induction ms with
  | nil => simp [lostMembers]
  | cons m ms ih => simp [lostMembers, ih]

/-- Steps lead from a value to one of its parts. -/
inductive LeadsTo : Json → List Step → Json → Prop where
  | here (v : Json) : LeadsTo v [] v
  | item {vs : List Json} {position : Nat} {v w : Json} {place : List Step}
    (there : vs[position]? = some v) (rest : LeadsTo v place w) :
    LeadsTo (.array vs) (.index position :: place) w
  | member {ms : List (String × Json)} {name : String} {v w : Json} {place : List Step}
    (there : (name, v) ∈ ms) (rest : LeadsTo v place w) :
    LeadsTo (.object ms) (.key name :: place) w

mutual

/-- **A number is lost at each place that leads to it**, unless it is kept. -/
theorem mem_lost {place : List Step} : ∀ {v : Json},
    place ∈ v.lost keep ↔ ∃ x, v.LeadsTo place (.real x) ∧ keep x = false
  | .null | .bool _ | .integer _ | .string _ => by
    simp only [lost, List.not_mem_nil, false_iff]
    rintro ⟨x, leads, -⟩
    cases leads
  | .real y => by
    rw [lost]
    constructor
    · intro mem
      split at mem
      · cases mem
      next notKept =>
        rw [List.mem_singleton.mp mem]
        exact ⟨y, .here _, Bool.eq_false_iff.mpr notKept⟩
    · rintro ⟨x, leads, notKept⟩
      cases leads
      rw [if_neg (Bool.eq_false_iff.mp notKept)]
      exact List.mem_singleton_self _
  | .array vs => by
    rw [lost_array, mem_lostItems]
    constructor
    · rintro ⟨position, v, rest, there, rfl, x, leads, notKept⟩
      rw [Nat.zero_add]
      exact ⟨x, .item there leads, notKept⟩
    · rintro ⟨x, leads, notKept⟩
      cases leads with
      | item there leads =>
        exact ⟨_, _, _, there, by rw [Nat.zero_add], x, leads, notKept⟩
  | .object ms => by
    rw [lost_object, mem_lostMembers]
    constructor
    · rintro ⟨name, v, rest, there, rfl, x, leads, notKept⟩
      exact ⟨x, .member there leads, notKept⟩
    · rintro ⟨x, leads, notKept⟩
      cases leads with
      | member there leads => exact ⟨_, _, _, there, rfl, x, leads, notKept⟩

theorem mem_lostItems {place : List Step} {first : Nat} : ∀ {vs : List Json},
    place ∈ lostItems keep first vs ↔ ∃ position v rest, vs[position]? = some v ∧
      place = .index (first + position) :: rest ∧ ∃ x, v.LeadsTo rest (.real x) ∧ keep x = false
  | [] => by simp [lostItems]
  | v :: vs => by
    rw [lostItems, List.mem_append, List.mem_map, mem_lostItems]
    constructor
    · rintro (⟨rest, mem, rfl⟩ | ⟨position, w, rest, there, rfl, lost⟩)
      · exact ⟨0, v, rest, rfl, rfl, mem_lost.mp mem⟩
      · refine ⟨position + 1, w, rest, there, ?_, lost⟩
        rw [Nat.add_assoc, Nat.add_comm 1]
    · rintro ⟨position, w, rest, there, rfl, lost⟩
      cases position with
      | zero =>
        cases there
        exact .inl ⟨rest, mem_lost.mpr lost, rfl⟩
      | succ position =>
        refine .inr ⟨position, w, rest, there, ?_, lost⟩
        rw [Nat.add_assoc, Nat.add_comm 1]

theorem mem_lostMembers {place : List Step} : ∀ {ms : List (String × Json)},
    place ∈ lostMembers keep ms ↔ ∃ name v rest, (name, v) ∈ ms ∧
      place = .key name :: rest ∧ ∃ x, v.LeadsTo rest (.real x) ∧ keep x = false
  | [] => by simp [lostMembers]
  | (name, v) :: ms => by
    rw [lostMembers, List.mem_append, List.mem_map, mem_lostMembers]
    constructor
    · rintro (⟨rest, mem, rfl⟩ | ⟨name', w, rest, there, rfl, lost⟩)
      · exact ⟨name, v, rest, List.mem_cons_self, rfl, mem_lost.mp mem⟩
      · exact ⟨name', w, rest, List.mem_cons_of_mem _ there, rfl, lost⟩
    · rintro ⟨name', w, rest, there, rfl, lost⟩
      rcases List.mem_cons.mp there with same | there
      · cases same
        exact .inl ⟨rest, mem_lost.mpr lost, rfl⟩
      · exact .inr ⟨name', w, rest, there, rfl, lost⟩

end

/-! ## Text -/

mutual

/-- **Numbers whose text is `null` can as well be null.** -/
theorem writeAt_nulled (lost : ∀ x, keep x = false → Number.document.text x = "null")
    (indent : Indent) (level : Nat) :
    ∀ v : Json, writeAt indent level (v.nulled keep) = writeAt indent level v
  | .null | .bool _ | .integer _ | .string _ => by rw [nulled] <;> nofun
  | .real x => by
    rw [nulled]
    split
    · rfl
    next notKept => rw [writeAt, writeAt, lost x (Bool.eq_false_iff.mpr notKept)]
  | .array [] => by rw [nulled, nulledItems]
  | .array (v :: vs) => by
    rw [nulled, nulledItems, writeAt, writeAt, writeAt_nulled lost indent _ v,
      writeItems_nulled lost indent _ vs]
  | .object [] => by rw [nulled, nulledMembers]
  | .object ((name, v) :: ms) => by
    rw [nulled, nulledMembers, writeAt, writeAt, writeAt_nulled lost indent _ v,
      writeMembers_nulled lost indent _ ms]

theorem writeItems_nulled (lost : ∀ x, keep x = false → Number.document.text x = "null")
    (indent : Indent) (level : Nat) :
    ∀ vs, writeItems indent level (nulledItems keep vs) = writeItems indent level vs
  | [] => by rw [nulledItems]
  | v :: vs => by
    rw [nulledItems, writeItems, writeItems, writeAt_nulled lost indent _ v,
      writeItems_nulled lost indent _ vs]

theorem writeMembers_nulled (lost : ∀ x, keep x = false → Number.document.text x = "null")
    (indent : Indent) (level : Nat) :
    ∀ ms, writeMembers indent level (nulledMembers keep ms) = writeMembers indent level ms
  | [] => by rw [nulledMembers]
  | (name, v) :: ms => by
    rw [nulledMembers, writeMembers, writeMembers, writeAt_nulled lost indent _ v,
      writeMembers_nulled lost indent _ ms]

end

/-! ## Names -/

/-- Entries keep their places when each value is changed. -/
theorem mergeEntries_map {α β : Type} (f : α → β) (es : List (String × α)) :
    mergeEntries (es.map fun e => (e.1, f e.2)) = (mergeEntries es).map fun e => (e.1, f e.2) := by
  have insert (name : String) (value : α) (es : List (String × α)) :
      insertEntry name (f value) (es.map fun e => (e.1, f e.2)) =
        (insertEntry name value es).map fun e => (e.1, f e.2) := by
    induction es with
    | nil => rfl
    | cons e es ih =>
      simp only [List.map_cons, insertEntry]
      split
      · rfl
      · rw [ih, List.map_cons]
  have from_ (merged es : List (String × α)) :
      (es.map fun e => (e.1, f e.2)).foldl (fun merged e => insertEntry e.1 e.2 merged)
          (merged.map fun e => (e.1, f e.2)) =
        (es.foldl (fun merged e => insertEntry e.1 e.2 merged) merged).map
          fun e => (e.1, f e.2) := by
    induction es generalizing merged with
    | nil => rfl
    | cons e es ih => rw [List.map_cons, List.foldl_cons, List.foldl_cons, insert, ih]
  exact from_ [] es

mutual

/-- Numbers become null in the members that count as they do in all. -/
theorem settled_nulled (keep : Float → Bool) :
    ∀ v : Json, (v.nulled keep).settled = v.settled.nulled keep
  | .null | .bool _ | .integer _ | .string _ => by rw [nulled, settled, nulled] <;> nofun
  | .real x => by
    have scalar : (Json.real x).settled = .real x := by rw [settled] <;> nofun
    rw [scalar, nulled]
    split
    · exact scalar
    · rw [settled] <;> nofun
  | .array vs => by
    rw [nulled, settled, settled, nulled, settledItems_nulled keep vs]
  | .object ms => by
    rw [nulled, settled, settled, nulled, settledMembers_nulled keep ms, nulledMembers_eq,
      nulledMembers_eq, mergeEntries_map]

theorem settledItems_nulled (keep : Float → Bool) :
    ∀ vs, settledItems (nulledItems keep vs) = nulledItems keep (settledItems vs)
  | [] => by rw [nulledItems, settledItems, nulledItems]
  | v :: vs => by
    rw [nulledItems, settledItems, settledItems, nulledItems, settled_nulled keep v,
      settledItems_nulled keep vs]

theorem settledMembers_nulled (keep : Float → Bool) :
    ∀ ms, settledMembers (nulledMembers keep ms) = nulledMembers keep (settledMembers ms)
  | [] => by rw [nulledMembers, settledMembers, nulledMembers]
  | (name, v) :: ms => by
    rw [nulledMembers, settledMembers, settledMembers, nulledMembers, settled_nulled keep v,
      settledMembers_nulled keep ms]

end

end SlideDeck.Json
