/-!
# Named entries

Lists of entries with a name each, in the order in which the names first came. An entry that is
inserted takes the place of the one with its name, or comes last. Where names may occur more than
once, the last entry of a name is the one that counts (`lastNamed?`), and `mergeEntries` keeps only
those.
-/

namespace SlideDeck

/-- Puts a value under a name: in the place of the name if it is there, else at the end. -/
def insertEntry {α : Type} (name : String) (value : α) :
    List (String × α) → List (String × α)
  | [] => [(name, value)]
  | e :: rest => if e.1 = name then (name, value) :: rest else e :: insertEntry name value rest

/-- The value of the last entry of a name. -/
def lastNamed? {α : Type} (name : String) : List (String × α) → Option α
  | [] => none
  | e :: rest => (lastNamed? name rest).orElse fun _ => if e.1 = name then some e.2 else none

/-- Entries with one for each name: the last value, in the place where the name first came. -/
def mergeEntries {α : Type} (es : List (String × α)) : List (String × α) :=
  es.foldl (fun merged e => insertEntry e.1 e.2 merged) []

/-- An insertion adds the name at the end, unless it is there. -/
theorem names_insertEntry {α : Type} (name : String) (value : α) (es : List (String × α)) :
    (insertEntry name value es).map Prod.fst =
      if name ∈ es.map Prod.fst then es.map Prod.fst else es.map Prod.fst ++ [name] := by
  induction es with
  | nil => simp [insertEntry]
  | cons e rest ih =>
    by_cases h : e.1 = name
    · simp [insertEntry, h]
    · have h' : name ≠ e.1 := fun eq => h eq.symm
      simp only [insertEntry, h, if_false, List.map_cons, ih, List.mem_cons, h', false_or]
      split <;> simp

/-- Names that occur once each still do after an insertion. -/
theorem nodup_insertEntry {α : Type} (name : String) (value : α) (es : List (String × α))
    (once : (es.map Prod.fst).Nodup) : ((insertEntry name value es).map Prod.fst).Nodup := by
  rw [names_insertEntry]
  split
  · exact once
  · rename_i absent
    rw [List.nodup_append]
    refine ⟨once, by simp, fun a ha b hb eq => absent ?_⟩
    rw [List.mem_singleton] at hb
    exact hb ▸ eq ▸ ha

end SlideDeck
