import SlideDeck.Document.File
import SlideDeck.Proofs.Document.Decode

/-!
# Documents as they are given

A document is given as text, or as the bytes of it (`Document.IsReadAs`), and names may occur more
than once in its objects. Of the members of one name the last one counts, whether it is looked up or
the object is settled first (`lastNamed?_mergeEntries`). So settling changes nothing that a check
looks up by name, and sections can be read as they are given (`Section.ofJson_settled`). Only the
body of a section is looked at as a whole: it has one tag if all of its members have the same name
(`Json.Wraps`).

**The law** (`Slide.sectionsOfJson_eq`): the sections of a slide are read one by one, as they are
given, without those that show nothing.
-/

namespace SlideDeck

open SlideDeck.Check

/-! ## Entries -/

section Entries

variable {α β : Type} {name : String} {es : List (String × α)}

@[simp]
theorem lastNamed?_cons (name : String) (e : String × α) (es : List (String × α)) :
    lastNamed? name (e :: es) =
      (lastNamed? name es).or (if e.1 = name then some e.2 else none) := by
  rw [lastNamed?]
  cases lastNamed? name es <;> rfl

theorem lastNamed?_append (name : String) (es fs : List (String × α)) :
    lastNamed? name (es ++ fs) = (lastNamed? name fs).or (lastNamed? name es) := by
  induction es with
  | nil => simp [lastNamed?]
  | cons e es ih => rw [List.cons_append, lastNamed?_cons, ih, lastNamed?_cons, Option.or_assoc]

/-- Values that are changed each by its name are looked up as before. -/
@[simp]
theorem lastNamed?_map (f : String → α → β) (name : String) (es : List (String × α)) :
    lastNamed? name (es.map fun e => (e.1, f e.1 e.2)) = (lastNamed? name es).map (f name) := by
  induction es with
  | nil => rfl
  | cons e es ih =>
    rw [List.map_cons, lastNamed?_cons, ih, lastNamed?_cons]
    by_cases same : e.1 = name
    · subst same
      cases lastNamed? e.1 es <;> simp
    · cases lastNamed? name es <;> simp [same]

theorem lastNamed?_eq_none_iff : lastNamed? name es = none ↔ name ∉ es.map Prod.fst := by
  induction es with
  | nil => simp [lastNamed?]
  | cons e es ih =>
    rw [lastNamed?_cons, Option.or_eq_none_iff, ih, List.map_cons, List.mem_cons, not_or, and_comm]
    refine and_congr_left fun _ => ?_
    by_cases same : e.1 = name
    · simp [same]
    · simp [same, Ne.symm same]

/-- An entry that is inserted where names occur once is the one of its name. -/
theorem lastNamed?_insertEntry (name' : String) (a : α) (once : (es.map Prod.fst).Nodup) :
    lastNamed? name (insertEntry name' a es) =
      if name' = name then some a else lastNamed? name es := by
  induction es with
  | nil => simp [insertEntry, lastNamed?]
  | cons e es ih =>
    rw [List.map_cons, List.nodup_cons] at once
    rw [insertEntry]
    by_cases here : e.1 = name'
    · subst here
      rw [if_pos rfl, lastNamed?_cons, lastNamed?_cons]
      by_cases same : e.1 = name
      · subst same
        simp [lastNamed?_eq_none_iff.mpr once.1]
      · simp [same]
    · rw [if_neg here, lastNamed?_cons, ih once.2, lastNamed?_cons]
      by_cases same : name' = name <;> simp [same]

/-- Merging keeps the last entry of each name, by induction on the entries that are still to come.
-/
theorem lastNamed?_foldl (name : String) (es merged : List (String × α))
    (once : (merged.map Prod.fst).Nodup) :
    lastNamed? name (es.foldl (fun merged e => insertEntry e.1 e.2 merged) merged) =
      (lastNamed? name es).or (lastNamed? name merged) := by
  induction es generalizing merged with
  | nil => rfl
  | cons e es ih =>
    refine (ih _ (nodup_insertEntry e.1 e.2 merged once)).trans ?_
    rw [lastNamed?_insertEntry _ _ once, lastNamed?_cons, Option.or_assoc]
    by_cases same : e.1 = name <;> simp [same]

/-- **The last entry of a name is the one that merging keeps.** -/
@[simp]
theorem lastNamed?_mergeEntries (name : String) (es : List (String × α)) :
    lastNamed? name (mergeEntries es) = lastNamed? name es := by
  rw [mergeEntries, lastNamed?_foldl name es [] List.nodup_nil, lastNamed?, Option.or_none]

/-- Entries that are merged into one of their name leave the last of them. -/
theorem foldl_insertEntry_singleton (all : ∀ e ∈ es, e.1 = name) (a : α) :
    es.foldl (fun merged e => insertEntry e.1 e.2 merged) [(name, a)] =
      [(name, (lastNamed? name es).getD a)] := by
  induction es generalizing a with
  | nil => rfl
  | cons e es ih =>
    obtain ⟨first, rest⟩ := List.forall_mem_cons.mp all
    have inserted : insertEntry e.1 e.2 [(name, a)] = [(name, e.2)] := by
      simp [insertEntry, first]
    rw [List.foldl_cons, inserted, ih rest, lastNamed?_cons, if_pos first]
    cases lastNamed? name es <;> rfl

/-- Entries that are all of one name are one entry. -/
theorem mergeEntries_eq_singleton_iff {a : α} :
    mergeEntries es = [(name, a)] ↔ (∀ e ∈ es, e.1 = name) ∧ lastNamed? name es = some a := by
  constructor
  · intro one
    have found (other : String) : lastNamed? other es = lastNamed? other [(name, a)] := by
      rw [← lastNamed?_mergeEntries, one]
    refine ⟨fun e mem => ?_, by simp [found, lastNamed?]⟩
    by_contra other
    have absent : lastNamed? e.1 es = none := by
      rw [found]
      simp [lastNamed?, Ne.symm other]
    exact lastNamed?_eq_none_iff.mp absent (List.mem_map_of_mem mem)
  · rintro ⟨all, last⟩
    cases es with
    | nil => cases last
    | cons e es =>
      obtain ⟨first, rest⟩ := List.forall_mem_cons.mp all
      have inserted : insertEntry e.1 e.2 [] = [(name, e.2)] := by rw [insertEntry, first]
      rw [lastNamed?_cons, if_pos first] at last
      rw [mergeEntries, List.foldl_cons, inserted, foldl_insertEntry_singleton rest]
      cases found : lastNamed? name es <;> rw [found] at last <;> cases last <;> rfl

end Entries

/-! ## Settled values -/

namespace Json

theorem settledItems_eq (vs : List Json) : settledItems vs = vs.map settled := by
  induction vs with
  | nil => rw [settledItems, List.map_nil]
  | cons v vs ih => rw [settledItems, ih, List.map_cons]

theorem settledMembers_eq (ms : List (String × Json)) :
    settledMembers ms = ms.map fun m => (m.1, m.2.settled) := by
  induction ms with
  | nil => rw [settledMembers, List.map_nil]
  | cons m ms ih => rw [settledMembers, ih, List.map_cons]

/-- A member of a settled object is the settled member. -/
@[simp]
theorem lastNamed?_settled (name : String) (ms : List (String × Json)) :
    lastNamed? name (settledMembers ms) = (lastNamed? name ms).map settled := by
  rw [settledMembers_eq, lastNamed?_map fun _ => settled]

@[simp]
theorem member?_settled (name : String) (v : Json) :
    v.settled.member? name = (v.member? name).map settled := by
  cases v <;> simp [settled, member?]

/-- A null stays null when it is settled, and nothing else becomes one. -/
theorem settled_eq_null_iff {v : Json} : v.settled = .null ↔ v = .null := by
  cases v <;> simp [settled]

/-- **A value with one tag**: an object whose members all have the name of the tag, the last of
which is an object. -/
def Wraps (v : Json) (tag : String) (body : List (String × Json)) : Prop :=
  ∃ es, v = .object es ∧ (∀ e ∈ es, e.1 = tag) ∧ lastNamed? tag es = some (.object body)

/-- A value has one tag if it is an object of one member once it is settled. -/
theorem wraps_iff_settled {v : Json} {tag : String} {ms : List (String × Json)} :
    v.settled = .object [(tag, .object ms)] ↔
      ∃ body, v.Wraps tag body ∧ mergeEntries (settledMembers body) = ms := by
  have object {w : Json} : w.settled = .object ms ↔
      ∃ body, w = .object body ∧ mergeEntries (settledMembers body) = ms := by
    cases w <;> simp [settled]
  constructor
  · intro one
    cases v with
    | object es =>
      rw [settled, Json.object.injEq, mergeEntries_eq_singleton_iff, lastNamed?_settled,
        Option.map_eq_some_iff] at one
      obtain ⟨all, w, last, inner⟩ := one
      obtain ⟨body, rfl, same⟩ := object.mp inner
      refine ⟨body, ⟨es, rfl, fun e mem => ?_, last⟩, same⟩
      rw [settledMembers_eq] at all
      exact List.forall_mem_map.mp all e mem
    | _ => simp [settled] at one
  · rintro ⟨body, ⟨es, rfl, all, last⟩, same⟩
    rw [settled, Json.object.injEq, mergeEntries_eq_singleton_iff, lastNamed?_settled,
      last, Option.map_some, object.mpr ⟨body, rfl, same⟩, settledMembers_eq]
    exact ⟨List.forall_mem_map.mpr all, rfl⟩

end Json

/-- A section that shows nothing shows nothing when it is settled. -/
@[simp]
theorem hasNullBody_settled (v : Json) : hasNullBody v.settled = hasNullBody v := by
  unfold hasNullBody
  rw [Json.member?_settled]
  cases v.member? "sec_main" with
  | none => rfl
  | some w => cases w <;> simp [Json.settled]

/-! ## Checks -/

namespace Check

variable {α : Type} {check : Json → Checked α}

/-- A check that makes no difference between a value and the settled one. -/
def Settles (check : Json → Checked α) : Prop :=
  ∀ v, check v.settled = check v

theorem nullable_of_ne_null {v : Json} (h : v ≠ .null) : nullable check v = (check v).map some := by
  cases v <;> first | rfl | exact absurd rfl h

theorem settles_nullable (h : Settles check) : Settles (nullable check) := by
  intro v
  by_cases null : v = .null
  · rw [null, Json.settled_eq_null_iff.mpr rfl]
  · rw [nullable_of_ne_null null, nullable_of_ne_null (mt Json.settled_eq_null_iff.mp null), h]

/-- A member is checked as it is given. -/
theorem required_settled (given : Json → Checked α) (same : ∀ v, check v.settled = given v)
    (ms : List (String × Json)) (name : String) :
    required (mergeEntries (Json.settledMembers ms)) name check = required ms name given := by
  simp only [required, lastNamed?_mergeEntries, Json.lastNamed?_settled]
  cases lastNamed? name ms with
  | none => rfl
  | some v => simp only [Option.map_some, same v]

@[simp]
theorem optional_settled (h : Settles check) (ms : List (String × Json)) (name : String)
    (default : α) :
    optional (mergeEntries (Json.settledMembers ms)) name default check =
      optional ms name default check := by
  simp only [optional, lastNamed?_mergeEntries, Json.lastNamed?_settled]
  cases lastNamed? name ms with
  | none => rfl
  | some v => simp only [Option.map_some, h v]

theorem settles_model {name : String} {ofMembers : List (String × Json) → Checked α}
    (h : ∀ ms, ofMembers (mergeEntries (Json.settledMembers ms)) = ofMembers ms) :
    Settles (model name ofMembers) := by
  intro v
  cases v with
  | object ms => rw [Json.settled, model, model, h]
  | _ => simp [Json.settled, model]

theorem settles_string : Settles string := by
  intro v
  cases v <;> simp [Json.settled, string]

theorem settles_number (origin : Origin) : Settles (number origin) := by
  intro v
  cases v <;> simp [Json.settled, number]

theorem settles_channel : Settles channel := by
  intro v
  cases v <;> simp [Json.settled, channel, integer]

end Check

theorem Vec2.settles_ofJson (origin : Origin) : Settles (Vec2.ofJson origin) :=
  settles_model fun ms => by
    rw [Vec2.ofMembers, required_settled _ (settles_number origin),
      required_settled _ (settles_number origin), Vec2.ofMembers]

theorem Color.settles_ofJson : Settles Color.ofJson :=
  settles_model fun ms => by
    simp only [Color.ofMembers, required_settled _ settles_channel]

@[simp]
theorem TextBody.ofMembers_settled (ms : List (String × Json)) :
    TextBody.ofMembers (mergeEntries (Json.settledMembers ms)) = TextBody.ofMembers ms := by
  simp only [TextBody.ofMembers, optional_settled settles_string,
    optional_settled (settles_nullable Color.settles_ofJson),
    optional_settled (settles_nullable settles_string)]

@[simp]
theorem FigureBody.ofMembers_settled (ms : List (String × Json)) :
    FigureBody.ofMembers (mergeEntries (Json.settledMembers ms)) = FigureBody.ofMembers ms := by
  simp only [FigureBody.ofMembers, required_settled _ settles_string,
    optional_settled (settles_number .value)]

/-! ## Bodies -/

theorem Body.ofJson_of_figure {v : Json} {body : List (String × Json)}
    (h : v.Wraps figureTag body) :
    Body.ofJson v.settled =
      ((FigureBody.ofMembers body).under (.key figureTag)).map Body.figure := by
  rw [Json.wraps_iff_settled.mpr ⟨body, h, rfl⟩, Body.ofJson, if_pos rfl,
    FigureBody.ofMembers_settled]

theorem Body.ofJson_of_text {v : Json} {body : List (String × Json)} (h : v.Wraps textTag body) :
    Body.ofJson v.settled = ((TextBody.ofMembers body).under (.key textTag)).map Body.text := by
  have different : textTag ≠ figureTag := by decide
  rw [Json.wraps_iff_settled.mpr ⟨body, h, rfl⟩, Body.ofJson, if_neg different, if_pos rfl,
    TextBody.ofMembers_settled]

/-- A value without one of the two tags is no body. -/
theorem Body.ofJson_of_untagged {v : Json} (figure : ∀ body, ¬ v.Wraps figureTag body)
    (text : ∀ body, ¬ v.Wraps textTag body) :
    Body.ofJson v.settled = Checked.complain .untagged := by
  unfold Body.ofJson
  split
  next tag ms one =>
    obtain ⟨body, wraps, -⟩ := Json.wraps_iff_settled.mp one
    split
    · rename_i same
      exact absurd (same ▸ wraps) (figure body)
    · split
      · rename_i same
        exact absurd (same ▸ wraps) (text body)
      · rfl
  next => rfl

/-! ## Sections -/

/-- A section from its members as they are given. -/
def Section.ofGivenMembers (ms : List (String × Json)) : Checked Section :=
  Checked.apply
    (Checked.apply ((optional ms "size" none (nullable (Vec2.ofJson .value))).map Section.mk)
      (optional ms "position" none (nullable (Vec2.ofJson .value))))
    (required ms "sec_main" fun v => Body.ofJson v.settled)

/-- A section as it is given. -/
def Section.ofGiven : Json → Checked Section :=
  model "Section" Section.ofGivenMembers

@[simp]
theorem Section.ofJson_settled (v : Json) : Section.ofJson v.settled = Section.ofGiven v := by
  have size := settles_nullable (Vec2.settles_ofJson .value)
  cases v with
  | object ms =>
    rw [Json.settled, Section.ofJson, model, Section.ofMembers, optional_settled size,
      optional_settled size, required_settled _ fun _ => rfl]
    rfl
  | _ => simp [Json.settled, Section.ofJson, Section.ofGiven, model]

/-- **The sections of a slide are read as they are given**, without those that show nothing. -/
theorem Slide.sectionsOfJson_eq (v : Json) : Slide.sectionsOfJson v =
    match v with
    | .array vs => itemsFrom Section.ofGiven 0 (vs.filter fun v => ! hasNullBody v)
    | _ => Checked.complain .notList := by
  have given (vs : List Json) (position : Nat) :
      itemsFrom Section.ofJson position (vs.map Json.settled) =
        itemsFrom Section.ofGiven position vs := by
    induction vs generalizing position with
    | nil => rfl
    | cons v vs ih => rw [List.map_cons, itemsFrom, ih, Section.ofJson_settled, itemsFrom]
  cases v with
  | array vs =>
    have shown : (fun v => ! hasNullBody v) ∘ Json.settled = fun v => ! hasNullBody v :=
      funext fun v => by rw [Function.comp_apply, hasNullBody_settled]
    rw [Slide.sectionsOfJson, Json.settled, Json.settledItems_eq]
    simp only [items, List.filter_map, shown, given]
  | _ => simp [Slide.sectionsOfJson, Json.settled, items]

/-! ## Text and bytes -/

namespace Document

/-- What comes of reading a document, from its text or from the bytes of its text. -/
def IsReadAs (text : List Char) (outcome : Except DeckError Slideshow) : Prop :=
  read text = outcome ∨ ∃ bytes, Text.decodeUtf8 bytes = .ok text ∧ readBytes bytes = outcome

theorem isReadAs_iff {text : List Char} {outcome : Except DeckError Slideshow} :
    IsReadAs text outcome ↔ read text = outcome := by
  refine ⟨?_, .inl⟩
  rintro (same | ⟨bytes, decoded, same⟩)
  · exact same
  · rwa [readBytes, decoded] at same

end Document

end SlideDeck
