import SlideDeck.Proofs.Document.Given
import SlideDeck.Proofs.Json.RoundTrip
import SlideDeck.Proofs.Outcome

/-!
# Where the problems of a document stand

A problem is right if its place leads to a value that its complaint is right about, or to an object
without the member that is missing (`HasCause`). Every check reports right problems only, at places
of the value that it looks at (`Check.Caused`), and this goes up from part to part.

Sections are the exception: those that show nothing are left out before the others are counted. So
the index of a section in a place is the number of sections before it that show something, and the
step that it says leads to the section itself only if none before it has been left out. And of fonts
with one name each is checked, though the name leads to the last of them only.

**The law** (`Document.problems_of_isReadAs`): a document that is refused has problems, and each is
reported at the place of its cause, up to these two exceptions (`IsReported`).
-/

namespace SlideDeck

open SlideDeck.Check

/-! ## Causes -/

/-- Whether a value is of a kind that may count as a number. -/
def Json.mayBeNumber : Json → Bool
  | .integer _ | .real _ | .bool _ | .string _ => true
  | _ => false

/-- A complaint is right about a value. There is no value that something is missing about. -/
def Complaint.Blames : Complaint → Json → Prop
  | .notModel _, v | .notTable, v => ∀ ms, v ≠ .object ms
  | .notList, v => ∀ vs, v ≠ .array vs
  | .notString, v => ∀ s, v ≠ .string s
  | .notNumber, v => v.mayBeNumber = false ∨
      ∃ i negative, v = .integer i ∧ Number.parts (Float.ofInt i) = .infinite negative
  | .notNumeral, v => ∃ s, v = .string s ∧ numeral? s.toList = none
  | .notInteger, v => v.mayBeNumber = false
  | .notIntegerNumeral, v => ∃ s, v = .string s ∧ wholeNumeral? s.toList = none
  | .integerTooLong, v => (∃ s, v = .string s ∧ startsTooLong s.toList = true) ∨
      ∃ x negative mantissa exponent, v = .real x ∧
        Number.parts x = .finite negative mantissa exponent ∧
        Nat.pow 2 63 ≤ Number.wholePart mantissa exponent
  | .fractional, v => ∃ x negative mantissa exponent, v = .real x ∧
      Number.parts x = .finite negative mantissa exponent ∧ Number.isWhole mantissa exponent = false
  | .notFinite, v => ∃ x, v = .real x ∧ Number.isFinite x = false
  | .below bound, v => ∃ i, integer v = .ok i ∧ i < bound
  | .above bound, v => ∃ i, integer v = .ok i ∧ bound < i
  | .untagged, v => ∀ body, ¬ v.Wraps figureTag body ∧ ¬ v.Wraps textTag body
  | .missing, _ | .notJson, _ | .wrongTag _, _ => False

/-- **A complaint has its cause at a place of a value.** The steps lead from part to part, by name
to the last member of the name; what is missing is named by the last step. -/
inductive HasCause : Json → Complaint → List Step → Prop where
  | here {v : Json} {c : Complaint} (blames : c.Blames v) : HasCause v c []
  | missing {ms : List (String × Json)} {name : String} (absent : lastNamed? name ms = none) :
    HasCause (.object ms) .missing [.key name]
  | member {ms : List (String × Json)} {name : String} {v : Json} {c : Complaint} {place : List Step}
    (there : lastNamed? name ms = some v) (rest : HasCause v c place) :
    HasCause (.object ms) c (.key name :: place)
  | item {vs : List Json} {index : Nat} {v : Json} {c : Complaint} {place : List Step}
    (there : vs[index]? = some v) (rest : HasCause v c place) :
    HasCause (.array vs) c (.index index :: place)

theorem HasCause.of_member? {v w : Json} {name : String} {c : Complaint} {place : List Step}
    (there : v.member? name = some w) (rest : HasCause w c place) :
    HasCause v c (.key name :: place) := by
  cases v with
  | object ms => exact .member there rest
  | _ => cases there

/-! ## Problems of checks -/

/-- There are problems, and such ones only. -/
def Each (P : Complaint → List Step → Prop) (problems : List Problem) : Prop :=
  problems ≠ [] ∧ ∀ p ∈ problems, P p.complaint p.place

namespace Checked

variable {α β : Type} {P Q : Complaint → List Step → Prop}

theorem raises_complain {c : Complaint} (h : P c []) :
    Raises (Each P) (complain c : Checked α) :=
  .error ⟨List.cons_ne_nil _ _, List.forall_mem_singleton.mpr h⟩

theorem raises_apply {f : Checked (α → β)} {a : Checked α} (hf : Raises (Each P) f)
    (ha : Raises (Each P) a) : Raises (Each P) (apply f a) := by
  cases f with
  | ok f =>
    cases a with
    | ok a => exact .ok _
    | error problems => exact .error (ha problems rfl)
  | error problems =>
    obtain ⟨some_, each⟩ := hf problems rfl
    cases a with
    | ok a => exact .error ⟨some_, each⟩
    | error more =>
      refine .error ⟨List.append_ne_nil_of_left_ne_nil some_ more, ?_⟩
      exact List.forall_mem_append.mpr ⟨each, (ha more rfl).2⟩

/-- Problems as they are seen from one step further out. -/
theorem raises_under {x : Checked α} (step : Step)
    (h : Raises (Each fun c place => P c (step :: place)) x) : Raises (Each P) (x.under step) := by
  cases x with
  | ok a => exact .ok a
  | error problems =>
    obtain ⟨some_, each⟩ := h problems rfl
    exact .error ⟨by simpa using some_, List.forall_mem_map.mpr each⟩

theorem raises_mono {x : Checked α} (h : Raises (Each P) x)
    (le : ∀ c place, P c place → Q c place) : Raises (Each Q) x :=
  h.mono fun _ each => ⟨each.1, fun p mem => le _ _ (each.2 p mem)⟩

end Checked

open Checked

namespace Check

variable {α : Type} {check : Json → Checked α} {ms : List (String × Json)} {name : String}
  {P : Complaint → List Step → Prop}

/-- A check reports problems that have their causes in the value. -/
def Caused (check : Json → Checked α) : Prop :=
  ∀ v, Raises (Each (HasCause v)) (check v)

theorem raises_required
    (absent : lastNamed? name ms = none → P .missing [.key name])
    (there : ∀ v, lastNamed? name ms = some v →
      Raises (Each fun c place => P c (.key name :: place)) (check v)) :
    Raises (Each P) (required ms name check) := by
  unfold required
  split
  next none_ => exact raises_under _ (raises_complain (absent none_))
  next v some_ => exact raises_under _ (there v some_)

theorem raises_optional {default : α}
    (there : ∀ v, lastNamed? name ms = some v →
      Raises (Each fun c place => P c (.key name :: place)) (check v)) :
    Raises (Each P) (optional ms name default check) := by
  unfold optional
  split
  next => exact .ok _
  next v some_ => exact raises_under _ (there v some_)

/-- A member that must be there has its problems in it, or is missing. -/
theorem caused_required (h : Caused check) (ms : List (String × Json)) (name : String) :
    Raises (Each (HasCause (.object ms))) (required ms name check) :=
  raises_required .missing fun v there => raises_mono (h v) fun _ _ => .member there

theorem caused_optional (h : Caused check) (ms : List (String × Json)) (name : String)
    (default : α) :
    Raises (Each (HasCause (.object ms))) (optional ms name default check) :=
  raises_optional fun v there => raises_mono (h v) fun _ _ => .member there

theorem caused_nullable (h : Caused check) : Caused (nullable check) := by
  intro v
  by_cases null : v = .null
  · rw [null]
    exact .ok _
  · rw [nullable_of_ne_null null]
    exact (h v).map _

theorem caused_model {ofMembers : List (String × Json) → Checked α}
    (h : ∀ ms, Raises (Each (HasCause (.object ms))) (ofMembers ms)) :
    Caused (model name ofMembers) := by
  intro v
  cases v with
  | object ms => exact h ms
  | _ => exact raises_complain (.here (by simp [Complaint.Blames]))

/-- The problems of items, counted from a number on, by induction on them. -/
theorem raises_itemsFrom {vs : List Json} {position : Nat}
    (h : ∀ k v, vs[k]? = some v →
      Raises (Each fun c place => P c (.index (position + k) :: place)) (check v)) :
    Raises (Each P) (itemsFrom check position vs) := by
  induction vs generalizing position with
  | nil => exact .ok _
  | cons v vs ih =>
    refine raises_apply ((raises_under _ (h 0 v rfl)).map _) (ih fun k w there => ?_)
    have next := h (k + 1) w there
    rwa [← Nat.add_assoc, Nat.add_right_comm] at next

/-! ## Scalars -/

theorem caused_string : Caused string := by
  intro v
  cases v with
  | string s => exact .ok s
  | _ => exact raises_complain (.here (by simp [Complaint.Blames]))

theorem caused_number (origin : Origin) : Caused (number origin) := by
  intro v
  cases v with
  | integer i =>
    simp only [number, binary]
    split
    next negative beyond => exact raises_complain (.here (.inr ⟨i, negative, rfl, beyond⟩))
    next => exact .ok _
  | bool value => cases value <;> exact .ok _
  | real x => exact .ok x
  | string s =>
    simp only [number]
    split
    next => exact .ok _
    next none_ => exact raises_complain (.here ⟨s, rfl, none_⟩)
  | null | array | object => exact raises_complain (.here (.inl rfl))

theorem caused_integer : Caused integer := by
  intro v
  cases v with
  | integer i => exact .ok i
  | bool value => cases value <;> exact .ok _
  | real x =>
    have notFinite (h : Number.isFinite x = false) : HasCause (.real x) .notFinite [] :=
      .here ⟨x, rfl, h⟩
    simp only [integer, wholeNumber]
    split
    next nan => exact raises_complain (notFinite (by rw [Number.isFinite, nan]))
    next infinite => exact raises_complain (notFinite (by rw [Number.isFinite, infinite]))
    next negative mantissa exponent finite =>
      split
      next fraction =>
        have fraction : Number.isWhole mantissa exponent = false := by simpa using fraction
        exact raises_complain (.here ⟨x, negative, mantissa, exponent, rfl, finite, fraction⟩)
      split
      next large =>
        exact raises_complain (.here (.inr ⟨x, negative, mantissa, exponent, rfl, finite, large⟩))
      · exact .ok _
  | string s =>
    simp only [integer, wholeNumeral]
    split
    next long => exact raises_complain (.here (.inl ⟨s, rfl, long⟩))
    next =>
      split
      next none_ => exact raises_complain (.here ⟨s, rfl, none_⟩)
      next => exact .ok _
  | null | array | object => exact raises_complain (.here rfl)

theorem caused_channel : Caused channel := by
  intro v
  unfold channel
  split
  next problems found => exact .error (caused_integer v problems found)
  next i found =>
    split
    next below => exact raises_complain (.here ⟨i, found, below⟩)
    split
    next above => exact raises_complain (.here ⟨i, found, above⟩)
    · exact .ok _

end Check

/-! ## Parts -/

theorem Vec2.caused_ofJson (origin : Origin) : Caused (Vec2.ofJson origin) :=
  caused_model fun ms => raises_apply ((caused_required (caused_number origin) ms "x").map _)
    (caused_required (caused_number origin) ms "y")

theorem Color.caused_ofJson : Caused Color.ofJson :=
  caused_model fun ms =>
    have channel_ := caused_required caused_channel ms
    raises_apply (raises_apply (raises_apply ((channel_ "r").map _) (channel_ "g")) (channel_ "b"))
      (channel_ "a")

theorem TextBody.raises_ofMembers (ms : List (String × Json)) :
    Raises (Each (HasCause (.object ms))) (TextBody.ofMembers ms) := by
  refine raises_apply (raises_apply (Raises.map _ ?_) ?_) ?_
  · exact caused_optional caused_string ms "text" ""
  · exact caused_optional (caused_nullable Color.caused_ofJson) ms "color" none
  · exact caused_optional (caused_nullable caused_string) ms "font" none

theorem FigureBody.raises_ofMembers (ms : List (String × Json)) :
    Raises (Each (HasCause (.object ms))) (FigureBody.ofMembers ms) :=
  raises_apply ((caused_required caused_string ms "path").map _)
    (caused_optional (caused_number .value) ms "rotation" 0.0)

/-- The problems of a body have their causes under its tag. -/
theorem Body.caused_ofJson : Caused fun v => Body.ofJson v.settled := by
  intro v
  have inside {tag : String} {body : List (String × Json)} (wraps : v.Wraps tag body)
      (c : Complaint) (place : List Step) (cause : HasCause (.object body) c place) :
      HasCause v c (.key tag :: place) := by
    obtain ⟨es, rfl, -, last⟩ := wraps
    exact .member last cause
  simp only
  by_cases figure : ∃ body, v.Wraps figureTag body
  · obtain ⟨body, wraps⟩ := figure
    rw [Body.ofJson_of_figure wraps]
    exact (raises_under _ (raises_mono (FigureBody.raises_ofMembers body) (inside wraps))).map _
  by_cases text : ∃ body, v.Wraps textTag body
  · obtain ⟨body, wraps⟩ := text
    rw [Body.ofJson_of_text wraps]
    exact (raises_under _ (raises_mono (TextBody.raises_ofMembers body) (inside wraps))).map _
  · rw [not_exists] at figure text
    rw [Body.ofJson_of_untagged figure text]
    exact raises_complain (.here fun body => ⟨figure body, text body⟩)

theorem Section.caused_ofGiven : Caused Section.ofGiven :=
  caused_model fun ms =>
    have pair_ := fun name =>
      caused_optional (caused_nullable (Vec2.caused_ofJson .value)) ms name none
    raises_apply (raises_apply ((pair_ "size").map _) (pair_ "position"))
      (caused_required Body.caused_ofJson ms "sec_main")

/-! ## Slides -/

/-- The number under which a section is reported: how many before it show something. -/
def countedIndex (vs : List Json) (index : Nat) : Nat :=
  (vs.take index).countP fun v => ! hasNullBody v

/-- **A problem of a slide** is reported at the place of its cause, if that is in no section. In a
section its place starts with the number of the sections before it that show something. -/
inductive Slide.IsReported (v : Json) : Complaint → List Step → Prop where
  | direct {c : Complaint} {place : List Step} (cause : HasCause v c place)
    (apart : ∀ index rest, place ≠ .key "sections" :: .index index :: rest) :
    Slide.IsReported v c place
  | inSection {vs : List Json} {index : Nat} {s : Json} {c : Complaint} {place : List Step}
    (sections : v.member? "sections" = some (.array vs)) (there : vs[index]? = some s)
    (shown : hasNullBody s = false) (cause : HasCause s c place) :
    Slide.IsReported v c (.key "sections" :: .index (countedIndex vs index) :: place)

/-- What is left of a list stands in the list, behind as many as are left of those before it. -/
theorem exists_of_getElem?_filter {α : Type} {p : α → Bool} {as : List α} {k : Nat} {a : α}
    (h : (as.filter p)[k]? = some a) :
    ∃ index, as[index]? = some a ∧ p a = true ∧ (as.take index).countP p = k := by
  induction as generalizing k with
  | nil => cases h
  | cons b as ih =>
    by_cases kept : p b = true
    · rw [List.filter_cons_of_pos kept] at h
      cases k with
      | zero =>
        cases h
        exact ⟨0, rfl, kept, rfl⟩
      | succ k =>
        obtain ⟨index, there, keeps, count⟩ := ih h
        refine ⟨index + 1, there, keeps, ?_⟩
        rw [List.take_succ_cons, List.countP_cons_of_pos kept, count]
    · rw [List.filter_cons_of_neg kept] at h
      obtain ⟨index, there, keeps, count⟩ := ih h
      refine ⟨index + 1, there, keeps, ?_⟩
      rw [List.take_succ_cons, List.countP_cons_of_neg kept, count]

theorem Slide.raises_ofMembers (ms : List (String × Json)) :
    Raises (Each (Slide.IsReported (.object ms))) (Slide.ofMembers ms) := by
  refine raises_apply (Raises.map _ (raises_optional fun v there => ?_))
    (raises_optional fun v there => ?_)
  · refine raises_mono (caused_nullable Color.caused_ofJson v) fun c place cause => ?_
    exact .direct (.member there cause) (by simp)
  · rw [Slide.sectionsOfJson_eq]
    cases v with
    | array vs =>
      refine raises_itemsFrom fun k s left => ?_
      obtain ⟨index, here, shown, count⟩ := exists_of_getElem?_filter left
      rw [Bool.not_eq_true'] at shown
      refine raises_mono (Section.caused_ofGiven s) fun c place cause => ?_
      rw [Nat.zero_add, ← count]
      exact .inSection there here shown cause
    | _ =>
      refine raises_complain (.direct (.member there (.here ?_)) (by simp))
      simp [Complaint.Blames]

/-! ## Slideshows -/

/-- **A problem of a slideshow** is reported at the place of its cause, if that is in no font and in
no section. -/
inductive Slideshow.IsReported (v : Json) : Complaint → List Step → Prop where
  | direct {c : Complaint} {place : List Step} (cause : HasCause v c place)
    (noSlide : ∀ index rest, place ≠ .key "slides" :: .index index :: rest)
    (noFont : ∀ name, place ≠ [.key "fonts", .key name]) : Slideshow.IsReported v c place
  | font {fonts : List (String × Json)} {name : String} {font : Json}
    (table : v.member? "fonts" = some (.object fonts)) (there : (name, font) ∈ fonts)
    (blames : Complaint.notString.Blames font) :
    Slideshow.IsReported v .notString [.key "fonts", .key name]
  | inSlide {vs : List Json} {index : Nat} {s : Json} {c : Complaint} {place : List Step}
    (slides : v.member? "slides" = some (.array vs)) (there : vs[index]? = some s)
    (reported : Slide.IsReported s c place) :
    Slideshow.IsReported v c (.key "slides" :: .index index :: place)

theorem Slide.raises_ofJson (v : Json) : Raises (Each (Slide.IsReported v)) (Slide.ofJson v) := by
  cases v with
  | object ms => exact Slide.raises_ofMembers ms
  | _ => exact raises_complain (.direct (.here (by simp [Complaint.Blames])) (by simp))

theorem raises_entries {P : Complaint → List Step → Prop} {ms : List (String × Json)}
    (h : ∀ m ∈ ms, Raises (Each fun c place => P c (.key m.1 :: place)) (string m.2)) :
    Raises (Each P) (entries string ms) := by
  induction ms with
  | nil => exact .ok _
  | cons m ms ih =>
    obtain ⟨first, rest⟩ := List.forall_mem_cons.mp h
    exact raises_apply ((raises_under _ first).map _) (ih rest)

theorem Slideshow.raises_ofMembers (origin : Origin) (ms : List (String × Json)) :
    Raises (Each (Slideshow.IsReported (.object ms))) (Slideshow.ofMembers origin ms) := by
  have direct {α : Type} {check : Json → Checked α} (caused : Caused check) {name : String}
      {default : Option α} (noSlides : name ≠ "slides") (noFonts : name ≠ "fonts") :
      Raises (Each (Slideshow.IsReported (.object ms)))
        (optional ms name default (nullable check)) :=
    raises_optional fun v there => raises_mono (caused_nullable caused v) fun c place cause =>
      .direct (.member there cause) (by simp [noSlides]) (by simp [noFonts])
  refine raises_apply (raises_apply (raises_apply (raises_apply (Raises.map _ ?slides) ?fonts)
    ?background) ?fontColor) ?fontSize
  case slides =>
    refine raises_optional fun v there => ?_
    cases v with
    | array vs =>
      refine raises_itemsFrom fun k s here => ?_
      refine raises_mono (Slide.raises_ofJson s) fun c place reported => ?_
      rw [Nat.zero_add]
      exact .inSlide there here reported
    | _ =>
      refine raises_complain (.direct (.member there (.here ?_)) (by simp) (by simp))
      simp [Complaint.Blames]
  case fonts =>
    refine raises_optional fun v there => Raises.map _ ?_
    cases v with
    | object fonts =>
      refine raises_entries fun m mem => ?_
      cases value : m.2 with
      | string s => exact .ok s
      | _ =>
        have mem : (m.1, m.2) ∈ fonts := mem
        refine raises_complain (.font there mem ?_)
        simp [Complaint.Blames, value]
    | _ =>
      refine raises_complain (.direct (.member there (.here ?_)) (by simp) (by simp))
      simp [Complaint.Blames]
  case background => exact direct Color.caused_ofJson (by decide) (by decide)
  case fontColor => exact direct Color.caused_ofJson (by decide) (by decide)
  case fontSize => exact direct (Vec2.caused_ofJson origin) (by decide) (by decide)

theorem Slideshow.raises_ofJson (origin : Origin) (v : Json) :
    Raises (Each (Slideshow.IsReported v)) (Slideshow.ofJson origin v) := by
  cases v with
  | object ms => exact Slideshow.raises_ofMembers origin ms
  | _ => exact raises_complain (.direct (.here (by simp [Complaint.Blames])) (by simp) (by simp))

/-! ## Places that lead to their causes -/

/-- A section is reported under its own index if and only if all sections before it show something.
-/
theorem countedIndex_eq_iff {vs : List Json} {index : Nat} (inside : index < vs.length) :
    countedIndex vs index = index ↔ ∀ v ∈ vs.take index, hasNullBody v = false := by
  have length : (vs.take index).length = index := by
    rw [List.length_take, Nat.min_eq_left (Nat.le_of_lt inside)]
  have all := List.countP_eq_length (p := fun v => ! hasNullBody v) (l := vs.take index)
  rw [length] at all
  rw [countedIndex, all]
  simp

/-- **A document of which all counts**: all sections show something, and no font has the name of
another one. -/
structure Json.CountsWhole (v : Json) : Prop where
  shown : ∀ slides s sections, v.member? "slides" = some (.array slides) → s ∈ slides →
    s.member? "sections" = some (.array sections) → ∀ u ∈ sections, hasNullBody u = false
  named : ∀ fonts, v.member? "fonts" = some (.object fonts) → (fonts.map Prod.fst).Nodup

/-- An entry of a name that occurs once is the last one of the name. -/
theorem lastNamed?_of_nodup {α : Type} {es : List (String × α)} (once : (es.map Prod.fst).Nodup)
    {name : String} {a : α} (mem : (name, a) ∈ es) : lastNamed? name es = some a := by
  induction es with
  | nil => cases mem
  | cons e es ih =>
    rw [List.map_cons, List.nodup_cons] at once
    rw [lastNamed?_cons]
    rcases List.mem_cons.mp mem with rfl | later
    · simp [lastNamed?_eq_none_iff.mpr once.1]
    · rw [ih once.2 later, Option.some_or]

/-- The problems of a document of which all counts stand at the places of their causes. -/
theorem Slideshow.IsReported.hasCause {v : Json} {c : Complaint} {place : List Step}
    (reported : Slideshow.IsReported v c place) (whole : v.CountsWhole) : HasCause v c place := by
  cases reported with
  | direct cause => exact cause
  | font table there blames =>
    have last := lastNamed?_of_nodup (whole.named _ table) there
    exact .of_member? table (.member last (.here blames))
  | inSlide slides there reported =>
    refine .of_member? slides (.item there ?_)
    cases reported with
    | direct cause => exact cause
    | @inSection vs index s _ _ sections here shown cause =>
      have all := whole.shown _ _ _ slides (List.mem_of_getElem? there) sections
      have inside : index < vs.length := (List.getElem?_eq_some_iff.mp here).1
      rw [(countedIndex_eq_iff inside).mpr fun u mem => all u (List.mem_of_mem_take mem)]
      exact .of_member? sections (.item here cause)

/-! ## The law -/

namespace Document

/-- **The problems of a document that is refused.** A text that is no document has this one problem.
Otherwise there are some, and each is reported at the place of its cause, up to sections that are
left out before it and to fonts of one name; so it stands just there if there are none of these. -/
theorem problems_of_isReadAs {text : List Char} {e : DeckError} (refused : IsReadAs text (.error e)) :
    (Json.parse nestingLimit text = none ∧ e = .invalidDocument [⟨.notJson, []⟩]) ∨
    ∃ v problems, Json.parse nestingLimit text = some v ∧ e = .invalidDocument problems ∧
      problems ≠ [] ∧ ∀ p ∈ problems, Slideshow.IsReported v p.complaint p.place ∧
        (v.CountsWhole → HasCause v p.complaint p.place) := by
  have refused := isReadAs_iff.mp refused
  unfold read at refused
  split at refused
  next unread =>
    cases refused
    exact .inl ⟨unread, rfl⟩
  next v parsed =>
    split at refused
    next problems found =>
      cases refused
      obtain ⟨some_, each⟩ := Slideshow.raises_ofJson .text v problems found
      exact .inr ⟨v, problems, parsed, rfl, some_, fun p mem => ⟨each p mem, (each p mem).hasCause⟩⟩
    next => cases refused

/-- A document with a section that shows nothing, and then a number in the place of a section. -/
def nothingThenNumber : Json :=
  .object [("slides", .array [.object [("sections",
    .array [.object [("sec_main", .null)], .integer 5])]])]

/-- The place of the section that shows nothing. -/
def placeOfNothing : List Step :=
  [.key "slides", .index 0, .key "sections", .index 0]

theorem parse_nothingThenNumber :
    Json.parse nestingLimit (nothingThenNumber.write none).toList = some nothingThenNumber := by
  refine Json.parse_write (.member (.item (.member (.array ?_) _)) _) none
  rintro s (_ | ⟨_, _ | ⟨_, _ | _⟩⟩)
  · exact .member .null _
  · exact .integer (by decide)

theorem read_nothingThenNumber : read (nothingThenNumber.write none).toList =
    .error (.invalidDocument [⟨.notModel "Section", placeOfNothing⟩]) := by
  decide +kernel

/-- The number is reported where nothing is wrong. -/
theorem problems_of_isReadAs_number :
    IsReadAs (nothingThenNumber.write none).toList
        (.error (.invalidDocument [⟨.notModel "Section", placeOfNothing⟩])) ∧
      Slideshow.IsReported nothingThenNumber (.notModel "Section") placeOfNothing := by
  have refused : IsReadAs (nothingThenNumber.write none).toList _ := .inl read_nothingThenNumber
  refine ⟨refused, ?_⟩
  rcases problems_of_isReadAs refused with ⟨unread, -⟩ | ⟨v, problems, parsed, same, -, each⟩
  · cases unread.symm.trans parse_nothingThenNumber
  · cases parsed.symm.trans parse_nothingThenNumber
    cases same
    exact (each _ List.mem_cons_self).1

/-- **A place need not lead to its cause.** Behind a section that shows nothing the index of a
section is not that of the section in the list. -/
theorem cause_missed_behind_nothing :
    ¬ ∀ (text : List Char) (v : Json) (problems : List Problem),
      Json.parse nestingLimit text = some v → IsReadAs text (.error (.invalidDocument problems)) →
        ∀ p ∈ problems, HasCause v p.complaint p.place := by
  intro all
  have cause := all _ _ _ parse_nothingThenNumber (.inl read_nothingThenNumber) _ List.mem_cons_self
  -- the place leads to an object, and objects are not blamed
  obtain _ | _ | ⟨slides, cause⟩ | _ := cause
  cases slides
  obtain _ | _ | _ | ⟨slide, cause⟩ := cause
  cases slide
  obtain _ | _ | ⟨sections, cause⟩ | _ := cause
  cases sections
  obtain _ | _ | _ | ⟨there, cause⟩ := cause
  cases there
  obtain ⟨blames⟩ | _ | _ | _ := cause
  exact blames _ rfl

end Document

end SlideDeck
