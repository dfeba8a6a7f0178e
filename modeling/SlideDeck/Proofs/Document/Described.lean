import SlideDeck.Proofs.Document.Given
import SlideDeck.Proofs.Json.RoundTrip
import Mathlib.Data.List.Forall2
import Mathlib.Logic.Relation

/-!
# What a document describes

A document that is accepted describes its slideshow part by part (`Slideshow.IsGivenBy`). Every item
of `slides` is a slide, and every item of `sections` a section, unless it shows nothing. What a
section shows is told by the one tag of its body, and by nothing in the body.

Nothing else counts. Objects may get members that no model names, if they are not looked at as a
whole as bodies and font tables are, and sections that show nothing may come among the others
(`Part.Adds`). Every check takes a part with such additions as it takes the part without them
(`Overlooks`), and so does the whole document, whether it is accepted or not
(`Slideshow.overlooks_ofJson`).

**The law** (`Document.isGivenBy_of_isReadAs`): a document that is accepted describes its slideshow,
and additions to it leave it as it is.
-/

namespace SlideDeck

open SlideDeck.Check

/-! ## Checks that succeed -/

namespace Checked

variable {α β : Type}

theorem ok_of_apply {f : Checked (α → β)} {a : Checked α} {b : β} (h : apply f a = .ok b) :
    ∃ g x, f = .ok g ∧ a = .ok x ∧ g x = b := by
  cases f with
  | error problems => cases a <;> cases h
  | ok g =>
    cases a with
    | error problems => cases h
    | ok x =>
      cases h
      exact ⟨g, x, rfl, rfl, rfl⟩

theorem ok_of_map {f : α → β} {x : Checked α} {b : β} (h : x.map f = .ok b) :
    ∃ a, x = .ok a ∧ f a = b := by
  cases x with
  | error problems => cases h
  | ok a =>
    cases h
    exact ⟨a, rfl, rfl⟩

theorem ok_of_under {step : Step} {x : Checked α} {a : α} (h : x.under step = .ok a) :
    x = .ok a := by
  cases x with
  | error problems => cases h
  | ok a' => exact h

end Checked

open Checked

namespace Check

variable {α : Type} {check : Json → Checked α} {ms : List (String × Json)} {name : String}

theorem ok_of_required {a : α} (h : required ms name check = .ok a) :
    ∃ v, lastNamed? name ms = some v ∧ check v = .ok a := by
  unfold required at h
  split at h
  next => cases h
  next v there => exact ⟨v, there, ok_of_under h⟩

theorem ok_of_optional {default a : α} (h : optional ms name default check = .ok a) :
    (lastNamed? name ms = none ∧ default = a) ∨
      ∃ v, lastNamed? name ms = some v ∧ check v = .ok a := by
  unfold optional at h
  split at h
  next absent =>
    cases h
    exact .inl ⟨absent, rfl⟩
  next v there => exact .inr ⟨v, there, ok_of_under h⟩

/-- Items that are all right are so one by one. -/
theorem forall₂_of_itemsFrom {vs : List Json} {position : Nat} {as : List α}
    (h : itemsFrom check position vs = .ok as) :
    List.Forall₂ (fun v a => check v = .ok a) vs as := by
  induction vs generalizing position as with
  | nil =>
    cases h
    exact .nil
  | cons v vs ih =>
    obtain ⟨f, rest, first, more, rfl⟩ := ok_of_apply h
    obtain ⟨a, read, rfl⟩ := ok_of_map first
    exact .cons (ok_of_under read) (ih more)

end Check

/-! ## Descriptions -/

/-- The items of a member, none if it is missing. -/
def Json.listed (v : Json) (name : String) : List Json :=
  match v.member? name with
  | some (.array vs) => vs
  | _ => []

/-- **A body as it is described**, by the object under its one tag, which tells what it is. -/
inductive Body.IsGivenBy : Json → Body → Prop where
  | figure {v : Json} {ms : List (String × Json)} {b : FigureBody} (tagged : v.Wraps figureTag ms)
    (described : FigureBody.ofMembers ms = .ok b) : Body.IsGivenBy v (.figure b)
  | text {v : Json} {ms : List (String × Json)} {b : TextBody} (tagged : v.Wraps textTag ms)
    (described : TextBody.ofMembers ms = .ok b) : Body.IsGivenBy v (.text b)

/-- **A section as it is described.** -/
structure Section.IsGivenBy (v : Json) (s : Section) : Prop where
  described : Section.ofGiven v = .ok s
  body : ∃ w, v.member? "sec_main" = some w ∧ Body.IsGivenBy w s.body

/-- **A slide as it is described.** -/
structure Slide.IsGivenBy (v : Json) (s : Slide) : Prop where
  described : Slide.ofJson v = .ok s
  /-- Its sections are the items for them one by one, without those that have a null body. -/
  sections : List.Forall₂ Section.IsGivenBy
    ((v.listed "sections").filter fun u => ! hasNullBody u) s.sections

/-- **A slideshow as it is described.** -/
structure Slideshow.IsGivenBy (v : Json) (s : Slideshow) : Prop where
  described : Slideshow.ofJson .text v = .ok s
  slides : List.Forall₂ Slide.IsGivenBy (v.listed "slides") s.slides

theorem Body.isGivenBy_of_ofJson {v : Json} {b : Body} (h : Body.ofJson v.settled = .ok b) :
    Body.IsGivenBy v b := by
  by_cases figure : ∃ ms, v.Wraps figureTag ms
  · obtain ⟨ms, tagged⟩ := figure
    rw [Body.ofJson_of_figure tagged] at h
    obtain ⟨b, read, rfl⟩ := ok_of_map h
    exact .figure tagged (ok_of_under read)
  by_cases text : ∃ ms, v.Wraps textTag ms
  · obtain ⟨ms, tagged⟩ := text
    rw [Body.ofJson_of_text tagged] at h
    obtain ⟨b, read, rfl⟩ := ok_of_map h
    exact .text tagged (ok_of_under read)
  · rw [not_exists] at figure text
    rw [Body.ofJson_of_untagged figure text] at h
    cases h

theorem Section.isGivenBy_of_ofGiven {v : Json} {s : Section} (h : Section.ofGiven v = .ok s) :
    Section.IsGivenBy v s := by
  refine ⟨h, ?_⟩
  cases v with
  | object ms =>
    obtain ⟨placed, body, before, last, rfl⟩ := ok_of_apply h
    obtain ⟨sized, position, first, -, rfl⟩ := ok_of_apply before
    obtain ⟨size, -, rfl⟩ := ok_of_map first
    obtain ⟨w, there, read⟩ := ok_of_required last
    exact ⟨w, there, Body.isGivenBy_of_ofJson read⟩
  | _ => cases h

theorem Slide.isGivenBy_of_ofJson {v : Json} {s : Slide} (h : Slide.ofJson v = .ok s) :
    Slide.IsGivenBy v s := by
  refine ⟨h, ?_⟩
  cases v with
  | object ms =>
    obtain ⟨shaded, sections, before, last, rfl⟩ := ok_of_apply h
    obtain ⟨background, -, rfl⟩ := ok_of_map before
    rcases ok_of_optional last with ⟨absent, rfl⟩ | ⟨w, there, read⟩
    · rw [Json.listed, Json.member?, absent]
      exact .nil
    · rw [Json.listed, Json.member?, there]
      rw [Slide.sectionsOfJson_eq] at read
      cases w with
      | array vs => exact (forall₂_of_itemsFrom read).imp fun _ _ => Section.isGivenBy_of_ofGiven
      | _ => cases read
  | _ => cases h

theorem Slideshow.isGivenBy_of_ofJson {v : Json} {s : Slideshow}
    (h : Slideshow.ofJson .text v = .ok s) :
    Slideshow.IsGivenBy v s := by
  refine ⟨h, ?_⟩
  cases v with
  | object ms =>
    obtain ⟨colored, fontSize, fourth, -, rfl⟩ := ok_of_apply h
    obtain ⟨shaded, fontColor, third, -, rfl⟩ := ok_of_apply fourth
    obtain ⟨lettered, background, second, -, rfl⟩ := ok_of_apply third
    obtain ⟨shown, fonts, first, -, rfl⟩ := ok_of_apply second
    obtain ⟨slides, listed, rfl⟩ := ok_of_map first
    rcases ok_of_optional listed with ⟨absent, rfl⟩ | ⟨w, there, read⟩
    · rw [Json.listed, Json.member?, absent]
      exact .nil
    · rw [Json.listed, Json.member?, there]
      cases w with
      | array vs => exact (forall₂_of_itemsFrom read).imp fun _ _ => Slide.isGivenBy_of_ofJson
      | _ => cases read
  | _ => cases h

/-! ## Parts -/

/-- The parts of a document, told apart by what is looked for in them. -/
inductive Part where
  | slideshow
  | slides
  | slide
  | sections
  | sec
  | body
  | text
  | figure
  | fonts
  | color
  | pair
  | other
deriving DecidableEq

namespace Part

/-- The members that are looked for, and what they are. -/
def members : Part → List (String × Part)
  | slideshow => [("slides", slides), ("fonts", fonts), ("bg_col", color), ("font_col", color),
      ("font_size", pair)]
  | slide => [("bg_color", color), ("sections", sections)]
  | sec => [("size", pair), ("position", pair), ("sec_main", body)]
  | body => [(figureTag, figure), (textTag, text)]
  | text => [("text", other), ("color", color), ("font", other)]
  | figure => [("path", other), ("rotation", other)]
  | color => [("r", other), ("g", other), ("b", other), ("a", other)]
  | pair => [("x", other), ("y", other)]
  | slides | sections | fonts | other => []

/-- What the members of a name are. -/
def member (p : Part) (name : String) : Part :=
  (lastNamed? name p.members).getD other

/-- What the items are. -/
def item : Part → Part
  | slides => slide
  | sections => sec
  | _ => other

/-- Whether every member counts, and not only those that are looked for. -/
def countsAll : Part → Bool
  | body | fonts => true
  | _ => false

/-- **One addition to a part** of a document, or to a part of it. -/
inductive Adds : Part → Json → Json → Prop where
  | member {p : Part} {ms ns : List (String × Json)} {name : String} {v : Json}
    (some_ : p.countsAll = false) (unnamed : lastNamed? name p.members = none) :
    Adds p (.object (ms ++ ns)) (.object (ms ++ (name, v) :: ns))
  | nothing {vs ws : List Json} {s : Json} (null : hasNullBody s = true) :
    Adds .sections (.array (vs ++ ws)) (.array (vs ++ s :: ws))
  | inMember {p : Part} {ms ns : List (String × Json)} {name : String} {v w : Json}
    (there : Adds (p.member name) v w) :
    Adds p (.object (ms ++ (name, v) :: ns)) (.object (ms ++ (name, w) :: ns))
  | inItem {p : Part} {vs ws : List Json} {v w : Json} (there : Adds p.item v w) :
    Adds p (.array (vs ++ v :: ws)) (.array (vs ++ w :: ws))

/-- A member is the same, or one that something has been added to. -/
def Keeps (p : Part) (v? w? : Option Json) : Prop :=
  v? = w? ∨ ∃ v w, v? = some v ∧ w? = some w ∧ p.Adds v w

namespace Adds

variable {p q : Part} {v w : Json} {ms ns : List (String × Json)} {name : String}

theorem onlyMember (there : (p.member name).Adds v w) :
    p.Adds (.object [(name, v)]) (.object [(name, w)]) :=
  @inMember p [] [] name v w there

theorem onlyItem (there : p.item.Adds v w) : p.Adds (.array [v]) (.array [w]) :=
  @inItem p [] [] v w there

/-- Additions are to objects and arrays, which stay such. -/
theorem shapes (h : p.Adds v w) : (∃ ms ns, v = .object ms ∧ w = .object ns) ∨
    ∃ vs ws, v = .array vs ∧ w = .array ws := by
  cases h with
  | member | inMember => exact .inl ⟨_, _, rfl, rfl⟩
  | nothing | inItem => exact .inr ⟨_, _, rfl, rfl⟩

theorem isObject_iff (h : p.Adds v w) : (∃ ms, v = .object ms) ↔ ∃ ns, w = .object ns := by
  rcases h.shapes with ⟨_, _, rfl, rfl⟩ | ⟨_, _, rfl, rfl⟩ <;> simp

/-- A member of a changed object is the same, or the changed one. -/
theorem keeps_changed (ms ns : List (String × Json)) (name' : String)
    (there : (p.member name).Adds v w) :
    (p.member name').Keeps (lastNamed? name' (ms ++ (name, v) :: ns))
      (lastNamed? name' (ms ++ (name, w) :: ns)) := by
  simp only [lastNamed?_append, lastNamed?_cons]
  cases lastNamed? name' ns with
  | some u => exact .inl rfl
  | none =>
    by_cases same : name = name'
    · subst same
      exact .inr ⟨v, w, by simp, by simp, there⟩
    · exact .inl (by simp [same])

/-- **What is looked for stays**, up to additions to it. -/
theorem keeps (h : p.Adds (.object ms) (.object ns)) (named : lastNamed? name p.members = some q) :
    q.Keeps (lastNamed? name ms) (lastNamed? name ns) := by
  have part : p.member name = q := by rw [Part.member, named, Option.getD_some]
  cases h with
  | @member _ before after name' v _ unnamed =>
    have different : name' ≠ name := by
      rintro rfl
      cases unnamed.symm.trans named
    exact .inl (by simp [lastNamed?_append, lastNamed?_cons, different])
  | inMember there => exact part ▸ keeps_changed _ _ name there

end Adds

end Part

/-! ## Checks and additions -/

/-- A check that takes a part with additions as it takes the part without them. -/
def Overlooks {α : Type} (p : Part) (check : Json → Checked α) : Prop :=
  ∀ v w, p.Adds v w → check v = check w

namespace Check

variable {α : Type} {check : Json → Checked α} {p q : Part} {ms ns : List (String × Json)}
  {name : String}

theorem required_eq (h : p.Adds (.object ms) (.object ns)) (o : Overlooks q check)
    (named : lastNamed? name p.members = some q) :
    required ms name check = required ns name check := by
  unfold required
  rcases h.keeps named with same | ⟨v, w, before, after, adds⟩
  · rw [same]
  · rw [before, after]
    simp only [o v w adds]

theorem optional_eq (h : p.Adds (.object ms) (.object ns)) (o : Overlooks q check)
    (named : lastNamed? name p.members = some q) (default : α) :
    optional ms name default check = optional ns name default check := by
  unfold optional
  rcases h.keeps named with same | ⟨v, w, before, after, adds⟩
  · rw [same]
  · rw [before, after]
    simp only [o v w adds]

/-- A check that takes all objects alike, and all arrays. -/
theorem overlooks_of_shapes (objects : ∀ ms ns, check (.object ms) = check (.object ns))
    (arrays : ∀ vs ws, check (.array vs) = check (.array ws)) : Overlooks p check := by
  intro v w h
  rcases h.shapes with ⟨ms, ns, rfl, rfl⟩ | ⟨vs, ws, rfl, rfl⟩
  · exact objects ms ns
  · exact arrays vs ws

theorem overlooks_nullable (o : Overlooks p check) : Overlooks p (nullable check) := by
  intro v w h
  have apart : v ≠ .null ∧ w ≠ .null := by
    rcases h.shapes with ⟨ms, ns, rfl, rfl⟩ | ⟨vs, ws, rfl, rfl⟩ <;> exact ⟨nofun, nofun⟩
  rw [nullable_of_ne_null apart.1, nullable_of_ne_null apart.2, o v w h]

theorem overlooks_model {ofMembers : List (String × Json) → Checked α}
    (h : ∀ ms ns, p.Adds (.object ms) (.object ns) → ofMembers ms = ofMembers ns) :
    Overlooks p (model name ofMembers) := by
  intro v w adds
  rcases adds.shapes with ⟨ms, ns, rfl, rfl⟩ | ⟨vs, ws, rfl, rfl⟩
  · exact h ms ns adds
  · rfl

theorem itemsFrom_changed {v w : Json} (same : check v = check w) (vs ws : List Json)
    (position : Nat) :
    itemsFrom check position (vs ++ v :: ws) = itemsFrom check position (vs ++ w :: ws) := by
  induction vs generalizing position with
  | nil => rw [List.nil_append, List.nil_append, itemsFrom, itemsFrom, same]
  | cons u vs ih => rw [List.cons_append, List.cons_append, itemsFrom, itemsFrom, ih]

theorem entries_changed {v w : Json} (same : check v = check w) (ms ns : List (String × Json)) :
    entries check (ms ++ (name, v) :: ns) = entries check (ms ++ (name, w) :: ns) := by
  induction ms with
  | nil => rw [List.nil_append, List.nil_append, entries, entries, same]
  | cons m ms ih => rw [List.cons_append, List.cons_append, entries, entries, ih]

theorem overlooks_items (o : Overlooks p.item check) (different : p ≠ .sections) :
    Overlooks p (items check) := by
  intro v w adds
  cases adds with
  | member | inMember => rfl
  | nothing => exact absurd rfl different
  | inItem there => exact itemsFrom_changed (o _ _ there) _ _ 0

theorem overlooks_string : Overlooks .other string :=
  overlooks_of_shapes (fun _ _ => rfl) fun _ _ => rfl

theorem overlooks_number (origin : Origin) : Overlooks .other (number origin) :=
  overlooks_of_shapes (fun _ _ => rfl) fun _ _ => rfl

theorem overlooks_channel : Overlooks .other channel :=
  overlooks_of_shapes (fun _ _ => rfl) fun _ _ => rfl

end Check

theorem Vec2.overlooks_ofJson (origin : Origin) : Overlooks .pair (Vec2.ofJson origin) :=
  overlooks_model fun ms ns h => by
    rw [Vec2.ofMembers, required_eq h (overlooks_number origin) (by decide),
      required_eq h (overlooks_number origin) (by decide), Vec2.ofMembers]

theorem Color.overlooks_ofJson : Overlooks .color Color.ofJson :=
  overlooks_model fun ms ns h => by
    have same {name : String} (named : lastNamed? name Part.color.members = some .other) :=
      required_eq h overlooks_channel named
    rw [Color.ofMembers, same (by decide), same (by decide), same (by decide), same (by decide),
      Color.ofMembers]

theorem TextBody.ofMembers_eq {ms ns : List (String × Json)}
    (h : Part.text.Adds (.object ms) (.object ns)) :
    TextBody.ofMembers ms = TextBody.ofMembers ns := by
  rw [TextBody.ofMembers, optional_eq h overlooks_string (by decide),
    optional_eq h (overlooks_nullable Color.overlooks_ofJson) (by decide),
    optional_eq h (overlooks_nullable overlooks_string) (by decide), TextBody.ofMembers]

theorem FigureBody.ofMembers_eq {ms ns : List (String × Json)}
    (h : Part.figure.Adds (.object ms) (.object ns)) :
    FigureBody.ofMembers ms = FigureBody.ofMembers ns := by
  rw [FigureBody.ofMembers, required_eq h overlooks_string (by decide),
    optional_eq h (overlooks_number .value) (by decide), FigureBody.ofMembers]

/-- Under a tag nothing changes but the object there, up to additions to it. -/
theorem Part.Adds.wraps {v w : Json} (h : Part.body.Adds v w) (tag : String) :
    ((∃ ms, v.Wraps tag ms) ↔ ∃ ns, w.Wraps tag ns) ∧ ∀ ms ns, v.Wraps tag ms → w.Wraps tag ns →
      ms = ns ∨ (Part.body.member tag).Adds (.object ms) (.object ns) := by
  cases h with
  | member some_ => cases some_
  | inItem =>
    refine ⟨⟨?_, ?_⟩, ?_⟩
    · rintro ⟨_, _, ⟨⟩, -⟩
    · rintro ⟨_, _, ⟨⟩, -⟩
    · rintro _ _ ⟨_, ⟨⟩, -⟩
  | @inMember _ before after name u u' there =>
    have kept := keeps_changed before after tag there
    have names : (∀ e ∈ before ++ (name, u) :: after, e.1 = tag) ↔
        ∀ e ∈ before ++ (name, u') :: after, e.1 = tag := by
      simp only [List.forall_mem_append, List.forall_mem_cons]
    refine ⟨⟨?_, ?_⟩, ?_⟩
    · rintro ⟨ms, es, same, all, last⟩
      cases same
      rcases kept with same | ⟨a, b, ha, hb, adds⟩
      · exact ⟨ms, _, rfl, names.mp all, same ▸ last⟩
      · cases ha.symm.trans last
        obtain ⟨ns, rfl⟩ := adds.isObject_iff.mp ⟨ms, rfl⟩
        exact ⟨ns, _, rfl, names.mp all, hb⟩
    · rintro ⟨ns, es, same, all, last⟩
      cases same
      rcases kept with same | ⟨a, b, ha, hb, adds⟩
      · exact ⟨ns, _, rfl, names.mpr all, same ▸ last⟩
      · cases hb.symm.trans last
        obtain ⟨ms, rfl⟩ := adds.isObject_iff.mpr ⟨ns, rfl⟩
        exact ⟨ms, _, rfl, names.mpr all, ha⟩
    · rintro ms ns ⟨es, same, -, last⟩ ⟨es', same', -, last'⟩
      cases same
      cases same'
      rcases kept with same | ⟨a, b, ha, hb, adds⟩
      · rw [last, last'] at same
        cases same
        exact .inl rfl
      · cases last.symm.trans ha
        cases last'.symm.trans hb
        exact .inr adds

theorem Body.overlooks_ofJson : Overlooks .body fun v => Body.ofJson v.settled := by
  intro v w h
  obtain ⟨figureBoth, figureSame⟩ := h.wraps figureTag
  obtain ⟨textBoth, textSame⟩ := h.wraps textTag
  simp only
  by_cases figure : ∃ ms, v.Wraps figureTag ms
  · obtain ⟨ms, wraps⟩ := figure
    obtain ⟨ns, wraps'⟩ := figureBoth.mp ⟨ms, wraps⟩
    rw [Body.ofJson_of_figure wraps, Body.ofJson_of_figure wraps']
    rcases figureSame ms ns wraps wraps' with rfl | adds
    · rfl
    · rw [FigureBody.ofMembers_eq adds]
  by_cases text : ∃ ms, v.Wraps textTag ms
  · obtain ⟨ms, wraps⟩ := text
    obtain ⟨ns, wraps'⟩ := textBoth.mp ⟨ms, wraps⟩
    rw [Body.ofJson_of_text wraps, Body.ofJson_of_text wraps']
    rcases textSame ms ns wraps wraps' with rfl | adds
    · rfl
    · rw [TextBody.ofMembers_eq adds]
  · have figure' := mt figureBoth.mpr figure
    have text' := mt textBoth.mpr text
    rw [not_exists] at figure text figure' text'
    rw [Body.ofJson_of_untagged figure text, Body.ofJson_of_untagged figure' text']

theorem Section.overlooks_ofGiven : Overlooks .sec Section.ofGiven :=
  overlooks_model fun ms ns h => by
    have pair_ := overlooks_nullable (Vec2.overlooks_ofJson .value)
    rw [Section.ofGivenMembers, optional_eq h pair_ (by decide), optional_eq h pair_ (by decide),
      required_eq h Body.overlooks_ofJson (by decide), Section.ofGivenMembers]

/-- A section shows nothing with additions if and only if it shows nothing without them. -/
theorem hasNullBody_of_adds {v w : Json} (h : Part.sec.Adds v w) :
    hasNullBody v = hasNullBody w := by
  rcases h.shapes with ⟨ms, ns, rfl, rfl⟩ | ⟨vs, ws, rfl, rfl⟩
  · unfold hasNullBody Json.member?
    have named : lastNamed? "sec_main" Part.sec.members = some .body := by decide
    rcases h.keeps named with same | ⟨a, b, ha, hb, adds⟩
    · simp only [same]
    · rcases adds.shapes with ⟨_, _, rfl, rfl⟩ | ⟨_, _, rfl, rfl⟩ <;> simp only [ha, hb]
  · rfl

theorem Slide.overlooks_sectionsOfJson : Overlooks .sections Slide.sectionsOfJson := by
  intro v w h
  rw [Slide.sectionsOfJson_eq, Slide.sectionsOfJson_eq]
  cases h with
  | member | inMember => rfl
  | nothing null => simp only [List.filter_append, List.filter_cons, null, Bool.not_true,
      Bool.false_eq_true, if_false]
  | @inItem _ before after u u' there =>
    simp only [List.filter_append, List.filter_cons, hasNullBody_of_adds there]
    split
    · exact itemsFrom_changed (Section.overlooks_ofGiven u u' there) _ _ 0
    · rfl

theorem Slide.overlooks_ofJson : Overlooks .slide Slide.ofJson :=
  overlooks_model fun ms ns h => by
    rw [Slide.ofMembers, optional_eq h (overlooks_nullable Color.overlooks_ofJson) (by decide),
      optional_eq h Slide.overlooks_sectionsOfJson (by decide), Slide.ofMembers]

theorem FontTable.overlooks_ofJson : Overlooks .fonts FontTable.ofJson := by
  intro v w h
  cases h with
  | member some_ => cases some_
  | inItem => rfl
  | @inMember _ before after name u u' there =>
    rw [FontTable.ofJson, table, entries_changed (overlooks_string u u' there)]
    rfl

/-- **Additions to a document leave it as it is**, with all that is wrong with it. -/
theorem Slideshow.overlooks_ofJson (origin : Origin) :
    Overlooks .slideshow (Slideshow.ofJson origin) :=
  overlooks_model fun ms ns h => by
    have color_ := overlooks_nullable Color.overlooks_ofJson
    rw [Slideshow.ofMembers,
      optional_eq h (q := .slides) (overlooks_items Slide.overlooks_ofJson (by decide)) (by decide),
      optional_eq h FontTable.overlooks_ofJson (by decide), optional_eq h color_ (by decide),
      optional_eq h color_ (by decide),
      optional_eq h (overlooks_nullable (Vec2.overlooks_ofJson origin)) (by decide),
      Slideshow.ofMembers]

/-- **Additions one after the other**, and what they leave when they are taken back. -/
def Json.SameUpToAdditions : Json → Json → Prop :=
  Relation.EqvGen Part.slideshow.Adds

theorem Slideshow.ofJson_eq_of_additions {v w : Json} (origin : Origin)
    (h : v.SameUpToAdditions w) :
    Slideshow.ofJson origin v = Slideshow.ofJson origin w := by
  induction h with
  | rel v w adds => exact Slideshow.overlooks_ofJson origin v w adds
  | refl v => rfl
  | symm v w _ ih => exact ih.symm
  | trans v w u _ _ first second => exact first.trans second

/-! ## The law -/

namespace Document

/-- **A document that is accepted describes its slideshow.** Its slides are the items of `slides`,
and the sections of a slide the items of its `sections` but for those with a null body. The tag of a
body tells what it is. After additions the document describes the same slideshow, and so does every
text that is parsed as it. -/
theorem isGivenBy_of_isReadAs {text : List Char} {s : Slideshow} (accepted : IsReadAs text (.ok s)) :
    ∃ v, Json.parse nestingLimit text = some v ∧ Slideshow.IsGivenBy v s ∧
      ∀ w, v.SameUpToAdditions w → Slideshow.IsGivenBy w s ∧
        ∀ text', Json.parse nestingLimit text' = some w → IsReadAs text' (.ok s) := by
  have accepted := isReadAs_iff.mp accepted
  unfold read at accepted
  split at accepted
  next => cases accepted
  next v parsed =>
    split at accepted
    next => cases accepted
    next s' found =>
      cases accepted
      refine ⟨v, parsed, Slideshow.isGivenBy_of_ofJson found, fun w same => ?_⟩
      have found' := (Slideshow.ofJson_eq_of_additions .text same).symm.trans found
      refine ⟨Slideshow.isGivenBy_of_ofJson found', fun text' parsed' => .inl ?_⟩
      simp only [read, parsed', found']

/-- A document of one slide. -/
def slideOf (sections : List Json) : Json :=
  .object [("slides", .array [.object [("sections", .array sections)]])]

/-- A section of a text. -/
def textOf (more : List (String × Json)) : Json :=
  .object [("sec_main", .object [(textTag, .object (("text", .string "a") :: more))])]

/-- The text says that it is a figure, and after it comes a section without body but with a false
size. -/
theorem isGivenBy_of_isReadAs_kind :
    let s : Slideshow := { slides := [{ sections := [{ body := .text { text := "a" } }] }] }
    IsReadAs ((slideOf [textOf []]).write none).toList (.ok s) ∧
      Slideshow.IsGivenBy (slideOf [textOf [("kind", .string figureTag)],
        .object [("size", .integer 5), ("sec_main", .null)]]) s := by
  intro s
  have accepted : IsReadAs ((slideOf [textOf []]).write none).toList (.ok s) :=
    .inl (by decide +kernel)
  refine ⟨accepted, ?_⟩
  obtain ⟨v, parsed, -, additions⟩ := isGivenBy_of_isReadAs accepted
  have readable : Json.Readable nestingLimit (slideOf [textOf []]) :=
    .member (.item (.member (.item (.member (.member (.member (.string "a") _) _) _)) _)) _
  cases parsed.symm.trans (Json.parse_write readable none)
  refine (additions _ (.trans _ (slideOf [textOf [("kind", .string figureTag)]]) _ (.rel _ _ ?_)
    (.rel _ _ ?_))).1
  · exact .onlyMember (.onlyItem (.onlyMember (.onlyItem (.onlyMember (.onlyMember
      (@Part.Adds.member _ [_] [] _ _ (by decide) (by decide)))))))
  · exact .onlyMember (.onlyItem (.onlyMember (@Part.Adds.nothing [_] [] _ rfl)))

end Document

end SlideDeck
