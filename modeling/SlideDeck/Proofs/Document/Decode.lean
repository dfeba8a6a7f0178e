import SlideDeck.Document.Encode
import SlideDeck.Proofs.Json.Nulls
import SlideDeck.Proofs.Numbers

/-!
# Documents describe their slideshows

Each part of a slideshow has a document that is read as just that part, and reading the document of
the whole collects what its parts are read as: no member is missing, none is named twice, and a body
has one tag. If some numbers have become nulls on the way, each of these is missed, at its place in
the document, and nothing else is wrong (`ReadsBack`).

**The law** (`Slideshow.readsBack`): the document of a slideshow is read back in this sense, of whatever
origin it is taken to be. If all numbers are kept, it is read as the slideshow
(`Slideshow.ofJson_toJson`). And a document without the numbers that are not finite can be read from
its text (`Slideshow.isWritable`).
-/

namespace SlideDeck

open SlideDeck.Check

/-! ## Entries of different names -/

section Entries

variable {α : Type}

/-- An entry of a new name comes last. -/
theorem insertEntry_new {name : String} {es : List (String × α)} (value : α)
    (new : name ∉ es.map Prod.fst) : insertEntry name value es = es ++ [(name, value)] := by
  induction es with
  | nil => rfl
  | cons e es ih =>
    rw [List.map_cons, List.mem_cons, not_or] at new
    rw [insertEntry, if_neg (Ne.symm new.1), ih new.2, List.cons_append]

/-- Entries of different names are inserted one after the other. -/
theorem foldl_insertEntry {es : List (String × α)} (merged : List (String × α))
    (once : ((merged ++ es).map Prod.fst).Nodup) :
    es.foldl (fun merged e => insertEntry e.1 e.2 merged) merged = merged ++ es := by
  induction es generalizing merged with
  | nil => rw [List.foldl_nil, List.append_nil]
  | cons e es ih =>
    have new : e.1 ∉ merged.map Prod.fst := by
      rw [List.map_append, List.nodup_append] at once
      exact fun mem => once.2.2 e.1 mem e.1 List.mem_cons_self rfl
    have same : merged ++ [(e.1, e.2)] ++ es = merged ++ e :: es := by
      rw [List.append_assoc]
      rfl
    rw [List.foldl_cons, insertEntry_new e.2 new, ih, same]
    rwa [same]

theorem mergeEntries_of_nodup {es : List (String × α)} (once : (es.map Prod.fst).Nodup) :
    mergeEntries es = es :=
  foldl_insertEntry [] once

/-- A font table is the table of its entries. -/
@[simp]
theorem FontTable.ofList_entries (t : FontTable) : FontTable.ofList t.entries = t := by
  have entries : ∀ (es : List (String × String)) (t : FontTable),
      (es.foldl (fun t e => t.insert e.1 e.2) t).entries =
        es.foldl (fun merged e => insertEntry e.1 e.2 merged) t.entries := by
    intro es
    induction es with
    | nil => exact fun _ => rfl
    | cons e es ih => exact fun t => ih (t.insert e.1 e.2)
  have same : (FontTable.ofList t.entries).entries = t.entries :=
    (entries t.entries {}).trans (mergeEntries_of_nodup t.nodup)
  obtain ⟨es, once⟩ := t
  cases h : FontTable.ofList es with
  | mk es' once' =>
    rw [h] at same
    cases same
    rfl

end Entries

/-! ## Numbers that are missing -/

namespace Checked

variable {α β : Type}

/-- What is read of a value without the numbers at some places. -/
def without (places : List (List Step)) (a : α) : Checked α :=
  match places with
  | [] => .ok a
  | _ => .error (places.map fun place => ⟨.notNumber, place⟩)

theorem without_of_ne_nil {places : List (List Step)} (some_ : places ≠ []) (a : α) :
    without places a = .error (places.map fun place => ⟨.notNumber, place⟩) := by
  cases places with
  | nil => exact absurd rfl some_
  | cons place places => rfl

@[simp]
theorem map_without (f : α → β) (places : List (List Step)) (a : α) :
    (without places a).map f = without places (f a) := by
  cases places <;> rfl

@[simp]
theorem under_without (step : Step) (places : List (List Step)) (a : α) :
    (without places a).under step = without (places.map (step :: ·)) a := by
  cases places with
  | nil => rfl
  | cons place places =>
    simp only [without, under, List.map_cons, List.map_map]
    rfl

/-- The places of two parts come one after the other. -/
@[simp]
theorem apply_without (f : α → β) (a : α) (ps qs : List (List Step)) :
    apply (without ps f) (without qs a) = without (ps ++ qs) (f a) := by
  cases ps with
  | nil => cases qs <;> rfl
  | cons p ps =>
    cases qs with
    | nil =>
      rw [List.append_nil]
      rfl
    | cons q qs => simp [without, apply]

end Checked

/-! ## Members and items -/

variable {keep : Float → Bool}

/-- A value is read back: as the given one, if all of its numbers are kept, and otherwise with complaints
about those that are not, each at its place. -/
def ReadsBack {α : Type} (keep : Float → Bool) (check : Json → Checked α) (v : Json) (a : α) : Prop :=
  check (v.nulled keep) = .without (v.lost keep) a

namespace ReadsBack

variable {α : Type} {check : Json → Checked α} {write : α → Json}

/-- A member that is there is read. -/
theorem required {ms : List (String × Json)} {name : String} {v : Json} {a : α}
    (there : lastNamed? name ms = some (v.nulled keep)) (reads : ReadsBack keep check v a) :
    Check.required ms name check = .without ((v.lost keep).map (.key name :: ·)) a := by
  have value : check (v.nulled keep) = .without (v.lost keep) a := reads
  simp [Check.required, there, value]

theorem optional {ms : List (String × Json)} {name : String} {v : Json} {default a : α}
    (there : lastNamed? name ms = some (v.nulled keep)) (reads : ReadsBack keep check v a) :
    Check.optional ms name default check = .without ((v.lost keep).map (.key name :: ·)) a := by
  have value : check (v.nulled keep) = .without (v.lost keep) a := reads
  simp [Check.optional, there, value]

/-- A part that may be missing is read back. -/
theorem nullable (reads : ∀ a, ReadsBack keep check (write a) a)
    (notNull : ∀ a, (write a).nulled keep ≠ .null) (a : Option α) :
    ReadsBack keep (Check.nullable check) (.ofOption write a) a := by
  cases a with
  | none => rfl
  | some a =>
    have value : Check.nullable check ((write a).nulled keep) =
        (check ((write a).nulled keep)).map some := by
      unfold Check.nullable
      split
      · rename_i null
        exact absurd null (notNull a)
      · rfl
    have read : check ((write a).nulled keep) = .without ((write a).lost keep) a := reads a
    rw [ReadsBack, Json.ofOption, value, read, Checked.map_without]

/-- Items are read back one by one. -/
theorem itemsFrom (reads : ∀ a, ReadsBack keep check (write a) a) (as : List α) (position : Nat) :
    Check.itemsFrom check position ((as.map write).map (Json.nulled keep)) =
      .without (Json.lostItems keep position (as.map write)) as := by
  induction as generalizing position with
  | nil => rfl
  | cons a as ih =>
    have read : check ((write a).nulled keep) = .without ((write a).lost keep) a := reads a
    simp only [List.map_cons, Check.itemsFrom, read, ih, Json.lostItems]
    simp

theorem items (reads : ∀ a, ReadsBack keep check (write a) a) (as : List α) :
    ReadsBack keep (Check.items check) (.array (as.map write)) as := by
  rw [ReadsBack, Json.nulled_array, Json.lost_array, Check.items, itemsFrom reads]

/-- Members are read back, as a model puts them together. -/
theorem model {name : String} {check : List (String × Json) → Checked α} {ms : List (String × Json)}
    {a : α} (reads : check (ms.map fun m => (m.1, m.2.nulled keep)) =
      .without (Json.lostMembers keep ms) a) :
    ReadsBack keep (Check.model name check) (.object ms) a := by
  rw [ReadsBack, Json.nulled_object, Json.lost_object, Check.model, reads]

end ReadsBack

/-! ## Parts -/

theorem Check.readsBack_number (origin : Origin) (x : Float) :
    ReadsBack keep (number origin) (.real x) x := by
  rw [ReadsBack, Json.nulled, Json.lost]
  split <;> rfl

theorem Check.readsBack_string (keep : Float → Bool) (s : String) :
    ReadsBack keep string (.string s) s :=
  rfl

theorem Check.readsBack_channel (keep : Float → Bool) (n : UInt8) :
    ReadsBack keep channel (.integer n.toNat) n := by
  have bound := n.toNat_lt
  show channel (.integer n.toNat) = .ok n
  simp only [channel, integer]
  rw [if_neg (by omega), if_neg (by omega), Int.toNat_natCast, UInt8.ofNat_toNat]

theorem Vec2.readsBack (origin : Origin) (v : Vec2) :
    ReadsBack keep (Vec2.ofJson origin) v.toJson v := by
  refine .model ?_
  rw [Vec2.ofMembers, (readsBack_number origin v.x).required rfl,
    (readsBack_number origin v.y).required rfl]
  simp [Json.lostMembers]

theorem Vec2.readsBack_ofOption (origin : Origin) (v : Option Vec2) :
    ReadsBack keep (nullable (Vec2.ofJson origin)) (.ofOption Vec2.toJson v) v :=
  .nullable (Vec2.readsBack origin) (fun _ => nofun) v

theorem Color.readsBack (c : Color) : ReadsBack keep Color.ofJson c.toJson c := by
  refine .model ?_
  rw [Color.ofMembers, (readsBack_channel keep c.r).required rfl,
    (readsBack_channel keep c.g).required rfl, (readsBack_channel keep c.b).required rfl,
    (readsBack_channel keep c.a).required rfl]
  rfl

theorem Color.readsBack_ofOption (c : Option Color) :
    ReadsBack keep (nullable Color.ofJson) (.ofOption Color.toJson c) c :=
  .nullable Color.readsBack (fun _ => nofun) c

theorem TextBody.ofMembers_nulled (b : TextBody) :
    TextBody.ofMembers ([("text", Json.string b.text), ("color", .ofOption Color.toJson b.color),
      ("font", .ofOption Json.string b.font)].map fun m => (m.1, m.2.nulled keep)) =
      .without (b.toJson.lost keep) b := by
  have font : ReadsBack keep (nullable string) (.ofOption Json.string b.font) b.font :=
    .nullable (readsBack_string keep) (fun _ => nofun) b.font
  rw [TextBody.ofMembers, (readsBack_string keep b.text).optional rfl,
    (Color.readsBack_ofOption b.color).optional rfl, font.optional rfl, TextBody.toJson]
  simp [Json.lostMembers]

theorem FigureBody.ofMembers_nulled (b : FigureBody) :
    FigureBody.ofMembers ([("path", Json.string b.path), ("rotation", .real b.rotation)].map
      fun m => (m.1, m.2.nulled keep)) = .without (b.toJson.lost keep) b := by
  rw [FigureBody.ofMembers, (readsBack_string keep b.path).required rfl,
    (readsBack_number .value b.rotation).optional rfl, FigureBody.toJson]
  simp [Json.lostMembers]

theorem Body.readsBack (b : Body) : ReadsBack keep Body.ofJson b.toJson b := by
  have different : textTag ≠ figureTag := by decide
  cases b with
  | text b =>
    rw [ReadsBack, Body.toJson, Json.nulled_object, Json.lost_object, List.map_singleton,
      TextBody.toJson, Json.nulled_object]
    simp only [Body.ofJson, different, if_false, if_true, TextBody.ofMembers_nulled]
    simp only [Checked.under_without, Checked.map_without, Json.lostMembers, List.append_nil]
    rfl
  | figure b =>
    rw [ReadsBack, Body.toJson, Json.nulled_object, Json.lost_object, List.map_singleton,
      FigureBody.toJson, Json.nulled_object]
    simp only [Body.ofJson, if_true, FigureBody.ofMembers_nulled]
    simp only [Checked.under_without, Checked.map_without, Json.lostMembers, List.append_nil]
    rfl

theorem Section.readsBack (s : Section) : ReadsBack keep Section.ofJson s.toJson s := by
  refine .model ?_
  rw [Section.ofMembers, (Vec2.readsBack_ofOption .value s.size).optional rfl,
    (Vec2.readsBack_ofOption .value s.position).optional rfl, s.body.readsBack.required rfl]
  simp [Json.lostMembers]

/-! ## Slides -/

@[simp]
theorem Vec2.settled_ofOption (v : Option Vec2) :
    (Json.ofOption Vec2.toJson v).settled = .ofOption Vec2.toJson v := by
  cases v <;> rfl

@[simp]
theorem Body.settled_toJson (b : Body) : b.toJson.settled = b.toJson := by
  cases b with
  | text b =>
    obtain ⟨text, color, font⟩ := b
    cases color <;> cases font <;> rfl
  | figure b => rfl

/-- The document of a section names no member twice. -/
@[simp]
theorem Section.settled_toJson (s : Section) : s.toJson.settled = s.toJson := by
  have once : ∀ size position body : Json, mergeEntries
      [("size", size), ("position", position), ("sec_main", body)] =
      [("size", size), ("position", position), ("sec_main", body)] :=
    fun _ _ _ => mergeEntries_of_nodup (show ["size", "position", "sec_main"].Nodup by decide)
  simp only [Section.toJson, Json.settled, Json.settledMembers, Vec2.settled_ofOption,
    Body.settled_toJson, once]

/-- A section shows something, whatever has become of its numbers. -/
@[simp]
theorem Section.hasNullBody_nulled (s : Section) : hasNullBody (s.toJson.nulled keep) = false := by
  have body : (s.toJson.nulled keep).member? "sec_main" = some (s.body.toJson.nulled keep) := by
    rw [Section.toJson, Json.nulled_object]
    rfl
  rw [hasNullBody, body]
  cases s.body <;> rfl

/-- The sections of a slide all show something, and are read back. -/
theorem Slide.readsBack_sections (sections : List Section) :
    ReadsBack keep Slide.sectionsOfJson (.array (sections.map Section.toJson)) sections := by
  have settled (ss : List Section) :
      Json.settledItems ((ss.map Section.toJson).map (Json.nulled keep)) =
        (ss.map Section.toJson).map (Json.nulled keep) := by
    induction ss with
    | nil => rfl
    | cons s ss ih =>
      rw [List.map_cons, List.map_cons, Json.settledItems, Json.settled_nulled,
        Section.settled_toJson, ih]
  have shown : ((sections.map Section.toJson).map (Json.nulled keep)).filter
      (fun v => ! hasNullBody v) = (sections.map Section.toJson).map (Json.nulled keep) := by
    refine List.filter_eq_self.mpr fun v mem => ?_
    rw [List.map_map] at mem
    obtain ⟨s, -, rfl⟩ := List.mem_map.mp mem
    simp
  have items : ReadsBack keep (Check.items Section.ofJson) (.array (sections.map Section.toJson))
      sections := .items Section.readsBack sections
  rw [ReadsBack, Json.nulled_array] at items ⊢
  rw [Slide.sectionsOfJson, Json.settled, settled]
  simp only [shown, items]

theorem Slide.readsBack (s : Slide) : ReadsBack keep Slide.ofJson s.toJson s := by
  refine .model ?_
  rw [Slide.ofMembers, (Color.readsBack_ofOption s.background).optional rfl,
    (Slide.readsBack_sections s.sections).optional rfl]
  simp [Json.lostMembers]

/-! ## The law -/

theorem FontTable.readsBack (t : FontTable) : ReadsBack keep FontTable.ofJson t.toJson t := by
  have named (es : List (String × String)) :
      Check.entries Check.string ((es.map fun e => (e.1, Json.string e.2)).map
        fun m => (m.1, m.2.nulled keep)) =
      .without (Json.lostMembers keep (es.map fun e => (e.1, .string e.2))) es := by
    induction es with
    | nil => rfl
    | cons e es ih =>
      have value : string ((Json.string e.2).nulled keep) = .without ((Json.string e.2).lost keep) e.2 :=
        readsBack_string keep e.2
      rw [List.map_cons, List.map_cons, Check.entries, ih, value, Json.lostMembers]
      simp
  rw [ReadsBack, FontTable.toJson, Json.nulled_object, FontTable.ofJson, table, named]
  simp

/-- **The document of a slideshow is read back.** -/
theorem Slideshow.readsBack (origin : Origin) (s : Slideshow) :
    ReadsBack keep (Slideshow.ofJson origin) s.toJson s := by
  refine .model ?_
  rw [Slideshow.ofMembers, (ReadsBack.items Slide.readsBack s.slides).optional rfl,
    s.fonts.readsBack.optional rfl, (Color.readsBack_ofOption s.background).optional rfl,
    (Color.readsBack_ofOption s.fontColor).optional rfl,
    (Vec2.readsBack_ofOption origin s.fontSize).optional rfl]
  simp [Json.lostMembers]

/-! ## Numbers -/

@[simp]
theorem Vec2.lost_eq_nil_iff {v : Vec2} :
    v.toJson.lost keep = [] ↔ ∀ x ∈ v.numbers, keep x = true := by
  simp [Vec2.toJson, Vec2.numbers, Json.lost]

@[simp]
theorem Vec2.lost_ofOption_eq_nil_iff {v : Option Vec2} :
    (Json.ofOption Vec2.toJson v).lost keep = [] ↔
      ∀ x ∈ v.toList.flatMap Vec2.numbers, keep x = true := by
  cases v with
  | none => simp [Json.ofOption, Json.lost]
  | some v => simp [Json.ofOption]

/-- Colors hold no numbers of this kind. -/
@[simp]
theorem Color.lost_ofOption (c : Option Color) : (Json.ofOption Color.toJson c).lost keep = [] := by
  cases c <;> rfl

@[simp]
theorem Body.lost_eq_nil_iff {b : Body} :
    b.toJson.lost keep = [] ↔ ∀ f, b = .figure f → keep f.rotation = true := by
  cases b with
  | text b =>
    have font : (Json.ofOption Json.string b.font).lost keep = [] := by cases b.font <;> rfl
    simp [Body.toJson, TextBody.toJson, Json.lost, font]
  | figure b => simp [Body.toJson, FigureBody.toJson, Json.lost]

@[simp]
theorem Section.lost_eq_nil_iff {s : Section} :
    s.toJson.lost keep = [] ↔ ∀ x ∈ s.numbers, keep x = true := by
  obtain ⟨size, position, body⟩ := s
  cases body <;> simp [Section.toJson, Section.numbers, or_imp, forall_and]

/-- **The document of a slideshow loses the numbers of the slideshow**, unless they are kept. -/
theorem Slideshow.lost_eq_nil_iff {s : Slideshow} :
    s.toJson.lost keep = [] ↔ ∀ x ∈ s.numbers, keep x = true := by
  have slide (slide : Slide) : slide.toJson.lost keep = [] ↔
      ∀ s ∈ slide.sections, ∀ x ∈ s.numbers, keep x = true := by
    simp [Slide.toJson]
  have fonts : s.fonts.toJson.lost keep = [] := by
    rw [FontTable.toJson, Json.lost_object, Json.lostMembers_eq_nil_iff, List.forall_mem_map]
    exact fun _ _ => rfl
  simp only [Slideshow.toJson, Slideshow.numbers, Json.lost_object, Json.lostMembers_eq_nil_iff,
    List.forall_mem_cons, List.forall_mem_append, Vec2.lost_ofOption_eq_nil_iff, fonts,
    Color.lost_ofOption, Json.lost_array, Json.lostItems_eq_nil_iff, List.forall_mem_map, slide,
    List.forall_mem_flatMap]
  simp [and_comm]

/-- The numbers of a slideshow are those that places of its document lead to. -/
theorem Slideshow.mem_numbers_iff {s : Slideshow} {x : Float} :
    x ∈ s.numbers ↔ ∃ place, s.toJson.LeadsTo place (.real x) := by
  have others : (s.toJson.lost fun y => decide (y ≠ x)) = [] ↔ x ∉ s.numbers := by
    rw [Slideshow.lost_eq_nil_iff]
    simp only [decide_eq_true_eq]
    exact ⟨fun h mem => h x mem rfl, fun h y mem same => h (same ▸ mem)⟩
  rw [← not_iff_not, ← others, List.eq_nil_iff_forall_not_mem, not_exists]
  refine forall_congr' fun place => not_congr ?_
  rw [Json.mem_lost]
  simp

/-- **The document of a slideshow is read as the slideshow**, if it has all of its numbers. -/
theorem Slideshow.ofJson_toJson (origin : Origin) (s : Slideshow) :
    Slideshow.ofJson origin s.toJson = .ok s := by
  have reads : ofJson origin (s.toJson.nulled fun _ => true) =
      .without (s.toJson.lost fun _ => true) s := Slideshow.readsBack origin s
  rwa [Json.nulled_of_all fun _ => rfl, Slideshow.lost_eq_nil_iff.mpr fun _ _ => rfl] at reads

/-! ## Finite numbers -/

/-- Whether a number is finite. -/
def Number.isFinite (x : Float) : Bool :=
  match parts x with
  | .finite .. => true
  | _ => false

/-- Whether both numbers of a pair are finite. -/
def Vec2.isFinite (v : Vec2) : Bool :=
  Number.isFinite v.x && Number.isFinite v.y

/-- Whether the rotation of a figure is finite. -/
def Body.isFinite : Body → Bool
  | .text _ => true
  | .figure b => Number.isFinite b.rotation

/-- Whether all numbers of a section are finite. -/
def Section.isFinite (s : Section) : Bool :=
  s.size.all Vec2.isFinite && s.position.all Vec2.isFinite && s.body.isFinite

/-- Whether all numbers of a slide are finite. -/
def Slide.isFinite (s : Slide) : Bool :=
  s.sections.all Section.isFinite

/-- Whether all numbers of a slideshow are finite. -/
def Slideshow.isFinite (s : Slideshow) : Bool :=
  s.slides.all Slide.isFinite && s.fontSize.all Vec2.isFinite

theorem Vec2.isFinite_iff {v : Option Vec2} : v.all Vec2.isFinite = true ↔
    ∀ x ∈ v.toList.flatMap Vec2.numbers, Number.isFinite x = true := by
  cases v <;> simp [Vec2.isFinite, Vec2.numbers]

theorem Section.isFinite_iff {s : Section} :
    s.isFinite = true ↔ ∀ x ∈ s.numbers, Number.isFinite x = true := by
  simp only [Section.isFinite, Bool.and_eq_true, Vec2.isFinite_iff, Section.numbers,
    List.forall_mem_append]
  cases s.body <;> simp [Body.isFinite]

theorem Slideshow.isFinite_iff {s : Slideshow} :
    s.isFinite = true ↔ ∀ x ∈ s.numbers, Number.isFinite x = true := by
  simp only [Slideshow.isFinite, Slide.isFinite, Bool.and_eq_true, List.all_eq_true,
    Vec2.isFinite_iff, Section.isFinite_iff, Slideshow.numbers, List.forall_mem_append,
    List.forall_mem_flatMap, and_comm]

/-- Nothing is lost from the document of a slideshow whose numbers are finite. -/
theorem Slideshow.lost_isFinite {s : Slideshow} :
    s.toJson.lost Number.isFinite = [] ↔ s.isFinite = true :=
  Slideshow.lost_eq_nil_iff.trans Slideshow.isFinite_iff.symm

namespace Json

variable {depth : Nat}

/-- A value can be read from its text up to the numbers that are not finite. -/
def IsWritable (depth : Nat) (v : Json) : Prop :=
  Readable depth (v.nulled Number.isFinite)

namespace IsWritable

theorem null : IsWritable depth .null :=
  Readable.null

theorem string (s : String) : IsWritable depth (.string s) :=
  Readable.string s

theorem integer {i : Int} (short : (Nat.toDigits 10 i.natAbs).length ≤ Number.digitLimit) :
    IsWritable depth (.integer i) :=
  Readable.integer short

theorem real (x : Float) : IsWritable depth (.real x) := by
  rw [IsWritable, nulled]
  split
  next finite =>
    unfold Number.isFinite at finite
    split at finite
    · rename_i h
      exact .real h
    · cases finite
  · exact .null

theorem array {vs : List Json} (items : ∀ v ∈ vs, IsWritable depth v) :
    IsWritable (depth + 1) (.array vs) := by
  rw [IsWritable, nulled_array]
  exact .array (List.forall_mem_map.mpr items)

theorem object {ms : List (String × Json)} (members : ∀ m ∈ ms, IsWritable depth m.2) :
    IsWritable (depth + 1) (.object ms) := by
  rw [IsWritable, nulled_object]
  exact .object (List.forall_mem_map.mpr members)

theorem ofOption {α : Type} {write : α → Json} {a : Option α}
    (h : ∀ b ∈ a, IsWritable depth (write b)) : IsWritable depth (.ofOption write a) := by
  cases a with
  | none => exact .null
  | some b => exact h b rfl

end IsWritable

end Json

open SlideDeck.Json (IsWritable)

variable {depth : Nat}

/-- How deep a document is nested is fixed by its kind. -/
theorem Color.isWritable (c : Color) : IsWritable (depth + 1) c.toJson := by
  have channel (n : UInt8) : IsWritable depth (.integer n.toNat) := by
    have few : ∀ n : Fin 256, (Nat.toDigits 10 n).length ≤ 3 := by decide +kernel
    exact .integer ((few ⟨n.toNat, n.toNat_lt⟩).trans (by decide))
  refine .object ?_
  simp only [List.forall_mem_cons]
  exact ⟨channel _, channel _, channel _, channel _, fun _ absent => nomatch absent⟩

theorem Color.isWritable_ofOption (c : Option Color) :
    IsWritable (depth + 1) (.ofOption Color.toJson c) :=
  .ofOption fun c _ => c.isWritable

theorem Vec2.isWritable (v : Vec2) : IsWritable (depth + 1) v.toJson := by
  refine .object ?_
  simp only [List.forall_mem_cons]
  exact ⟨.real v.x, .real v.y, fun _ absent => nomatch absent⟩

theorem Vec2.isWritable_ofOption (v : Option Vec2) :
    IsWritable (depth + 1) (.ofOption Vec2.toJson v) :=
  .ofOption fun v _ => v.isWritable

theorem Body.isWritable (b : Body) : IsWritable (depth + 3) b.toJson := by
  cases b with
  | text b =>
    refine .object ?_
    simp only [List.forall_mem_cons]
    refine ⟨.object ?_, fun _ absent => nomatch absent⟩
    simp only [List.forall_mem_cons]
    exact ⟨.string b.text, Color.isWritable_ofOption b.color, .ofOption fun f _ => .string f,
      fun _ absent => nomatch absent⟩
  | figure b =>
    refine .object ?_
    simp only [List.forall_mem_cons]
    refine ⟨.object ?_, fun _ absent => nomatch absent⟩
    simp only [List.forall_mem_cons]
    exact ⟨.string b.path, .real b.rotation, fun _ absent => nomatch absent⟩

theorem Section.isWritable (s : Section) : IsWritable (depth + 4) s.toJson := by
  refine .object ?_
  simp only [List.forall_mem_cons]
  exact ⟨Vec2.isWritable_ofOption s.size, Vec2.isWritable_ofOption s.position, s.body.isWritable,
    fun _ absent => nomatch absent⟩

theorem Slide.isWritable (s : Slide) : IsWritable (depth + 6) s.toJson := by
  refine .object ?_
  simp only [List.forall_mem_cons]
  refine ⟨Color.isWritable_ofOption s.background, .array fun v mem => ?_,
    fun _ absent => nomatch absent⟩
  obtain ⟨section_, -, rfl⟩ := List.mem_map.mp mem
  exact section_.isWritable

theorem FontTable.isWritable (t : FontTable) : IsWritable (depth + 1) t.toJson := by
  refine .object fun m mem => ?_
  obtain ⟨e, -, rfl⟩ := List.mem_map.mp mem
  exact .string e.2

/-- **The document of a slideshow can be read from its text**, up to the numbers that are not finite. -/
theorem Slideshow.isWritable (s : Slideshow) : IsWritable (depth + 8) s.toJson := by
  refine .object ?_
  simp only [List.forall_mem_cons]
  refine ⟨.array fun v mem => ?_, s.fonts.isWritable, Color.isWritable_ofOption s.background,
    Color.isWritable_ofOption s.fontColor, Vec2.isWritable_ofOption s.fontSize,
    fun _ absent => nomatch absent⟩
  obtain ⟨slide, -, rfl⟩ := List.mem_map.mp mem
  exact slide.isWritable

end SlideDeck
