import SlideDeck.Proofs.Numbers
import SlideDeck.Proofs.Reader.CarriedOut
import SlideDeck.Proofs.Reader.Nesting
import SlideDeck.Proofs.Text.Lines

/-!
# Where the numbers of a slideshow come from

A deck gives numbers as words. They are the places, sizes and rotations of a slideshow as they are, but
for the size of a letter, which stands for a cell; and a figure that is not turned has the rotation zero.
No other numbers come up in reading: a number of a draft was there before, is given by a word of the
window, or is one of an imported slideshow (`CarriesOut.brings`).

**The law** (`Reading.given_of_outcome`): every number of what is read is zero, or is given by a word of
a text that is read for it, the deck itself or a deck that is imported.
-/

namespace SlideDeck

open Deck Draft

variable {x : Float}

/-- The numbers that a word can stand for: its own, and the sides of the cell of a letter of this
size. -/
inductive Lexeme.Gives : Lexeme → Float → Prop where
  | self (y : Float) : Gives (.number y) y
  | side {y x : Float} (side : x ∈ (Argument.cellOfSize y).numbers) : Gives (.number y) x

/-- A new number of a draft, from lexemes or from the decks that are asked for. -/
inductive Brings (load : Path → Except Failure Slideshow) (lexemes : List Lexeme) (asked : List Path) :
    Float → Prop where
  | zero : Brings load lexemes asked 0.0
  | word {l : Lexeme} {x : Float} (mem : l ∈ lexemes) (gives : l.Gives x) :
    Brings load lexemes asked x
  | imported {path : Path} {other : Slideshow} {x : Float} (mem : path ∈ asked)
    (loaded : load path = .ok other) (inside : x ∈ other.numbers) : Brings load lexemes asked x

theorem Brings.mono {load : Path → Except Failure Slideshow} {lexemes lexemes' : List Lexeme}
    {asked asked' : List Path} (h : Brings load lexemes asked x) (words : lexemes ⊆ lexemes')
    (paths : asked ⊆ asked') : Brings load lexemes' asked' x := by
  cases h with
  | zero => exact .zero
  | word mem gives => exact .word (words mem) gives
  | imported mem loaded inside => exact .imported (paths mem) loaded inside

/-! ## Arguments -/

namespace Argument

variable {window : List Lexeme}

theorem gives_of_number {place : Nat} {what : String} (h : number window place what = .ok x) :
    ∃ l ∈ window, l.Gives x := by
  unfold number at h
  split at h
  · cases h
  next found =>
    cases h
    exact ⟨_, List.mem_of_getElem? found, .self x⟩
  · cases h

theorem gives_of_size {v : Vec2} {count : Nat} (h : size window = .ok (v, count))
    (mem : x ∈ v.numbers) : ∃ l ∈ window, l.Gives x := by
  unfold size at h
  split at h
  · cases h
  next a b _ =>
    cases h
    rcases List.mem_cons.mp mem with rfl | mem
    · exact ⟨_, List.mem_cons_self, .self x⟩
    · obtain rfl := List.mem_singleton.mp mem
      exact ⟨_, List.mem_cons_of_mem _ List.mem_cons_self, .self x⟩
  · cases h
    exact ⟨_, List.mem_cons_self, .side mem⟩
  · cases h

end Argument

/-! ## Numbers of a draft -/

namespace Draft

variable {around : Surroundings} {d d' : Draft} {l : Lexeme} {window : List Lexeme} {count : Nat}

/-- The sections of the closed slides and of the open one. -/
def sections (d : Draft) : List Section :=
  d.slideshow.slides.flatMap Slide.sections ++ d.slide.toList.flatMap Slide.sections

theorem numbers_take (d : Draft) : d.take.numbers =
    d.slideshow.fontSize.toList.flatMap Vec2.numbers ++ d.sections.flatMap Section.numbers := by
  unfold Draft.take flush sections Slideshow.numbers
  cases d.slide <;> simp [List.flatMap_assoc]

theorem mem_numbers_take : x ∈ d.take.numbers ↔
    (∃ v ∈ d.slideshow.fontSize, x ∈ v.numbers) ∨ ∃ s ∈ d.sections, x ∈ s.numbers := by
  rw [numbers_take]
  simp

@[simp]
theorem sections_flush (d : Draft) : d.flush.sections = d.sections := by
  unfold flush sections
  split
  · rfl
  next there => simp [there]

@[simp]
theorem fontSize_take (d : Draft) : d.take.fontSize = d.slideshow.fontSize := by
  unfold take flush
  cases d.slide <;> rfl

/-- A step that leaves the default size of letters brings the numbers of the sections that it brings. -/
theorem brings_of_sections {P : Float → Prop} (h : x ∈ d'.take.numbers)
    (size : d'.slideshow.fontSize = d.slideshow.fontSize)
    (sections : ∀ s ∈ d'.sections, s ∈ d.sections ∨ ∀ x ∈ s.numbers, x ∈ d.take.numbers ∨ P x) :
    x ∈ d.take.numbers ∨ P x := by
  rcases mem_numbers_take.mp h with default | ⟨s, mem, inside⟩
  · rw [size] at default
    exact .inl (mem_numbers_take.mpr (.inl default))
  · rcases sections s mem with old | brings
    · exact .inl (mem_numbers_take.mpr (.inr ⟨s, old, inside⟩))
    · exact brings x inside

/-- What a change of one section brings. -/
theorem mem_modify {α : Type} {f : α → α} {as : List α} {i : Nat} {a : α} (h : a ∈ as.modify i f) :
    a ∈ as ∨ ∃ b ∈ as, a = f b := by
  obtain ⟨j, there⟩ := List.mem_iff_getElem?.mp h
  rw [List.getElem?_modify] at there
  obtain ⟨b, old, rfl⟩ := Option.map_eq_some_iff.mp there
  split
  · exact .inr ⟨b, List.mem_of_getElem? old, rfl⟩
  · exact .inl (List.mem_of_getElem? old)

theorem mem_sections_changeSlide {f : Slide → Slide} {s : Section}
    (h : s ∈ (d.changeSlide f).sections) :
    s ∈ d.sections ∨ ∃ open_ ∈ d.slide, s ∈ (f open_).sections := by
  rcases List.mem_append.mp h with closed | new
  · exact .inl (List.mem_append_left _ closed)
  · obtain ⟨_, changed, mem⟩ := List.mem_flatMap.mp new
    obtain ⟨open_, there, rfl⟩ := Option.map_eq_some_iff.mp (Option.mem_toList.mp changed)
    exact .inr ⟨open_, there, mem⟩

theorem mem_sections_of_open {open_ : Slide} {s : Section} (there : open_ ∈ d.slide)
    (mem : s ∈ open_.sections) : s ∈ d.sections := by
  refine List.mem_append_right _ (List.mem_flatMap.mpr ⟨open_, ?_, mem⟩)
  exact Option.mem_toList.mpr there

/-- A change of the last section brings what it makes of the numbers of that section. -/
theorem brings_of_changeSection {P : Float → Prop} {f : Section → Section}
    (change : ∀ s, ∀ x ∈ (f s).numbers, x ∈ s.numbers ∨ P x)
    (h : x ∈ (d.changeSection f).take.numbers) : x ∈ d.take.numbers ∨ P x := by
  refine brings_of_sections h rfl fun s mem => ?_
  rcases mem_sections_changeSlide mem with old | ⟨open_, there, new⟩
  · exact .inl old
  · rcases mem_modify new with old | ⟨last, old, rfl⟩
    · exact .inl (mem_sections_of_open there old)
    · refine .inr fun x inside => (change last x inside).imp (fun old' => ?_) id
      exact mem_numbers_take.mpr (.inr ⟨last, mem_sections_of_open there old, old'⟩)

/-- A new section brings the numbers of its body. -/
theorem brings_of_pushSection {P : Float → Prop} {b : Body} {c : Context}
    (pushed : d.pushSection b = .ok d') (body : ∀ x ∈ (⟨none, none, b⟩ : Section).numbers, P x)
    (h : x ∈ (d'.enter c).take.numbers) : x ∈ d.take.numbers ∨ P x := by
  unfold pushSection at pushed
  split at pushed
  · cases pushed
  · cases pushed
    refine brings_of_sections h rfl fun s (mem : s ∈ (d.changeSlide _).sections) => ?_
    rcases mem_sections_changeSlide mem with old | ⟨open_, there, new⟩
    · exact .inl old
    · rcases List.mem_append.mp new with old | new
      · exact .inl (mem_sections_of_open there old)
      · rw [List.mem_singleton.mp new]
        exact .inr fun x inside => .inr (body x inside)

/-- A change of its text leaves the numbers of a section. -/
theorem numbers_withText {s : Section} {b : TextBody}
    (h : x ∈ ({ s with body := .text b } : Section).numbers) : x ∈ s.numbers := by
  rcases Section.mem_numbers.mp h with size | place | ⟨_, figure, -⟩
  · exact Section.mem_numbers.mpr (.inl size)
  · exact Section.mem_numbers.mpr (.inr (.inl place))
  · cases figure

/-- **A lexeme brings no numbers but those of its arguments**, or of the deck that it asks for. -/
theorem CarriesOut.brings (h : CarriesOut around d window l d' count) (mem : x ∈ d'.take.numbers) :
    x ∈ d.take.numbers ∨ Brings around.load window (asked around.base l window) x := by
  have word {x : Float} : (∃ l ∈ window, l.Gives x) →
      Brings around.load window (asked around.base l window) x :=
    fun ⟨_, mem, gives⟩ => .word mem gives
  cases h with
  | blank | comment => exact .inl mem
  | defaults | defaultFontColor | defaultBackground =>
    exact brings_of_sections mem rfl fun s old => .inl old
  | slide =>
    refine brings_of_sections mem (fontSize_take d) fun s new => .inl ?_
    rw [← sections_flush]
    rcases List.mem_append.mp new with closed | open_
    · exact List.mem_append_left _ closed
    · cases open_
  | text pushed =>
    exact brings_of_pushSection pushed (fun _ absent => nomatch absent) mem
  | figure _ _ pushed =>
    refine brings_of_pushSection pushed (fun x inside => ?_) mem
    rw [List.mem_singleton.mp inside]
    exact .zero
  | position _ _ first second =>
    refine brings_of_changeSection (fun s x inside => ?_) mem
    rcases Section.mem_numbers.mp inside with size | ⟨v, here, place⟩ | body
    · exact .inl (Section.mem_numbers.mpr (.inl size))
    · cases here
      rcases List.mem_cons.mp place with rfl | second'
      · exact .inr (word (Argument.gives_of_number first))
      · rw [List.mem_singleton.mp second']
        exact .inr (word (Argument.gives_of_number second))
    · exact .inl (Section.mem_numbers.mpr (.inr (.inr body)))
  | defaultSize _ size =>
    rcases mem_numbers_take.mp mem with ⟨v, here, new⟩ | old
    · cases here
      exact .inr (word (Argument.gives_of_size size new))
    · exact .inl (mem_numbers_take.mpr (.inr old))
  | size _ _ size =>
    refine brings_of_changeSection (fun s x inside => ?_) mem
    rcases Section.mem_numbers.mp inside with ⟨v, here, new⟩ | old
    · cases here
      exact .inr (word (Argument.gives_of_size size new))
    · exact .inl (Section.mem_numbers.mpr (.inr old))
  | rotation _ _ first =>
    refine brings_of_changeSection (fun s x inside => ?_) mem
    rcases Section.mem_numbers.mp inside with size | place | ⟨b, turned, rfl⟩
    · exact .inl (Section.mem_numbers.mpr (.inl size))
    · exact .inl (Section.mem_numbers.mpr (.inr (.inl place)))
    · cases turned
      exact .inr (word (Argument.gives_of_number first))
  | fontColor | line =>
    exact brings_of_changeSection (fun s x inside => .inl (numbers_withText inside)) mem
  | background =>
    refine brings_of_sections mem rfl fun s new => .inl ?_
    rcases mem_sections_changeSlide new with old | ⟨open_, there, old⟩
    · exact old
    · exact mem_sections_of_open there old
  | @importDeck written other path loaded =>
    obtain ⟨more, rfl⟩ := Argument.eq_cons_of_path path
    refine brings_of_sections mem (fontSize_take d) fun s new => ?_
    rcases List.mem_append.mp new with new | open_
    · rw [← sections_flush]
      have slides : s ∈ (d.flush.slideshow.slides ++ other.slides).flatMap Slide.sections := new
      rw [List.flatMap_append, List.mem_append] at slides
      refine slides.imp (List.mem_append_left _) fun imported x inside => .inr ?_
      obtain ⟨slide, mem, shown⟩ := List.mem_flatMap.mp imported
      refine .imported List.mem_cons_self loaded (List.mem_append_right _ ?_)
      exact List.mem_flatMap.mpr ⟨slide, mem, List.mem_flatMap.mpr ⟨s, shown, inside⟩⟩
    · have closed : s ∈ d.flush.slide.toList.flatMap Slide.sections := open_
      simp at closed

/-! ## Runs -/

/-- **Reading brings no numbers but those of its words**, or of the decks that it asks for, by induction
on the tokens. -/
theorem brings_of_readFrom {tokens : List Token} {taken : Nat}
    (h : readFrom around taken d tokens = (d', .ok ())) (mem : x ∈ d'.take.numbers) :
    x ∈ d.take.numbers ∨
      Brings around.load (tokens.map Token.lexeme) (asksFrom around taken d tokens) x := by
  induction tokens generalizing taken d with
  | nil =>
    cases h
    exact .inl mem
  | cons t rest ih =>
    cases taken with
    | succ taken =>
      exact (ih h).imp id fun new => new.mono (List.subset_cons_self _ _) (List.Subset.refl _)
    | zero =>
      simp only [readFrom, asksFrom] at h ⊢
      cases made : apply around d t.lexeme ((rest.take windowSize).map Token.lexeme) with
      | mk next outcome =>
        rw [made] at h
        cases outcome with
        | error failure => cases h
        | ok count =>
          rcases ih h with old | new
          · refine ((carriesOut_of_apply made).brings old).imp id fun new => ?_
            refine new.mono ?_ (List.subset_append_left _ _)
            exact List.subset_cons_of_subset _ (List.map_subset _ (List.take_subset _ _))
          · exact .inr (new.mono (List.subset_cons_self _ _) (List.subset_append_right _ _))

/-- The lexemes of texts, in order. -/
def lexemesOfChunks (chunks : List String) : List Lexeme :=
  chunks.flatMap fun chunk => (Token.tokenize chunk 0).map Token.lexeme

/-- Reading texts brings no numbers but those of their words, or of the decks that are asked for. -/
theorem brings_of_readChunks {line : Int} {chunks : List String}
    (h : readChunks around line d chunks = (d', .ok ())) (mem : x ∈ d'.take.numbers) :
    x ∈ d.take.numbers ∨
      Brings around.load (lexemesOfChunks chunks) (asksOfChunks around line d chunks) x := by
  induction chunks generalizing line d with
  | nil =>
    cases h
    exact .inl mem
  | cons chunk rest ih =>
    have words : (Token.tokenize chunk line).map Token.lexeme ⊆ lexemesOfChunks (chunk :: rest) := by
      rw [Token.map_lexeme_tokenize chunk line 0]
      exact List.subset_append_left _ _
    simp only [readChunks, asksOfChunks] at h ⊢
    cases first : read around d (Token.tokenize chunk line) with
    | mk next outcome =>
      rw [first] at h
      cases outcome with
      | error failure => cases h
      | ok _ =>
        rcases ih h with old | new
        · refine (brings_of_readFrom first old).imp id fun new => ?_
          exact new.mono words (List.subset_append_left _ _)
        · exact .inr (new.mono (List.subset_append_right _ _) (List.subset_append_right _ _))

end Draft

/-! ## Readers -/

namespace Reading

variable {options : ReadOptions} {files : FileSystem} {r : Reading} {s : Slideshow}

/-- The lexemes of the texts of a reader. -/
def lexemes (r : Reading) : List Lexeme :=
  lexemesOfChunks r.texts

/-- A number is given to what a reader reads: by a word of its texts, or of those of a reader that is
made for its imports. -/
def Given (options : ReadOptions) (files : FileSystem) (r : Reading) (x : Float) : Prop :=
  ∃ inner, Relation.ReflTransGen (Makes options files) r inner ∧ ∃ l ∈ inner.lexemes, l.Gives x

/-- A deck that is imported is read by a reader that is made for it. -/
theorem makes_of_loader {path : Path} {other : Slideshow} (asks : path ∈ r.asks options files)
    (loaded : loader options files r.way path = .ok other) :
    ∃ inner, r.Makes options files inner ∧ inner.outcome options files = .ok other := by
  obtain ⟨found, further, resolved, budget, free, read⟩ := importDeck_eq_ok loaded
  have room : (r.way.length : Int) < options.importLimit := by
    unfold importBudget at budget
    omega
  have left : further = importBudget options (r.way ++ [found]) := by
    rw [importBudget_concat, budget, Nat.add_sub_cancel]
  rw [left] at read
  unfold parseFileWith at read
  split at read
  · cases read
  · cases read
  next file =>
    split at read
    · cases read
    next chars text =>
      exact ⟨_, .intro (.intro asks resolved free room) file text, (outcome_text ..).trans read⟩

/-- **Every number of what is read is zero, or is given to it.** By induction on the readers that are
made: the numbers of an imported slideshow are given to the reader that is made for it. -/
theorem given_of_outcome (h : r.outcome options files = .ok s) (mem : x ∈ s.numbers) :
    x = 0.0 ∨ r.Given options files x := by
  induction r using (wellFounded_makes options files).induction generalizing s with
  | _ r ih =>
    unfold outcome outcomeWith at h
    split at h
    · cases h
    next made =>
      cases h
      rcases brings_of_readChunks made mem with old | new
      · cases old
      · cases new with
        | zero => exact .inl rfl
        | word mem gives => exact .inr ⟨r, .refl, _, mem, gives⟩
        | imported asks loaded inside =>
          obtain ⟨inner, makes, read⟩ := makes_of_loader asks loaded
          refine (ih inner makes read inside).imp id ?_
          rintro ⟨innermost, made, given⟩
          exact ⟨innermost, .head makes made, given⟩

end Reading

end SlideDeck
