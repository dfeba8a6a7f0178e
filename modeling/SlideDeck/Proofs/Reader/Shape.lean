import SlideDeck.Proofs.Reader.Imports
import SlideDeck.Proofs.Reader.Runs
import SlideDeck.Proofs.Files.Canonical
import SlideDeck.Proofs.Text.Lines

/-!
# What decks are read as

Not every slideshow can come from a deck. One that does has no fonts; each of its texts is made of
whole lines, none of which starts as a comment does; and the paths of its figures are those of
canonical locations (`Slideshow.IsRead`).

**The law** (`Deck.isRead_of_parse`): a deck that is read is read as such a slideshow. Each step keeps
to the shape (`Draft.Step.isRead`), for the tokens of a text hold no other lines
(`isScanned_of_tokenize`), and so do the imports, by induction on how many more there may be.
-/

namespace SlideDeck

open SlideDeck.Text

/-! ## Lines of tokens -/

/-- A line of text as a deck can hold it. -/
def IsTextLine (line : List Char) : Prop :=
  '\n' ∉ line ∧ line.head? ≠ some '#'

/-- A lexeme as it is found in a text. -/
def Lexeme.IsScanned : Lexeme → Prop
  | .textLine line => IsTextLine line.toList
  | _ => True

theorem isScanned_ofWord (cs : List Char) : (Lexeme.ofWord cs).IsScanned := by
  unfold Lexeme.ofWord
  split
  · trivial
  · split <;> trivial

theorem isScanned_ofLine {cs : List Char} (h : '\n' ∉ cs) : (Lexeme.ofLine cs).IsScanned := by
  unfold Lexeme.ofLine
  split
  · trivial
  · rename_i other
    simp only [Lexeme.IsScanned, String.toList_ofList]
    refine ⟨h, fun mark => ?_⟩
    obtain ⟨rest, rfl⟩ := List.head?_eq_some_iff.mp mark
    exact other rest rfl

/-- The tokens of a text are as they can be found in one. -/
theorem isScanned_of_tokenize {text : String} {first : Int} {t : Token}
    (h : t ∈ Token.tokenize text first) : t.lexeme.IsScanned := by
  have ofLines : ∀ (lines : List (List Char)) (first : Int), (∀ line ∈ lines, '\n' ∉ line) →
      ∀ t ∈ Token.ofLines first lines, t.lexeme.IsScanned := by
    intro lines
    induction lines with
    | nil => exact fun _ _ _ absent => nomatch absent
    | cons line lines ih =>
      intro first whole t mem
      rcases List.mem_append.mp mem with mem | mem
      · unfold Token.ofLine at mem
        split at mem
        · obtain ⟨w, -, rfl⟩ := List.mem_map.mp mem
          exact isScanned_ofWord w.chars
        · rw [List.mem_singleton.mp mem]
          exact isScanned_ofLine (whole line List.mem_cons_self)
      · exact ih _ (fun other ho => whole other (List.mem_cons_of_mem _ ho)) t mem
  exact ofLines _ first (fun line => not_mem_of_mem_splitLines) t h

theorem mem_of_mem_unescape {c : Char} {cs : List Char} (h : c ∈ unescape cs) : c ∈ cs := by
  fun_induction unescape cs with
  | case1 => cases h
  | case2 cs ih =>
    rcases List.mem_cons.mp h with rfl | h
    · exact List.mem_cons_of_mem _ List.mem_cons_self
    · exact List.mem_cons_of_mem _ (List.mem_cons_of_mem _ (ih h))
  | case3 d cs _ ih =>
    rcases List.mem_cons.mp h with rfl | h
    · exact List.mem_cons_self
    · exact List.mem_cons_of_mem _ (ih h)

/-- Taking the escapes off a line leaves it a line that can be text: a line that starts with an escape
starts with a colon then. -/
theorem IsTextLine.unescape {line : List Char} (h : IsTextLine line) :
    IsTextLine (Text.unescape line) := by
  refine ⟨fun newline => h.1 (mem_of_mem_unescape newline), fun mark => h.2 ?_⟩
  rw [Text.unescape.eq_def] at mark
  split at mark
  · cases mark
  · cases mark
  · exact mark

/-! ## Shapes -/

/-- The lines, each with its newline. -/
def linesText (lines : List (List Char)) : String :=
  String.ofList (lines.flatMap (· ++ ['\n']))

/-- A text as decks are read as. -/
def TextBody.IsRead (b : TextBody) : Prop :=
  b.font = none ∧ ∃ lines, (∀ line ∈ lines, IsTextLine line) ∧ b.text = linesText lines

/-- A section as decks are read as. -/
def Section.IsRead (files : FileSystem) (s : Section) : Prop :=
  match s.body with
  | .text b => b.IsRead
  | .figure b => ∃ l, files.IsCanonical l ∧ b.path = (Location.path l).text

/-- A slide as decks are read as. -/
def Slide.IsRead (files : FileSystem) (s : Slide) : Prop :=
  ∀ section_ ∈ s.sections, section_.IsRead files

/-- A slideshow as decks are read as. -/
structure Slideshow.IsRead (files : FileSystem) (s : Slideshow) : Prop where
  fonts : s.fonts = {}
  slides : ∀ slide ∈ s.slides, slide.IsRead files

/-- A draft of such a slideshow. -/
structure Draft.IsRead (files : FileSystem) (d : Draft) : Prop where
  slideshow : d.slideshow.IsRead files
  slide : ∀ open_ ∈ d.slide, open_.IsRead files

variable {files : FileSystem}

theorem TextBody.IsRead.addLine {b : TextBody} (h : b.IsRead) {line : String}
    (scanned : IsTextLine line.toList) : (b.addLine line).IsRead := by
  obtain ⟨font, lines, whole, text⟩ := h
  refine ⟨font, lines ++ [Text.unescape line.toList], ?_, ?_⟩
  · exact List.forall_mem_append.mpr ⟨whole, by simpa using scanned.unescape⟩
  · rw [TextBody.addLine, text, linesText, linesText, List.flatMap_append, String.ofList_append]
    simp

theorem Section.Amends.isRead {l : Lexeme} {last last' : Section}
    (amends : Section.Amends l last last') (scanned : l.IsScanned) (h : last.IsRead files) :
    last'.IsRead files := by
  cases amends with
  | position | size => exact h
  | rotation shows | fontColor shows =>
    simp only [Section.IsRead, shows] at h
    exact h
  | line shows line =>
    simp only [Section.IsRead, shows] at h
    exact TextBody.IsRead.addLine h scanned

namespace Draft

variable {around : Surroundings} {d d' : Draft} {l : Lexeme}

theorem isRead_fresh (files : FileSystem) : IsRead files {} :=
  ⟨⟨rfl, fun _ absent => nomatch absent⟩, fun _ absent => nomatch absent⟩

theorem isRead_onSection {s : Slideshow} {open_ : Slide} {last : Section} {c : Context} :
    (onSection s open_ last c).IsRead files ↔
      s.IsRead files ∧ open_.IsRead files ∧ last.IsRead files := by
  refine ⟨fun h => ?_, fun ⟨slideshow, slide, section_⟩ => ⟨slideshow, ?_⟩⟩
  · obtain ⟨before, section_⟩ := List.forall_mem_append.mp (h.slide _ rfl)
    exact ⟨h.slideshow, before, section_ last (List.mem_singleton_self last)⟩
  · rintro _ ⟨⟩
    exact List.forall_mem_append.mpr ⟨slide, by simpa using section_⟩

/-- A slideshow is as decks are read as when its open slide has been closed. -/
theorem IsRead.take (h : d.IsRead files) : d.take.IsRead files := by
  unfold Draft.take flush
  cases there : d.slide with
  | none => exact h.slideshow
  | some open_ =>
    have slide := h.slide open_ there
    exact ⟨h.slideshow.fonts, List.forall_mem_append.mpr ⟨h.slideshow.slides, by simpa using slide⟩⟩

/-- Imports are read as slideshows that decks are read as. -/
def LoadsRead (files : FileSystem) (load : Path → Except Failure Slideshow) : Prop :=
  ∀ path other, SlashFree path.names → load path = .ok other → other.IsRead files

/-- **A step keeps to what decks are read as.** -/
theorem Step.isRead (placed : around.files.IsPlaced) (clean : SlashFree around.base.names)
    (load : LoadsRead around.files around.load) (scanned : l.IsScanned) (step : Step around l d d')
    (h : d.IsRead around.files) : d'.IsRead around.files := by
  have cleanPath : ∀ written, SlashFree (around.base.join (Path.ofString written)).names :=
    fun written => Path.slashFree_join clean (Path.slashFree_ofString written)
  cases step with
  | comment | blank => exact h
  | defaults => exact ⟨h.slideshow, h.slide⟩
  | slide =>
    refine ⟨h.take, ?_⟩
    rintro _ ⟨⟩
    exact fun _ absent => nomatch absent
  | text there =>
    exact isRead_onSection.mpr
      ⟨h.slideshow, h.slide _ there, rfl, [], fun _ absent => (nomatch absent), rfl⟩
  | figure there resolved =>
    obtain ⟨l, rfl, canonical⟩ := FileSystem.isCanonical_of_resolve placed (cleanPath _) resolved
    exact isRead_onSection.mpr ⟨h.slideshow, h.slide _ there, l, canonical, rfl⟩
  | default inside sets =>
    refine ⟨?_, h.slide⟩
    cases sets <;> exact ⟨h.slideshow.fonts, h.slideshow.slides⟩
  | @background _ open_ inside there color =>
    refine ⟨h.slideshow, ?_⟩
    rintro _ ⟨⟩
    exact h.slide open_ there
  | amend inside amends =>
    obtain ⟨slideshow, slide, last⟩ := isRead_onSection.mp h
    exact isRead_onSection.mpr ⟨slideshow, slide, amends.isRead scanned last⟩
  | importDeck read =>
    have other := load _ _ (cleanPath _) read
    refine ⟨⟨h.take.fonts, List.forall_mem_append.mpr ⟨h.take.slides, other.slides⟩⟩, ?_⟩
    exact fun _ absent => nomatch absent

end Draft

namespace Deck

open Draft

variable {options : ReadOptions} {load : Path → Except Failure Slideshow} {base : Path}
  {s : Slideshow}

/-- A text is read as such a slideshow if the imports are. -/
theorem isRead_of_parseWith (placed : files.IsPlaced) (clean : SlashFree base.names)
    (reads : LoadsRead files load) {text : String} (h : parseWith files load base text = .ok s) :
    s.IsRead files := by
  unfold parseWith at h
  obtain ⟨d, run, ends⟩ :=
    run_of_readFrom ⟨files, base, load⟩ (Token.tokenize text 0) 0 {}
  have there : d.IsRead files :=
    run.preserves (fun t mem _ _ => Step.isRead placed clean reads (isScanned_of_tokenize mem))
      (isRead_fresh files)
  unfold Draft.read at h
  generalize readFrom ⟨files, base, load⟩ 0 {} (Token.tokenize text 0) = outcome,
    unreadFrom ⟨files, base, load⟩ 0 {} (Token.tokenize text 0) = left at h ends
  cases ends with
  | read =>
    cases h
    exact there.take
  | failed => cases h

/-- **Imports are read as such slideshows**, by induction on how many more there may be. The paths of
an imported deck start from its folder, which is the folder of a canonical path. -/
theorem loadsRead_importDeck (placed : files.IsPlaced) (budget : Nat) (way : List Path) :
    LoadsRead files (importDeck options files budget way) := by
  induction budget generalizing way with
  | zero =>
    intro path other _ h
    obtain ⟨_, _, _, room, _⟩ := importDeck_eq_ok h
    cases room
  | succ budget ih =>
    intro path other clean h
    obtain ⟨found, further, resolved, room, -, read⟩ := importDeck_eq_ok h
    cases room
    obtain ⟨l, rfl, canonical⟩ := FileSystem.isCanonical_of_resolve placed clean resolved
    have cleanFolder : SlashFree (Location.path l).parent.names :=
      Path.slashFree_parent fun name mem => (canonical.isName name (List.mem_reverse.mp mem)).noSlash
    unfold parseFileWith at read
    split at read
    · cases read
    · cases read
    · split at read
      · cases read
      · exact isRead_of_parseWith placed cleanFolder (ih _) read

/-- **A deck is read as a slideshow that decks are read as.** -/
theorem isRead_of_parse (placed : files.IsPlaced) {base text : String}
    (h : parse options files (Path.ofString base) text = .ok s) : s.IsRead files :=
  isRead_of_parseWith placed (Path.slashFree_ofString base) (loadsRead_importDeck placed _ _) h

end Deck

end SlideDeck
