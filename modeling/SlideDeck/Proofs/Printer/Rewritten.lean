import SlideDeck.Proofs.Numbers
import SlideDeck.Proofs.Printer.RoundTrip
import SlideDeck.Proofs.Reader.Shape

/-!
# What has been read is written and read again

A slideshow that comes from a deck can be written as a deck again, with two exceptions that the deck
language makes: it has no words for a backslash right before a colon, nor for a carriage return at the
end of a line (`IsWritable`). Reading a deck can give either. It never gives the other things that the
language has no words for, a line that starts as a comment does and a path that is read as something
else; only blanks in a path are left, and these are for the files to say.

**The law** (`Deck.parse_toDeck_of_parse`): a slideshow that has been read is written if and only if its
lines can be, and what is written is read as the slideshow again, from every folder. That takes one
more thing of the files: a canonical path may be too long to be looked at, where the path that led to
it was not.
-/

namespace SlideDeck

open SlideDeck.Text

variable {files : FileSystem}

/-! ## Writing -/

/-- A line that can be written, unless it starts as a comment does. -/
def IsWritable (line : List Char) : Prop :=
  holdsEscape line = false ∧ line.getLast? ≠ some '\r'

/-- The lines of a section's text. -/
def Section.lines (s : Section) : List (List Char) :=
  match s.body with
  | .text b => textLines b.text
  | .figure _ => []

/-- The lines of all texts of a slideshow. -/
def Slideshow.lines (s : Slideshow) : List (List Char) :=
  s.slides.flatMap fun slide => slide.sections.flatMap Section.lines

/-- The lines of a text that is made of lines are these. -/
theorem textLines_linesText {lines : List (List Char)} (whole : ∀ line ∈ lines, IsTextLine line) :
    textLines (linesText lines) = lines := by
  unfold textLines linesText
  cases lines with
  | nil => rfl
  | cons line lines =>
    have filled : (String.ofList ((line :: lines).flatMap (· ++ ['\n']))).isEmpty = false := by
      rw [Bool.eq_false_iff, ne_eq, String.isEmpty_iff, ← String.toList_inj]
      simp
    rw [filled, if_neg Bool.false_ne_true, String.toList_ofList,
      flatMap_concat (List.cons_ne_nil line lines), dropFinalNewline_eq, if_pos (by simp),
      List.dropLast_concat]
    exact List.splitOn_intercalate '\n' (fun piece mem => (whole piece mem).1)
      (List.cons_ne_nil line lines)

theorem exists_textLine {line : List Char} (mark : line.head? ≠ some '#') (h : IsWritable line) :
    ∃ w, textLine line = .ok w := by
  unfold textLine
  simp only [h.1, Bool.false_eq_true, if_false, h.2, mark]
  exact ⟨_, rfl⟩

/-- The lines of a text can be written if and only if each can. -/
theorem TextBody.IsRead.exists_bodyLines {b : TextBody} (h : b.IsRead) :
    (∃ written, bodyLines b.text = .ok written) ↔ ∀ line ∈ textLines b.text, IsWritable line := by
  obtain ⟨-, lines, whole, text⟩ := h
  have unfolded : bodyLines b.text = (textLines b.text).mapM textLine := by
    unfold bodyLines textLines
    split
    · rfl
    · rfl
  rw [unfolded, text, textLines_linesText whole]
  constructor
  · rintro ⟨written, all⟩ line mem
    obtain ⟨w, one⟩ := exists_ok_of_mapM all mem
    obtain ⟨escape, last, -⟩ := of_textLine one
    exact ⟨escape, last⟩
  · exact fun writable => exists_ok_mapM fun line mem =>
      exists_textLine (whole line mem).2 (writable line mem)

/-- The path of a location can be written if it holds no blanks: it starts with a slash, so it is
neither a directive nor a number. -/
theorem pathWord_text {l : Location} (solid : ∀ c ∈ l.path.text.toList, isBlank c = false) :
    pathWord l.path.text = .ok l.path.text := by
  have chars := FileSystem.text_path_toList l
  have filled : l.path.text.isEmpty = false := by
    rw [Bool.eq_false_iff, ne_eq, String.isEmpty_iff, ← String.toList_inj, chars]
    simp
  have noBlank : l.path.text.toList.any isBlank = false :=
    List.any_eq_false.mpr fun c mem => Bool.eq_false_iff.mp (solid c mem)
  have noDirective : Directive.ofWord? l.path.text = none :=
    ofWord?_eq_none (by rw [chars]; simp)
  have noNumber : Number.read? l.path.text.toList = none := by
    rw [chars] at solid ⊢
    exact read?_mark (.inr rfl) solid
  have word : Lexeme.ofWord l.path.text.toList = .word l.path.text := by
    rw [Lexeme.ofWord, String.ofList_toList, noDirective]
    simp only [noNumber, ite_self]
  unfold pathWord
  rw [filled, noBlank]
  simp only [Bool.or_self, Bool.false_eq_true, if_false, word]

/-- A section can be written if and only if its lines can. -/
theorem Section.IsRead.exists_toLines {s : Section} (h : s.IsRead files)
    (solid : ∀ q ∈ s.figurePath?, ∀ c ∈ q.toList, isBlank c = false) :
    (∃ written, s.toLines = .ok written) ↔ ∀ line ∈ s.lines, IsWritable line := by
  unfold Section.IsRead at h
  unfold Section.toLines Section.lines
  cases hb : s.body with
  | text b =>
    rw [hb] at h
    rw [← h.exists_bodyLines]
    constructor
    · rintro ⟨written, all⟩
      obtain ⟨lines, one, -⟩ := ok_of_bind all
      exact ⟨lines, one⟩
    · rintro ⟨lines, one⟩
      simp only [one]
      exact ⟨_, rfl⟩
  | figure b =>
    rw [hb] at h
    obtain ⟨l, -, path⟩ := h
    have word : pathWord b.path = .ok b.path := by
      have here := solid b.path (by simp [Section.figurePath?, hb])
      rw [path] at here ⊢
      exact pathWord_text here
    simp only [word]
    exact ⟨fun _ line absent => absurd absent List.not_mem_nil, fun _ => ⟨_, rfl⟩⟩

/-- **A slideshow that has been read can be written if and only if its lines can**, where its paths
hold no blanks. -/
theorem Slideshow.IsRead.exists_toDeck {s : Slideshow} (h : s.IsRead files)
    (solid : ∀ q ∈ s.figurePaths, ∀ c ∈ q.toList, isBlank c = false) :
    (∃ deck, s.toDeck = .ok deck) ↔ ∀ line ∈ s.lines, IsWritable line := by
  have sections : ∀ slide ∈ s.slides, ∀ section_ ∈ slide.sections,
      ((∃ written, section_.toLines = .ok written) ↔ ∀ line ∈ section_.lines, IsWritable line) := by
    intro slide inShow section_ inSlide
    refine (h.slides slide inShow section_ inSlide).exists_toLines fun q shows => ?_
    refine solid q (List.mem_flatMap.mpr ⟨slide, inShow, ?_⟩)
    exact List.mem_filterMap.mpr ⟨section_, inSlide, shows⟩
  constructor
  · rintro ⟨deck, all⟩ line mem
    obtain ⟨slide, inShow, mem⟩ := List.mem_flatMap.mp mem
    obtain ⟨section_, inSlide, mem⟩ := List.mem_flatMap.mp mem
    obtain ⟨slides, written, -⟩ := ok_of_bind all
    obtain ⟨_, written⟩ := exists_ok_of_mapM written inShow
    obtain ⟨_, written, -⟩ := ok_of_bind written
    exact (sections slide inShow section_ inSlide).mp (exists_ok_of_mapM written inSlide) line mem
  · intro writable
    have slides : ∀ slide ∈ s.slides, ∃ lines, slide.toLines = .ok lines := by
      intro slide inShow
      obtain ⟨lines, all⟩ := exists_ok_mapM fun section_ inSlide =>
        (sections slide inShow section_ inSlide).mpr fun line mem => writable line
          (List.mem_flatMap.mpr ⟨slide, inShow, List.mem_flatMap.mpr ⟨section_, inSlide, mem⟩⟩)
      exact ⟨_, by rw [Slide.toLines, all]; rfl⟩
    obtain ⟨lines, all⟩ := exists_ok_mapM slides
    exact ⟨_, by rw [Slideshow.toDeck, all]; rfl⟩

/-- What cannot be written is refused for that. -/
theorem Slideshow.kind_of_toDeck_error {s : Slideshow} {e : DeckError} (h : s.toDeck = .error e) :
    e.kind = .serialization := by
  have path : ∀ path, pathWord path = .error e → e.kind = .serialization := by
    intro path h
    unfold pathWord at h
    split at h
    · cases h
      rfl
    · split at h
      · cases h
      · cases h
        rfl
  have line : ∀ line, textLine line = .error e → e.kind = .serialization := by
    intro line h
    unfold textLine at h
    simp only at h
    split at h
    · cases h
      rfl
    · split at h
      · cases h
        rfl
      · split at h
        · cases h
          rfl
        · cases h
  rcases error_of_bind h with h | ⟨_, -, h⟩
  · obtain ⟨slide, -, h⟩ := error_of_mapM h
    rcases error_of_bind h with h | ⟨_, -, h⟩
    · obtain ⟨section_, -, h⟩ := error_of_mapM h
      unfold Section.toLines at h
      cases hb : section_.body with
      | figure b =>
        simp only [hb] at h
        rcases error_of_bind h with h | ⟨_, -, h⟩
        · exact path _ h
        · cases h
      | text b =>
        simp only [hb] at h
        rcases error_of_bind h with h | ⟨_, -, h⟩
        · unfold bodyLines at h
          split at h
          · cases h
          · obtain ⟨l, -, h⟩ := error_of_mapM h
            exact line l h
        · cases h
    · cases h
  · cases h

/-! ## Reading again -/

theorem agreeOption_self {α : Type} {agree : α → α → Bool} {a : Option α}
    (h : ∀ x ∈ a, agree x x = true) : agreeOption agree a a = true := by
  cases a with
  | none => rfl
  | some x => exact h x rfl

/-- A list agrees with one whose members agree with its own. -/
theorem agreeList_map {α : Type} {agree : α → α → Bool} {f : α → α} {as : List α}
    (h : ∀ a ∈ as, agree (f a) a = true) : agreeList agree (as.map f) as = true := by
  induction as with
  | nil => rfl
  | cons a as ih =>
    rw [List.map_cons, agreeList, h a List.mem_cons_self,
      ih fun other mem => h other (List.mem_cons_of_mem _ mem)]
    rfl

theorem Vec2.agrees_self {v : Vec2} (h : ∀ x ∈ v.numbers, x.isNaN = false) : v.agrees v = true := by
  have x := Number.beq_self_of_isNaN (h v.x (by simp [Vec2.numbers]))
  have y := Number.beq_self_of_isNaN (h v.y (by simp [Vec2.numbers]))
  rw [Vec2.agrees, x, y]
  rfl

/-- A pair that may be missing agrees with itself. -/
theorem agrees_pair {v : Option Vec2} (h : ∀ x ∈ v.toList.flatMap Vec2.numbers, x.isNaN = false) :
    agreeOption Vec2.agrees v v = true :=
  agreeOption_self fun w there => Vec2.agrees_self fun x mem =>
    h x (List.mem_flatMap.mpr ⟨w, Option.mem_toList.mpr there, mem⟩)

/-- Making a negative zero positive leaves a number equal. -/
theorem withoutNegativeZero_beq {x : Float} (h : x.isNaN = false) :
    (withoutNegativeZero x == x) = true := by
  unfold withoutNegativeZero
  split
  · rename_i zero
    rw [zero]
    decide +kernel
  · exact Number.beq_self_of_isNaN h

@[simp]
theorem withFinalNewline_linesText (lines : List (List Char)) :
    withFinalNewline (linesText lines) = linesText lines := by
  unfold withFinalNewline linesText
  rcases List.eq_nil_or_concat lines with rfl | ⟨before, last, rfl⟩
  · rfl
  · rw [if_pos]
    simp

/-- The text of a canonical location that is short enough stays as it is. -/
theorem FileSystem.IsCanonical.canonicalText {l : Location} (h : files.IsCanonical l)
    (short : l.path.text.utf8ByteSize < pathLimit) (base : Path) :
    canonicalText files base l.path.text = l.path.text := by
  have found : files.find base l.path.text = .ok l.path := (h.resolve_text base).1 short
  rw [SlideDeck.canonicalText, found]

/-- A section that has been read is read again as one that agrees with it. -/
theorem Section.IsRead.reread_agrees {s : Section} (h : s.IsRead files) (base : Path)
    (short : ∀ q ∈ s.figurePath?, q.utf8ByteSize < pathLimit)
    (numbers : ∀ x ∈ s.numbers, x.isNaN = false) : (s.reread files base).agrees s = true := by
  obtain ⟨vectors, rotation⟩ := List.forall_mem_append.mp numbers
  obtain ⟨size, position⟩ := List.forall_mem_append.mp vectors
  have body : (s.body.reread files base).agrees s.body = true := by
    unfold Section.IsRead at h
    cases hb : s.body with
    | text b =>
      rw [hb] at h
      obtain ⟨font, lines, -, text⟩ := h
      have same : withFinalNewline b.text = b.text := by
        rw [text, withFinalNewline_linesText]
      simp only [Body.reread, Body.agrees, same, decide_eq_true_eq]
      rw [← font]
    | figure b =>
      rw [hb] at h rotation
      obtain ⟨l, canonical, path⟩ := h
      have fits : l.path.text.utf8ByteSize < pathLimit :=
        path ▸ short b.path (by simp [Section.figurePath?, hb])
      have same : SlideDeck.canonicalText files base b.path = b.path := by
        rw [path, canonical.canonicalText fits]
      have turned := withoutNegativeZero_beq (rotation b.rotation (List.mem_singleton_self _))
      simp only [Body.reread, Body.agrees, same, decide_true, turned, Bool.and_self]
  rw [Section.agrees, Section.reread, agrees_pair size, agrees_pair position, body]
  rfl

/-- **A slideshow that has been read is read again as one that agrees with it**, where its paths are
short enough. -/
theorem Slideshow.IsRead.reread_agrees {s : Slideshow} (h : s.IsRead files) (base : Path)
    (short : ∀ q ∈ s.figurePaths, q.utf8ByteSize < pathLimit)
    (numbers : ∀ x ∈ s.numbers, x.isNaN = false) : (s.reread files base).agrees s = true := by
  obtain ⟨fontSize, slides⟩ := List.forall_mem_append.mp numbers
  have slides : agreeList Slide.agrees (s.slides.map (Slide.reread files base)) s.slides = true := by
    refine agreeList_map fun slide inShow => ?_
    have sections : agreeList Section.agrees (slide.sections.map (Section.reread files base))
        slide.sections = true := by
      refine agreeList_map fun section_ inSlide => ?_
      refine (h.slides slide inShow section_ inSlide).reread_agrees base (fun q shows => ?_)
        fun x mem => ?_
      · refine short q (List.mem_flatMap.mpr ⟨slide, inShow, ?_⟩)
        exact List.mem_filterMap.mpr ⟨section_, inSlide, shows⟩
      · exact slides x
          (List.mem_flatMap.mpr ⟨slide, inShow, List.mem_flatMap.mpr ⟨section_, inSlide, mem⟩⟩)
    rw [Slide.agrees, Slide.reread, sections]
    simp
  rw [Slideshow.agrees, Slideshow.reread, slides, agrees_pair fontSize, h.fonts]
  simp

/-! ## Paths -/

/-- The paths of a slideshow that has been read are those of canonical locations. -/
theorem Slideshow.IsRead.canonical {s : Slideshow} (h : s.IsRead files) :
    ∀ q ∈ s.figurePaths, ∃ l, files.IsCanonical l ∧ q = (Location.path l).text := by
  intro q mem
  obtain ⟨slide, inShow, mem⟩ := List.mem_flatMap.mp mem
  obtain ⟨section_, inSlide, shows⟩ := List.mem_filterMap.mp mem
  have read := h.slides slide inShow section_ inSlide
  unfold Section.IsRead at read
  unfold Section.figurePath? at shows
  cases hb : section_.body with
  | text b =>
    rw [hb] at shows
    cases shows
  | figure b =>
    rw [hb] at shows read
    cases shows
    exact read

/-- They lead to their files, if they are short enough. -/
theorem Slideshow.IsRead.exists_found {s : Slideshow} (h : s.IsRead files) (base : Path) {q : String}
    (mem : q ∈ s.figurePaths) (short : q.utf8ByteSize < pathLimit) :
    ∃ found, files.find base q = .ok found := by
  obtain ⟨l, canonical, rfl⟩ := h.canonical q mem
  exact ⟨_, (canonical.resolve_text base).1 short⟩

/-- Where one is too long, reading the slideshow again stops at the first that is. -/
theorem Slideshow.IsRead.parse_of_long {s : Slideshow} (h : s.IsRead files) {deck : String}
    (written : s.toDeck = .ok deck) (options : ReadOptions) (base : Path)
    (long : ∃ q ∈ s.figurePaths, pathLimit ≤ q.utf8ByteSize) :
    ∃ e, Deck.parse options files base deck = .error (.deck e) ∧ e.cause.kind = .deckIO := by
  obtain ⟨q, first⟩ : ∃ q, s.figurePaths.find? (fun q => pathLimit ≤ q.utf8ByteSize) = some q := by
    obtain ⟨q, mem, long⟩ := long
    exact Option.isSome_iff_exists.mp (List.find?_isSome.mpr ⟨q, mem, decide_eq_true long⟩)
  -- The paths before the first that is too long lead to their files.
  obtain ⟨long, before, after, paths, short⟩ := List.find?_eq_some_iff_append.mp first
  have there : ∀ p ∈ before, ∃ found, files.find base p = .ok found := fun p mem =>
    h.exists_found base (paths ▸ List.mem_append_left _ mem) (by simpa using short p mem)
  obtain ⟨l, canonical, rfl⟩ := h.canonical q (paths ▸ List.mem_append_right _ List.mem_cons_self)
  obtain ⟨text, refused⟩ := (canonical.resolve_text base).2 (of_decide_eq_true long)
  obtain ⟨t, -, failed⟩ :=
    Slideshow.parse_of_missing written options paths there refused (fun _ => nofun)
  exact ⟨_, failed, rfl⟩

/-- A figure of the current folder itself is a figure of its canonical path. -/
theorem Deck.parse_here (options : ReadOptions) (files : FileSystem) :
    parse options files (Path.ofString ".") ":sl\n:fg .\n" =
      .ok { slides := [{ sections := [{ body := .figure ⟨files.here.path.text, 0.0⟩ }] }] } := by
  have tokens : Token.tokenize ":sl\n:fg .\n" 0 =
      [⟨.directive .slide, ⟨0, 0, 3⟩⟩, ⟨.directive .figure, ⟨1, 0, 3⟩⟩, ⟨.word ".", ⟨1, 4, 5⟩⟩] := by
    decide +kernel
  have resolved : files.resolve ((Path.ofString ".").join (Path.ofString ".")) =
      .ok files.here.path := by
    have dot : (Path.ofString ".").join (Path.ofString ".") = ⟨.relative, []⟩ := by decide
    rw [dot]
    rfl
  unfold parse parseWith
  rw [tokens]
  simp [Draft.read, Draft.readFrom, Draft.apply, Draft.attempt, Draft.applyFigure,
    Draft.applySlide, Draft.openSlide, Draft.currentSlide, Draft.enter, Argument.path, resolved,
    Draft.pushSection, Draft.changeSlide, Draft.take, Draft.flush, windowSize]

/-- Folders in each other, each with a name of the greatest length. The innermost one is the current
folder. -/
def nestedFolders (count : Nat) : FileSystem where
  entries := (List.range count).map fun depth =>
    (List.replicate (depth + 1) (String.ofList (List.replicate nameLimit 'a')), .folder)
  here := List.replicate count (String.ofList (List.replicate nameLimit 'a'))

/-- Sixteen such folders make a path that is too long, and holds no blanks. -/
theorem nestedFolders_path :
    (nestedFolders 16).IsPlaced ∧ pathLimit ≤ (nestedFolders 16).here.path.text.utf8ByteSize ∧
      ∀ c ∈ (nestedFolders 16).here.path.text.toList, isBlank c = false := by
  have only : ∀ name ∈ (nestedFolders 16).here, ∀ c ∈ name.toList, c = 'a' := by
    intro name mem c hc
    rw [List.eq_of_mem_replicate mem, String.toList_ofList] at hc
    exact List.eq_of_mem_replicate hc
  refine ⟨⟨fun name mem => ?_, .folder, by decide +kernel, fun _ => nofun⟩, by decide +kernel, ?_⟩
  · have same := List.eq_of_mem_replicate mem
    refine ⟨?_, ?_, ?_, fun slash => ?_, fun nul => ?_⟩
    · rw [same]
      decide +kernel
    · rw [same]
      decide +kernel
    · rw [same]
      decide +kernel
    · exact absurd (only name mem _ slash) (by decide)
    · exact absurd (only name mem _ nul) (by decide)
  · intro c hc
    rw [FileSystem.text_path_toList] at hc
    rcases List.mem_cons.mp hc with rfl | hc
    · decide
    · rcases mem_intercalate hc with rfl | ⟨piece, hp, hc⟩
      · decide
      · obtain ⟨name, hn, rfl⟩ := List.mem_map.mp hp
        rw [only name (List.mem_reverse.mp hn) c hc]
        decide

/-! ## The law -/

/-- **What has been read is written and read again.** It is written if and only if no line of its
texts holds a backslash right before a colon or ends in a carriage return, and refused otherwise. What
is written is read from every folder as a slideshow that agrees with the first one, unless a path in it
is too long to be looked at. -/
theorem Deck.parse_toDeck_of_parse {options : ReadOptions} {base text : String} {s : Slideshow}
    (placed : files.IsPlaced) (read : parse options files (Path.ofString base) text = .ok s)
    (solid : ∀ q ∈ s.figurePaths, ∀ c ∈ q.toList, isBlank c = false)
    (numbers : ∀ x ∈ s.numbers, x.isNaN = false) :
    ((∃ deck, s.toDeck = .ok deck) ↔
      ∀ line ∈ s.lines, holdsEscape line = false ∧ line.getLast? ≠ some '\r') ∧
    (∀ e, s.toDeck = .error e → e.kind = .serialization) ∧
    ∀ deck, s.toDeck = .ok deck → ∀ (options' : ReadOptions) (base' : Path),
      ((∀ q ∈ s.figurePaths, q.utf8ByteSize < pathLimit) →
        ∃ s', parse options' files base' deck = .ok s' ∧ s'.agrees s = true) ∧
      ((∃ q ∈ s.figurePaths, pathLimit ≤ q.utf8ByteSize) →
        ∃ e, parse options' files base' deck = .error (.deck e) ∧ e.cause.kind = .deckIO) := by
  have shape := isRead_of_parse placed read
  refine ⟨shape.exists_toDeck solid, fun _ => Slideshow.kind_of_toDeck_error, ?_⟩
  intro deck written options' base'
  refine ⟨fun short => ?_, shape.parse_of_long written options' base'⟩
  exact ⟨s.reread files base', Slideshow.parse_of_found written options' fun q mem =>
    shape.exists_found base' mem (short q mem), shape.reread_agrees base' short numbers⟩

/-- A deck with an escaped colon and a figure that is a link, read again from the root. -/
theorem Deck.parse_toDeck_of_parse_star :
    ∃ s' : Slideshow,
      parse {} ⟨[(["star.png"], .file []), (["pic"], .link "star.png")], []⟩ ⟨.root, []⟩
          ":sl\n:tb\na\\:b\n:fg /star.png :rt -0.5\n" = .ok s' ∧
        s'.agrees { slides := [{ sections := [{ body := .text { text := "a:b\n" } },
          { body := .figure ⟨"/star.png", -0.5⟩ }] }] } = true := by
  have read : parse {} ⟨[(["star.png"], .file []), (["pic"], .link "star.png")], []⟩
      (Path.ofString ".") ":sl :tb\na\\:b\r\n:fg pic :rt -0.5\n" =
        .ok { slides := [{ sections := [{ body := .text { text := "a:b\n" } },
          { body := .figure ⟨"/star.png", -0.5⟩ }] }] } := by decide +kernel
  have solid : ∀ c ∈ "/star.png".toList, isBlank c = false :=
    List.all_iff_forall_prop.mp (by decide)
  have placed : FileSystem.IsPlaced ⟨[(["star.png"], .file []), (["pic"], .link "star.png")], []⟩ :=
    FileSystem.isCanonical_root _
  have again := parse_toDeck_of_parse placed read (List.forall_mem_singleton.mpr solid)
    (by decide +kernel)
  exact (again.2.2 _ (by decide +kernel) {} ⟨.root, []⟩).1 (by decide +kernel)

/-- Not all that has been read can be written, a line with a backslash before a colon not; nor can all
that is written be read again, a path that is too long not. -/
theorem Deck.parse_toDeck_of_parse_refused :
    (¬ ∀ (files : FileSystem) (base text : String) (s : Slideshow), files.IsPlaced →
      parse {} files (Path.ofString base) text = .ok s →
      (∀ q ∈ s.figurePaths, ∀ c ∈ q.toList, isBlank c = false) →
      (∀ x ∈ s.numbers, x.isNaN = false) → ∃ deck, s.toDeck = .ok deck) ∧
    ¬ ∀ (files : FileSystem) (base text : String) (s : Slideshow) (deck : String) (base' : Path),
      files.IsPlaced → parse {} files (Path.ofString base) text = .ok s →
      (∀ q ∈ s.figurePaths, ∀ c ∈ q.toList, isBlank c = false) →
      (∀ x ∈ s.numbers, x.isNaN = false) → s.toDeck = .ok deck →
      ∃ s', parse {} files base' deck = .ok s' ∧ s'.agrees s = true := by
  constructor
  · intro law
    obtain ⟨deck, written⟩ := law {} "." ":sl\n:tb\na\\\\:b\n"
      { slides := [{ sections := [{ body := .text { text := "a\\:b\n" } }] }] }
      (FileSystem.isCanonical_root _) (by decide +kernel) (fun _ absent => nomatch absent)
      (fun _ absent => nomatch absent)
    have refused : Slideshow.toDeck
        { slides := [{ sections := [{ body := .text { text := "a\\:b\n" } }] }] } =
          .error (.escapeInLine "a\\:b") := by decide +kernel
    rw [refused] at written
    cases written
  · intro law
    obtain ⟨placed, long, solid⟩ := nestedFolders_path
    have read := parse_here {} (nestedFolders 16)
    have shape := isRead_of_parse placed read
    have solid' : ∀ q ∈ [(nestedFolders 16).here.path.text], ∀ c ∈ q.toList, isBlank c = false :=
      List.forall_mem_singleton.mpr solid
    obtain ⟨deck, written⟩ := (shape.exists_toDeck solid').mpr fun _ absent => nomatch absent
    obtain ⟨s', again, -⟩ := law (nestedFolders 16) "." _ _ deck (Path.ofString ".") placed read solid'
      (by decide +kernel) written
    obtain ⟨e, failed, -⟩ := shape.parse_of_long written {} (Path.ofString ".")
      ⟨_, List.mem_singleton_self _, long⟩
    rw [failed] at again
    cases again

end SlideDeck
