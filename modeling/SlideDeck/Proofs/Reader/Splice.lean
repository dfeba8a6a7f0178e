import SlideDeck.Proofs.Reader.Append
import SlideDeck.Proofs.Reader.Complaints
import SlideDeck.Proofs.Reader.Imports
import SlideDeck.Proofs.Files.Lenient

/-!
# Imports are spliced in

An import closes the open slide, and takes nothing of the other deck but its slides. After it the
reader is where a fresh one starts, behind what it has: no directive works there that would not work
at the start (`Draft.readFrom_imported`). And the other deck is what its file is read as on its own,
since the decks on the way to it can only be in its way (`Deck.importDeck_covers`).

**The law** (`Deck.parse_splices`): the slides of a deck that imports another one are those of the
tokens before the import, those of the other deck, and those of the tokens after it. The defaults of
the other deck are nowhere among those of the result, and make no difference to it
(`Deck.parseWith_sameSlides`).
-/

namespace SlideDeck

/-- Nothing comes after a slideshow. -/
theorem Slideshow.followedBy_empty (s : Slideshow) : s.followedBy {} = s := by
  simp [followedBy]

/-! ## After an import -/

namespace Draft

variable {around : Surroundings} {s : Slideshow} {d d' : Draft} {l : Lexeme} {window : List Lexeme}
  {count : Nat}

/-- What a lexeme does right after an import it does to a fresh draft, behind what there is. A comment
or a blank line leaves both as they are. -/
theorem apply_imported (h : apply around ⟨s, none, .imported⟩ l window = (d', .ok count)) :
    ∃ e, apply around {} l window = (e, .ok count) ∧
      (d' = e.behind s ∨ d' = ⟨s, none, .imported⟩ ∧ e = {}) := by
  have opens (opens : Opens l) : ∃ e, apply around {} l window = (e, .ok count) ∧
      (d' = e.behind s ∨ d' = ⟨s, none, .imported⟩ ∧ e = {}) := by
    obtain ⟨outcome, draft⟩ := apply_opens around opens ⟨s, none, .imported⟩ window
    rw [h] at outcome draft
    exact ⟨_, Prod.ext rfl outcome.symm, .inl (draft count outcome.symm)⟩
  cases l with
  | directive directive =>
    cases directive with
    | slide => exact opens (.inl rfl)
    | importDeck => exact opens (.inr rfl)
    | defaults =>
      cases h
      exact ⟨_, rfl, .inl (by simp [behind, enter, Slideshow.followedBy])⟩
    -- There is no slide, and the context is none where these may stand.
    | text | figure | position | size | rotation | fontColor | background => cases h
  | textLine line =>
    have inside : ¬ (Context.imported = .text) := by decide
    have fresh : ¬ (Context.start = .text) := by decide
    simp only [apply, applyTextLine, if_neg inside, if_neg fresh] at h ⊢
    split at h
    · rename_i blank
      cases h
      rw [if_pos blank]
      exact ⟨{}, rfl, .inr ⟨rfl, rfl⟩⟩
    · cases h
  | comment line =>
    cases h
    exact ⟨{}, rfl, .inr ⟨rfl, rfl⟩⟩
  | word text | number value => cases h

/-- **Tokens after an import are read as by a fresh reader, behind what there is.** -/
theorem readFrom_imported {tokens : List Token} {taken : Nat}
    (h : readFrom around taken ⟨s, none, .imported⟩ tokens = (d', .ok ())) :
    ∃ e, readFrom around taken {} tokens = (e, .ok ()) ∧ d'.take = s.followedBy e.take := by
  induction tokens generalizing taken with
  | nil =>
    cases h
    exact ⟨{}, rfl, s.followedBy_empty.symm⟩
  | cons t rest ih =>
    cases taken with
    | succ taken => exact ih h
    | zero =>
      simp only [readFrom] at h ⊢
      cases made : apply around ⟨s, none, .imported⟩ t.lexeme
          ((rest.take windowSize).map Token.lexeme) with
      | mk next outcome =>
        rw [made] at h
        cases outcome with
        | error failure => cases h
        | ok count =>
          obtain ⟨e, fresh, rfl | ⟨rfl, rfl⟩⟩ := apply_imported made
          · obtain ⟨same, -⟩ := readFrom_behind around s rest count e
            simp only at h
            rw [same] at h
            simp only [fresh]
            cases read : readFrom around count e rest with
            | mk reached outcome =>
              rw [read] at h
              cases h
              exact ⟨reached, rfl, take_behind s reached⟩
          · simp only [fresh]
            exact ih h

/-! ## One import -/

/-- An import that is carried out: another deck is read, and its slides come after what there is. -/
theorem applyImport_eq_ok {written : String} {more : List Lexeme}
    (h : applyImport around d (.word written :: more) = (d', .ok count)) :
    ∃ other, around.load (around.base.join (Path.ofString written)) = .ok other ∧ count = 1 ∧
      d' = ⟨d.take.followedBy { slides := other.slides }, none, .imported⟩ := by
  have path : Argument.path (.word written :: more) "an import" = .ok written := rfl
  simp only [applyImport, path] at h
  split at h
  · cases h
  · rename_i other read
    cases h
    refine ⟨other, read, rfl, ?_⟩
    simp [changeDefaults, enter, Slideshow.followedBy]

/-- **A list of tokens with an import in it** that is read to its end: the tokens before the import are
read on their own, then the other deck, and the tokens after it are read by a fresh reader. -/
theorem read_import {before after : List Token} {directive argument : Token} {written : String}
    (imports : directive.lexeme = .directive .importDeck) (names : argument.lexeme = .word written)
    (h : read around {} (before ++ directive :: argument :: after) = (d, .ok ())) :
    ∃ dA other dC, read around {} before = (dA, .ok ()) ∧
      around.load (around.base.join (Path.ofString written)) = .ok other ∧
      read around {} after = (dC, .ok ()) ∧
      d.take = (dA.take.followedBy { slides := other.slides }).followedBy dC.take := by
  have afresh : StartsAfresh (directive :: argument :: after) := by
    rintro _ ⟨⟩
    rw [imports]
    rfl
  obtain ⟨dA, first, second⟩ := ok_of_readFrom_append afresh (Nat.zero_le _) h
  have window : ((argument :: after).take windowSize).map Token.lexeme =
      .word written :: (after.take 3).map Token.lexeme := by
    rw [show windowSize = 3 + 1 from rfl, List.take_succ_cons, List.map_cons, names]
  rw [readFrom, imports, window] at second
  simp only [apply] at second
  cases made : applyImport around dA (.word written :: (after.take 3).map Token.lexeme) with
  | mk next outcome =>
    rw [made] at second
    cases outcome with
    | error failure => cases second
    | ok count =>
      obtain ⟨other, load, rfl, rfl⟩ := applyImport_eq_ok made
      have behind : readFrom around 0
          ⟨dA.take.followedBy { slides := other.slides }, none, .imported⟩ after =
            (d, .ok ()) := second
      obtain ⟨dC, fresh, take⟩ := readFrom_imported behind
      exact ⟨dA, other, dC, first, load, fresh, take⟩

/-! ## What is taken of other decks -/

/-- Both ways of reading imports give the same slides, or the same failure. -/
def SameSlides (load load' : Path → Except Failure Slideshow) : Prop :=
  ∀ path, (load path).map Slideshow.slides = (load' path).map Slideshow.slides

end Draft

/-! ## The law -/

namespace Deck

open Draft

/-- **The defaults of imported decks make no difference.** -/
theorem parseWith_sameSlides {files : FileSystem} {load load' : Path → Except Failure Slideshow}
    (same : SameSlides load load') (base : Path) (text : String) :
    parseWith files load base text = parseWith files load' base text := by
  have agree : ∀ tokens, Draft.read ⟨files, base, load⟩ {} tokens =
      Draft.read ⟨files, base, load'⟩ {} tokens :=
    fun _ => readFrom_congr fun path _ => same path
  simp only [parseWith, agree]

/-- An imported deck is what its file is read as on its own, for the decks on the way can only be in its
way. -/
theorem parseFile_of_loader {options : ReadOptions} {files : FileSystem} (placed : files.IsPlaced)
    {way : List Path} {path : Path} (clean : SlashFree path.names) {other : Slideshow}
    (h : loader options files way path = .ok other) :
    ∃ found, files.resolve path = .ok found ∧ parseFile options files found = .ok other := by
  obtain ⟨found, further, resolved, room, -, read⟩ := importDeck_eq_ok h
  obtain ⟨l, rfl, canonical⟩ := FileSystem.isCanonical_of_resolve placed clean resolved
  have more : further ≤ importBudget options [l.path] := by
    unfold importBudget at room ⊢
    simp only [List.length_cons, List.length_nil]
    omega
  have covers : Covers (importDeck options files further (way ++ [l.path]))
      (loader options files [l.path]) :=
    importDeck_covers rfl id more (List.subset_append_right way [l.path])
  refine ⟨l.path, resolved, ?_⟩
  rw [parseFile, canonical.resolveLenient]
  exact parseFileWith_covers rfl covers _ _ read

/-- **An imported deck is spliced in.** Where the tokens of a deck that is read, after any decks on the
way, have an import among them, its path resolves, and what it resolves to is read on its own. The
slides of the deck are those of the tokens before the import, of the imported deck and of the tokens
after it, which a fresh reader reads; the defaults are those of the tokens alone. And the deck would be
read the same if imported decks had the same slides with other defaults. -/
theorem parse_splices {options : ReadOptions} {files : FileSystem} (placed : files.IsPlaced)
    {way : List Path} {base : Path} (clean : SlashFree base.names) {text : String} {s : Slideshow}
    {before after : List Token} {directive argument : Token} {written : String}
    (tokens : Token.tokenize text 0 = before ++ directive :: argument :: after)
    (imports : directive.lexeme = .directive .importDeck) (names : argument.lexeme = .word written)
    (h : parseWith files (loader options files way) base text = .ok s) :
    ∃ found other dA dC,
      files.resolve (base.join (Path.ofString written)) = .ok found ∧
      parseFile options files found = .ok other ∧
      read ⟨files, base, loader options files way⟩ {} before = (dA, .ok ()) ∧
      read ⟨files, base, loader options files way⟩ {} after = (dC, .ok ()) ∧
      s.slides = dA.take.slides ++ other.slides ++ dC.take.slides ∧
      s.background = dC.take.background.or dA.take.background ∧
      s.fontColor = dC.take.fontColor.or dA.take.fontColor ∧
      s.fontSize = dC.take.fontSize.or dA.take.fontSize ∧
      s.fonts = dA.take.fonts ∧
      ∀ load, SameSlides (loader options files way) load → parseWith files load base text = .ok s := by
  have agree : ∀ load, SameSlides (loader options files way) load →
      parseWith files load base text = .ok s :=
    fun load same => (parseWith_sameSlides same base text).symm.trans h
  unfold parseWith at h
  rw [tokens] at h
  split at h
  · cases h
  · rename_i d read
    cases h
    obtain ⟨dA, other, dC, first, load, last, take⟩ := read_import imports names read
    obtain ⟨found, resolved, alone⟩ :=
      parseFile_of_loader placed (Path.slashFree_join clean (Path.slashFree_ofString written)) load
    refine ⟨found, other, dA, dC, resolved, alone, first, last, ?_, ?_, ?_, ?_, ?_, agree⟩
    all_goals rw [take]; simp [Slideshow.followedBy]

/-- A deck that imports another one from a folder, which itself imports one there. Both have defaults
of their own, of which none is left. -/
theorem parse_splices_nested :
    let files : FileSystem := ⟨[(["sub"], .folder),
      (["outer.deck", "sub"], .file ":ge :fc red\n:sl\n:tb\nB\n:im inner.deck\n".toUTF8.toList),
      (["inner.deck", "sub"], .file ":ge :bc green\n:sl\n:bc red\n".toUTF8.toList)], []⟩
    ∃ other s, parseFile {} files ⟨.root, ["sub", "outer.deck"]⟩ = .ok other ∧
      parse {} files (Path.ofString ".") ":ge :bc blue\n:sl\n:im sub/outer.deck\n:sl\n" = .ok s ∧
      other.slides.length = 2 ∧ other.fontColor = some ⟨255, 0, 0, 255⟩ ∧
      s.slides = ({} : Slide) :: other.slides ++ [({} : Slide)] ∧ s.background = some ⟨0, 0, 255, 255⟩ ∧
      s.fontColor = none := by
  intro files
  have placed : files.IsPlaced := FileSystem.isCanonical_root files
  have read : parse {} files (Path.ofString ".") ":ge :bc blue\n:sl\n:im sub/outer.deck\n:sl\n" =
      .ok { slides := [{}, { sections := [⟨none, none, .text { text := "B\n" }⟩] },
        { background := some ⟨255, 0, 0, 255⟩ }, {}], background := some ⟨0, 0, 255, 255⟩ } := by
    decide +kernel
  have tokens : Token.tokenize ":ge :bc blue\n:sl\n:im sub/outer.deck\n:sl\n" 0 =
      Token.tokenize ":ge :bc blue\n:sl\n" 0 ++ ⟨.directive .importDeck, ⟨2, 0, 3⟩⟩ ::
        ⟨.word "sub/outer.deck", ⟨2, 4, 18⟩⟩ :: Token.tokenize ":sl\n" 3 := by
    decide +kernel
  have first : Draft.read ⟨files, Path.ofString ".", loader {} files []⟩ {}
      (Token.tokenize ":ge :bc blue\n:sl\n" 0) =
        (⟨{ background := some ⟨0, 0, 255, 255⟩ }, some {}, .slide⟩, .ok ()) := by decide +kernel
  have last : Draft.read ⟨files, Path.ofString ".", loader {} files []⟩ {}
      (Token.tokenize ":sl\n" 3) = (⟨{}, some {}, .slide⟩, .ok ()) := by decide +kernel
  obtain ⟨found, other, dA, dC, resolved, alone, readA, readC, slides, background, fontColor, -⟩ :=
    parse_splices placed (Path.slashFree_ofString ".") tokens rfl rfl read
  cases first.symm.trans readA
  cases last.symm.trans readC
  have there : files.resolve ((Path.ofString ".").join (Path.ofString "sub/outer.deck")) =
      .ok ⟨.root, ["sub", "outer.deck"]⟩ := by decide +kernel
  cases there.symm.trans resolved
  have outer : parseFile {} files ⟨.root, ["sub", "outer.deck"]⟩ =
      .ok { slides := [{ sections := [⟨none, none, .text { text := "B\n" }⟩] },
        { background := some ⟨255, 0, 0, 255⟩ }], fontColor := some ⟨255, 0, 0, 255⟩ } := by
    decide +kernel
  cases outer.symm.trans alone
  exact ⟨_, _, outer, read, rfl, rfl, slides, background, fontColor⟩

end Deck

end SlideDeck
