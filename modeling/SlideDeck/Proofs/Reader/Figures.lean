import SlideDeck.Proofs.Reader.Failing
import SlideDeck.Proofs.Printer.Rewritten

/-!
# The paths of figures

A figure is written with a path that starts from the folder of its deck, and may go through links and
up again. What a slideshow keeps of it is where that path has led. Imported slides bring such paths
along, though their deck stands elsewhere.

**The law** (`EntryPoint.figurePaths_canonical`): however a deck is read, the paths of its figures are
absolute and canonical. From every folder such a path, if it is not too long to be looked at, leads to
itself, and a figure that is written with it is a section with that path. It rests on the shape that all
decks are read as (`EntryPoint.isRead_of_outcome`), which goes from texts to texts that follow each
other, and from there to all readers.
-/

namespace SlideDeck

open Deck Draft

variable {options : ReadOptions} {files : FileSystem}

/-! ## All readers -/

/-- Texts that follow each other keep to what decks are read as, by induction on them. -/
theorem Deck.isRead_of_readChunks {around : Surroundings} (placed : around.files.IsPlaced)
    (clean : SlashFree around.base.names) (load : LoadsRead around.files around.load)
    {line : Int} {d d' : Draft} {chunks : List String} (start : d.IsRead around.files)
    (h : readChunks around line d chunks = (d', .ok ())) : d'.IsRead around.files := by
  induction chunks generalizing line d with
  | nil =>
    cases h
    exact start
  | cons chunk rest ih =>
    obtain ⟨next, run, ends⟩ := run_of_readFrom around (Token.tokenize chunk line) 0 d
    have there : next.IsRead around.files :=
      run.preserves (fun t mem _ _ => Step.isRead placed clean load (isScanned_of_tokenize mem)) start
    unfold readChunks Draft.read at h
    generalize readFrom around 0 d (Token.tokenize chunk line) = outcome,
      unreadFrom around 0 d (Token.tokenize chunk line) = left at h ends
    cases ends with
    | read => exact ih there h
    | failed => cases h

/-- A reader reads slideshows that decks are read as. -/
theorem Reading.isRead_of_outcome (placed : files.IsPlaced) {r : Reading}
    (clean : SlashFree r.base.names) {s : Slideshow} (h : r.outcome options files = .ok s) :
    s.IsRead files := by
  unfold outcome outcomeWith at h
  split at h
  · cases h
  · rename_i d read
    cases h
    exact (isRead_of_readChunks placed clean (loadsRead_importDeck placed _ _)
      (isRead_fresh files) read).take

namespace EntryPoint

variable {entry : EntryPoint} {s : Slideshow}

/-- What is read at all is read by a first reader. -/
theorem exists_starts_of_outcome (h : entry.outcome options files = .ok s) :
    ∃ r, entry.Starts options files r := by
  cases entry with
  | text base deck => exact ⟨_, .text base deck⟩
  | chunks base pieces => exact ⟨_, .chunks base pieces⟩
  | file path =>
    cases resolved : files.resolveLenient (Path.ofString path) with
    | error fault =>
      simp only [outcome, parseFile, resolved] at h
      cases h
    | ok found =>
      rw [outcome_file resolved] at h
      obtain ⟨text, opened, -⟩ := ok_of_bind h
      exact ⟨_, starts_of_deckText resolved opened⟩

/-- **However a deck is read, it is read as a slideshow that decks are read as.** -/
theorem isRead_of_outcome (placed : files.IsPlaced) (h : entry.outcome options files = .ok s) :
    s.IsRead files := by
  obtain ⟨r, starts⟩ := exists_starts_of_outcome h
  exact Reading.isRead_of_outcome placed starts.slashFree (starts.outcome_eq ▸ h)

/-! ## The law -/

theorem anchor_slash_ne (cs : List Char) : Anchor.ofChars ('/' :: cs) ≠ .relative := by
  unfold Anchor.ofChars
  split
  · nofun
  · nofun
  · nofun
  · rename_i other
    exact absurd rfl (other cs)

@[simp]
theorem isAbsolute_text (l : Location) : isAbsolute l.path.text = true := by
  rw [isAbsolute, FileSystem.text_path_toList, bne_iff_ne]
  exact anchor_slash_ne _

/-- **The paths of figures are absolute and canonical.** Each is that of a place without links where
something stands. Unless it is too long to be looked at, it leads to itself from every folder, and a
figure that is written with it there is the same section. -/
theorem figurePaths_canonical (placed : files.IsPlaced) (h : entry.outcome options files = .ok s)
    {q : String} (shown : q ∈ s.figurePaths) :
    (∃ l, files.IsCanonical l ∧ q = (Location.path l).text) ∧ isAbsolute q = true ∧
      (q.utf8ByteSize < pathLimit → ∀ base : Path,
        (∃ found, files.resolve (base.join (Path.ofString q)) = .ok found ∧ found.text = q) ∧
        ∀ (load : Path → Except Failure Slideshow) (d : Draft) (open_ : Slide),
          d.slide = some open_ →
          Takes ⟨files, base, load⟩ d [.directive .figure, .word q]
            (onSection d.slideshow open_ ⟨none, none, .figure ⟨q, 0.0⟩⟩ .figure)) := by
  obtain ⟨l, canonical, rfl⟩ := (isRead_of_outcome placed h).canonical q shown
  refine ⟨⟨l, canonical, rfl⟩, isAbsolute_text l, fun short base => ?_⟩
  have resolved := (canonical.resolve_text base).1 short
  exact ⟨⟨_, resolved, rfl⟩, fun load d open_ there => takes_figure there resolved⟩

/-- A figure of an imported deck that is found through a link, and goes up and through that link again:
its path leads to itself from everywhere. -/
theorem figurePaths_canonical_link :
    let files : FileSystem := ⟨[(["img"], .link "pics"), (["pics"], .folder),
      (["a.bmp", "pics"], .file []),
      (["more.deck", "pics"], .file ":sl\n:fg ../img/a.bmp\n".toUTF8.toList)], []⟩
    let entry : EntryPoint := .text "." ":im img/more.deck\n"
    (∃ s, entry.outcome {} files = .ok s ∧ "/pics/a.bmp" ∈ s.figurePaths) ∧
      ∀ base : Path, ∃ found,
        files.resolve (base.join (Path.ofString "/pics/a.bmp")) = .ok found ∧
          found.text = "/pics/a.bmp" := by
  intro files entry
  have read : entry.outcome {} files = .ok
      { slides := [{ sections := [{ body := .figure { path := "/pics/a.bmp" } }] }] } := by
    decide +kernel
  have canonical := figurePaths_canonical (FileSystem.isCanonical_root files) read
    (List.mem_singleton_self _)
  exact ⟨⟨_, read, List.mem_singleton_self _⟩, fun base => (canonical.2.2 (by decide) base).1⟩

end EntryPoint

end SlideDeck
