import SlideDeck.Proofs.Reader.Complaints
import SlideDeck.Proofs.Reader.Imports
import SlideDeck.Proofs.Files.Ways
import Mathlib.Data.Set.Card

/-!
# Imports come to an end

What a deck imports is in files, which may import whatever they like, so nothing gets smaller on the
way down but the room that the limit leaves. A reader (`Reading`) asks for decks, and passes those that
it finds on to be read after one more deck on the way (`Reading.Passes`); for each that is a file with a
text another reader is made (`Reading.Makes`).

**The law** (`EntryPoint.imports_end`): making readers out of readers comes to an end, and the
recursion of imports has one solution, which is how decks are read (`Deck.parseImport`). No more decks
are on the way than the limit says. The decks on it are known by canonical paths of files, and with a
look for cycles each is there once. So they are at most as many as the file system has such paths, and
if the limit is greater than that, nobody is ever told that imports are nested too deep: at the check
of the limit a further deck would have to be on the way.

**What is left out.** The deck that is read from a file first is put on the way by what the lenient walk
makes of its path. Where it is too long to look at some name, that may be a path at which nothing
stands (`EntryPoint.IsTooLong`). Then one more deck than there are files can be on the way, and the file
can be imported once more before a cycle is seen.
-/

namespace SlideDeck

/-- An error that tells of imports nested too deep, here or in an imported deck. -/
def DeckError.TellsOfDepth : DeckError → Prop
  | .importTooDeep .. => True
  | .inImport _ error _ => error.TellsOfDepth
  | _ => False

/-- A failure that tells of that. -/
def Failure.TellsOfDepth : Failure → Prop
  | .deck e => e.cause.TellsOfDepth
  | .fault _ => False

theorem Failure.tellsOfDepth_attach (t : Token) (f : Failure) :
    (f.attach t).TellsOfDepth ↔ f.TellsOfDepth := by
  cases f <;> rfl

theorem Deck.tellsOfDepth_wrapImport (path : Path) (f : Failure) :
    (wrapImport path f).TellsOfDepth ↔ f.TellsOfDepth := by
  cases f <;> rfl

theorem DeckError.IsPlain.not_tellsOfDepth {e : DeckError} (h : e.IsPlain) : ¬ e.TellsOfDepth := by
  cases e with
  | importTooDeep | inImport => exact h.elim
  | _ => exact id

/-! ## The recursion -/

namespace Deck

variable {options : ReadOptions} {files : FileSystem}

/-- One level of imports. What is found is read for the import after one more deck on the way, if it is
not guarded against and the limit leaves room. -/
def importWith (options : ReadOptions) (files : FileSystem)
    (nested : List Path → Path → Except Failure Slideshow) (way : List Path) (path : Path) :
    Except Failure Slideshow :=
  match files.resolve path with
  | .error (.linkLoop place) => .error (.fault (.linkLoop place))
  | .error fault => .error (.ofError (.importNotFound path fault))
  | .ok found =>
    if options.detectCycles && way.contains found then
      .error (.ofError (.importCycle (way ++ [found]) found))
    else if options.importLimit ≤ way.length then
      .error (.ofError (.importTooDeep options.importLimit found))
    else
      match nested (way ++ [found]) found with
      | .error failure => .error (wrapImport found failure)
      | .ok slideshow => .ok slideshow

/-- A way of reading decks for imports that reads the decks which they import in the same way. -/
def IsImporter (options : ReadOptions) (files : FileSystem)
    (nested : List Path → Path → Except Failure Slideshow) : Prop :=
  ∀ way path, nested way path = parseFileWith options files (importWith options files nested way) path

/-- Reads the deck in a file for an import, after the decks on the way, of which it is the last. -/
def parseImport (options : ReadOptions) (files : FileSystem) (way : List Path) (path : Path) :
    Except Failure Slideshow :=
  parseFileWith options files (loader options files way) path

@[simp]
theorem importBudget_concat (options : ReadOptions) (way : List Path) (found : Path) :
    importBudget options (way ++ [found]) = importBudget options way - 1 := by
  unfold importBudget
  rw [List.length_append, List.length_singleton]
  omega

/-- **Counting the room down is checking the limit**, level by level. -/
theorem loader_eq (options : ReadOptions) (files : FileSystem) (way : List Path) :
    loader options files way = importWith options files (parseImport options files) way := by
  funext path
  unfold loader importDeck importWith
  cases files.resolve path with
  | error fault => cases fault <;> rfl
  | ok found =>
    by_cases guarded : (options.detectCycles && way.contains found) = true
    · simp only [if_pos guarded]
    · simp only [if_neg guarded]
      cases room : importBudget options way with
      | zero =>
        have full : options.importLimit ≤ way.length := by
          unfold importBudget at room
          omega
        simp only [if_pos full]
      | succ budget =>
        have free : ¬ options.importLimit ≤ way.length := by
          unfold importBudget at room
          omega
        cases read : parseFileWith options files (importDeck options files budget (way ++ [found]))
            found with
        | error failure =>
          simp only [if_neg free, parseImport, loader, importBudget_concat, room,
            Nat.add_sub_cancel, read]
        | ok s =>
          simp only [if_neg free, parseImport, loader, importBudget_concat, room,
            Nat.add_sub_cancel, read]

theorem isImporter_parseImport (options : ReadOptions) (files : FileSystem) :
    IsImporter options files (parseImport options files) := fun way path => by
  rw [← loader_eq]
  rfl

/-- An import hangs only on how the deck that is found is read, and not even on this if it is guarded
against or if there is no room. -/
theorem importWith_congr {nested nested' : List Path → Path → Except Failure Slideshow}
    {way : List Path} {path : Path}
    (same : ∀ found, files.resolve path = .ok found →
      (options.detectCycles && way.contains found) = false →
      (way.length : Int) < options.importLimit →
      nested (way ++ [found]) found = nested' (way ++ [found]) found) :
    importWith options files nested way path = importWith options files nested' way path := by
  unfold importWith
  cases resolved : files.resolve path with
  | error fault => cases fault <;> rfl
  | ok found =>
    simp only
    split
    · rfl
    · rename_i free
      split
      · rfl
      · rename_i room
        rw [same found resolved (Bool.eq_false_iff.mpr free) (Int.not_le.mp room)]

/-- **Imports can be read in one way only**, by induction on the room that the limit leaves. -/
theorem IsImporter.eq_parseImport {nested : List Path → Path → Except Failure Slideshow}
    (h : IsImporter options files nested) : nested = parseImport options files := by
  have same : ∀ room way, importBudget options way = room →
      nested way = parseImport options files way := by
    intro room
    induction room using Nat.strongRecOn with
    | ind room ih =>
      intro way left
      have level : importWith options files nested way =
          importWith options files (parseImport options files) way := by
        funext path
        refine importWith_congr fun found _ _ more => congrFun (ih _ ?_ _ rfl) found
        rw [importBudget_concat, left]
        unfold importBudget at left
        omega
      funext path
      rw [h, isImporter_parseImport, level]
  funext way
  exact same _ way rfl

/-- Reading a file tells of the limit only if reading its text does. -/
theorem not_tellsOfDepth_parseFileWith {load : Path → Except Failure Slideshow} {path : Path}
    (text : ∀ chars failure, files.isFile path = .ok true →
      readText files options.encoding path = .ok chars →
      parseWith files load path.parent (String.ofList chars) = .error failure →
      ¬ failure.TellsOfDepth)
    {failure : Failure} (h : parseFileWith options files load path = .error failure) :
    ¬ failure.TellsOfDepth := by
  cases parseFileWith_eq_error h with
  | fault | notFile => exact id
  | unreadable fault =>
    unfold readFailure
    split <;> exact id
  | text file read unread => exact text _ _ file read unread

end Deck

/-! ## Readers -/

open Deck Draft

/-- A reader at work: a lexer with what it is given. -/
structure Reading where
  base : Path
  way : List Path
  texts : List String

/-- The paths of the decks that reading texts asks for, in order. -/
def asksOfChunks (around : Surroundings) : Int → Draft → List String → List Path
  | _, _, [] => []
  | line, d, chunk :: rest =>
    asksFrom around 0 d (Token.tokenize chunk line) ++
      match read around d (Token.tokenize chunk line) with
      | (_, .error _) => []
      | (d, .ok ()) => asksOfChunks around (line + (Text.splitLines chunk.toList).length) d rest

/-- What is asked for is a path as it is written, seen from the folder of the texts. -/
theorem exists_of_mem_asksOfChunks {around : Surroundings} {path : Path} {line : Int} {d : Draft}
    {chunks : List String} (h : path ∈ asksOfChunks around line d chunks) :
    ∃ written, path = around.base.join (Path.ofString written) := by
  induction chunks generalizing line d with
  | nil => cases h
  | cons chunk rest ih =>
    rcases List.mem_append.mp h with here | later
    · exact exists_of_mem_asksFrom here
    · split at later
      · cases later
      · exact ih later

/-- Reading texts that fails raises an error of a lexeme, or passes on that of a deck that it asks for,
with a token attached. -/
theorem stems_of_readChunks {P : DeckError → Prop} {around : Surroundings}
    (about : ∀ d : Draft, d.ComplainsOf P) {line : Int} {d d' : Draft} {chunks : List String}
    {failure : Failure} (h : readChunks around line d chunks = (d', .error failure)) :
    ∃ t raised, failure = raised.attach t ∧
      Stems P around.load (asksOfChunks around line d chunks) raised := by
  induction chunks generalizing line d with
  | nil => cases h
  | cons chunk rest ih =>
    simp only [readChunks, asksOfChunks] at h ⊢
    cases first : read around d (Token.tokenize chunk line) with
    | mk next outcome =>
      rw [first] at h
      cases outcome with
      | error failure =>
        cases h
        obtain ⟨t, raised, attached, stems⟩ := stems_of_readFrom about first
        exact ⟨t, raised, attached, stems.mono (List.subset_append_left _ _)⟩
      | ok _ =>
        obtain ⟨t, raised, attached, stems⟩ := ih h
        exact ⟨t, raised, attached, stems.mono (List.subset_append_right _ _)⟩

/-- Reading texts hangs on the slides of the decks that it asks for, and on nothing else of other
decks. -/
theorem readChunks_congr {files : FileSystem} {base : Path}
    {load load' : Path → Except Failure Slideshow} {line : Int} {d : Draft} {chunks : List String}
    (same : ∀ path ∈ asksOfChunks ⟨files, base, load⟩ line d chunks,
      (load path).map Slideshow.slides = (load' path).map Slideshow.slides) :
    readChunks ⟨files, base, load⟩ line d chunks = readChunks ⟨files, base, load'⟩ line d chunks := by
  induction chunks generalizing line d with
  | nil => rfl
  | cons chunk rest ih =>
    simp only [asksOfChunks, List.forall_mem_append] at same
    have first : read ⟨files, base, load⟩ d (Token.tokenize chunk line) =
        read ⟨files, base, load'⟩ d (Token.tokenize chunk line) := readFrom_congr same.1
    simp only [readChunks, ← first]
    cases made : read ⟨files, base, load⟩ d (Token.tokenize chunk line) with
    | mk next outcome =>
      cases outcome with
      | error failure => rfl
      | ok _ =>
        rw [made] at same
        exact ih same.2

namespace Reading

variable {options : ReadOptions} {files : FileSystem} {r r' : Reading} {seed : List Path}

/-- What comes of a reader, given how imports are read. -/
def outcomeWith (files : FileSystem) (load : Path → Except Failure Slideshow) (r : Reading) :
    Except Failure Slideshow :=
  match readChunks ⟨files, r.base, load⟩ 0 {} r.texts with
  | (_, .error failure) => .error failure
  | (d, .ok ()) => .ok d.take

/-- What comes of a reader. -/
def outcome (options : ReadOptions) (files : FileSystem) (r : Reading) :
    Except Failure Slideshow :=
  r.outcomeWith files (loader options files r.way)

/-- The paths of the decks that a reader asks for. -/
def asks (options : ReadOptions) (files : FileSystem) (r : Reading) : List Path :=
  asksOfChunks ⟨files, r.base, loader options files r.way⟩ 0 {} r.texts

/-- A reader passes on a deck to be read for an import, with the way to it: a deck that it asks for,
that is found, that is not guarded against, and for which the limit leaves room. -/
inductive Passes (options : ReadOptions) (files : FileSystem) (r : Reading) :
    List Path → Path → Prop where
  | intro {path found : Path} (asks : path ∈ r.asks options files)
    (resolved : files.resolve path = .ok found)
    (free : (options.detectCycles && r.way.contains found) = false)
    (room : (r.way.length : Int) < options.importLimit) :
    Passes options files r (r.way ++ [found]) found

/-- Another reader is made for a deck that is passed on, if it is a file with a text. -/
inductive Makes (options : ReadOptions) (files : FileSystem) (r : Reading) : Reading → Prop where
  | intro {way : List Path} {found : Path} {chars : List Char}
    (passes : r.Passes options files way found) (file : files.isFile found = .ok true)
    (read : readText files options.encoding found = .ok chars) :
    Makes options files r ⟨found.parent, way, [String.ofList chars]⟩

/-- The text of a deck is read by one reader. -/
@[simp]
theorem outcome_text (options : ReadOptions) (files : FileSystem) (base : Path) (way : List Path)
    (text : String) :
    outcome options files ⟨base, way, [text]⟩ =
      parseWith files (loader options files way) base text := by
  simp only [outcome, outcomeWith, readChunks, parseWith]
  generalize read ⟨files, base, loader options files way⟩ {} (Token.tokenize text 0) = result
  obtain ⟨d, _ | _⟩ := result <;> rfl

/-- **What a reader passes on is all that is read for its imports**: however other decks are read, the
same comes of it. -/
theorem outcome_of_passes {nested : List Path → Path → Except Failure Slideshow}
    (same : ∀ way found, r.Passes options files way found →
      nested way found = parseImport options files way found) :
    r.outcomeWith files (importWith options files nested r.way) = r.outcome options files := by
  have level : ∀ path ∈ r.asks options files,
      loader options files r.way path = importWith options files nested r.way path := by
    intro path asks
    rw [loader_eq]
    exact importWith_congr fun found resolved free room =>
      (same _ found (.intro asks resolved free room)).symm
  have agree : readChunks ⟨files, r.base, loader options files r.way⟩ 0 {} r.texts =
      readChunks ⟨files, r.base, importWith options files nested r.way⟩ 0 {} r.texts :=
    readChunks_congr fun path asks => congrArg (Except.map Slideshow.slides) (level path asks)
  simp only [outcome, outcomeWith, agree]

/-! ## The end of it -/

/-- No more decks are passed on than the limit says. -/
theorem Passes.length_le {way : List Path} {found : Path} (h : r.Passes options files way found) :
    (way.length : Int) ≤ options.importLimit := by
  cases h with
  | intro _ _ _ room =>
    rw [List.length_append, List.length_singleton]
    omega

/-- A reader that is made has less room. -/
theorem Makes.budget_lt (h : r.Makes options files r') :
    importBudget options r'.way < importBudget options r.way := by
  cases h with
  | intro passes _ _ =>
    cases passes with
    | intro _ _ _ room =>
      simp only [importBudget_concat]
      unfold importBudget
      omega

/-- **Making readers comes to an end.** -/
theorem wellFounded_makes (options : ReadOptions) (files : FileSystem) :
    WellFounded fun inner outer => Makes options files outer inner :=
  Subrelation.wf (fun h => h.budget_lt) (measure fun r : Reading => importBudget options r.way).wf

/-! ## Decks on the way -/

/-- Paths without slashes in their names, and on the way, behind some first paths, files known by their
canonical paths. -/
structure IsGrounded (files : FileSystem) (seed : List Path) (r : Reading) : Prop where
  clean : SlashFree r.base.names
  known : ∃ imported, r.way = seed ++ imported ∧ ∀ p ∈ imported, files.IsCanonicalFile p

theorem slashFree_of_mem_asks (clean : SlashFree r.base.names) {path : Path}
    (h : path ∈ r.asks options files) : SlashFree path.names := by
  have joined : ∃ written, path = r.base.join (Path.ofString written) := exists_of_mem_asksOfChunks h
  obtain ⟨written, rfl⟩ := joined
  exact Path.slashFree_join clean (Path.slashFree_ofString written)

/-- **A reader that is made has files on the way again**: what is passed on resolves to a canonical
path, and it is read, so it is that of a file. -/
theorem Makes.isGrounded (placed : files.IsPlaced) (h : r.Makes options files r')
    (grounded : r.IsGrounded files seed) : r'.IsGrounded files seed := by
  cases h with
  | @intro _ found _ passes file read =>
    cases passes with
    | intro asks resolved _ _ =>
      have clean := slashFree_of_mem_asks grounded.clean asks
      obtain ⟨l, rfl, canonical⟩ := FileSystem.isCanonical_of_resolve placed clean resolved
      obtain ⟨imported, way, known⟩ := grounded.known
      refine ⟨Path.slashFree_parent fun name mem => ?_, imported ++ [l.path], ?_, fun p mem => ?_⟩
      · exact (canonical.isName name (List.mem_reverse.mp mem)).noSlash
      · rw [way, List.append_assoc]
      · rcases List.mem_append.mp mem with old | new
        · exact known p old
        · rw [List.mem_singleton.mp new]
          exact canonical.isCanonicalFile file

theorem IsGrounded.of_made (placed : files.IsPlaced) (grounded : r.IsGrounded files seed)
    (made : Relation.ReflTransGen (Makes options files) r r') : r'.IsGrounded files seed := by
  induction made with
  | refl => exact grounded
  | tail _ makes ih => exact makes.isGrounded placed ih

/-- With a look for cycles, no deck is on the way twice. -/
theorem Makes.nodup (detect : options.detectCycles = true) (h : r.Makes options files r')
    (nodup : r.way.Nodup) : r'.way.Nodup := by
  cases h with
  | @intro _ found _ passes _ _ =>
    cases passes with
    | intro _ _ free _ =>
      have fresh : found ∉ r.way := by simpa [detect] using free
      exact List.nodup_append.mpr ⟨nodup, List.nodup_singleton found,
        fun p old q new same => fresh (List.mem_singleton.mp new ▸ same ▸ old)⟩

/-- Different decks on the way are no more than the first ones and the files. -/
theorem length_way_le (grounded : r.IsGrounded files seed) (nodup : r.way.Nodup) :
    r.way.length ≤ seed.length + {p | files.IsCanonicalFile p}.ncard := by
  classical
  obtain ⟨imported, way, known⟩ := grounded.known
  have sub : (imported.toFinset : Set Path) ⊆ {p | files.IsCanonicalFile p} :=
    fun p mem => known p (List.mem_toFinset.mp (Finset.mem_coe.mp mem))
  have card := Set.ncard_le_ncard sub files.finite_isCanonicalFile
  rw [way] at nodup ⊢
  rw [Set.ncard_coe_finset, List.toFinset_card_of_nodup nodup.of_append_right] at card
  rw [List.length_append]
  omega

/-- **With room for the first decks and all files, no reader tells of the limit.** By induction on the
readers that are made. What a reader raises by itself does not tell of it. When it asks for a deck there
are no more decks on the way than these, so there is room; and what the reader raises that is made for
the deck does not tell of the limit either. -/
theorem not_tellsOfDepth_of_outcome (placed : files.IsPlaced)
    (detect : options.detectCycles = true)
    (few : (seed.length : Int) + {p | files.IsCanonicalFile p}.ncard < options.importLimit)
    (grounded : r.IsGrounded files seed) (nodup : r.way.Nodup) {failure : Failure}
    (h : r.outcome options files = .error failure) : ¬ failure.TellsOfDepth := by
  induction r using (wellFounded_makes options files).induction generalizing failure with
  | _ r ih =>
    have room : (r.way.length : Int) < options.importLimit := by
      have most := length_way_le grounded nodup
      omega
    unfold outcome outcomeWith at h
    split at h
    · rename_i d raised failed
      cases h
      have about : ∀ d : Draft, d.ComplainsOf (¬ DeckError.TellsOfDepth ·) :=
        .of_all (fun _ => DeckError.IsPlain.not_tellsOfDepth) id id id
      obtain ⟨t, raised, rfl, stems⟩ := stems_of_readChunks about failed
      have quiet : ¬ raised.TellsOfDepth := by
        cases stems with
        | own such => exact such
        | fault fault => exact id
        | @load path _ asks fails =>
          cases importDeck_eq_error fails with
          | linkLoop | notFound | cycle => exact id
          | tooDeep _ full =>
            unfold importBudget at full
            omega
          | @nested found further inner resolved free left unread =>
            have budget : further = importBudget options (r.way ++ [found]) := by
              rw [importBudget_concat, left, Nat.add_sub_cancel]
            rw [budget] at unread
            rw [tellsOfDepth_wrapImport]
            refine not_tellsOfDepth_parseFileWith (fun chars failure file read unread => ?_) unread
            have makes : r.Makes options files
                ⟨found.parent, r.way ++ [found], [String.ofList chars]⟩ :=
              .intro (.intro asks resolved free room) file read
            exact ih _ makes (makes.isGrounded placed grounded) (makes.nodup detect nodup)
              ((outcome_text ..).trans unread)
      exact mt (Failure.tellsOfDepth_attach t raised).mp quiet
    · cases h

end Reading

/-! ## The law -/

/-- A way to have a deck read. -/
inductive EntryPoint where
  | text (base deck : String)
  | file (path : String)
  | chunks (base : String) (pieces : List String)

namespace EntryPoint

variable {options : ReadOptions} {files : FileSystem} {entry : EntryPoint} {r : Reading}

/-- What comes of it. -/
def outcome (options : ReadOptions) (files : FileSystem) :
    EntryPoint → Except Failure Slideshow
  | .text base deck => parse options files (Path.ofString base) deck
  | .file path => parseFile options files (Path.ofString path)
  | .chunks base pieces => parseChunks options files (Path.ofString base) pieces

/-- The reader that is made first. That of a file has the file on the way already. -/
inductive Starts (options : ReadOptions) (files : FileSystem) : EntryPoint → Reading → Prop where
  | text (base deck : String) :
    Starts options files (.text base deck) ⟨Path.ofString base, [], [deck]⟩
  | file {path : String} {found : Path} {chars : List Char}
    (resolved : files.resolveLenient (Path.ofString path) = .ok found)
    (file : files.isFile (Path.ofString path) = .ok true)
    (read : readText files options.encoding (Path.ofString path) = .ok chars) :
    Starts options files (.file path)
      ⟨(Path.ofString path).parent, [found], [String.ofList chars]⟩
  | chunks (base : String) (pieces : List String) :
    Starts options files (.chunks base pieces) ⟨Path.ofString base, [], pieces⟩

/-- The readers that are made at all: the first one, and those that are made for imports. -/
def Creates (options : ReadOptions) (files : FileSystem) (entry : EntryPoint) (r : Reading) : Prop :=
  ∃ first, entry.Starts options files first ∧
    Relation.ReflTransGen (Reading.Makes options files) first r

/-- A file whose path is too long: of some name on the way it cannot be looked at what it stands for. The
file may still be opened, since what is opened is not written out on the way. -/
def IsTooLong (files : FileSystem) : EntryPoint → Prop
  | .file path => ∃ long, files.resolve (Path.ofString path) = .error (.refused .nameTooLong long)
  | _ => False

theorem Starts.slashFree (h : entry.Starts options files r) : SlashFree r.base.names := by
  cases h with
  | text base | chunks base => exact Path.slashFree_ofString base
  | @file path => exact Path.slashFree_parent (Path.slashFree_ofString path)

theorem Starts.length_le (h : entry.Starts options files r) : r.way.length ≤ 1 := by
  cases h <;> simp

/-- There are files on the way of the first reader, behind what is on it at all. -/
theorem Starts.isGrounded_way (h : entry.Starts options files r) : r.IsGrounded files r.way :=
  ⟨h.slashFree, [], (List.append_nil _).symm, nofun⟩

/-- The deck that is read first is known by its canonical path, if its own is not too long. -/
theorem Starts.isGrounded (placed : files.IsPlaced) (nulFree : files.IsNulFree)
    (within : ¬ entry.IsTooLong files) (h : entry.Starts options files r) :
    r.IsGrounded files [] := by
  refine ⟨h.slashFree, r.way, rfl, ?_⟩
  cases h with
  | text | chunks => exact nofun
  | @file path found chars resolved file read =>
    intro p mem
    rw [List.mem_singleton.mp mem]
    exact FileSystem.isCanonicalFile_of_resolveLenient placed nulFree (Path.slashFree_ofString path)
      file (fun long refused => within ⟨long, refused⟩) resolved

theorem Starts.nodup (h : entry.Starts options files r) : r.way.Nodup := by
  cases h with
  | text | chunks => exact List.nodup_nil
  | file => exact List.nodup_singleton _

/-- Behind the deck that is read first, the decks on the way of a reader are known by canonical paths
of files. -/
theorem Creates.isCanonicalFile_of_mem_tail (placed : files.IsPlaced)
    (h : entry.Creates options files r) : ∀ p ∈ r.way.tail, files.IsCanonicalFile p := by
  obtain ⟨first, starts, made⟩ := h
  obtain ⟨imported, way, known⟩ := (starts.isGrounded_way.of_made placed made).known
  have few := starts.length_le
  intro p mem
  rw [way] at mem
  cases seed : first.way with
  | nil =>
    rw [seed, List.nil_append] at mem
    exact known p (List.mem_of_mem_tail mem)
  | cons p rest =>
    rw [seed, List.length_cons] at few
    rw [seed, List.eq_nil_of_length_eq_zero (by omega : rest.length = 0)] at mem
    exact known _ mem

/-- So is that deck, if its path is not too long. -/
theorem Creates.isCanonicalFile (placed : files.IsPlaced) (nulFree : files.IsNulFree)
    (within : ¬ entry.IsTooLong files) (h : entry.Creates options files r) :
    ∀ p ∈ r.way, files.IsCanonicalFile p := by
  obtain ⟨first, starts, made⟩ := h
  have grounded := starts.isGrounded placed nulFree within
  obtain ⟨imported, way, known⟩ := (grounded.of_made placed made).known
  rwa [way]

/-- With a look for cycles, no reader has a deck on the way twice. -/
theorem Creates.nodup (detect : options.detectCycles = true) (h : entry.Creates options files r) :
    r.way.Nodup := by
  obtain ⟨first, starts, made⟩ := h
  induction made with
  | refl => exact starts.nodup
  | tail _ makes ih => exact makes.nodup detect ih

/-- What fails tells of the limit only if the first reader does. -/
theorem not_tellsOfDepth_of_starts
    (quiet : ∀ r failure, entry.Starts options files r → r.outcome options files = .error failure →
      ¬ failure.TellsOfDepth)
    {failure : Failure} (h : entry.outcome options files = .error failure) :
    ¬ failure.TellsOfDepth := by
  cases entry with
  | text base deck => exact quiet _ _ (.text base deck) ((Reading.outcome_text ..).trans h)
  | chunks base pieces => exact quiet _ _ (.chunks base pieces) h
  | file path =>
    have h : parseFile options files (Path.ofString path) = .error failure := h
    unfold parseFile at h
    split at h
    · cases h
      exact id
    · rename_i found resolved
      refine not_tellsOfDepth_parseFileWith (fun chars failure file read unread => ?_) h
      exact quiet _ _ (.file resolved file read) ((Reading.outcome_text ..).trans unread)

/-- **Imports come to an end**, whatever files there are and however a deck is read. Their recursion has
one solution, and no reader makes readers without end. What comes of a reader hangs on no other decks
than those that it passes on, and of these no more are on the way than the limit says. With a look for
cycles, the decks on the way of a reader are different ones. Each is known by the canonical path of a
file, but for the first one, if that is a file whose path is too long; and there are finitely many such
paths. If the limit is greater than their number, or than one more where the first path is too long,
nothing tells of imports nested too deep. -/
theorem imports_end {files : FileSystem} (placed : files.IsPlaced) (nulFree : files.IsNulFree)
    (options : ReadOptions) :
    (IsImporter options files (parseImport options files) ∧
      ∀ nested, IsImporter options files nested → nested = parseImport options files) ∧
    (WellFounded fun inner outer => Reading.Makes options files outer inner) ∧
    (∀ (entry : EntryPoint) (r : Reading), entry.Creates options files r →
      (∀ nested, (∀ way found, r.Passes options files way found →
          nested way found = parseImport options files way found) →
        r.outcomeWith files (importWith options files nested r.way) = r.outcome options files) ∧
      (∀ way found, r.Passes options files way found →
        (way.length : Int) ≤ options.importLimit) ∧
      (options.detectCycles = true → r.way.Nodup) ∧
      (∀ p ∈ r.way.tail, files.IsCanonicalFile p) ∧
      (¬ entry.IsTooLong files → ∀ p ∈ r.way, files.IsCanonicalFile p)) ∧
    {p | files.IsCanonicalFile p}.Finite ∧
    (options.detectCycles = true → ∀ entry : EntryPoint,
      (({p | files.IsCanonicalFile p}.ncard : Int) < options.importLimit ∧
          ¬ entry.IsTooLong files ∨
        ({p | files.IsCanonicalFile p}.ncard : Int) + 1 < options.importLimit) →
      ∀ failure, entry.outcome options files = .error failure → ¬ failure.TellsOfDepth) := by
  refine ⟨⟨isImporter_parseImport options files, fun _ => IsImporter.eq_parseImport⟩,
    Reading.wellFounded_makes options files,
    fun entry r created => ⟨?_, ?_, created.nodup, created.isCanonicalFile_of_mem_tail placed,
      fun within => created.isCanonicalFile placed nulFree within⟩,
    files.finite_isCanonicalFile, fun detect entry few failure => ?_⟩
  · exact fun _ => Reading.outcome_of_passes
  · exact fun _ _ => Reading.Passes.length_le
  · refine not_tellsOfDepth_of_starts fun r failure starts => ?_
    rcases few with ⟨few, within⟩ | few
    · exact r.not_tellsOfDepth_of_outcome placed detect (by simpa using few)
        (starts.isGrounded placed nulFree within) starts.nodup
    · have most := starts.length_le
      exact r.not_tellsOfDepth_of_outcome placed detect (by omega) starts.isGrounded_way starts.nodup

/-- A deck that imports itself through a link: it is on the way once, and then guarded against, and a
limit that is great enough is not told of. -/
theorem imports_end_cycle :
    let files : FileSystem := ⟨[(["a.deck"], .file ":sl\n:im b.deck\n".toUTF8.toList),
      (["b.deck"], .link "a.deck")], []⟩
    let entry : EntryPoint := .text "." ":im b.deck\n"
    let r : Reading := ⟨⟨.root, []⟩, [⟨.root, ["a.deck"]⟩], [":sl\n:im b.deck\n"]⟩
    entry.Creates {} files r ∧ r.asks {} files = [⟨.root, ["b.deck"]⟩] ∧ r.way.Nodup ∧
      (∀ p ∈ r.way, files.IsCanonicalFile p) ∧
      ∃ limit : Int, ∀ failure, entry.outcome { importLimit := limit } files = .error failure →
        ¬ failure.TellsOfDepth := by
  intro files entry r
  have placed : files.IsPlaced := FileSystem.isCanonical_root files
  have passes : Reading.Passes {} files ⟨Path.ofString ".", [], [":im b.deck\n"]⟩
      ([] ++ [⟨.root, ["a.deck"]⟩]) ⟨.root, ["a.deck"]⟩ := by
    have asks : ⟨.relative, ["b.deck"]⟩ ∈
        Reading.asks {} files ⟨Path.ofString ".", [], [":im b.deck\n"]⟩ := by decide +kernel
    exact .intro asks (by decide +kernel) rfl (by decide)
  have read : readText files "utf-8" ⟨.root, ["a.deck"]⟩ = .ok ":sl\n:im b.deck\n".toList := by
    decide +kernel
  have makes : Reading.Makes {} files ⟨Path.ofString ".", [], [":im b.deck\n"]⟩ r := by
    have made := Reading.Makes.intro passes (by decide +kernel) read
    rwa [String.ofList_toList] at made
  have created : entry.Creates {} files r := ⟨_, .text "." ":im b.deck\n", .single makes⟩
  have nulFree : files.IsNulFree := by
    refine ⟨fun location target mem => ?_, nofun⟩
    have only : location = ["b.deck"] ∧ target = "a.deck" := by simpa [files] using mem
    rw [only.2]
    decide
  obtain ⟨-, -, nodup, -, known⟩ := (imports_end placed nulFree {}).2.2.1 entry r created
  refine ⟨created, by decide +kernel, nodup rfl, known id, {p | files.IsCanonicalFile p}.ncard + 1, ?_⟩
  exact (imports_end placed nulFree _).2.2.2.2 rfl entry (.inl ⟨Int.lt_succ _, id⟩)

end EntryPoint

end SlideDeck
