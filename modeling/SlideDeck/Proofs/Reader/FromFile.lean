import SlideDeck.Proofs.Files.Ways
import SlideDeck.Proofs.Reader.CarriedOut
import SlideDeck.Proofs.Reader.Escapes
import SlideDeck.Proofs.Text.Lines
import SlideDeck.Proofs.Text.Utf8

/-!
# A deck in a file, and its text

A deck that is read from its file is read as its text would be in the folder of the file, but for three
things. The file's line ends are newlines then. The file is on the way already, so that a deck which
imports it is refused at once, where the text alone would go on to the file first. And one deck on the
way leaves one less for the limit.

**The law** (`parseFile_iff_parse`): none of them counts, if the limit of the text is made one less. The
delicate part is that the file is on the way. If it is imported in turn, it is read there from the folder
of its canonical path, and with less room. That folder is the one that the text is read in, though the
two may be written differently (`FileSystem.SamePlace`). So the two readings keep in step
(`parseWith_inStep`), and the text can be read with the lesser room too. Taking the least room of all,
there is no room for the file to be imported (`exists_least_room`), and the look for it does not matter.

**Where one of them does count.** Beyond the length of paths that can be looked at, links are passed over
when the file's path is made canonical. The walk may then end at another path than the file's, or in a
loop of links that the file is not behind. So the text is read from the file if the file is known for
itself (`KnownForItself`), and that it is within this length (`knownForItself_of_within`). What is read
from the file is read from its text in any case (`parse_of_parseFile`).
-/

namespace SlideDeck

open Text

/-! ## Files -/

namespace FileSystem

variable {files : FileSystem} {l folder : Location} {p : Path} {content : List UInt8}

/-- A path that leads to a file with some bytes, and is no link itself: its last name is that of the
file. -/
structure IsRegularFile (files : FileSystem) (p : Path) (content : List UInt8) : Prop where
  bytes : files.readBytes p = .ok content
  named : ∃ folder, files.locate false p.parent = .ok folder ∧
    files.status (p.name :: folder) = .ok (.file content)

/-- What a file is read as at its canonical path is what stands there. -/
theorem IsCanonical.eq_of_readBytes (h : files.IsCanonical l)
    (stands : files.status l = .ok (.file content)) {content' : List UInt8}
    (read : files.readBytes l.path = .ok content') : content' = content := by
  obtain ⟨l', located, stands'⟩ := locate_of_readBytes read
  rw [h.locate] at located
  split at located
  · cases located
  · cases located
    cases stands.symm.trans stands'
    rfl

/-- A path that is no link itself leads to its last name, in the folder that its folder leads to. -/
theorem IsRegularFile.locate (h : files.IsRegularFile p content) :
    ∃ folder, files.locate false p.parent = .ok folder ∧
      files.locate false p = .ok (p.name :: folder) ∧
      files.status (p.name :: folder) = .ok (.file content) := by
  obtain ⟨folder, parent, file⟩ := h.named
  obtain ⟨l, located, stands⟩ := locate_of_readBytes h.bytes
  have inFolder : files.status folder = .ok .folder := status_tail file
  refine ⟨folder, parent, ?_, file⟩
  obtain ⟨_, toFolder⟩ := exists_leads_of_locate parent
  obtain ⟨_, whole⟩ := exists_leads_of_locate located
  rcases List.eq_nil_or_concat p.names with none_ | ⟨before, name, names⟩
  · -- Without names the path is its own folder.
    have same : p.parent = p := by
      cases p
      cases none_
      rfl
    rw [same] at parent
    cases located.symm.trans parent
    cases stands.symm.trans inFolder
  · rw [List.concat_eq_append] at names
    have outer : p.parent.names = before := by rw [Path.parent, names, List.dropLast_concat]
    have last : p.name = name := by rw [Path.name, names, List.getLast?_concat, Option.getD_some]
    have start : files.startOf p.parent = files.startOf p := rfl
    rw [outer, start] at toFolder
    rw [last] at file ⊢
    rw [names] at whole
    obtain ⟨_, _, mid, toMid, onward, -⟩ := whole.split
    obtain ⟨-, rfl⟩ := toFolder.eq toMid
    -- The last name is entered: what else it could be leads to no file.
    cases onward with
    | stay _ onward =>
      cases onward
      cases stands.symm.trans inFolder
    | up onward =>
      cases onward
      cases stands.symm.trans (status_tail inFolder)
    | enter _ _ _ _ onward =>
      cases onward
      exact located
    | follow _ _ link =>
      cases link.symm.trans file

/-- Two folders from which paths lead to the same, if they lead anywhere from both. -/
def SamePlace (files : FileSystem) (base base' : Path) : Prop :=
  ∀ q found found', files.resolve (base.join q) = .ok found →
    files.resolve (base'.join q) = .ok found' → found = found'

/-- The folder of a canonical location is one place with every path that leads to it. -/
theorem IsCanonical.samePlace {name : String} {base : Path} (h : files.IsCanonical (name :: folder))
    (located : files.locate false base = .ok folder) :
    files.SamePlace base (Location.path (name :: folder)).parent := by
  have outer : (Location.path (name :: folder)).parent = folder.path := by
    rw [Path.parent, Location.path, List.reverse_cons, List.dropLast_concat, Location.path]
  have inFolder : files.IsCanonical folder := h.tail
  obtain ⟨n, leads⟩ := exists_leads_of_locate located
  intro q found found' resolved resolved'
  rw [outer] at resolved'
  exact leads.resolve_join inFolder.leads resolved resolved'

/-- It resolves to the path of a canonical location, of which the folder is one place with its own
folder. -/
theorem IsRegularFile.resolve (placed : files.IsPlaced) (nulFree : files.IsNulFree)
    (clean : SlashFree p.names) (h : files.IsRegularFile p content)
    (within : ∀ long, files.resolve p ≠ .error (.refused .nameTooLong long)) :
    ∃ l : Location, files.resolve p = .ok l.path ∧ files.IsCanonical l ∧
      files.status l = .ok (.file content) ∧ files.SamePlace p.parent l.path.parent := by
  obtain ⟨folder, parent, located, file⟩ := h.locate
  rcases resolve_of_locate nulFree located with resolved | ⟨long, refused⟩
  · obtain ⟨l, same, canonical⟩ := isCanonical_of_resolve placed clean resolved
    have here : p.name :: folder = l := List.reverse_inj.mp (congrArg Path.names same)
    rw [← here] at canonical
    exact ⟨_, resolved, canonical, file, canonical.samePlace parent⟩
  · exact absurd refused (within long)

end FileSystem

/-! ## Readings in step -/

namespace Draft

variable {files : FileSystem} {base base' : Path} {load load' : Path → Except Failure Slideshow}

/-- Where two ways of reading imports from two folders both read a deck, they read it as the same, and
so does the second way from the first folder. -/
def ImportsInStep (base base' : Path) (load load' : Path → Except Failure Slideshow) : Prop :=
  ∀ q s s', load (base.join q) = .ok s → load' (base'.join q) = .ok s' →
    s' = s ∧ load' (base.join q) = .ok s

/-- A lexeme that is carried out in two places, with imports in step, does the same in both; so it does
in the first place with the imports of the second. -/
theorem apply_inStep (same : files.SamePlace base base') (imports : ImportsInStep base base' load load')
    {d a b : Draft} {l : Lexeme} {window : List Lexeme} {m n : Nat}
    (h : apply ⟨files, base, load⟩ d l window = (a, .ok m))
    (h' : apply ⟨files, base', load'⟩ d l window = (b, .ok n)) :
    (b, n) = (a, m) ∧ apply ⟨files, base, load'⟩ d l window = (a, .ok m) := by
  cases l with
  | directive directive =>
    cases directive with
    | figure =>
      cases carriesOut_of_apply h with
      | figure path resolved pushed =>
        cases carriesOut_of_apply h' with
        | figure path' resolved' pushed' =>
          cases path.symm.trans path'
          cases same _ _ _ resolved resolved'
          cases pushed.symm.trans pushed'
          exact ⟨rfl, h⟩
    | importDeck =>
      cases carriesOut_of_apply h with
      | importDeck path loaded =>
        cases carriesOut_of_apply h' with
        | importDeck path' loaded' =>
          cases path.symm.trans path'
          obtain ⟨rfl, again⟩ := imports _ _ _ loaded loaded'
          exact ⟨rfl, CarriesOut.apply_eq (.importDeck path again)⟩
    | _ =>
      cases h.symm.trans h'
      exact ⟨rfl, h⟩
  | _ =>
    cases h.symm.trans h'
    exact ⟨rfl, h⟩

/-- So does a list of tokens, by induction on it. -/
theorem readFrom_inStep (same : files.SamePlace base base')
    (imports : ImportsInStep base base' load load') {d a b : Draft} {taken : Nat} {tokens : List Token}
    (h : readFrom ⟨files, base, load⟩ taken d tokens = (a, .ok ()))
    (h' : readFrom ⟨files, base', load'⟩ taken d tokens = (b, .ok ())) :
    readFrom ⟨files, base, load'⟩ taken d tokens = (a, .ok ()) := by
  induction tokens generalizing taken d with
  | nil => exact h
  | cons t rest ih =>
    cases taken with
    | succ taken => exact ih h h'
    | zero =>
      simp only [readFrom] at h h' ⊢
      split at h
      · cases h
      · rename_i next count made
        split at h'
        · cases h'
        · rename_i next' count' made'
          obtain ⟨one, made⟩ := apply_inStep same imports made made'
          cases one
          rw [made]
          exact ih h h'

end Draft

namespace Deck

variable {options : ReadOptions} {files : FileSystem} {base base' path found : Path}
  {load load' : Path → Except Failure Slideshow} {text : String} {s : Slideshow}

/-- **A text that is read in two places, with imports in step**, is read in the first place with the
imports of the second. -/
theorem parseWith_inStep (same : files.SamePlace base base')
    (imports : Draft.ImportsInStep base base' load load') {s' : Slideshow}
    (h : parseWith files load base text = .ok s) (h' : parseWith files load' base' text = .ok s') :
    parseWith files load' base text = .ok s := by
  unfold parseWith at h h' ⊢
  split at h
  · cases h
  · rename_i d read
    split at h'
    · cases h'
    · rename_i d' read'
      have again : Draft.read ⟨files, base, load'⟩ {} (Token.tokenize text 0) = (d, .ok ()) :=
        Draft.readFrom_inStep same imports read read'
      rw [again]
      exact h

/-- An import hangs on what its path resolves to, and on nothing else of the path. -/
theorem importDeck_congr {room : Nat} {way : List Path} {path' : Path}
    (resolved : files.resolve path = .ok found) (resolved' : files.resolve path' = .ok found) :
    importDeck options files room way path = importDeck options files room way path' := by
  unfold importDeck
  rw [resolved, resolved']

/-- In one place, imports are in step with those for which there is less room. -/
theorem importsInStep_of_le (same : files.SamePlace base base') {room less : Nat} (le : less ≤ room)
    (way : List Path) :
    Draft.ImportsInStep base base' (importDeck options files room way)
      (importDeck options files less way) := by
  intro q s s' read read'
  obtain ⟨found, _, resolved, -⟩ := importDeck_eq_ok read
  obtain ⟨found', _, resolved', -⟩ := importDeck_eq_ok read'
  obtain rfl := same _ _ _ resolved resolved'
  rw [importDeck_congr resolved' resolved] at read'
  have more := importDeck_covers rfl id le (List.Subset.refl way) _ _ read'
  cases read.symm.trans more
  exact ⟨rfl, read'⟩

/-! ## The text of a file -/

/-- A deck in a file is read as the text whose bytes the file has, in the folder of the file. -/
theorem parseFileWith_eq_parseWith (utf8 : options.encoding = "utf-8")
    (bytes : files.readBytes path = .ok text.toUTF8.toList) (paired : PairedReturns text.toList) :
    parseFileWith options files load path = parseWith files load path.parent text := by
  have encoding : Encoding.ofName "utf-8" = .ok .utf8 := by decide +kernel
  have file : files.isFile path = .ok true := by
    obtain ⟨l, located, stands⟩ := FileSystem.locate_of_readBytes bytes
    simp only [FileSystem.isFile, FileSystem.stat, located, stands]
  have chars : readText files "utf-8" path = .ok (universalNewlines text.toList) := by
    simp only [readText, bytes, encoding, Encoding.decode, decodeUtf8_toUTF8, Except.mapError]
  simp only [parseFileWith, file, utf8, chars, parseWith, Token.tokenize_universalNewlines paired]

/-- At its canonical path too, if it is read there at all. -/
theorem parseWith_of_parseFileWith {l : Location} (utf8 : options.encoding = "utf-8")
    (canonical : files.IsCanonical l) (stands : files.status l = .ok (.file text.toUTF8.toList))
    (paired : PairedReturns text.toList) (h : parseFileWith options files load l.path = .ok s) :
    parseWith files load l.path.parent text = .ok s := by
  have bytes : files.readBytes l.path = .ok text.toUTF8.toList := by
    cases file : files.isFile l.path with
    | error fault =>
      simp only [parseFileWith, file] at h
      cases h
    | ok there =>
      cases there with
      | false =>
        simp only [parseFileWith, file] at h
        cases h
      | true =>
        obtain ⟨content, read⟩ := FileSystem.readBytes_of_isFile file
        rw [read, canonical.eq_of_readBytes stands read]
  rwa [parseFileWith_eq_parseWith utf8 bytes paired] at h

/-! ## The law -/

/-- A deck on the way leaves as much room as a limit that is one less. -/
theorem importBudget_singleton (encoding : String) (detect : Bool) (limit : Int) (found : Path) :
    importBudget ⟨encoding, detect, limit⟩ [found] =
      importBudget ⟨encoding, detect, limit - 1⟩ [] := by
  simp [importBudget]

/-- **What is read from a file is read from its text**, with one less for the limit: the file on the way
and the look for it only refuse. -/
theorem parse_of_parseFile (bytes : files.readBytes path = .ok text.toUTF8.toList)
    (paired : PairedReturns text.toList) {detect : Bool} {limit : Int}
    (h : parseFile ⟨"utf-8", detect, limit⟩ files path = .ok s) :
    parse ⟨"utf-8", detect, limit - 1⟩ files path.parent text = .ok s := by
  unfold parseFile at h
  split at h
  · cases h
  · rename_i found _
    rw [parseFileWith_eq_parseWith rfl bytes paired] at h
    have covers : Covers (loader ⟨"utf-8", detect, limit⟩ files [found])
        (loader ⟨"utf-8", detect, limit - 1⟩ files []) := by
      unfold loader
      rw [importBudget_singleton]
      refine importDeck_covers ?_ ?_ (Nat.le_refl _) (List.nil_subset _)
      · rfl
      · exact id
    exact parseWith_covers covers h

/-- A text that can be read, in the place where its file is found, can be read with so little room that
the file cannot be read with less. If the file can be read with less room at all, then its text with it,
in step, and so the text with the least room that is enough for the file. -/
theorem exists_least_room {off : ReadOptions} {room : Nat} (same : files.SamePlace base found.parent)
    (own : ∀ levels s', parseFileWith off files (importDeck off files levels []) found = .ok s' →
      parseWith files (importDeck off files levels []) found.parent text = .ok s')
    (h : parseWith files (importDeck off files room []) base text = .ok s) :
    ∃ least ≤ room, parseWith files (importDeck off files least []) base text = .ok s ∧
      ∀ levels < least, ¬ ReadsWithin off files levels found := by
  classical
  by_cases some : ∃ levels, levels < room ∧ ReadsWithin off files levels found
  · obtain ⟨less, s', read⟩ := Nat.find_spec some
    refine ⟨Nat.find some, Nat.le_of_lt less, ?_, fun levels below reads => ?_⟩
    · exact parseWith_inStep same (importsInStep_of_le same (Nat.le_of_lt less) []) h (own _ s' read)
    · exact Nat.find_min some below ⟨Nat.lt_trans below less, reads⟩
  · exact ⟨room, Nat.le_refl room, h, fun levels below reads => some ⟨levels, below, reads⟩⟩

/-- A file is known for itself: the lenient walk makes something of its path, and with a look for cycles,
what it makes of it is no other deck that can be imported. -/
def KnownForItself (files : FileSystem) (detect : Bool) (p : Path) : Prop :=
  ∃ known, files.resolveLenient p = .ok known ∧
    (detect = true → ∀ q, files.resolve q = .ok known → files.resolve p = .ok known)

/-- So is a file whose path is not too long. -/
theorem knownForItself_of_within (placed : files.IsPlaced) (nulFree : files.IsNulFree) {p : Path}
    (clean : SlashFree p.names) {content : List UInt8} (file : files.IsRegularFile p content)
    (within : ∀ long, files.resolve p ≠ .error (.refused .nameTooLong long)) (detect : Bool) :
    KnownForItself files detect p := by
  obtain ⟨l, resolved, -⟩ := file.resolve placed nulFree clean within
  exact ⟨l.path, FileSystem.resolveLenient_of_resolve placed clean resolved, fun _ _ _ => resolved⟩

/-- **What is read from a text is read from its file**, if the file is on the way by its canonical
path. -/
theorem parseWith_loader_of_resolve (placed : files.IsPlaced) (nulFree : files.IsNulFree)
    (clean : SlashFree path.names) (file : files.IsRegularFile path text.toUTF8.toList)
    (paired : PairedReturns text.toList) (resolved : files.resolve path = .ok found) {detect : Bool}
    {limit : Int} (h : parse ⟨"utf-8", detect, limit - 1⟩ files path.parent text = .ok s) :
    parseWith files (loader ⟨"utf-8", detect, limit⟩ files [found]) path.parent text = .ok s := by
  have within : ∀ long, files.resolve path ≠ .error (.refused .nameTooLong long) := by
    rw [resolved]
    exact nofun
  obtain ⟨l, resolved', canonical, stands, same⟩ := file.resolve placed nulFree clean within
  cases resolved.symm.trans resolved'
  let off : ReadOptions := ⟨"utf-8", false, limit⟩
  let guarded : ReadOptions := ⟨"utf-8", detect, limit⟩
  have free : parseWith files (importDeck off files (importBudget guarded [l.path]) [])
      path.parent text = .ok s := by
    rw [importBudget_singleton]
    refine parseWith_covers (importDeck_covers ?_ ?_ (Nat.le_refl _) (List.Subset.refl [])) h
    · rfl
    · exact fun on => Bool.noConfusion on
  obtain ⟨least, le, read, hopeless⟩ := exists_least_room same
    (fun _ _ => parseWith_of_parseFileWith rfl canonical stands paired) free
  -- The file is on the way, and cannot be imported: there is no room for it.
  rw [importDeck_way rfl least [] [l.path]] at read
  have unmet : Covers (importDeck off files least [l.path])
      (importDeck guarded files least [l.path]) := by
    refine importDeck_guarded_covers ?_ ?_ least [l.path] ?_
    · rfl
    · rfl
    · simpa using hopeless
  exact parseWith_covers (importDeck_covers rfl id le (List.Subset.refl _))
    (parseWith_covers unmet read)

/-- **What is read from a text is read from its file**, if the file is on the way by a path where no deck
is found, or if cycles are not looked for. -/
theorem parseWith_loader_of_lost {detect : Bool} {limit : Int}
    (lost : detect = true → ∀ q, files.resolve q ≠ .ok found)
    (h : parse ⟨"utf-8", detect, limit - 1⟩ files base text = .ok s) :
    parseWith files (loader ⟨"utf-8", detect, limit⟩ files [found]) base text = .ok s := by
  have covers : Covers (loader ⟨"utf-8", detect, limit - 1⟩ files [])
      (loader ⟨"utf-8", detect, limit⟩ files [found]) := by
    unfold loader
    rw [importBudget_singleton]
    refine importDeck_covers_of_found ?_ ?_ (Nat.le_refl _) fun on q other there mem => ?_
    · rfl
    · exact id
    · rw [List.mem_singleton.mp mem] at there
      exact absurd there (lost on q)
  exact parseWith_covers covers h

/-- **A deck is read from its file as its text is read in the folder of the file, with one less for the
limit**, whether or not cycles are looked for. What is read from the file is always read from the text,
and the other way round where the file is known for itself; it is so where no name on the way to it is
too long to be looked at. -/
theorem parseFile_iff_parse (placed : files.IsPlaced) (nulFree : files.IsNulFree) {path text : String}
    (file : files.IsRegularFile (Path.ofString path) text.toUTF8.toList)
    (paired : PairedReturns text.toList) (detect : Bool) (limit : Int) (s : Slideshow) :
    (parseFile ⟨"utf-8", detect, limit⟩ files (Path.ofString path) = .ok s →
      parse ⟨"utf-8", detect, limit - 1⟩ files (Path.ofString path).parent text = .ok s) ∧
    (KnownForItself files detect (Path.ofString path) →
      parse ⟨"utf-8", detect, limit - 1⟩ files (Path.ofString path).parent text = .ok s →
      parseFile ⟨"utf-8", detect, limit⟩ files (Path.ofString path) = .ok s) ∧
    ((∀ long, files.resolve (Path.ofString path) ≠ .error (.refused .nameTooLong long)) →
      KnownForItself files detect (Path.ofString path)) := by
  have clean : SlashFree (Path.ofString path).names := Path.slashFree_ofString path
  refine ⟨parse_of_parseFile file.bytes paired, ?_, fun within =>
    knownForItself_of_within placed nulFree clean file within detect⟩
  rintro ⟨found, known, itself⟩ h
  have read : parseWith files (loader ⟨"utf-8", detect, limit⟩ files [found])
      (Path.ofString path).parent text = .ok s := by
    by_cases resolved : files.resolve (Path.ofString path) = .ok found
    · exact parseWith_loader_of_resolve placed nulFree clean file paired resolved h
    · exact parseWith_loader_of_lost (fun on q there => resolved (itself on q there)) h
  simp only [parseFile, known]
  exact (parseFileWith_eq_parseWith rfl file.bytes paired).trans read

/-- A deck in a folder that is found through a link, with carriage returns before its newlines. It
imports another one from its folder, and the limit leaves room for just these two. -/
theorem parseFile_iff_parse_link :
    let files : FileSystem := ⟨[(["l"], .link "sub"), (["sub"], .folder),
      (["a.deck", "sub"], .file ":sl\r\n:im b.deck\r\n".toUTF8.toList),
      (["b.deck", "sub"], .file ":sl\n".toUTF8.toList)], []⟩
    files.IsRegularFile (Path.ofString "l/a.deck") ":sl\r\n:im b.deck\r\n".toUTF8.toList ∧
      parseFile ⟨"utf-8", true, 2⟩ files (Path.ofString "l/a.deck") = .ok { slides := [{}, {}] } := by
  intro files
  have nulFree : files.IsNulFree := by
    refine ⟨fun location target mem => ?_, nofun⟩
    have only : location = ["l"] ∧ target = "sub" := by simpa [files] using mem
    rw [only.2]
    decide
  have file : files.IsRegularFile (Path.ofString "l/a.deck")
      ":sl\r\n:im b.deck\r\n".toUTF8.toList :=
    ⟨by decide +kernel, ["sub"], by decide +kernel, by decide +kernel⟩
  have resolved : files.resolve (Path.ofString "l/a.deck") = .ok ⟨.root, ["sub", "a.deck"]⟩ := by
    decide +kernel
  have within : ∀ long, files.resolve (Path.ofString "l/a.deck") ≠
      .error (.refused .nameTooLong long) := by
    rw [resolved]
    exact nofun
  have law := parseFile_iff_parse (FileSystem.isCanonical_root files) nulFree file (by decide) true 2
    { slides := [{}, {}] }
  exact ⟨file, law.2.1 (law.2.2 within) (by decide +kernel)⟩

end Deck

end SlideDeck
