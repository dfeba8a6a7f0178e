import SlideDeck.Reader.Deck
import Mathlib.Control.Monad.Basic

/-!
# The limit and the look for cycles

How a deck is imported depends on the way to it in two places only: the way must not hold the deck
already, if cycles are looked for, and it must leave the limit some room. Neither place changes what
a deck is read as. So of two ways of reading imports the freer one *covers* the other: it reads
whatever the other reads, and reads it as the same slideshow (`importDeck_covers`). After fewer decks
on the way a reading is the freer one.

**The law** (`parse_unguarded_iff_and_mono`): looking for cycles refuses no deck that can be read
without it, and a greater limit reads what a smaller one reads. The first half is not about covering,
since the guarded reading is the stricter one. It rests on the least limit that is enough for a deck
(`ReadsWithin`): a deck that came back to itself on the way would be read there with less than the
least, so a reading that ends never meets the guard, or repeats one that does not
(`importDeck_guarded_covers`).

What is to be known of failing imports is in the ways in which one level of them fails (`ImportFails`,
`FileFails`).
-/

namespace SlideDeck

/-- The second way of reading imports reads whatever the first one reads, as the same slideshow. -/
def Covers (load load' : Path → Except Failure Slideshow) : Prop :=
  ∀ path s, load path = .ok s → load' path = .ok s

variable {files : FileSystem} {base : Path} {load load' : Path → Except Failure Slideshow}

/-! ## Reading under a freer way of reading imports -/

namespace Draft

/-- An import that succeeds does the same under a way of reading imports that covers the first. -/
theorem applyImport_covers (covers : Covers load load') {d d' : Draft} {window : List Lexeme}
    {count : Nat} (h : applyImport ⟨files, base, load⟩ d window = (d', .ok count)) :
    applyImport ⟨files, base, load'⟩ d window = (d', .ok count) := by
  unfold applyImport at h ⊢
  cases hp : Argument.path window "an import" with
  | error e =>
    rw [hp] at h
    cases h
  | ok written =>
    simp only [hp] at h ⊢
    cases hl : load (base.join (Path.ofString written)) with
    | error failure =>
      rw [hl] at h
      cases h
    | ok other =>
      rw [hl] at h
      rw [covers _ _ hl]
      exact h

/-- Only an import looks at other decks, so every lexeme does the same under a covering way. -/
theorem apply_covers (covers : Covers load load') {d d' : Draft} {l : Lexeme}
    {window : List Lexeme} {count : Nat}
    (h : apply ⟨files, base, load⟩ d l window = (d', .ok count)) :
    apply ⟨files, base, load'⟩ d l window = (d', .ok count) := by
  cases l with
  | directive directive =>
    cases directive with
    | importDeck => exact applyImport_covers covers h
    | _ => exact h
  | _ => exact h

/-- A list of tokens that is read to its end is read the same under a covering way. -/
theorem readFrom_covers (covers : Covers load load') {taken : Nat} {d d' : Draft}
    {tokens : List Token} (h : readFrom ⟨files, base, load⟩ taken d tokens = (d', .ok ())) :
    readFrom ⟨files, base, load'⟩ taken d tokens = (d', .ok ()) := by
  induction tokens generalizing taken d with
  | nil => exact h
  | cons t rest ih =>
    cases taken with
    | succ taken => exact ih h
    | zero =>
      simp only [readFrom] at h ⊢
      cases ha : apply ⟨files, base, load⟩ d t.lexeme ((rest.take windowSize).map Token.lexeme) with
      | mk next outcome =>
        rw [ha] at h
        cases outcome with
        | error failure => cases h
        | ok count =>
          rw [apply_covers covers ha]
          exact ih h

end Draft

namespace Deck

/-- A text that is read is read the same under a covering way. -/
theorem parseWith_covers (covers : Covers load load') {text : String} {s : Slideshow}
    (h : parseWith files load base text = .ok s) : parseWith files load' base text = .ok s := by
  unfold parseWith at h ⊢
  cases hr : Draft.read ⟨files, base, load⟩ {} (Token.tokenize text 0) with
  | mk d outcome =>
    rw [hr] at h
    cases outcome with
    | error failure => cases h
    | ok _ =>
      have hr' : Draft.read ⟨files, base, load'⟩ {} (Token.tokenize text 0) = (d, .ok ()) :=
        Draft.readFrom_covers covers hr
      rw [hr']
      exact h

/-- A file that is read is read the same under a covering way. Of the options only the encoding
counts here. -/
theorem parseFileWith_covers {options options' : ReadOptions}
    (encoding : options'.encoding = options.encoding) (covers : Covers load load') :
    Covers (parseFileWith options files load) (parseFileWith options' files load') := by
  intro path s h
  unfold parseFileWith at h ⊢
  cases hf : files.isFile path with
  | error fault =>
    rw [hf] at h
    cases h
  | ok present =>
    rw [hf] at h
    cases present with
    | false => cases h
    | true =>
      simp only [encoding] at h ⊢
      cases ht : readText files options.encoding path with
      | error fault =>
        rw [ht] at h
        cases h
      | ok chars =>
        rw [ht] at h
        exact parseWith_covers covers h

/-! ## One import -/

/-- What an import that succeeds has found: a deck that is not looked for on the way, within the
limit, and read with one level less. -/
theorem importDeck_eq_ok {options : ReadOptions} {budget : Nat} {way : List Path} {path : Path}
    {s : Slideshow} (h : importDeck options files budget way path = .ok s) :
    ∃ found further, files.resolve path = .ok found ∧ budget = further + 1 ∧
      (options.detectCycles && way.contains found) = false ∧
      parseFileWith options files (importDeck options files further (way ++ [found])) found =
        .ok s := by
  unfold importDeck at h
  cases hr : files.resolve path with
  | error fault =>
    rw [hr] at h
    cases fault <;> cases h
  | ok found =>
    simp only [hr] at h
    split at h
    · cases h
    · rename_i free
      cases budget with
      | zero => cases h
      | succ further =>
        refine ⟨found, further, rfl, rfl, Bool.eq_false_iff.mpr free, ?_⟩
        simp only at h
        split at h
        · cases h
        · rename_i hp
          cases h
          exact hp

/-- The other direction: a deck that is found, not guarded against and read is imported. -/
theorem importDeck_of_found {options : ReadOptions} {budget : Nat} {way : List Path}
    {path found : Path} {s : Slideshow} (resolved : files.resolve path = .ok found)
    (free : (options.detectCycles && way.contains found) = false)
    (read : parseFileWith options files (importDeck options files budget (way ++ [found])) found =
      .ok s) :
    importDeck options files (budget + 1) way path = .ok s := by
  unfold importDeck
  simp only [resolved, free, Bool.false_eq_true, if_false, read]

/-- How an import fails, after the decks on the way and with so much room left. -/
inductive ImportFails (options : ReadOptions) (files : FileSystem) (budget : Nat) (way : List Path)
    (path : Path) : Failure → Prop where
  | linkLoop {place : String} (unresolved : files.resolve path = .error (.linkLoop place)) :
    ImportFails options files budget way path (.fault (.linkLoop place))
  | notFound {fault : Fault} (unresolved : files.resolve path = .error fault) :
    ImportFails options files budget way path (.ofError (.importNotFound path fault))
  | cycle {found : Path} (resolved : files.resolve path = .ok found)
    (guarded : (options.detectCycles && way.contains found) = true) :
    ImportFails options files budget way path (.ofError (.importCycle (way ++ [found]) found))
  | tooDeep {found : Path} (resolved : files.resolve path = .ok found) (full : budget = 0) :
    ImportFails options files budget way path
      (.ofError (.importTooDeep options.importLimit found))
  | nested {found : Path} {further : Nat} {failure : Failure}
    (resolved : files.resolve path = .ok found)
    (free : (options.detectCycles && way.contains found) = false) (room : budget = further + 1)
    (unread : parseFileWith options files (importDeck options files further (way ++ [found]))
      found = .error failure) :
    ImportFails options files budget way path (wrapImport found failure)

theorem importDeck_eq_error {options : ReadOptions} {budget : Nat} {way : List Path} {path : Path}
    {failure : Failure} (h : importDeck options files budget way path = .error failure) :
    ImportFails options files budget way path failure := by
  unfold importDeck at h
  split at h
  · rename_i unresolved
    cases h
    exact .linkLoop unresolved
  · rename_i unresolved
    cases h
    exact .notFound unresolved
  · rename_i found resolved
    split at h
    · rename_i guarded
      cases h
      exact .cycle resolved guarded
    · rename_i free
      cases budget with
      | zero =>
        cases h
        exact .tooDeep resolved rfl
      | succ further =>
        simp only at h
        split at h
        · rename_i unread
          cases h
          exact .nested resolved (Bool.eq_false_iff.mpr free) rfl unread
        · cases h

/-- How reading the deck in a file fails. -/
inductive FileFails (options : ReadOptions) (files : FileSystem)
    (load : Path → Except Failure Slideshow) (path : Path) : Failure → Prop where
  | fault (fault : Fault) : FileFails options files load path (.fault fault)
  | notFile : FileFails options files load path (.ofError (.notFile path))
  | unreadable (fault : Fault) : FileFails options files load path (readFailure path fault)
  | text {chars : List Char} {failure : Failure} (file : files.isFile path = .ok true)
    (read : readText files options.encoding path = .ok chars)
    (unread : parseWith files load path.parent (String.ofList chars) = .error failure) :
    FileFails options files load path failure

theorem parseFileWith_eq_error {options : ReadOptions} {path : Path} {failure : Failure}
    (h : parseFileWith options files load path = .error failure) :
    FileFails options files load path failure := by
  unfold parseFileWith at h
  split at h
  · cases h
    exact .fault _
  · cases h
    exact .notFile
  · rename_i file
    split at h
    · cases h
      exact .unreadable _
    · rename_i read
      exact .text file read h

/-- **A freer reading covers a stricter one**: with no less room, with a look for cycles only if the
other has it too, and then after no other decks that can be found than those on the way of the other. -/
theorem importDeck_covers_of_found {options options' : ReadOptions}
    (encoding : options'.encoding = options.encoding)
    (looser : options'.detectCycles = true → options.detectCycles = true) :
    ∀ {budget budget' : Nat}, budget ≤ budget' → ∀ {way way' : List Path},
      (options'.detectCycles = true →
        ∀ q found, files.resolve q = .ok found → found ∈ way' → found ∈ way) →
      Covers (importDeck options files budget way) (importDeck options' files budget' way') := by
  intro budget
  induction budget with
  | zero =>
    intro budget' _ way way' _ path s h
    obtain ⟨_, _, _, room, _⟩ := importDeck_eq_ok h
    cases room
  | succ budget ih =>
    intro budget' le way way' fewer path s h
    obtain ⟨found, further, resolved, room, free, read⟩ := importDeck_eq_ok h
    cases room
    obtain ⟨further', rfl⟩ : ∃ further', budget' = further' + 1 :=
      ⟨budget' - 1, by omega⟩
    have free' : (options'.detectCycles && way'.contains found) = false := by
      cases hd : options'.detectCycles with
      | false => rfl
      | true =>
        have fresh : found ∉ way := by simpa [looser hd] using free
        simpa using fun passed => fresh (fewer hd path found resolved passed)
    have fewer' : options'.detectCycles = true → ∀ q other, files.resolve q = .ok other →
        other ∈ way' ++ [found] → other ∈ way ++ [found] := fun on q other there passed =>
      (List.mem_append.mp passed).elim (List.mem_append_left _ <| fewer on q other there ·)
        (List.mem_append_right _)
    exact importDeck_of_found resolved free'
      (parseFileWith_covers encoding (ih (by omega) fewer') found s read)

theorem importDeck_covers {options options' : ReadOptions}
    (encoding : options'.encoding = options.encoding)
    (looser : options'.detectCycles = true → options.detectCycles = true) {budget budget' : Nat}
    (le : budget ≤ budget') {way way' : List Path} (fewer : way' ⊆ way) :
    Covers (importDeck options files budget way) (importDeck options' files budget' way') :=
  importDeck_covers_of_found encoding looser le fun _ _ _ _ mem => fewer mem

/-- Without the look for cycles the way counts for nothing. -/
theorem importDeck_way {options : ReadOptions} (off : options.detectCycles = false)
    (budget : Nat) (way way' : List Path) :
    importDeck options files budget way = importDeck options files budget way' := by
  induction budget generalizing way way' with
  | zero =>
    funext path
    simp only [importDeck, off, Bool.false_and, Bool.false_eq_true, if_false]
  | succ budget ih =>
    funext path
    simp only [importDeck, off, Bool.false_and, Bool.false_eq_true, if_false]
    cases files.resolve path with
    | error fault => cases fault <;> rfl
    | ok found => simp only [ih (way ++ [found]) (way' ++ [found])]

/-! ## The guard -/

/-- Without a look for cycles, the deck in a file is read with so many levels of further imports. -/
def ReadsWithin (options : ReadOptions) (files : FileSystem) (levels : Nat) (found : Path) : Prop :=
  ∃ s, parseFileWith options files (importDeck options files levels []) found = .ok s

/-- **The guard refuses nothing that ends.** Where none of the decks on the way can be read with the
room that is left, a reading that looks for cycles covers one that does not.

By induction on the room. The deck that is found can be read with the room below, so it is none of
those on the way. If less room would have done, the import is that of less room, and done. If not,
the deck itself joins those that cannot be read with less. -/
theorem importDeck_guarded_covers {options guarded : ReadOptions}
    (off : options.detectCycles = false) (encoding : guarded.encoding = options.encoding) :
    ∀ (budget : Nat) (way : List Path),
      (∀ levels < budget, ∀ passed ∈ way, ¬ ReadsWithin options files levels passed) →
      Covers (importDeck options files budget way) (importDeck guarded files budget way) := by
  intro budget
  induction budget with
  | zero =>
    intro way _ path s h
    obtain ⟨_, _, _, room, _⟩ := importDeck_eq_ok h
    cases room
  | succ budget ih =>
    intro way hopeless path s h
    obtain ⟨found, further, resolved, room, _, read⟩ := importDeck_eq_ok h
    cases room
    have within : ReadsWithin options files budget found :=
      ⟨s, by rw [importDeck_way off budget [] (way ++ [found])]; exact read⟩
    have fresh : found ∉ way := fun passed => hopeless budget (by omega) found passed within
    have free : (guarded.detectCycles && way.contains found) = false := by
      simp [fresh]
    by_cases earlier : ∃ levels < budget, ReadsWithin options files levels found
    · obtain ⟨levels, less, s', read'⟩ := earlier
      have again : parseFileWith options files (importDeck options files levels (way ++ [found]))
          found = .ok s' := by
        rw [importDeck_way off levels (way ++ [found]) []]
        exact read'
      have same : s' = s := by
        have grown := parseFileWith_covers rfl
          (importDeck_covers rfl id (Nat.le_of_lt less) (List.Subset.refl (way ++ [found])))
          found s' again
        rw [read] at grown
        cases grown
        rfl
      have free' : (options.detectCycles && way.contains found) = false := by
        rw [off]
        rfl
      have smaller : importDeck options files budget way path = .ok s := by
        refine importDeck_covers rfl id (Nat.succ_le_of_lt less) (List.Subset.refl way) path s ?_
        exact importDeck_of_found resolved free' (same ▸ again)
      have hopeless' : ∀ levels < budget, ∀ passed ∈ way,
          ¬ ReadsWithin options files levels passed :=
        fun levels below => hopeless levels (by omega)
      exact importDeck_covers rfl id (Nat.le_succ budget) (List.Subset.refl way) path s
        (ih way hopeless' path s smaller)
    · refine importDeck_of_found resolved free (parseFileWith_covers encoding (ih _ ?_) found s read)
      intro levels below passed mem
      rcases List.mem_append.mp mem with old | new
      · exact hopeless levels (by omega) passed old
      · rw [List.mem_singleton.mp new]
        exact fun reads => earlier ⟨levels, below, reads⟩

/-! ## Whole decks -/

/-- A text that can be read can be read with a freer look at imports. -/
theorem parse_mono {options options' : ReadOptions} (encoding : options'.encoding = options.encoding)
    (looser : options'.detectCycles = true → options.detectCycles = true)
    (limit : options.importLimit ≤ options'.importLimit) {text : String} {s : Slideshow}
    (h : parse options files base text = .ok s) : parse options' files base text = .ok s := by
  have room : importBudget options [] ≤ importBudget options' [] := by
    unfold importBudget
    omega
  exact parseWith_covers (importDeck_covers encoding looser room (List.Subset.refl [])) h

/-- A text that can be read without a look for cycles can be read with one. -/
theorem parse_guarded {options guarded : ReadOptions} (off : options.detectCycles = false)
    (encoding : guarded.encoding = options.encoding)
    (limit : guarded.importLimit = options.importLimit) {text : String} {s : Slideshow}
    (h : parse options files base text = .ok s) : parse guarded files base text = .ok s := by
  have room : importBudget guarded [] = importBudget options [] := by
    unfold importBudget
    rw [limit]
  have covers : Covers (loader options files []) (loader guarded files []) := by
    unfold loader
    rw [room]
    exact importDeck_guarded_covers off encoding _ [] (by simp)
  exact parseWith_covers covers h

/-- **Looking for cycles refuses no deck that can be read without it, and changes none**; and what is
read within a limit is read the same within every greater one, with and without the look for
cycles. -/
theorem parse_unguarded_iff_and_mono (encoding : String) (limit : Int) (files : FileSystem)
    (base : Path) (text : String) (s : Slideshow) :
    (parse ⟨encoding, true, limit⟩ files base text = .ok s ↔
      parse ⟨encoding, false, limit⟩ files base text = .ok s) ∧
    ∀ detect, parse ⟨encoding, detect, limit⟩ files base text = .ok s →
      ∀ greater, limit ≤ greater → ∀ detect',
        parse ⟨encoding, detect', greater⟩ files base text = .ok s := by
  have free : ∀ detect, parse ⟨encoding, detect, limit⟩ files base text = .ok s →
      parse ⟨encoding, false, limit⟩ files base text = .ok s :=
    fun _ h => parse_mono (by rfl) (fun off => Bool.noConfusion off) (Int.le_refl limit) h
  have guarded : parse ⟨encoding, false, limit⟩ files base text = .ok s →
      parse ⟨encoding, true, limit⟩ files base text = .ok s :=
    fun h => parse_guarded (by rfl) (by rfl) (by rfl) h
  refine ⟨⟨free true, guarded⟩, fun detect h greater le detect' => ?_⟩
  have strict := guarded (free detect h)
  exact parse_mono (by rfl) (fun _ => rfl) le strict

/-- A deck that imports another one, with the least limit and with a greater one. -/
theorem parse_unguarded_iff_and_mono_import :
    parse ⟨"utf-8", true, 3⟩ ⟨[(["more.deck"], .file ":sl\n".toUTF8.toList)], []⟩
        (Path.ofString ".") ":im more.deck\n:sl\n" =
      .ok { slides := [{}, {}] } :=
  (parse_unguarded_iff_and_mono "utf-8" 1 _ _ _ _).2 false (by decide +kernel) 3 (by decide) true

end Deck

end SlideDeck
