import SlideDeck.Proofs.Reader.Failing

/-!
# Causes of errors

An error of an imported deck is raised again at each import on the way up, as an error of the deck that
holds the directive. The new error keeps the one that it comes from as its cause, with the token that
this was raised at. So an error stands for a list of errors, one for each deck that was being read
(`Located.withCauses`).

**The law** (`EntryPoint.causes_of_failure`): the list has one error for each import on the way down to
the failure, outermost first, and ends with the error that was raised there. An import that has no file
read, since its file is missing, is on the way already, or finds no room, is where that error is raised,
and adds none of its own.
-/

namespace SlideDeck

open Deck Draft

/-! ## Errors and what they come from -/

/-- The errors that an error comes from, nearest first: those of the decks that were being imported. -/
def DeckError.causes : DeckError → List (Located DeckError)
  | .inImport _ error token => ⟨error, token⟩ :: error.causes
  | _ => []

/-- An error, and all that it comes from. -/
def Located.withCauses (e : Located DeckError) : List (Located DeckError) :=
  e :: e.cause.causes

theorem DeckError.IsPlain.causes_eq_nil {e : DeckError} (h : e.IsPlain) : e.causes = [] := by
  cases e with
  | inImport => exact h.elim
  | _ => rfl

/-- An error as it is raised again at an import: at the directive, about the file that is read for it,
and in the class of import cycles if the innermost error is in it. -/
structure IsWrapper (innermost : Located DeckError) (step : ImportStep) (e : Located DeckError) :
    Prop where
  token : e.token = some step.token
  path : e.cause.path? = some step.found
  kind : e.cause.kind =
    if innermost.cause.kind = .importCycle then .importCycle else .recursiveParse

/-- **Each import on the way up wraps an error once**, by induction on the imports. The class of the
innermost error shows in every wrapper, as in the last one. -/
theorem exists_carried_eq (innermost : Located DeckError) (steps : List ImportStep) :
    ∃ e wrappers, carried steps (.deck innermost) = .deck e ∧
      e.withCauses = wrappers ++ innermost.withCauses ∧
      List.Forall₂ (IsWrapper innermost) steps wrappers ∧
      (e.cause.kind = .importCycle ↔ innermost.cause.kind = .importCycle) := by
  induction steps with
  | nil => exact ⟨innermost, [], rfl, rfl, .nil, Iff.rfl⟩
  | cons step steps ih =>
    obtain ⟨below, wrappers, up, causes, wrap, same⟩ := ih
    have kind : (DeckError.inImport step.found below.cause below.token).kind =
        if innermost.cause.kind = .importCycle then .importCycle else .recursiveParse := by
      simp only [DeckError.kind, same]
    refine ⟨⟨.inImport step.found below.cause below.token, some step.token⟩,
      ⟨.inImport step.found below.cause below.token, some step.token⟩ :: wrappers, ?_, ?_,
      .cons ⟨rfl, rfl, kind⟩ wrap, ?_⟩
    · rw [carried, List.foldr_cons, ← carried, up]
      rfl
    · rw [List.cons_append, ← causes]
      rfl
    · rw [kind]
      split
      · rename_i cycle
        exact iff_of_true rfl cycle
      · rename_i other
        refine iff_of_false (fun cycle => ?_) other
        cases cycle

/-! ## Imports that have no file read -/

namespace Reading

variable {options : ReadOptions} {files : FileSystem} {r : Reading} {path : Path} {cause : DeckError}

/-- Why no file is read for an import, with the error that tells of it. -/
inductive Bars (options : ReadOptions) (files : FileSystem) (r : Reading) (path : Path) :
    DeckError → Prop where
  | missing {fault : Fault} (unresolved : files.resolve path = .error fault)
    (noLoop : ∀ place, fault ≠ .linkLoop place) : Bars options files r path (.importNotFound path fault)
  | guarded {found : Path} (resolved : files.resolve path = .ok found)
    (guarded : (options.detectCycles && r.way.contains found) = true) :
    Bars options files r path (.importCycle (r.way ++ [found]) found)
  | full {found : Path} (resolved : files.resolve path = .ok found)
    (free : (options.detectCycles && r.way.contains found) = false)
    (full : options.importLimit ≤ r.way.length) :
    Bars options files r path (.importTooDeep options.importLimit found)

theorem Bars.loader_eq (h : r.Bars options files path cause) :
    loader options files r.way path = .error (.ofError cause) := by
  rw [Deck.loader_eq]
  unfold importWith
  cases h with
  | @missing fault unresolved noLoop =>
    rw [unresolved]
    cases fault with
    | linkLoop place => exact absurd rfl (noLoop place)
    | _ => rfl
  | guarded resolved guarded => simp only [resolved, guarded, if_true]
  | full resolved free full =>
    simp only [resolved, free, Bool.false_eq_true, if_false, if_pos full]

/-- **An import that has no file read is where its error is raised.** -/
theorem Bars.fails {t : Token} {written : String} {place : Span} {rest : List Token}
    (bars : r.Bars options files (r.base.join (Path.ofString written)) cause)
    (left : r.unread options files = t :: ⟨.word written, place⟩ :: rest)
    (directive : t.lexeme = .directive .importDeck) :
    r.Fails options files [] (.deck ⟨cause, some t⟩) := by
  refine .own (fun step enters => ?_) ?_
  · rw [left] at enters
    cases enters with
    | intro resolved free room =>
      cases bars with
      | missing unresolved =>
        rw [resolved] at unresolved
        cases unresolved
      | guarded resolved' guarded =>
        cases resolved.symm.trans resolved'
        rw [free] at guarded
        cases guarded
      | full _ _ full => omega
  · obtain ⟨failure, load, failed⟩ := outcome_of_import left directive
    cases bars.loader_eq.symm.trans load
    exact failed

/-- The error of a file that holds no text comes from no other. -/
theorem causes_of_deckText {e : Located DeckError}
    (h : deckText options files path = .error (.deck e)) : e.cause.causes = [] := by
  unfold deckText at h
  split at h
  · cases h
  · cases h
    rfl
  · split at h
    · rename_i fault _
      have told : readFailure path fault = .deck e := Except.error.inj h
      unfold readFailure at told
      split at told <;> cases told <;> rfl
    · cases h

/-- **The error that is found comes from no other**: where nothing is entered, a reader passes on no
error of another deck. -/
theorem Fails.causes_eq_nil {steps : List ImportStep} {failure : Failure} {e : Located DeckError}
    (h : r.Fails options files steps failure) (deck : failure = .deck e) : e.cause.causes = [] := by
  induction h with
  | nested _ _ _ ih => exact ih deck
  | unopened _ unopened =>
    rw [deck] at unopened
    exact causes_of_deckText unopened
  | @own r _ outside raised =>
    subst deck
    obtain ⟨t, after, reached, failure, left, fails, attached⟩ := stops_of_outcome raised
    have about : reached.ComplainsOf fun e => e.causes = [] :=
      .of_all (fun _ plain => plain.causes_eq_nil) rfl rfl rfl reached
    cases stems_of_apply about fails with
    | own such =>
      cases attached
      exact such
    | fault fault => cases attached
    | load mem unread =>
      cases importDeck_eq_error unread with
      | linkLoop => cases attached
      | notFound | cycle | tooDeep =>
        cases attached
        rfl
      | nested resolved free room _ =>
        obtain ⟨step, enters⟩ := enters_of_asked mem resolved free room
        rw [← left] at enters
        exact absurd enters (outside step)

end Reading

/-! ## The law -/

namespace EntryPoint

variable {options : ReadOptions} {files : FileSystem} {entry : EntryPoint}

theorem Fails.causes_eq_nil {steps : List ImportStep} {e : Located DeckError}
    (h : entry.Fails options files steps (.deck e)) : e.cause.causes = [] := by
  cases h with
  | reader _ fails => exact fails.causes_eq_nil rfl
  | unopened _ unopened => exact Reading.causes_of_deckText unopened

/-- **An error is wrapped once for each import on the way up.** Where having a deck read fails some
imports down, what is raised stands for one error for each of them, told at its directive and about its
file, and for the error that is found there. They are import cycles if this is one, and errors of
imported decks else. Whatever is raised for a deck is found so. And an import whose file is missing, is
on the way already, or finds no room, raises its error where it stands, no import further down. -/
theorem causes_of_failure (options : ReadOptions) (files : FileSystem) (entry : EntryPoint) :
    (∀ steps innermost, entry.Fails options files steps (.deck innermost) →
      ∃ e wrappers, entry.outcome options files = .error (.deck e) ∧
        e.withCauses = wrappers ++ [innermost] ∧
        List.Forall₂ (IsWrapper innermost) steps wrappers) ∧
    (∀ e, entry.outcome options files = .error (.deck e) →
      ∃ steps innermost, entry.Fails options files steps (.deck innermost)) ∧
    (∀ (r : Reading) (t : Token) (written : String) (place : Span) (rest : List Token)
      (cause : DeckError),
      r.unread options files = t :: ⟨.word written, place⟩ :: rest →
      t.lexeme = .directive .importDeck →
      r.Bars options files (r.base.join (Path.ofString written)) cause →
      r.Fails options files [] (.deck ⟨cause, some t⟩)) := by
  refine ⟨fun steps innermost fails => ?_, fun e raised => ?_,
    fun r t written place rest cause left directive bars => bars.fails left directive⟩
  · obtain ⟨e, wrappers, up, causes, wrap, -⟩ := exists_carried_eq innermost steps
    refine ⟨e, wrappers, by rw [fails.outcome_eq, up], ?_, wrap⟩
    rw [causes, Located.withCauses, fails.causes_eq_nil]
  · obtain ⟨steps, inner, fails⟩ := exists_fails raised
    rw [fails.outcome_eq] at raised
    cases inner with
    | deck innermost => exact ⟨steps, innermost, fails⟩
    | fault fault =>
      rw [carried_eq_fault_iff.mpr rfl] at raised
      cases raised

/-- Two decks that import each other, imported: the cycle is found two imports down, and both wrappers
are import cycles. -/
theorem causes_of_failure_cycle :
    let a : Path := ⟨.root, ["a.deck"]⟩
    let b : Path := ⟨.root, ["b.deck"]⟩
    let files : FileSystem := ⟨[(["a.deck"], .file ":im b.deck\n".toUTF8.toList),
      (["b.deck"], .file ":sl\n:im a.deck\n".toUTF8.toList)], []⟩
    let innermost : Located DeckError :=
      ⟨.importCycle [a, b, a] a, some ⟨.directive .importDeck, ⟨1, 0, 3⟩⟩⟩
    ∃ e wrappers, outcome {} files (.text "." ":sl\n:tb\n:im a.deck\n") = .error (.deck e) ∧
      e.withCauses = wrappers ++ [innermost] ∧
      List.Forall₂ (IsWrapper innermost)
        [⟨⟨.directive .importDeck, ⟨2, 0, 3⟩⟩, a⟩, ⟨⟨.directive .importDeck, ⟨0, 0, 3⟩⟩, b⟩]
        wrappers := by
  intro a b files innermost
  have law := causes_of_failure {} files (.text "." ":sl\n:tb\n:im a.deck\n")
  let outer : Reading := ⟨Path.ofString ".", [], [":sl\n:tb\n:im a.deck\n"]⟩
  let inA : Reading := outer.inside a ":im b.deck\n"
  let inB : Reading := inA.inside b ":sl\n:im a.deck\n"
  have first : outer.unread {} files =
      [⟨.directive .importDeck, ⟨2, 0, 3⟩⟩, ⟨.word "a.deck", ⟨2, 4, 10⟩⟩] := by decide +kernel
  have second : inA.unread {} files =
      [⟨.directive .importDeck, ⟨0, 0, 3⟩⟩, ⟨.word "b.deck", ⟨0, 4, 10⟩⟩] := by decide +kernel
  have third : inB.unread {} files =
      [⟨.directive .importDeck, ⟨1, 0, 3⟩⟩, ⟨.word "a.deck", ⟨1, 4, 10⟩⟩] := by decide +kernel
  have found : inB.Fails {} files [] (.deck innermost) :=
    law.2.2 inB _ _ _ _ _ third rfl (.guarded (by decide +kernel) (by decide +kernel))
  refine law.1 _ _ (.reader (.text ..) (.nested ?_ (by decide +kernel) (.nested ?_ ?_ found)))
  · rw [first]
    exact .intro (by decide +kernel) rfl (by decide)
  · rw [second]
    exact .intro (by decide +kernel) rfl (by decide)
  · decide +kernel

end EntryPoint

end SlideDeck
