import SlideDeck.Command.Run
import SlideDeck.Proofs.Files.Refusals
import SlideDeck.Proofs.Reader.Escapes

/-!
# How runs end

A run that is given an existing file returns 0, or reports one error and returns 1 (`Command.Settled`).
Reading fails with errors of the deck or refusals of the file system, if no links lead back to themselves,
and so does writing; both are reported. What is not reported is that a slideshow cannot be drawn, which
is neither: a font size out of range, a number that is infinite or none, a character that no drawing
holds, an image with too many pixels.

**The law** (`Command.run_settles`): a run escapes with exactly these errors, and exactly where the
slideshow that was read, printed if it was to be, cannot be drawn (`Command.CannotDraw`), whatever formats
of images are known. All other runs are settled.
-/

namespace SlideDeck

/-! ## Reading without loops -/

/-- A failure that is reported: an error of a deck or a document, or a refusal. -/
def Failure.IsReported : Failure → Prop
  | .deck _ => True
  | .fault f => f.IsRefusal

/-- Without loops, only the refusal of a path that is too long comes through a reader. -/
theorem Reading.Escapes.isRefusal {options : ReadOptions} {files : FileSystem} {r : Reading}
    {fault : Fault} (loopFree : files.LoopFree) (h : r.Escapes options files fault) :
    fault.IsRefusal := by
  induction h with
  | figure _ _ _ loops => exact absurd loops (loopFree _ _).1
  | importDeck _ _ loops => exact absurd loops (loopFree _ _).1
  | tooLong => trivial
  | nested _ _ _ ih => exact ih

/-- The path of an existing file holds no U+0000. -/
theorem FileSystem.nulFree_of_isFile {files : FileSystem} {path : Path}
    (there : files.isFile path = .ok true) : NulFree path.names := by
  refine Path.nulFree_of_text fun nul => ?_
  unfold isFile stat locate at there
  simp only [List.contains_iff_mem.mpr nul, if_true] at there
  cases there

namespace Command

variable {files : FileSystem} {o : Options}

/-- **Reading an existing file fails with failures that are reported**, if there are no loops. -/
theorem isReported_of_readInput (loopFree : files.LoopFree) (nulFree : files.IsNulFree)
    (there : files.isFile (Path.ofString o.path) = .ok true) :
    Raises Failure.IsReported (readInput o files) := by
  intro failure failed
  cases failure with
  | deck e => trivial
  | fault fault =>
    unfold readInput at failed
    simp only at failed
    split at failed
    · -- A document: what is wrong with its bytes or its text is an error of its own.
      unfold Document.load at failed
      split at failed
      · rename_i other unread
        obtain ⟨bytes, rfl⟩ := undecodable_of_readText there unread
        cases failed
      · split at failed <;> cases failed
    · have failed : EntryPoint.outcome {} files (.file o.path) = .error (.fault fault) := failed
      obtain ⟨steps, inner, fails⟩ := EntryPoint.exists_fails failed
      rw [fails.outcome_eq] at failed
      obtain rfl := carried_eq_fault_iff.mp (Except.error.inj failed)
      cases fails with
      | reader _ fails => exact (fails.escapes rfl rfl).isRefusal loopFree
      | unopened _ unopened =>
        have refused := Deck.isFile_of_deckText rfl unopened
        rw [there] at refused
        cases refused
      | unresolved unresolved =>
        have clean := FileSystem.nulFree_of_isFile there
        obtain ⟨place, rfl⟩ := nulFree.resolveLenient_eq_error clean unresolved
        exact absurd unresolved (loopFree _ _).2

/-! ## Endings -/

variable {images : Image.Formats} {level : Level} {st : State}

/-- A run that has ended as it should: with 0, or with 1 after one report of an error. Before that,
nothing but events is told. -/
inductive Settled (level : Level) : State × Ending → Prop where
  | done {st : State} {events : List Event} (told : st.err = logLines level events) :
    Settled level (st, .returned 0)
  | reported {st : State} {events : List Event} {message : String}
    (told : st.err = logLines level events ++ ("ERROR: " ++ message ++ "\n")) :
    Settled level (st, .returned 1)

/-- A slideshow is to be drawn, and the folders on the way to its drawing are made, but it cannot be
drawn. -/
inductive DrawingFails (images : Image.Formats) (files : FileSystem) (o : Options) (s : Slideshow) :
    DrawingError → Prop where
  | intro {written : String} {ready : FileSystem} {e : DrawingError} (asked : o.pptx = some written)
    (filled : written ≠ "") (folders : files.makeParents (Path.ofString written) = (ready, .ok ()))
    (fails : (s.draw { images } ready).result = .error e) : DrawingFails images files o s e

/-- A slideshow is read, and printed if it is to be, but it cannot be drawn. -/
inductive CannotDraw (images : Image.Formats) (files : FileSystem) (o : Options) :
    DrawingError → Prop where
  | intro {s : Slideshow} {e : DrawingError} (read : readInput o files = .ok s)
    (printed : o.text = true → ∃ text, s.toDeck = .ok text) (fails : DrawingFails images files o s e) :
    CannotDraw images files o e

@[simp]
theorem logLines_append (level : Level) (events more : List Event) :
    logLines level (events ++ more) = logLines level events ++ logLines level more := by
  simp only [logLines, List.filter_append, List.map_append, String.join_append]

/-- Events that are told come after those told before. -/
theorem err_tell (tells : o.threshold? = some level) {events : List Event}
    (told : st.err = logLines level events) (more : List Event) :
    (st.tell o more).err = logLines level (events ++ more) := by
  rw [logLines_append, ← told, State.tell, tells]
  rfl

@[simp]
theorem files_tell (events : List Event) : (st.tell o events).files = st.files := by
  unfold State.tell
  split <;> rfl

/-- A failure that is reported settles a run. -/
theorem settled_fail {events : List Event} (told : st.err = logLines level events)
    {failure : Failure} (h : failure.IsReported) : Settled level (fail st failure) := by
  have complains : ∀ message, (st.complain message).err =
      logLines level events ++ ("ERROR: " ++ message ++ "\n") := fun message => by
    rw [← told]
    rfl
  cases failure with
  | deck e => exact .reported (complains _)
  | fault f =>
    cases f with
    | refused why path => exact .reported (complains _)
    | _ => cases h

/-- A drawing fails where the file system refuses its file or a folder of it, or where the slideshow
cannot be drawn. -/
theorem error_of_draw {style : Style} {s : Slideshow} {out : Path} (clean : NulFree out.names)
    {error : BackendError} (h : (Backend.draw style files s out).result = .error error) :
    (∃ f, error = .fault f ∧ f.IsRefusal) ∨
      ∃ ready e, error = .drawing e ∧ files.makeParents out = (ready, .ok ()) ∧
        (s.draw style ready).result = .error e := by
  unfold Backend.draw at h
  split at h
  · rename_i f folders
    cases h
    exact .inl ⟨f, rfl, FileSystem.raises_makeParents clean f (congrArg Prod.snd folders)⟩
  · rename_i ready folders
    split at h
    · rename_i e fails
      cases h
      exact .inr ⟨ready, e, rfl, folders, congrArg Drawn.result fails⟩
    · unfold Output.save at h
      split at h
      · rename_i f unwritten
        cases h
        exact .inl ⟨f, rfl, FileSystem.raises_writeBytes clean _ f unwritten⟩
      · cases h

theorem draw_of_error {style : Style} {s : Slideshow} {out : Path} {ready : FileSystem}
    {e : DrawingError} (folders : files.makeParents out = (ready, .ok ()))
    (fails : (s.draw style ready).result = .error e) :
    (Backend.draw style files s out).result = .error (.drawing e) := by
  unfold Backend.draw
  rw [folders]
  simp only
  split
  · rename_i e' same
    rw [same] at fails
    cases fails
    rfl
  · rename_i d same
    rw [same] at fails
    cases fails

/-- Drawing settles a run, unless the slideshow cannot be drawn. -/
theorem settled_drawIfAsked (tells : o.threshold? = some level) {events : List Event}
    (told : st.err = logLines level events)
    (clean : ∀ written, o.pptx = some written → '\x00' ∉ written.toList) (s : Slideshow) :
    Settled level (drawIfAsked images o s st) ∨ ∃ e, DrawingFails images st.files o s e := by
  have printed : ∀ text, (st.print text).err = logLines level events := fun _ => told
  unfold drawIfAsked
  split
  · refine .inl ?_
    split
    · exact .done told
    · exact .done (printed _)
  · refine .inl ?_
    split
    · exact .done told
    · exact .done (printed _)
  · rename_i written other asked
    have names := Path.nulFree_ofString (clean written asked)
    let r := Backend.draw { images } st.files s (Path.ofString written)
    have drawn : ({ st with files := r.files } : State).err = logLines level events := told
    have warned := err_tell tells drawn (r.warnings.map Event.imageMissing)
    have closed := err_tell tells warned [.drawn s.slides.length (Path.ofString written)]
    simp only
    split
    · rename_i error failed
      rcases error_of_draw names failed with ⟨f, rfl, refusal⟩ | ⟨ready, e, rfl, folders, fails⟩
      · exact .inl (settled_fail warned refusal)
      · exact .inr ⟨e, .intro asked other folders fails⟩
    · exact .inl (.done closed)

/-- A run that cannot draw its slideshow ends with this. -/
theorem escaped_of_drawingFails {s : Slideshow} {e : DrawingError} (h : DrawingFails images st.files o s e) :
    (drawIfAsked images o s st).2 = .escaped (.backend (.drawing e)) := by
  obtain ⟨asked, filled, folders, fails⟩ := h
  unfold drawIfAsked
  rw [asked]
  split
  · contradiction
  · rename_i empty
    exact absurd (Option.some.inj empty) filled
  · rename_i same
    cases same
    simp only [draw_of_error folders fails]
    rfl

/-- A run that prints what is to be printed goes on to draw. -/
theorem printIfAsked_of_printed (tells : o.threshold? = some level) {events : List Event}
    (told : st.err = logLines level events) {s : Slideshow}
    (printed : o.text = true → ∃ text, s.toDeck = .ok text) :
    ∃ st' events', st'.files = st.files ∧ st'.err = logLines level events' ∧
      printIfAsked images o s st = drawIfAsked images o s st' := by
  unfold printIfAsked
  split
  · rename_i text
    obtain ⟨text, deck⟩ := printed text
    rw [deck]
    exact ⟨(st.tell o (fontEvents s)).print text, _, files_tell _, err_tell tells told _, rfl⟩
  · exact ⟨st, events, rfl, told, rfl⟩

/-- Printing settles a run that fails in it; any other is settled, or its slideshow cannot be drawn. -/
theorem settled_printIfAsked (tells : o.threshold? = some level) {events : List Event}
    (told : st.err = logLines level events)
    (clean : ∀ written, o.pptx = some written → '\x00' ∉ written.toList) (s : Slideshow) :
    Settled level (printIfAsked images o s st) ∨
      (o.text = true → ∃ text, s.toDeck = .ok text) ∧ ∃ e, DrawingFails images st.files o s e := by
  by_cases printed : o.text = true → ∃ text, s.toDeck = .ok text
  · obtain ⟨st', events', same, told', goes⟩ := printIfAsked_of_printed tells told printed
    rw [goes, ← same]
    exact (settled_drawIfAsked tells told' clean s).imp_right fun fails => ⟨printed, fails⟩
  · obtain ⟨text, unprinted⟩ := Classical.not_imp.mp printed
    unfold printIfAsked
    rw [if_pos text]
    split
    · exact .inl (settled_fail told trivial)
    · rename_i deck
      exact absurd ⟨_, deck⟩ unprinted

/-- A run that has read a slideshow goes on to print it. -/
theorem runOptions_of_read (tells : o.threshold? = some level) {s : Slideshow}
    (read : readInput o files = .ok s) :
    ∃ st events, st.files = files ∧ st.err = logLines level events ∧
      runOptions images files o = printIfAsked images o s st := by
  have start : (State.err { files }) = logLines level [] := rfl
  have told := err_tell tells start (inputEvents o files)
  unfold runOptions
  simp only [tells, read, dumpIfAsked]
  split
  · exact ⟨(State.tell { files } o _).print _, _, files_tell _, told, rfl⟩
  · exact ⟨_, _, files_tell _, told, rfl⟩

/-- A run that is given an existing file is settled, or the slideshow cannot be drawn. -/
theorem settled_runOptions (loopFree : files.LoopFree) (nulFree : files.IsNulFree)
    (tells : o.threshold? = some level) (there : files.isFile (Path.ofString o.path) = .ok true)
    (clean : ∀ written, o.pptx = some written → '\x00' ∉ written.toList) :
    Settled level (runOptions images files o) ∨ ∃ e, CannotDraw images files o e := by
  cases read : readInput o files with
  | error failure =>
    have start : (State.err { files }) = logLines level [] := rfl
    have told := err_tell tells start (inputEvents o files)
    unfold runOptions
    simp only [tells, read]
    exact .inl (settled_fail told (isReported_of_readInput loopFree nulFree there failure read))
  | ok s =>
    obtain ⟨st, events, same, told, goes⟩ := runOptions_of_read tells read
    rw [goes]
    rcases settled_printIfAsked tells told clean s with settled | ⟨printed, e, fails⟩
    · exact .inl settled
    · rw [same] at fails
      exact .inr ⟨e, .intro read printed fails⟩

/-- A slideshow that cannot be drawn is what the run ends with. -/
theorem escaped_of_cannotDraw (tells : o.threshold? = some level) {e : DrawingError}
    (h : CannotDraw images files o e) :
    (runOptions images files o).2 = .escaped (.backend (.drawing e)) := by
  obtain ⟨read, printed, fails⟩ := h
  obtain ⟨st, events, same, told, goes⟩ := runOptions_of_read tells read
  obtain ⟨st', _, same', _, goes'⟩ := printIfAsked_of_printed tells told printed
  rw [goes, goes']
  refine escaped_of_drawingFails ?_
  rw [same', same]
  exact fails

/-! ## The law -/

/-- **A run on an existing file returns 0, or reports an error and returns 1, or escapes with the error
that keeps the slideshow from being drawn**; and it escapes so exactly where the slideshow cannot be
drawn. -/
theorem run_settles {files : FileSystem} {images : Image.Formats} (loopFree : files.LoopFree)
    (nulFree : files.IsNulFree) {words : List String} {o : Options}
    (asked : Options.ofWords words = .ok (.run o)) {level : Level}
    (tells : o.threshold? = some level) (there : files.isFile (Path.ofString o.path) = .ok true)
    (clean : ∀ written, o.pptx = some written → '\x00' ∉ written.toList) :
    ((∀ escape, (run files words images).2 ≠ .escaped escape) → Settled level (run files words images)) ∧
      ∀ escape, (run files words images).2 = .escaped escape ↔
        ∃ e, escape = .backend (.drawing e) ∧ CannotDraw images files o e := by
  have runs : run files words images = runOptions images files o := by
    unfold run
    rw [asked]
  rw [runs]
  have ends : Settled level (runOptions images files o) ∨ ∃ e, CannotDraw images files o e :=
    settled_runOptions loopFree nulFree tells there clean
  refine ⟨fun quiet => ?_, fun escape => ⟨fun escaped => ?_, ?_⟩⟩
  · rcases ends with settled | ⟨e, cannot⟩
    · exact settled
    · exact absurd (escaped_of_cannotDraw tells cannot) (quiet _)
  · rcases ends with settled | ⟨e, cannot⟩
    · generalize runOptions images files o = ended at settled escaped
      cases settled <;> cases escaped
    · cases (escaped_of_cannotDraw tells cannot).symm.trans escaped
      exact ⟨e, rfl, cannot⟩
  · rintro ⟨e, rfl, cannot⟩
    exact escaped_of_cannotDraw tells cannot

/-- An import that is missing is reported, however the deck is to be printed and drawn. -/
theorem run_settles_missing :
    Settled .warning
      (run ⟨[(["a.deck"], .file ":sl\n:tb\nx\n:im b.deck\n".toUTF8.toList)], []⟩
        ["a.deck", "--json", "--text", "--pptx", "out.pptx"]) := by
  let files : FileSystem := ⟨[(["a.deck"], .file ":sl\n:tb\nx\n:im b.deck\n".toUTF8.toList)], []⟩
  let words : List String := ["a.deck", "--json", "--text", "--pptx", "out.pptx"]
  have noLinks : files.HasNoLinks := fun _ _ mem => nomatch List.mem_singleton.mp mem
  have asked : Options.ofWords words = .ok (.run ⟨"a.deck", true, true, some "out.pptx", false,
      some .warning, false⟩) := by decide +kernel
  have ended : (run files words).2 = .returned 1 := by decide +kernel
  refine (run_settles noLinks.loopFree ⟨fun l t mem => absurd mem (noLinks l t), nofun⟩ asked
    (by rfl) (by decide +kernel) ?_).1 ?_
  · rintro written ⟨⟩
    decide
  · rw [ended]
    exact nofun

/-- A size that is too small: the deck is read, and no drawing of it is made, nor is an error
reported. -/
theorem run_escapes_fontSize :
    let files : FileSystem :=
      ⟨[(["deck.slidy"], .file ":sl\n:tb\n:sz 0.1 0.0001\nx\n".toUTF8.toList)], []⟩
    files.LoopFree ∧ files.isFile (Path.ofString "deck.slidy") = .ok true ∧
      (run files ["deck.slidy", "--pptx", "out.pptx"]).2 =
        .escaped (.backend (.drawing (.fontSize 5))) := by
  intro files
  have noLinks : files.HasNoLinks := fun _ _ mem => nomatch List.mem_singleton.mp mem
  exact ⟨noLinks.loopFree, by decide +kernel, by decide +kernel⟩

end Command

end SlideDeck
