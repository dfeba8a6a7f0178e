import SlideDeck.Backend
import SlideDeck.Proofs.Outcome
import SlideDeck.Proofs.Text.Split

/-!
# What file systems refuse

Most of what goes wrong with a path is refused by the file system, and told as such. Two faults are
found before it is asked: that the path holds U+0000, and that its links lead back to themselves. The
first does not happen with texts that hold none: names and targets of links are parts of such texts, if
the file system is one that can exist (`FileSystem.IsNulFree`). The second is a matter of the links
(`FileSystem.LoopFree`).

**The law** (`IsNulFree.resolveLenient_eq_error`, `raises_makeParents`, `raises_writeBytes`): without
U+0000, the lenient walk fails on loops only, and making folders and writing files are refused or
succeed.
-/

namespace SlideDeck

/-! ## Names without U+0000 -/

/-- Names that do not hold U+0000. -/
def NulFree (names : List String) : Prop :=
  ∀ name ∈ names, '\x00' ∉ name.toList

theorem noNul_intercalate {names : List String} (h : NulFree names) :
    '\x00' ∉ ("/".intercalate names).toList := by
  intro nul
  rw [String.toList_intercalate] at nul
  rcases Text.mem_intercalate nul with same | ⟨piece, hp, mem⟩
  · cases same
  · obtain ⟨name, hn, rfl⟩ := List.mem_map.mp hp
    exact h name hn mem

theorem nulFree_slashPieces {s : String} (h : '\x00' ∉ s.toList) : NulFree (slashPieces s) := by
  intro name mem nul
  obtain ⟨piece, hp, rfl⟩ := List.mem_map.mp mem
  rw [String.toList_ofList] at nul
  have joined : ['/'].intercalate (s.toList.splitOn '/') = s.toList := List.intercalate_splitOn '/'
  refine h ?_
  rw [← joined]
  exact Text.mem_intercalate_of_mem nul hp

namespace Path

theorem noNul_text {p : Path} (h : NulFree p.names) : '\x00' ∉ p.text.toList := by
  unfold text
  split
  · decide
  · rw [String.toList_append, List.mem_append]
    rintro (nul | nul)
    · cases ha : p.anchor <;> rw [ha] at nul <;> revert nul <;> decide
    · exact noNul_intercalate h nul

/-- The names of a path are parts of its text. -/
theorem nulFree_of_text {p : Path} (h : '\x00' ∉ p.text.toList) : NulFree p.names := by
  intro name mem nul
  refine h ?_
  have some : ¬ (p.anchor = .relative ∧ p.names = []) := fun none => by
    rw [none.2] at mem
    cases mem
  rw [text, if_neg some, String.toList_append, String.toList_intercalate]
  exact List.mem_append_right _ (Text.mem_intercalate_of_mem nul (List.mem_map_of_mem mem))

theorem nulFree_ofString {s : String} (h : '\x00' ∉ s.toList) : NulFree (ofString s).names :=
  fun name mem => nulFree_slashPieces h name (List.mem_of_mem_filter mem)

end Path

namespace Trail

variable {t : Trail} {names : List String}

theorem noNul_text (h : NulFree t.names) : '\x00' ∉ t.text.toList := by
  have reversed : NulFree t.names.reverse := fun name mem => h name (List.mem_reverse.mp mem)
  unfold text
  split
  · rw [String.toList_append, List.mem_append]
    rintro (nul | nul)
    · revert nul
      decide
    · exact noNul_intercalate reversed nul
  · refine noNul_intercalate fun name mem => ?_
    rcases List.mem_append.mp mem with dots | mem
    · obtain ⟨-, rfl⟩ := List.mem_replicate.mp dots
      decide
    · exact reversed name mem

theorem nulFree_push (h : NulFree t.names) {name : String} (clean : '\x00' ∉ name.toList) :
    NulFree (t.push name).names :=
  List.forall_mem_cons.mpr ⟨clean, h⟩

theorem nulFree_pop (h : NulFree t.names) : NulFree t.pop.names := by
  unfold pop
  split
  · rename_i names start there
    rw [there] at h
    exact (List.forall_mem_cons.mp h).2
  · exact h
  · exact nofun

theorem nulFree_ofTarget (h : NulFree t.names) (target : String) :
    NulFree (ofTarget t target).names := by
  unfold ofTarget
  split
  · exact nofun
  · exact h

theorem nulFree_append (h : NulFree t.names) (clean : NulFree names) :
    NulFree (t.append names).names := by
  unfold append
  induction names generalizing t with
  | nil => exact h
  | cons name rest ih =>
    obtain ⟨first, rest⟩ := List.forall_mem_cons.mp clean
    rw [List.foldl_cons]
    refine ih ?_ rest
    split
    · exact h
    split
    · exact nulFree_pop h
    · exact nulFree_push h first

theorem nulFree_leave (h : NulFree t.names) (clean : NulFree names) :
    NulFree (t.leave names).names := by
  unfold leave
  split
  · exact nulFree_append (by exact nofun) (List.forall_mem_cons.mp clean).2
  · exact nulFree_append h clean

theorem nulFree_location (h : NulFree t.names) {here : Location} (clean : NulFree here) :
    NulFree (t.location here) := by
  unfold location
  split
  · exact h
  · exact List.forall_mem_append.mpr
      ⟨h, fun name mem => clean name ((List.drop_sublist _ here).subset mem)⟩

end Trail

/-- What a walk comes to, when no name of it holds U+0000. -/
def WalkEnd.IsNulFree : WalkEnd → Prop
  | .arrived t | .looped t => NulFree t.names

/-- A fault that a file system answers with. -/
def Fault.IsRefusal : Fault → Prop
  | .refused .. => True
  | _ => False

/-! ## Walks -/

namespace FileSystem

variable {fs : FileSystem} {t : Trail} {names : List String} {p : Path} {fault : Fault}

/-- A file system as there are: no target of a link holds U+0000, and no name of the current folder
does. -/
structure IsNulFree (fs : FileSystem) : Prop where
  links : ∀ location target, (location, Entry.link target) ∈ fs.entries → '\x00' ∉ target.toList
  here : NulFree fs.here

/-- A file system where no path meets links that lead back to themselves. -/
def LoopFree (fs : FileSystem) : Prop :=
  ∀ p place, fs.resolve p ≠ .error (.linkLoop place) ∧
    fs.resolveLenient p ≠ .error (.linkLoop place)

/-- What stands at a location is an entry, unless it is a folder: the root is none. -/
theorem mem_entries_of_status {l : Location} {e : Entry} (h : fs.status l = .ok e)
    (noFolder : e ≠ .folder) : (l, e) ∈ fs.entries := by
  cases l with
  | nil =>
    cases h
    exact absurd rfl noFolder
  | cons name folder =>
    unfold status at h
    split at h
    · cases h
    · split at h
      · cases h
      split at h
      · rename_i entry there
        cases h
        obtain ⟨before, after, entries, -⟩ := List.lookup_eq_some_iff.mp there
        rw [entries]
        exact List.mem_append_right _ List.mem_cons_self
      · cases h
    · cases h

theorem status_of_look {e : Entry} (h : fs.look t = .ok e) :
    fs.status (t.location fs.here) = .ok e := by
  unfold look at h
  simp only at h
  split at h
  · cases h
  split at h
  · cases h
  split at h
  · rename_i stands
    cases h
    exact stands
  · cases h

theorem look_ne_linkLoop (place : String) : fs.look t ≠ .error (.linkLoop place) := by
  intro loop
  unfold look at loop
  simp only at loop
  split at loop
  · cases loop
  split at loop
  · cases loop
  split at loop <;> cases loop

/-- What is looked at is there, or refused. -/
theorem raises_look (h : NulFree t.names) : Raises Fault.IsRefusal (fs.look t) := by
  unfold look
  simp only [List.contains_eq_mem, Trail.noNul_text h, decide_false, Bool.false_eq_true, if_false]
  split
  · exact .error trivial
  split
  · exact .ok _
  · exact .error trivial

/-- A lenient walk comes to an end if the walks of links do. -/
theorem IsNulFree.exists_walkWith (nulFree : fs.IsNulFree) {busy : List Trail}
    {enter : Trail → Trail → List String → Except Fault WalkEnd}
    (follows : ∀ link t names, NulFree link.names → NulFree t.names → NulFree names →
      ∃ e, enter link t names = .ok e ∧ e.IsNulFree)
    (start : NulFree t.names) (clean : NulFree names) :
    ∃ e, fs.walkWith false busy enter t names = .ok e ∧ e.IsNulFree := by
  induction names generalizing t with
  | nil => exact ⟨_, rfl, start⟩
  | cons name rest ih =>
    obtain ⟨first, clean⟩ := List.forall_mem_cons.mp clean
    have next := Trail.nulFree_push start first
    unfold walkWith
    split
    · exact ih start clean
    split
    · exact ih (Trail.nulFree_pop start) clean
    simp only [Bool.false_eq_true, if_false]
    split
    · -- A link: its target is walked, and then the names left.
      rename_i target look
      have target : NulFree (slashPieces target) :=
        nulFree_slashPieces (nulFree.links _ _ (mem_entries_of_status (status_of_look look) nofun))
      split
      · exact ⟨_, rfl, Trail.nulFree_leave next clean⟩
      · obtain ⟨e, entered, free⟩ := follows _ _ _ next (Trail.nulFree_ofTarget start _) target
        rw [entered]
        cases e with
        | looped t => exact ⟨_, rfl, Trail.nulFree_leave free clean⟩
        | arrived t => exact ih free clean
    · exact ih next clean
    · exact ih next clean
    · rename_i fault other look
      have refused := raises_look next fault look
      cases fault with
      | refused why path => exact absurd rfl (other why path)
      | _ => cases refused

/-- **A lenient walk comes to an end**, by induction on how deep links may be nested. -/
theorem IsNulFree.exists_walk (nulFree : fs.IsNulFree) {depth : Nat} {busy : List Trail}
    (start : NulFree t.names) (clean : NulFree names) :
    ∃ e, fs.walk false depth busy t names = .ok e ∧ e.IsNulFree := by
  induction depth generalizing busy t names with
  | zero =>
    exact nulFree.exists_walkWith (fun link _ _ free _ _ => ⟨.looped link, rfl, free⟩) start clean
  | succ depth ih => exact nulFree.exists_walkWith (fun _ _ _ _ start clean => ih start clean) start clean

/-! ## Paths -/

/-- A path without U+0000 leads somewhere, or is refused. -/
theorem raises_locate (clean : NulFree p.names) (create : Bool) :
    Raises Fault.IsRefusal (fs.locate create p) := by
  unfold locate
  simp only [List.contains_eq_mem, Path.noNul_text clean, decide_false, Bool.false_eq_true, if_false]
  split
  · exact .error trivial
  split
  · exact .ok _
  · exact .error trivial

/-- **The lenient walk of a path without U+0000 fails on loops only.** -/
theorem IsNulFree.resolveLenient_eq_error (nulFree : fs.IsNulFree) (clean : NulFree p.names)
    (h : fs.resolveLenient p = .error fault) : ∃ place, fault = .linkLoop place := by
  have start : NulFree (trailStart p).names := by
    unfold trailStart
    split <;> exact nofun
  have ends : ∃ e, fs.walk false fs.walkDepth [] (trailStart p) p.names = .ok e ∧ e.IsNulFree :=
    nulFree.exists_walk start clean
  obtain ⟨e, walked, free⟩ := ends
  have found : ∀ t : Trail, NulFree t.names →
      fs.locate false (Location.path (t.location fs.here)) ≠ .error .nulInPath := by
    intro t free nul
    have names : NulFree (Location.path (t.location fs.here)).names := fun name mem =>
      Trail.nulFree_location free nulFree.here name (List.mem_reverse.mp mem)
    exact raises_locate names false _ nul
  unfold resolveLenient at h
  rw [walked] at h
  cases e with
  | arrived t | looped t =>
    simp only at h
    split at h
    · cases h
      exact ⟨_, rfl⟩
    · rename_i nul
      exact absurd nul (found _ free)
    · cases h

/-! ## Loops -/

/-- A file system without links. -/
def HasNoLinks (fs : FileSystem) : Prop :=
  ∀ location target, (location, Entry.link target) ∉ fs.entries

theorem HasNoLinks.status_ne (h : fs.HasNoLinks) (l : Location) (target : String) :
    fs.status l ≠ .ok (.link target) :=
  fun stands => h l target (mem_entries_of_status stands nofun)

/-- Without links, a walk does not loop. -/
theorem HasNoLinks.walkWith_ne (h : fs.HasNoLinks) {strict : Bool} {busy : List Trail}
    {enter : Trail → Trail → List String → Except Fault WalkEnd} :
    (∀ place, fs.walkWith strict busy enter t names ≠ .error (.linkLoop place)) ∧
      ∀ t', fs.walkWith strict busy enter t names ≠ .ok (.looped t') := by
  induction names generalizing t with
  | nil => exact ⟨nofun, nofun⟩
  | cons name rest ih =>
    unfold walkWith
    split
    · exact ih
    split
    · exact ih
    simp only
    split
    · rename_i target look
      exact absurd (status_of_look look) (h.status_ne _ target)
    · exact ih
    · split
      · exact ⟨nofun, nofun⟩
      · exact ih
    · rename_i look
      refine ⟨fun place loop => ?_, nofun⟩
      cases loop
      exact look_ne_linkLoop place look

theorem HasNoLinks.walk_ne (h : fs.HasNoLinks) {strict : Bool} {depth : Nat} {busy : List Trail} :
    (∀ place, fs.walk strict depth busy t names ≠ .error (.linkLoop place)) ∧
      ∀ t', fs.walk strict depth busy t names ≠ .ok (.looped t') := by
  cases depth with
  | zero => exact h.walkWith_ne
  | succ depth => exact h.walkWith_ne

theorem status_ne_tooManyLinks (l : Location) : fs.status l ≠ .error .tooManyLinks := by
  induction l with
  | nil => exact nofun
  | cons name folder ih =>
    unfold status
    split
    · rename_i why failed
      intro same
      cases same
      exact ih failed
    · split
      · exact nofun
      split <;> exact nofun
    · exact nofun

/-- Without links, names are followed without meeting one. -/
theorem HasNoLinks.reach_ne (h : fs.HasNoLinks) {create : Bool} {l : Location} :
    fs.reach create l names ≠ .blocked .tooManyLinks ∧
      ∀ folder target rest, fs.reach create l names ≠ .link folder target rest := by
  induction names generalizing l with
  | nil => exact ⟨nofun, nofun⟩
  | cons name rest ih =>
    unfold reach
    split
    · split
      · exact ih
      · exact ⟨nofun, nofun⟩
      · rename_i why failed
        refine ⟨fun same => ?_, nofun⟩
        cases same
        exact status_ne_tooManyLinks _ failed
    split
    · split
      · exact ⟨nofun, nofun⟩
      · exact ⟨nofun, nofun⟩
      · rename_i why failed
        refine ⟨fun same => ?_, nofun⟩
        cases same
        exact status_ne_tooManyLinks _ failed
    split
    · rename_i target link
      exact absurd link (h.status_ne _ target)
    · exact ih
    · rename_i why failed
      split
      · exact ⟨nofun, nofun⟩
      · refine ⟨fun same => ?_, nofun⟩
        cases same
        exact status_ne_tooManyLinks _ failed

theorem HasNoLinks.locate_ne (h : fs.HasNoLinks) (create : Bool) (path : String) :
    fs.locate create p ≠ .error (.refused .tooManyLinks path) := by
  have follows : ∀ links l names, fs.followFrom create links l names ≠ .error .tooManyLinks := by
    intro links l names many
    unfold followFrom at many
    split at many
    · rename_i why failed
      cases many
      exact status_ne_tooManyLinks _ failed
    · split at many
      · cases many
      · rename_i blocked
        cases many
        exact h.reach_ne.1 blocked
      · rename_i link
        exact h.reach_ne.2 _ _ _ link
    · cases many
  unfold locate
  simp only
  split
  · exact nofun
  split
  · exact nofun
  split
  · exact nofun
  · rename_i why failed
    intro same
    cases same
    exact follows _ _ _ failed

/-- **A file system without links has no loops of them.** -/
theorem HasNoLinks.loopFree (h : fs.HasNoLinks) : fs.LoopFree := by
  refine fun p place => ⟨fun loop => ?_, fun loop => ?_⟩
  · unfold resolve at loop
    split at loop
    · rename_i walked
      cases loop
      exact h.walk_ne.1 place walked
    · cases loop
    · rename_i walked
      exact h.walk_ne.2 _ walked
  · unfold resolveLenient at loop
    split at loop
    · rename_i walked
      cases loop
      exact h.walk_ne.1 place walked
    · simp only at loop
      split at loop
      · rename_i many
        exact h.locate_ne _ _ many
      · cases loop
      · cases loop
    · rename_i walked
      exact h.walk_ne.2 _ walked

/-! ## Changes -/

/-- Writing a file at a path without U+0000 is refused or succeeds. -/
theorem raises_writeBytes (clean : NulFree p.names) (content : List UInt8) :
    Raises Fault.IsRefusal (fs.writeBytes p content) := by
  unfold writeBytes
  split
  · rename_i fault failed
    exact .error (raises_locate clean true fault failed)
  · split
    · exact .error trivial
    · exact .ok _

theorem raises_makeFolder (clean : NulFree p.names) : Raises Fault.IsRefusal (fs.makeFolder p) := by
  unfold makeFolder
  simp only [List.contains_eq_mem, Path.noNul_text clean, decide_false, Bool.false_eq_true, if_false]
  split
  · exact .error trivial
  split
  · exact .error trivial
  split
  · split <;> exact .error trivial
  split
  · exact .error trivial
  split
  · exact .error trivial
  · exact .ok _
  · exact .error trivial

theorem raises_allowExisting {made : Except Fault FileSystem} (h : Raises Fault.IsRefusal made) :
    Raises Fault.IsRefusal (fs.allowExisting p made).2 := by
  unfold allowExisting
  split
  · exact .ok _
  · split
    · exact .ok _
    · exact .error trivial
  · rename_i fault other
    exact .error (h fault rfl)

/-- Making the folders on the way to a path is refused or succeeds, by induction on how many there
are. -/
theorem raises_makeFolders (clean : NulFree p.names) (count : Nat) :
    Raises Fault.IsRefusal (fs.makeFolders p count).2 := by
  induction count generalizing fs with
  | zero => exact raises_allowExisting (raises_makeFolder nofun)
  | succ count ih =>
    have names : NulFree (⟨p.anchor, p.names.take (count + 1)⟩ : Path).names :=
      fun name mem => clean name (List.mem_of_mem_take mem)
    unfold makeFolders
    simp only
    split
    · split
      · rename_i fault made
        exact .error (ih fault (congrArg Prod.snd made))
      · exact raises_allowExisting (raises_makeFolder names)
    · exact raises_allowExisting (raises_makeFolder names)

/-- **The folders of a file without U+0000 in its path are there, or made, or refused.** -/
theorem raises_makeParents (clean : NulFree p.names) :
    Raises Fault.IsRefusal (fs.makeParents p).2 :=
  raises_makeFolders (fun name mem => clean name ((List.dropLast_sublist p.names).subset mem)) _

end FileSystem

end SlideDeck
