import SlideDeck.Files.Tree

/-!
# Files that have been written

A path that a file can be written at leads to the same place afterwards. The way there goes through
folders and links only, and putting a file where no folder and no link stands leaves these as they
are (`status_put`), so that whoever follows the path again makes the same steps (`reach_put`).

**The law** (`readBytes_writeBytes`): what is written at a path is read at it.
-/

namespace SlideDeck.FileSystem

variable {fs : FileSystem} {target location : Location} {entry : Entry}

/-! ## Places -/

@[simp]
theorem lookup_put_self : (fs.put target entry).entries.lookup target = some entry := by
  have none_ : ∀ es : List (Location × Entry),
      (es.filter (fun e => e.1 ≠ target)).lookup target = none := by
    intro es
    refine List.lookup_eq_none_iff.mpr fun e mem => ?_
    have other := (List.mem_filter.mp mem).2
    simp only [decide_eq_true_eq] at other
    simpa using Ne.symm other
  rw [put, List.lookup_append, none_]
  simp

theorem lookup_put_ne (other : location ≠ target) :
    (fs.put target entry).entries.lookup location = fs.entries.lookup location := by
  have kept : ∀ es : List (Location × Entry),
      (es.filter (fun e => e.1 ≠ target)).lookup location = es.lookup location := by
    intro es
    induction es with
    | nil => rfl
    | cons e es ih =>
      by_cases same : e.1 = target
      · have differs : (location == e.1) = false := by
          rw [same]
          exact beq_false_of_ne other
        rw [List.filter_cons_of_neg (by simp [same]), ih, List.lookup_cons, differs]
      · rw [List.filter_cons_of_pos (by simp [same]), List.lookup_cons, List.lookup_cons, ih]
  have last : [(target, entry)].lookup location = none := by
    rw [List.lookup_cons, beq_false_of_ne other]
    rfl
  rw [put, List.lookup_append, kept, last, Option.or_none]

/-- Whether a file may be put at a location: its folder is there and its name not too long. -/
def Room (fs : FileSystem) (target : Location) : Prop :=
  ∃ name folder, target = name :: folder ∧ fs.status folder = .ok .folder ∧
    name.utf8ByteSize ≤ nameLimit

/-- What stands at a location stays there when something is put at another one, where no folder
stands. -/
theorem status_put (noFolder : fs.status target ≠ .ok .folder) {e : Entry}
    (other : location ≠ target) (h : fs.status location = .ok e) :
    (fs.put target entry).status location = .ok e := by
  induction location generalizing e with
  | nil => exact h
  | cons name folder ih =>
    rw [status] at h ⊢
    cases parent : fs.status folder with
    | error why =>
      rw [parent] at h
      cases h
    | ok e' =>
      have elsewhere : fs.status folder = .ok .folder := by
        rw [parent] at h
        cases e' with
        | folder => exact parent
        | file content => cases h
        | link path => cases h
      have differs : folder ≠ target := by
        rintro rfl
        exact noFolder elsewhere
      rw [ih differs elsewhere]
      rw [elsewhere] at h
      rw [lookup_put_ne other]
      exact h

/-- What is put at a location stands there. -/
theorem status_put_self (noFolder : fs.status target ≠ .ok .folder) (room : fs.Room target) :
    (fs.put target entry).status target = .ok entry := by
  obtain ⟨name, folder, rfl, parent, short⟩ := room
  have differs : folder ≠ name :: folder := fun same => by
    have count := congrArg List.length same
    rw [List.length_cons] at count
    omega
  rw [status, status_put noFolder differs parent]
  simp only
  rw [if_neg (Nat.not_lt.mpr short), lookup_put_self]

/-- What stands somewhere stands in a folder. -/
theorem status_tail {e : Entry} (h : fs.status location = .ok e) :
    fs.status location.tail = .ok .folder := by
  cases location with
  | nil => rfl
  | cons name folder =>
    rw [status] at h
    split at h
    · cases h
    · rename_i parent
      exact parent
    · cases h

/-- Where something stands, or is all that is missing, there is room. -/
theorem room_of_status {name : String} {folder : Location} (parent : fs.status folder = .ok .folder)
    (h : (∃ e, fs.status (name :: folder) = .ok e) ∨
      fs.status (name :: folder) = .error .noEntry) :
    fs.Room (name :: folder) := by
  refine ⟨name, folder, rfl, parent, Nat.not_lt.mp fun long => ?_⟩
  have refused : fs.status (name :: folder) = .error .nameTooLong := by
    rw [status, parent]
    simp only [if_pos long]
  rcases h with ⟨e, there⟩ | absent
  · rw [refused] at there
    cases there
  · rw [refused] at absent
    cases absent

/-! ## Ways -/

/-- Where the way to a new file comes to its end, no link stands, and there is room unless it is a
folder. -/
theorem reach_arrived {names : List String} {e : Entry} (start : fs.status location = .ok e)
    (noLink : ∀ path, e ≠ .link path)
    (h : fs.reach true location names = .arrived target) :
    (∀ path, fs.status target ≠ .ok (.link path)) ∧
      (fs.status target ≠ .ok .folder → fs.Room target) := by
  induction names generalizing location e with
  | nil =>
    cases h
    refine ⟨fun path link => ?_, fun noFolder => ?_⟩
    · rw [start] at link
      exact noLink path (Except.ok.inj link)
    · cases target with
      | nil => exact absurd rfl noFolder
      | cons name folder => exact room_of_status (status_tail start) (.inl ⟨e, start⟩)
  | cons name rest ih =>
    unfold reach at h
    split at h
    · -- A dot or two: the way goes on from a folder.
      split at h
      · rename_i folder
        have next : fs.status (if name = ".." then location.tail else location) = .ok .folder := by
          split
          · exact status_tail folder
          · exact folder
        exact ih next (fun _ => nofun) h
      · cases h
      · cases h
    split at h
    · split at h <;> cases h
    split at h
    · cases h
    · rename_i e' other there
      exact ih there (fun path => other path) h
    · rename_i why missing
      split at h
      · rename_i last
        cases h
        simp only [Bool.true_and, Bool.and_eq_true, beq_iff_eq] at last
        rw [last.1] at missing
        have parent : fs.status location = .ok .folder := by
          rw [status, start] at missing
          cases e with
          | folder => exact start
          | file content => cases missing
          | link path => cases missing
        refine ⟨fun path link => ?_, fun _ => room_of_status parent (.inr missing)⟩
        rw [missing] at link
        cases link
      · cases h

/-- Once a file has been put where a way leads, the way leads there for readers too. -/
theorem reach_put {names : List String} (content : List UInt8)
    (noFolder : fs.status target ≠ .ok .folder) (noLink : ∀ path, fs.status target ≠ .ok (.link path))
    (room : fs.Room target) {r : Reach} (h : fs.reach true location names = r)
    (unblocked : ∀ why, r ≠ .blocked why) (arrived : ∀ l, r = .arrived l → l = target) :
    (fs.put target (.file content)).reach false location names = r := by
  induction names generalizing location with
  | nil => exact h
  | cons name rest ih =>
    unfold reach at h ⊢
    split at h
    · rename_i dots
      rw [if_pos dots]
      split at h
      · rename_i folder
        have differs : location ≠ target := by
          rintro rfl
          exact noFolder folder
        rw [status_put noFolder differs folder]
        exact ih h
      · exact absurd h.symm (unblocked _)
      · exact absurd h.symm (unblocked _)
    · rename_i noDots
      rw [if_neg noDots]
      split at h
      · split at h <;> exact absurd h.symm (unblocked _)
      rw [Bool.false_and, Bool.false_and, if_neg Bool.false_ne_true]
      have self : (fs.put target (.file content)).status target = .ok (.file content) :=
        status_put_self noFolder room
      split at h
      · rename_i path link
        have differs : name :: location ≠ target := by
          rintro rfl
          exact noLink path link
        rw [status_put noFolder differs link]
        exact h
      · rename_i e other there
        by_cases same : name :: location = target
        · rw [same, self]
          exact same ▸ ih h
        · rw [status_put noFolder same there]
          cases e with
          | file bytes => exact ih h
          | folder => exact ih h
          | link path => exact absurd rfl (other path)
      · split at h
        · rename_i last
          obtain rfl := arrived _ h.symm
          rw [self]
          simp only [Bool.true_and, Bool.and_eq_true, List.isEmpty_iff] at last
          rw [last.2]
          exact h
        · exact absurd h.symm (unblocked _)

/-- Through links, too, the way to a new file ends where there is room and no link. -/
theorem followFrom_target {links : Nat} {names : List String}
    (h : fs.followFrom true links location names = .ok target) :
    (∀ path, fs.status target ≠ .ok (.link path)) ∧
      (fs.status target ≠ .ok .folder → fs.Room target) := by
  fun_induction followFrom fs true links location names with
  | case1 => cases h
  | case2 links location names start end_ way =>
    cases h
    exact reach_arrived start (fun _ => nofun) way
  | case3 => cases h
  | case4 => cases h
  | case5 location names start folder path rest way links ih => exact ih h
  | case6 => cases h

/-- And readers follow it through the same links. -/
theorem followFrom_put {links : Nat} {names : List String} (content : List UInt8)
    (noFolder : fs.status target ≠ .ok .folder) (noLink : ∀ path, fs.status target ≠ .ok (.link path))
    (room : fs.Room target) (h : fs.followFrom true links location names = .ok target) :
    (fs.put target (.file content)).followFrom false links location names = .ok target := by
  have stays : ∀ {l}, fs.status l = .ok .folder →
      (fs.put target (.file content)).status l = .ok .folder := by
    intro l folder
    refine status_put noFolder ?_ folder
    rintro rfl
    exact noFolder folder
  fun_induction followFrom fs true links location names with
  | case1 => cases h
  | case2 links location names start end_ way =>
    cases h
    have again := reach_put content noFolder noLink room way (fun _ => nofun)
      (fun l same => (Reach.arrived.inj same).symm)
    unfold followFrom
    simp only [stays start, again]
  | case3 => cases h
  | case4 => cases h
  | case5 location names start folder path rest way links ih =>
    have again := reach_put content noFolder noLink room way (fun _ => nofun)
      (fun l => nofun)
    unfold followFrom
    simp only [stays start, again]
    exact ih h
  | case6 => cases h

/-! ## The law -/

/-- A path to a new file leads there for readers, too, once the file has been put there. -/
theorem locate_put {p : Path} (content : List UInt8) (noFolder : fs.status target ≠ .ok .folder)
    (h : fs.locate true p = .ok target) :
    fs.Room target ∧ (fs.put target (.file content)).locate false p = .ok target := by
  unfold locate at h ⊢
  simp only at h ⊢
  split at h
  · cases h
  rename_i noNul
  split at h
  · cases h
  rename_i short
  rw [if_neg noNul, if_neg short]
  split at h
  · rename_i follows
    cases h
    obtain ⟨noLink, room⟩ := followFrom_target follows
    have start : (fs.put target (.file content)).startOf p = fs.startOf p := rfl
    rw [start, followFrom_put content noFolder noLink (room noFolder) follows]
    exact ⟨room noFolder, rfl⟩
  · cases h

/-- **What is written at a path is read at it.** -/
theorem readBytes_writeBytes {p : Path} {content : List UInt8} {fs' : FileSystem}
    (h : fs.writeBytes p content = .ok fs') : fs'.readBytes p = .ok content := by
  unfold writeBytes at h
  split at h
  · cases h
  · rename_i target located
    have noFolder : fs.status target ≠ .ok .folder := by
      intro folder
      rw [folder] at h
      cases h
    obtain rfl : fs.put target (.file content) = fs' := by
      split at h
      · cases h
      · exact Except.ok.inj h
    obtain ⟨room, again⟩ := locate_put content noFolder located
    simp only [readBytes, stat, again, status_put_self noFolder room]

end SlideDeck.FileSystem
