import SlideDeck.Files.Resolve
import SlideDeck.Proofs.Files.Written
import SlideDeck.Proofs.Text.Split

/-!
# Canonical paths

What a strict walk comes to is a canonical location: names that entries can have, of folders that are
no links, up to an entry that is none either (`FileSystem.IsCanonical`). Every step of the walk, which
is of one of four kinds (`FileSystem.WalksOn`), keeps to such locations (`arrives_of_walk`), provided
that the current folder is one.

**The law** (`resolve_canonical`): the path of a canonical location, written as text and read again,
resolves to itself from every folder, if the text is not too long to be looked at; and a path that is
too long is refused for that. So resolving is idempotent as far as paths go.
-/

namespace SlideDeck

/-! ## Names -/

/-- A name that an entry of a folder can have. -/
structure IsName (name : String) : Prop where
  filled : name ≠ ""
  noDot : name ≠ "."
  noDots : name ≠ ".."
  noSlash : '/' ∉ name.toList
  noNul : '\x00' ∉ name.toList

/-- Names between slashes. -/
def SlashFree (names : List String) : Prop :=
  ∀ name ∈ names, '/' ∉ name.toList

theorem slashFree_slashPieces (s : String) : SlashFree (slashPieces s) := by
  intro name mem
  obtain ⟨piece, hp, rfl⟩ := List.mem_map.mp mem
  rw [String.toList_ofList]
  exact Text.not_mem_of_mem_splitOn hp

theorem SlashFree.of_cons {name : String} {names : List String} (h : SlashFree (name :: names)) :
    '/' ∉ name.toList ∧ SlashFree names :=
  List.forall_mem_cons.mp h

namespace Path

theorem slashFree_ofString (s : String) : SlashFree (ofString s).names := fun name mem =>
  slashFree_slashPieces s name (List.mem_of_mem_filter mem)

theorem slashFree_join {base p : Path} (hb : SlashFree base.names) (hp : SlashFree p.names) :
    SlashFree (base.join p).names := by
  unfold join
  split
  · exact List.forall_mem_append.mpr ⟨hb, hp⟩
  · exact hp

theorem slashFree_parent {p : Path} (h : SlashFree p.names) : SlashFree p.parent.names :=
  fun name mem => h name ((List.dropLast_sublist p.names).subset mem)

end Path

/-! ## Canonical locations -/

namespace FileSystem

variable {fs : FileSystem} {l : Location} {t t' : Trail} {name : String} {names : List String}

/-- A location whose names are names, and where something stands that is no link. Then the folders on
the way to it are none either. -/
structure IsCanonical (fs : FileSystem) (l : Location) : Prop where
  isName : ∀ name ∈ l, IsName name
  stands : ∃ e, fs.status l = .ok e ∧ ∀ target, e ≠ .link target

/-- A file system whose current folder is there. -/
def IsPlaced (fs : FileSystem) : Prop :=
  fs.IsCanonical fs.here

theorem isCanonical_root (fs : FileSystem) : fs.IsCanonical [] :=
  ⟨fun _ absent => (nomatch absent), .folder, rfl, fun _ => nofun⟩

theorem IsCanonical.tail (h : fs.IsCanonical l) : fs.IsCanonical l.tail := by
  obtain ⟨e, stands, -⟩ := h.stands
  exact ⟨fun name mem => h.isName name (List.mem_of_mem_tail mem), .folder, status_tail stands,
    fun _ => nofun⟩

theorem IsCanonical.drop (h : fs.IsCanonical l) (count : Nat) : fs.IsCanonical (l.drop count) := by
  induction count with
  | zero => exact h
  | succ count ih =>
    rw [← List.tail_drop]
    exact ih.tail

/-- The folders on the way to a canonical location are canonical. -/
theorem IsCanonical.of_append {before : Location} (h : fs.IsCanonical (before ++ l)) :
    fs.IsCanonical l := by
  have dropped := h.drop before.length
  rwa [List.drop_left] at dropped

/-! ## Walks -/

/-- A trail that leads to a canonical location. -/
def Arrives (fs : FileSystem) (t : Trail) : Prop :=
  fs.IsCanonical (t.location fs.here)

theorem Arrives.pop (h : fs.Arrives t) : fs.Arrives t.pop := by
  obtain ⟨start, names⟩ := t
  unfold Arrives Trail.location at h ⊢
  cases names with
  | cons name names =>
    cases start with
    | root => exact h.tail
    | above levels => exact h.tail
  | nil =>
    cases start with
    | root => exact h
    | above levels =>
      -- One folder further above the current one is the folder of the location.
      simp only [Trail.pop, List.nil_append] at h ⊢
      rw [← List.tail_drop]
      exact h.tail

/-- The characters of the last name of a trail are among those of its text. -/
theorem mem_text_push {c : Char} (h : c ∈ name.toList) (t : Trail) :
    c ∈ (t.push name).text.toList := by
  have joined : ∀ names : List String, name ∈ names → c ∈ ("/".intercalate names).toList := by
    intro names mem
    rw [String.toList_intercalate]
    exact Text.mem_intercalate_of_mem h (List.mem_map_of_mem mem)
  obtain ⟨start, names⟩ := t
  unfold Trail.push Trail.text
  cases start with
  | root =>
    rw [String.toList_append]
    exact List.mem_append_right _ (joined _ (by simp))
  | above levels => exact joined _ (by simp)

theorem Arrives.push (h : fs.Arrives t) (noDot : ¬ (name = "" ∨ name = ".")) (noDots : name ≠ "..")
    (noSlash : '/' ∉ name.toList) {e : Entry} (look : fs.look (t.push name) = .ok e)
    (noLink : ∀ target, e ≠ .link target) : fs.Arrives (t.push name) := by
  have location : (t.push name).location fs.here = name :: t.location fs.here := by
    obtain ⟨start, names⟩ := t
    cases start <;> rfl
  unfold FileSystem.look at look
  simp only at look
  split at look
  · cases look
  rename_i noNul
  split at look
  · cases look
  split at look
  · rename_i stands
    cases look
    unfold Arrives
    rw [location] at stands ⊢
    refine ⟨fun other mem => ?_, e, stands, noLink⟩
    rcases List.mem_cons.mp mem with rfl | mem
    · obtain ⟨filled, noDot⟩ := not_or.mp noDot
      refine ⟨filled, noDot, noDots, noSlash, fun nul => noNul ?_⟩
      exact List.contains_iff_mem.mpr (mem_text_push nul t)
    · exact h.isName other mem
  · cases look

/-- The first step of a strict walk that comes to the end of its names, by the first of them. -/
inductive WalksOn (fs : FileSystem) (busy : List Trail)
    (enter : Trail → Trail → List String → Except Fault WalkEnd) (t : Trail) (rest : List String)
    (t' : Trail) : String → Prop where
  | stay {name : String} (dot : name = "" ∨ name = ".")
    (onward : fs.walkWith true busy enter t rest = .ok (.arrived t')) :
    WalksOn fs busy enter t rest t' name
  | up (onward : fs.walkWith true busy enter t.pop rest = .ok (.arrived t')) :
    WalksOn fs busy enter t rest t' ".."
  | enter {name : String} {e : Entry} (noDot : ¬ (name = "" ∨ name = ".")) (noDots : name ≠ "..")
    (look : fs.look (t.push name) = .ok e) (noLink : ∀ target, e ≠ .link target)
    (onward : fs.walkWith true busy enter (t.push name) rest = .ok (.arrived t')) :
    WalksOn fs busy enter t rest t' name
  | follow {name target : String} {mid : Trail} (noDot : ¬ (name = "" ∨ name = "."))
    (noDots : name ≠ "..") (look : fs.look (t.push name) = .ok (.link target))
    (free : busy.contains (t.push name) = false)
    (inside : enter (t.push name) (Trail.ofTarget t target) (slashPieces target) =
      .ok (.arrived mid))
    (onward : fs.walkWith true busy enter mid rest = .ok (.arrived t')) :
    WalksOn fs busy enter t rest t' name

theorem walksOn_of_walkWith {busy : List Trail}
    {enter : Trail → Trail → List String → Except Fault WalkEnd} {rest : List String}
    (h : fs.walkWith true busy enter t (name :: rest) = .ok (.arrived t')) :
    WalksOn fs busy enter t rest t' name := by
  unfold walkWith at h
  split at h
  · rename_i dot
    exact .stay dot h
  rename_i noDot
  split at h
  · rename_i dots
    exact dots ▸ .up h
  rename_i noDots
  simp only at h
  split at h
  · rename_i target look
    split at h
    · cases h
    rename_i free
    split at h
    · cases h
    · cases h
    · rename_i mid inside
      exact .follow noDot noDots look (Bool.eq_false_iff.mpr free) inside h
  · rename_i e other look
    exact .enter noDot noDots look (fun target same => other target same) h
  · cases h
  · cases h

/-- A walk keeps to canonical locations if the walks of links do. -/
theorem arrives_of_walkWith {busy : List Trail}
    {enter : Trail → Trail → List String → Except Fault WalkEnd}
    (follows : ∀ link t names t', fs.Arrives t → SlashFree names →
      enter link t names = .ok (.arrived t') → fs.Arrives t')
    (start : fs.Arrives t) (clean : SlashFree names)
    (h : fs.walkWith true busy enter t names = .ok (.arrived t')) : fs.Arrives t' := by
  induction names generalizing t with
  | nil =>
    cases h
    exact start
  | cons name rest ih =>
    obtain ⟨noSlash, later⟩ := clean.of_cons
    cases walksOn_of_walkWith h with
    | stay _ onward => exact ih start later onward
    | up onward => exact ih start.pop later onward
    | enter noDot noDots look noLink onward =>
      exact ih (start.push noDot noDots noSlash look noLink) later onward
    | @follow _ target _ _ _ _ _ inside onward =>
      have folder : fs.Arrives (Trail.ofTarget t target) := by
        unfold Trail.ofTarget
        split
        · exact isCanonical_root fs
        · exact start
      exact ih (follows _ _ _ _ folder (slashFree_slashPieces target) inside) later onward

/-- **A strict walk keeps to canonical locations**, by induction on how deep links may be nested. -/
theorem arrives_of_walk {depth : Nat} {busy : List Trail} (start : fs.Arrives t)
    (clean : SlashFree names) (h : fs.walk true depth busy t names = .ok (.arrived t')) :
    fs.Arrives t' := by
  induction depth generalizing busy t names t' with
  | zero =>
    refine arrives_of_walkWith (fun link t names t' _ _ entered => ?_) start clean h
    cases entered
  | succ depth ih =>
    exact arrives_of_walkWith (fun _ _ _ _ start clean entered => ih start clean entered) start clean h

/-- What a path resolves to is the path of a canonical location. -/
theorem isCanonical_of_resolve (placed : fs.IsPlaced) {p found : Path} (clean : SlashFree p.names)
    (h : fs.resolve p = .ok found) : ∃ l : Location, found = l.path ∧ fs.IsCanonical l := by
  unfold resolve at h
  split at h
  · cases h
  · rename_i t walked
    cases h
    refine ⟨_, rfl, arrives_of_walk ?_ clean walked⟩
    unfold trailStart
    split
    · exact placed
    · exact isCanonical_root fs
  · cases h

/-! ## Texts of canonical locations -/

theorem text_path (l : Location) : l.path.text = "/" ++ "/".intercalate l.reverse :=
  rfl

theorem text_path_toList (l : Location) :
    l.path.text.toList = '/' :: ['/'].intercalate (l.reverse.map String.toList) := by
  rw [text_path, String.toList_append, String.toList_intercalate]
  rfl

/-- The text of a location is no shorter than that of each folder on the way to it. -/
theorem size_text_path_le (before l : Location) :
    l.path.text.utf8ByteSize ≤ (Location.path (before ++ l)).text.utf8ByteSize := by
  obtain ⟨more, rest⟩ := Text.exists_intercalate_append '/' (l.reverse.map String.toList)
    (before.reverse.map String.toList)
  have longer : (Location.path (before ++ l)).text = l.path.text ++ String.ofList more := by
    rw [← String.toList_inj, String.toList_append, text_path_toList, text_path_toList,
      List.reverse_append, List.map_append, rest, String.toList_ofList]
    rfl
  rw [longer, String.utf8ByteSize_append]
  exact Nat.le_add_right _ _

/-- The path of a canonical location is read back from its text. -/
theorem IsCanonical.ofString_text (h : fs.IsCanonical l) : Path.ofString l.path.text = l.path := by
  have pieces : ∀ name ∈ l.reverse, IsName name :=
    fun name mem => h.isName name (List.mem_reverse.mp mem)
  have path : l.path = ⟨.root, l.reverse⟩ := rfl
  unfold Path.ofString slashPieces
  rw [text_path_toList, path]
  generalize l.reverse = names at pieces
  cases names with
  | nil => decide
  | cons name names =>
    have noSlash : ∀ piece ∈ (name :: names).map String.toList, '/' ∉ piece := by
      intro piece mem
      obtain ⟨other, ho, rfl⟩ := List.mem_map.mp mem
      exact (pieces other ho).noSlash
    have split : ('/' :: ['/'].intercalate ((name :: names).map String.toList)).splitOn '/' =
        [] :: (name :: names).map String.toList := by
      rw [List.splitOn_cons_eq_if_modifyHead, if_pos (by decide),
        List.splitOn_intercalate '/' noSlash (by simp)]
    have anchor : Anchor.ofChars
        ('/' :: ['/'].intercalate ((name :: names).map String.toList)) = .root := by
      have first := pieces name List.mem_cons_self
      obtain ⟨more, starts⟩ := Text.exists_intercalate_append '/' [name.toList]
        (names.map String.toList)
      rw [List.singleton_append] at starts
      rw [List.map_cons, starts]
      cases hn : name.toList with
      | nil => exact absurd (String.toList_inj.mp hn) first.filled
      | cons c rest =>
        have other : c ≠ '/' := fun same => first.noSlash (hn ▸ same ▸ List.mem_cons_self)
        simp [Anchor.ofChars, other]
    have kept : ((name :: names).filter fun other => other ≠ "" ∧ other ≠ ".") = name :: names := by
      refine List.filter_eq_self.mpr fun other mem => ?_
      simpa using ⟨(pieces other mem).filled, (pieces other mem).noDot⟩
    rw [split, anchor]
    simpa using kept

/-! ## The law -/

/-- The text of a canonical location holds no U+0000. -/
theorem IsCanonical.noNul_text (h : fs.IsCanonical l) :
    l.path.text.toList.contains '\x00' = false := by
  refine Bool.eq_false_iff.mpr fun nul => ?_
  rw [List.contains_iff_mem, text_path_toList] at nul
  rcases List.mem_cons.mp nul with same | nul
  · cases same
  · rcases Text.mem_intercalate nul with same | ⟨piece, hp, mem⟩
    · cases same
    · obtain ⟨name, hn, rfl⟩ := List.mem_map.mp hp
      exact (h.isName name (List.mem_reverse.mp hn)).noNul mem

/-- Looking at a canonical location from the root finds what stands there, unless its text is too
long. -/
theorem IsCanonical.look (h : fs.IsCanonical l) :
    ∃ e, (∀ target, e ≠ .link target) ∧ fs.look ⟨.root, l⟩ =
      if pathLimit ≤ l.path.text.utf8ByteSize then .error (.refused .nameTooLong l.path.text)
      else .ok e := by
  obtain ⟨e, stands, noLink⟩ := h.stands
  refine ⟨e, noLink, ?_⟩
  have noNul := h.noNul_text
  have text : Trail.text ⟨.root, l⟩ = l.path.text := rfl
  have location : Trail.location ⟨.root, l⟩ fs.here = l := rfl
  simp only [FileSystem.look, text, location, stands, noNul, Bool.false_eq_true, if_false]

/-- Walking from a folder on the way to a canonical location comes to that location, unless its text is
too long. -/
theorem IsCanonical.walkWith (busy : List Trail)
    (enter : Trail → Trail → List String → Except Fault WalkEnd) {folder : Location}
    (h : fs.IsCanonical (names.reverse ++ folder))
    (near : folder.path.text.utf8ByteSize < pathLimit) :
    ((Location.path (names.reverse ++ folder)).text.utf8ByteSize < pathLimit →
      fs.walkWith true busy enter ⟨.root, folder⟩ names =
        .ok (.arrived ⟨.root, names.reverse ++ folder⟩)) ∧
    (pathLimit ≤ (Location.path (names.reverse ++ folder)).text.utf8ByteSize →
      ∃ text, fs.walkWith true busy enter ⟨.root, folder⟩ names =
        .error (.refused .nameTooLong text)) := by
  induction names generalizing folder with
  | nil => exact ⟨fun _ => rfl, fun long => absurd near (Nat.not_lt.mpr long)⟩
  | cons name rest ih =>
    rw [List.reverse_cons, List.append_assoc, List.singleton_append] at h ⊢
    have next := h.of_append
    have isName := next.isName name List.mem_cons_self
    have push : Trail.push ⟨.root, folder⟩ name = ⟨.root, name :: folder⟩ := rfl
    obtain ⟨e, noLink, look⟩ := next.look
    rw [FileSystem.walkWith, if_neg (not_or.mpr ⟨isName.filled, isName.noDot⟩),
      if_neg isName.noDots, push]
    simp only [look]
    by_cases long : pathLimit ≤ (Location.path (name :: folder)).text.utf8ByteSize
    · have longer := size_text_path_le rest.reverse (name :: folder)
      rw [if_pos long]
      exact ⟨fun short => absurd (Nat.le_trans long longer) (Nat.not_le.mpr short), fun _ => ⟨_, rfl⟩⟩
    · rw [if_neg long]
      have onward := ih h (Nat.not_le.mp long)
      cases e with
      | file content => exact onward
      | folder => exact onward
      | link target => exact absurd rfl (noLink target)

/-- **The path of a canonical location, read again from its text, resolves to itself** from every
folder; if it is too long to be looked at, it is refused for that. -/
theorem IsCanonical.resolve_text (h : fs.IsCanonical l) (base : Path) :
    (l.path.text.utf8ByteSize < pathLimit →
      fs.resolve (base.join (Path.ofString l.path.text)) = .ok l.path) ∧
    (pathLimit ≤ l.path.text.utf8ByteSize →
      ∃ text, fs.resolve (base.join (Path.ofString l.path.text)) =
        .error (.refused .nameTooLong text)) := by
  have join : base.join l.path = l.path := rfl
  have whole : l.reverse.reverse ++ [] = l := by rw [List.reverse_reverse, List.append_nil]
  have canonical : fs.IsCanonical (l.reverse.reverse ++ []) := by rwa [whole]
  obtain ⟨short, long⟩ := canonical.walkWith []
    (fun link t names => fs.walk true (2 * fs.entries.length) [link] t names) (by decide)
  rw [whole] at short long
  have walk : fs.walk true fs.walkDepth [] (trailStart l.path) l.path.names =
      fs.walkWith true [] (fun link t names => fs.walk true (2 * fs.entries.length) [link] t names)
        ⟨.root, []⟩ l.reverse :=
    rfl
  rw [h.ofString_text, join]
  unfold resolve
  rw [walk]
  constructor
  · intro fits
    rw [short fits]
    rfl
  · intro exceeds
    obtain ⟨text, refused⟩ := long exceeds
    exact ⟨text, by rw [refused]⟩

end FileSystem

end SlideDeck
