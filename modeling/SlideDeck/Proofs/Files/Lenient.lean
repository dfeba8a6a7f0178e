import SlideDeck.Proofs.Files.Canonical

/-!
# Canonical paths stay as they are

The lenient walk passes over what it cannot look at. From the root along the names of a canonical
location it meets no link, so it comes to that location, however long its path is; and the path is
followed there too, since links are all that following could fail on.

**The law** (`IsCanonical.resolveLenient`): the path of a canonical location stays as it is.
-/

namespace SlideDeck.FileSystem

variable {fs : FileSystem} {l folder : Location} {names : List String}

/-- The lenient walk from a folder on the way to a canonical location comes to that location. -/
theorem IsCanonical.walkLenient (busy : List Trail)
    (enter : Trail → Trail → List String → Except Fault WalkEnd)
    (h : fs.IsCanonical (names.reverse ++ folder)) :
    fs.walkWith false busy enter ⟨.root, folder⟩ names =
      .ok (.arrived ⟨.root, names.reverse ++ folder⟩) := by
  induction names generalizing folder with
  | nil => rfl
  | cons name rest ih =>
    rw [List.reverse_cons, List.append_assoc, List.singleton_append] at h ⊢
    have next := h.of_append
    have isName := next.isName name List.mem_cons_self
    have push : Trail.push ⟨.root, folder⟩ name = ⟨.root, name :: folder⟩ := rfl
    obtain ⟨e, noLink, look⟩ := next.look
    rw [FileSystem.walkWith, if_neg (not_or.mpr ⟨isName.filled, isName.noDot⟩),
      if_neg isName.noDots, push]
    simp only [look]
    by_cases long : pathLimit ≤ (Location.path (name :: folder)).text.utf8ByteSize
    · -- What is too long to be looked at is passed over.
      rw [if_pos long]
      exact ih h
    · rw [if_neg long]
      cases e with
      | file content => exact ih h
      | folder => exact ih h
      | link target => exact absurd rfl (noLink target)

/-- Names that lead to a canonical location are followed to it. -/
theorem IsCanonical.reach (h : fs.IsCanonical (names.reverse ++ folder)) :
    fs.reach false folder names = .arrived (names.reverse ++ folder) := by
  induction names generalizing folder with
  | nil => rfl
  | cons name rest ih =>
    rw [List.reverse_cons, List.append_assoc, List.singleton_append] at h ⊢
    have next := h.of_append
    have isName := next.isName name List.mem_cons_self
    have noDots : ¬ (name = "" ∨ name = "." ∨ name = "..") := by
      simp [isName.filled, isName.noDot, isName.noDots]
    obtain ⟨e, stands, noLink⟩ := next.stands
    rw [FileSystem.reach, if_neg noDots]
    simp only [Bool.false_and, Bool.false_eq_true, if_false, stands]
    cases e with
    | file content => exact ih h
    | folder => exact ih h
    | link target => exact absurd rfl (noLink target)

/-- The path of a canonical location leads there, unless it is too long. -/
theorem IsCanonical.locate (h : fs.IsCanonical l) :
    fs.locate false l.path =
      if pathLimit ≤ l.path.text.utf8ByteSize then .error (.refused .nameTooLong l.path.text)
      else .ok l := by
  have whole : l.reverse.reverse ++ [] = l := by rw [List.reverse_reverse, List.append_nil]
  have reached : fs.reach false [] l.reverse = .arrived l := by
    have canonical : fs.IsCanonical (l.reverse.reverse ++ []) := by rwa [whole]
    rw [canonical.reach, whole]
  have followed : fs.followFrom false linkLimit (fs.startOf l.path) l.path.names = .ok l := by
    change fs.followFrom false linkLimit [] l.reverse = .ok l
    rw [followFrom]
    simp only [status, reached]
  simp only [FileSystem.locate, h.noNul_text, followed, Bool.false_eq_true, if_false]

/-- A lenient walk that comes to a canonical location resolves to its path. -/
theorem IsCanonical.resolveLenient_of_walk (h : fs.IsCanonical l) {p : Path} {t : Trail}
    (walked : fs.walk false fs.walkDepth [] (trailStart p) p.names = .ok (.arrived t))
    (there : t.location fs.here = l) : fs.resolveLenient p = .ok l.path := by
  unfold FileSystem.resolveLenient
  simp only [walked, there, h.locate]
  split
  · rename_i place refused
    split at refused <;> cases refused
  · rename_i refused
    split at refused <;> cases refused
  · rfl

/-- **The path of a canonical location stays as it is.** -/
theorem IsCanonical.resolveLenient (h : fs.IsCanonical l) :
    fs.resolveLenient l.path = .ok l.path := by
  have whole : l.reverse.reverse ++ [] = l := by rw [List.reverse_reverse, List.append_nil]
  have canonical : fs.IsCanonical (l.reverse.reverse ++ []) := by rwa [whole]
  have arrived := canonical.walkLenient []
    fun link t names => fs.walk false (2 * fs.entries.length) [link] t names
  rw [whole] at arrived
  exact h.resolveLenient_of_walk (t := ⟨.root, l⟩) arrived rfl

end SlideDeck.FileSystem
