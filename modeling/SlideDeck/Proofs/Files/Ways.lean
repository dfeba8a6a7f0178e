import SlideDeck.Proofs.Files.Lenient
import SlideDeck.Proofs.Files.Refusals
import Mathlib.Data.List.Perm.Subperm
import Mathlib.Data.Set.Finite.Basic

/-!
# Where names lead

Where names lead from a folder can be said without saying how it is found out: dots stay, two dots go
up, an entry is gone to, and at a link one first goes where its target leads, and then where the names
left lead from there (`FileSystem.Leads`). All links are counted, those inside of targets too. Names lead
to one place at most, through one count of links (`Leads.eq`); so two folders that are one place lead to
the same (`Leads.resolve_join`).

Following a path as it is opened finds where names lead (`exists_leads_of_followFrom`), and so does the
strict walk (`exists_leads_of_walk`). That it also gets there is not plain, for it enters no link that is
being walked, and links only so deep. But what is inside of a link's target leads through fewer links
than the target does (`IsWalked`). So a link is never met inside of itself, and no more links are walked
at once than there are entries (`Leads.walk`).

**The law** (`resolve_of_locate`): the place to which a path leads when it is opened is where it resolves
to, unless it is too long to look at some name on the way. Then the lenient walk comes there as well
(`resolveLenient_of_resolve`), and if that is a file, to its canonical path (`IsCanonicalFile`). Of these
there are finitely many (`finite_isCanonicalFile`).
-/

namespace SlideDeck

/-! ## Locations of trails -/

namespace Trail

variable (t : Trail) (here : Location)

@[simp]
theorem location_push (name : String) : (t.push name).location here = name :: t.location here := by
  obtain ⟨start, names⟩ := t
  cases start <;> rfl

@[simp]
theorem location_pop : t.pop.location here = (t.location here).tail := by
  obtain ⟨start, names⟩ := t
  cases names with
  | cons name names => cases start <;> rfl
  | nil =>
    cases start with
    | root => rfl
    | above levels => exact List.tail_drop.symm

@[simp]
theorem location_ofTarget (target : String) :
    (ofTarget t target).location here = if isAbsolute target then [] else t.location here := by
  unfold ofTarget
  split <;> rfl

end Trail

namespace FileSystem

variable {fs : FileSystem} {l l' folder : Location} {name target : String} {rest names : List String}

/-! ## The relation -/

/-- Names lead from one place to another, through so many links. -/
inductive Leads (fs : FileSystem) : Nat → Location → List String → Location → Prop where
  | arrived (l : Location) : Leads fs 0 l [] l
  | stay {n : Nat} {l l' : Location} {name : String} {rest : List String}
    (dot : name = "" ∨ name = ".") (onward : Leads fs n l rest l') : Leads fs n l (name :: rest) l'
  | up {n : Nat} {l l' : Location} {rest : List String} (onward : Leads fs n l.tail rest l') :
    Leads fs n l (".." :: rest) l'
  | enter {n : Nat} {l l' : Location} {name : String} {rest : List String} {e : Entry}
    (noDot : ¬ (name = "" ∨ name = ".")) (noDots : name ≠ "..")
    (stands : fs.status (name :: l) = .ok e) (noLink : ∀ target, e ≠ .link target)
    (onward : Leads fs n (name :: l) rest l') : Leads fs n l (name :: rest) l'
  /-- A link, of which the target leads to a third place. -/
  | follow {m n : Nat} {l mid l' : Location} {name target : String} {rest : List String}
    (noDot : ¬ (name = "" ∨ name = ".")) (noDots : name ≠ "..")
    (stands : fs.status (name :: l) = .ok (.link target))
    (inside : Leads fs m (if isAbsolute target then [] else l) (slashPieces target) mid)
    (onward : Leads fs n mid rest l') : Leads fs (m + n + 1) l (name :: rest) l'

/-- **Names lead to one place, through one count of links.** -/
theorem Leads.eq {n m : Nat} {l₁ l₂ : Location} (h : fs.Leads n l names l₁)
    (h' : fs.Leads m l names l₂) : n = m ∧ l₁ = l₂ := by
  induction h generalizing m l₂ with
  | arrived =>
    cases h'
    exact ⟨rfl, rfl⟩
  | stay dot _ ih =>
    cases h' with
    | stay _ onward => exact ih onward
    | up => exact absurd dot (by decide)
    | enter noDot => exact absurd dot noDot
    | follow noDot => exact absurd dot noDot
  | up _ ih =>
    cases h' with
    | stay dot => exact absurd dot (by decide)
    | up onward => exact ih onward
    | enter _ noDots => exact absurd rfl noDots
    | follow _ noDots => exact absurd rfl noDots
  | enter noDot noDots stands noLink _ ih =>
    cases h' with
    | stay dot => exact absurd dot noDot
    | up => exact absurd rfl noDots
    | enter _ _ _ _ onward => exact ih onward
    | follow _ _ stands' =>
      cases stands.symm.trans stands'
      exact absurd rfl (noLink _)
  | follow noDot noDots stands _ _ inner ih =>
    cases h' with
    | stay dot => exact absurd dot noDot
    | up => exact absurd rfl noDots
    | enter _ _ stands' noLink =>
      cases stands'.symm.trans stands
      exact absurd rfl (noLink _)
    | follow _ _ stands' inside onward =>
      cases stands.symm.trans stands'
      obtain ⟨rfl, rfl⟩ := inner inside
      obtain ⟨rfl, rfl⟩ := ih onward
      exact ⟨rfl, rfl⟩

/-- Names that lead somewhere together lead there one part after the other. -/
theorem Leads.split {n : Nat} {more : List String} (h : fs.Leads n l (names ++ more) l') :
    ∃ m k mid, fs.Leads m l names mid ∧ fs.Leads k mid more l' ∧ n = m + k := by
  induction names generalizing n l with
  | nil => exact ⟨0, n, l, .arrived l, h, (Nat.zero_add n).symm⟩
  | cons name rest ih =>
    rw [List.cons_append] at h
    cases h with
    | stay dot onward =>
      obtain ⟨m, k, mid, first, second, rfl⟩ := ih onward
      exact ⟨m, k, mid, .stay dot first, second, rfl⟩
    | up onward =>
      obtain ⟨m, k, mid, first, second, rfl⟩ := ih onward
      exact ⟨m, k, mid, .up first, second, rfl⟩
    | enter noDot noDots stands noLink onward =>
      obtain ⟨m, k, mid, first, second, rfl⟩ := ih onward
      exact ⟨m, k, mid, .enter noDot noDots stands noLink first, second, rfl⟩
    | @follow c _ _ _ _ _ _ _ noDot noDots stands inside onward =>
      obtain ⟨m, k, mid, first, second, rfl⟩ := ih onward
      exact ⟨c + m + 1, k, mid, .follow noDot noDots stands inside first, second, by omega⟩

/-! ## Paths that are opened -/

/-- Where it leads on from where following has stopped, through so many links. -/
def Reach.LeadsOn (fs : FileSystem) (n : Nat) (l' : Location) : Reach → Prop
  | .arrived l => n = 0 ∧ l' = l
  | .link folder target rest =>
    ∃ m k mid, fs.Leads m (if isAbsolute target then [] else folder) (slashPieces target) mid ∧
      fs.Leads k mid rest l' ∧ n = m + k + 1
  | .blocked _ => False

/-- Names lead to where following them leads on. -/
theorem leads_of_reach {n : Nat} (h : (fs.reach false l names).LeadsOn fs n l') :
    fs.Leads n l names l' := by
  induction names generalizing l with
  | nil =>
    obtain ⟨rfl, rfl⟩ := h
    exact .arrived _
  | cons name rest ih =>
    rw [reach] at h
    split at h
    · rename_i dots
      split at h
      · split at h
        · rename_i isUp
          subst isUp
          exact .up (ih h)
        · rename_i noUp
          exact .stay (or_assoc.mpr dots |>.resolve_right noUp) (ih h)
      · exact h.elim
      · exact h.elim
    · rename_i noDots
      have noDot : ¬ (name = "" ∨ name = ".") := fun dot => noDots (or_assoc.mp (.inl dot))
      have noUp : name ≠ ".." := fun isUp => noDots (.inr (.inr isUp))
      simp only [Bool.false_and, Bool.false_eq_true, if_false] at h
      split at h
      · rename_i target stands
        obtain ⟨m, k, mid, inside, onward, rfl⟩ := h
        exact .follow noDot noUp stands inside onward
      · rename_i e noLink stands
        exact .enter noDot noUp stands (fun target same => noLink target same) (ih h)
      · exact h.elim

/-- Following succeeds without a link, or through the first one that it meets. -/
theorem followFrom_eq_ok {links : Nat} (h : fs.followFrom false links l names = .ok l') :
    fs.reach false l names = .arrived l' ∨
      ∃ further folder target rest, links = further + 1 ∧
        fs.reach false l names = .link folder target rest ∧
        fs.followFrom false further (if isAbsolute target then [] else folder)
          (slashPieces target ++ rest) = .ok l' := by
  unfold followFrom at h
  split at h
  · cases h
  · split at h
    · rename_i reached
      cases h
      exact .inl reached
    · cases h
    · rename_i folder target rest reached
      cases links with
      | zero => cases h
      | succ further => exact .inr ⟨further, folder, target, rest, rfl, reached, h⟩
  · cases h

/-- What is found by following a path is where its names lead, by induction on how many links may be
followed. -/
theorem exists_leads_of_followFrom {links : Nat} (h : fs.followFrom false links l names = .ok l') :
    ∃ n, fs.Leads n l names l' := by
  induction links generalizing l names with
  | zero =>
    rcases followFrom_eq_ok h with reached | ⟨_, _, _, _, none_, -⟩
    · exact ⟨0, leads_of_reach (by rw [reached]; exact ⟨rfl, rfl⟩)⟩
    · cases none_
  | succ links ih =>
    rcases followFrom_eq_ok h with reached | ⟨_, folder, target, rest, same, reached, further⟩
    · exact ⟨0, leads_of_reach (by rw [reached]; exact ⟨rfl, rfl⟩)⟩
    · cases same
      obtain ⟨n, whole⟩ := ih further
      obtain ⟨m, k, mid, inside, onward, -⟩ := whole.split
      refine ⟨m + k + 1, leads_of_reach ?_⟩
      rw [reached]
      exact ⟨m, k, mid, inside, onward, rfl⟩

theorem exists_leads_of_locate {p : Path} (h : fs.locate false p = .ok l) :
    ∃ n, fs.Leads n (fs.startOf p) p.names l := by
  unfold locate at h
  simp only at h
  split at h
  · cases h
  split at h
  · cases h
  split at h
  · rename_i followed
    cases h
    exact exists_leads_of_followFrom followed
  · cases h

/-- The path of a canonical location leads to it. -/
theorem IsCanonical.leads (h : fs.IsCanonical l) : fs.Leads 0 [] l.reverse l := by
  have whole : l.reverse.reverse ++ [] = l := by rw [List.reverse_reverse, List.append_nil]
  have canonical : fs.IsCanonical (l.reverse.reverse ++ []) := by rwa [whole]
  exact leads_of_reach (by rw [canonical.reach, whole]; exact ⟨rfl, rfl⟩)

/-! ## Steps of a walk -/

section Steps

variable {strict : Bool} {depth : Nat} {busy : List Trail} {t t' : Trail}

@[simp]
theorem walk_nil : fs.walk strict depth busy t [] = .ok (.arrived t) := by
  cases depth <;> rfl

theorem walk_stay (dot : name = "" ∨ name = ".") :
    fs.walk strict depth busy t (name :: rest) = fs.walk strict depth busy t rest := by
  cases depth <;> simp only [walk, walkWith, if_pos dot]

theorem walk_up :
    fs.walk strict depth busy t (".." :: rest) = fs.walk strict depth busy t.pop rest := by
  have noDot : ¬ (".." = "" ∨ ".." = ".") := by decide
  cases depth <;> simp only [walk, walkWith, if_neg noDot, if_true]

theorem walk_enter (noDot : ¬ (name = "" ∨ name = ".")) (noDots : name ≠ "..") {e : Entry}
    (look : fs.look (t.push name) = .ok e) (noLink : ∀ target, e ≠ .link target) :
    fs.walk strict depth busy t (name :: rest) = fs.walk strict depth busy (t.push name) rest := by
  cases e with
  | link target => exact absurd rfl (noLink target)
  | file content => cases depth <;> simp only [walk, walkWith, if_neg noDot, if_neg noDots, look]
  | folder => cases depth <;> simp only [walk, walkWith, if_neg noDot, if_neg noDots, look]

theorem walk_refused (noDot : ¬ (name = "" ∨ name = ".")) (noDots : name ≠ "..") {why : Refusal}
    {text : String} (look : fs.look (t.push name) = .error (.refused why text)) :
    fs.walk true depth busy t (name :: rest) = .error (.refused why text) := by
  cases depth <;> simp only [walk, walkWith, if_neg noDot, if_neg noDots, look, if_true]

theorem walk_follow (noDot : ¬ (name = "" ∨ name = ".")) (noDots : name ≠ "..")
    (look : fs.look (t.push name) = .ok (.link target)) (free : t.push name ∉ busy)
    (entered : fs.walk strict depth (t.push name :: busy) (Trail.ofTarget t target)
      (slashPieces target) = .ok (.arrived t')) :
    fs.walk strict (depth + 1) busy t (name :: rest) = fs.walk strict (depth + 1) busy t' rest := by
  have free : busy.contains (t.push name) = false := by simpa using free
  simp only [walk, walkWith, if_neg noDot, if_neg noDots, look, free, Bool.false_eq_true, if_false,
    entered]

theorem walk_follow_error (noDot : ¬ (name = "" ∨ name = ".")) (noDots : name ≠ "..")
    (look : fs.look (t.push name) = .ok (.link target)) (free : t.push name ∉ busy) {fault : Fault}
    (refused : fs.walk strict depth (t.push name :: busy) (Trail.ofTarget t target)
      (slashPieces target) = .error fault) :
    fs.walk strict (depth + 1) busy t (name :: rest) = .error fault := by
  have free : busy.contains (t.push name) = false := by simpa using free
  simp only [walk, walkWith, if_neg noDot, if_neg noDots, look, free, Bool.false_eq_true, if_false,
    refused]

end Steps

/-! ## Walks -/

variable {t t' : Trail} {depth : Nat} {busy : List Trail}

/-- What a strict walk comes to is where its names lead, if that is so for links. -/
theorem exists_leads_of_walkWith {enter : Trail → Trail → List String → Except Fault WalkEnd}
    (follows : ∀ link t names t', enter link t names = .ok (.arrived t') →
      ∃ n, fs.Leads n (t.location fs.here) names (t'.location fs.here))
    (h : fs.walkWith true busy enter t names = .ok (.arrived t')) :
    ∃ n, fs.Leads n (t.location fs.here) names (t'.location fs.here) := by
  induction names generalizing t with
  | nil =>
    cases h
    exact ⟨0, .arrived _⟩
  | cons name rest ih =>
    cases walksOn_of_walkWith h with
    | stay dot onward =>
      obtain ⟨n, leads⟩ := ih onward
      exact ⟨n, .stay dot leads⟩
    | up onward =>
      obtain ⟨n, leads⟩ := ih onward
      rw [Trail.location_pop] at leads
      exact ⟨n, .up leads⟩
    | enter noDot noDots look noLink onward =>
      have stands := status_of_look look
      obtain ⟨n, leads⟩ := ih onward
      rw [Trail.location_push] at stands leads
      exact ⟨n, .enter noDot noDots stands noLink leads⟩
    | follow noDot noDots look _ inside onward =>
      have stands := status_of_look look
      obtain ⟨m, within⟩ := follows _ _ _ _ inside
      obtain ⟨n, leads⟩ := ih onward
      rw [Trail.location_push] at stands
      rw [Trail.location_ofTarget] at within
      exact ⟨m + n + 1, .follow noDot noDots stands within leads⟩

/-- **What a strict walk comes to is where its names lead**, by induction on how deep links may be
nested. -/
theorem exists_leads_of_walk (h : fs.walk true depth busy t names = .ok (.arrived t')) :
    ∃ n, fs.Leads n (t.location fs.here) names (t'.location fs.here) := by
  induction depth generalizing busy t names t' with
  | zero => exact exists_leads_of_walkWith (fun _ _ _ _ entered => by cases entered) h
  | succ depth ih => exact exists_leads_of_walkWith (fun _ _ _ _ entered => ih entered) h

@[simp]
theorem location_trailStart (p : Path) : (trailStart p).location fs.here = fs.startOf p := by
  unfold trailStart startOf
  split <;> rfl

/-- A path resolves to where its names lead. -/
theorem exists_leads_of_resolve {p found : Path} (h : fs.resolve p = .ok found) :
    ∃ n l, found = l.path ∧ fs.Leads n (fs.startOf p) p.names l := by
  unfold resolve at h
  split at h
  · cases h
  · rename_i t walked
    cases h
    obtain ⟨n, leads⟩ := exists_leads_of_walk walked
    rw [location_trailStart] at leads
    exact ⟨n, _, rfl, leads⟩
  · cases h

/-- **Folders that are one place lead to the same.** -/
theorem Leads.resolve_join {n m : Nat} {base base' q found found' : Path}
    (h : fs.Leads n (fs.startOf base) base.names folder)
    (h' : fs.Leads m (fs.startOf base') base'.names folder)
    (resolved : fs.resolve (base.join q) = .ok found)
    (resolved' : fs.resolve (base'.join q) = .ok found') : found = found' := by
  unfold Path.join at resolved resolved'
  split at resolved
  · rename_i relative
    rw [if_pos relative] at resolved'
    obtain ⟨_, l, rfl, leads⟩ := exists_leads_of_resolve resolved
    obtain ⟨_, l', rfl, leads'⟩ := exists_leads_of_resolve resolved'
    obtain ⟨_, _, mid, toMid, onward, -⟩ := leads.split
    obtain ⟨_, _, mid', toMid', onward', -⟩ := leads'.split
    obtain ⟨-, rfl⟩ := h.eq toMid
    obtain ⟨-, rfl⟩ := h'.eq toMid'
    rw [(onward.eq onward').2]
  · rename_i absolute
    rw [if_neg absolute] at resolved'
    exact Except.ok.inj (resolved.symm.trans resolved')

/-- Links that are being walked, when names with so many links are ahead: they are different ones, and
what each leads through is no less than that. -/
structure IsWalked (fs : FileSystem) (n : Nat) (links : List Location) : Prop where
  nodup : links.Nodup
  leads : ∀ link ∈ links, ∃ target m mid, fs.status link = .ok (.link target) ∧ n ≤ m ∧
    fs.Leads m (if isAbsolute target then [] else link.tail) (slashPieces target) mid

namespace IsWalked

variable {n m : Nat} {links : List Location} {link mid : Location}

theorem mono (h : fs.IsWalked n links) (le : m ≤ n) : fs.IsWalked m links where
  nodup := h.nodup
  leads := fun link mem => by
    obtain ⟨target, k, mid, stands, most, leads⟩ := h.leads link mem
    exact ⟨target, k, mid, stands, Nat.le_trans le most, leads⟩

/-- A link whose target leads through fewer links is none of them. -/
theorem not_mem (h : fs.IsWalked n links) (stands : fs.status link = .ok (.link target))
    (inside : fs.Leads m (if isAbsolute target then [] else link.tail) (slashPieces target) mid)
    (less : m < n) : link ∉ links := fun mem => by
  obtain ⟨target', k, _, stands', most, leads⟩ := h.leads link mem
  cases stands.symm.trans stands'
  obtain ⟨rfl, -⟩ := inside.eq leads
  exact absurd less (Nat.not_lt.mpr most)

/-- Then it may be walked inside of them. -/
theorem cons (h : fs.IsWalked n links) (stands : fs.status link = .ok (.link target))
    (inside : fs.Leads m (if isAbsolute target then [] else link.tail) (slashPieces target) mid)
    (less : m < n) : fs.IsWalked m (link :: links) where
  nodup := List.nodup_cons.mpr ⟨h.not_mem stands inside less, h.nodup⟩
  leads := List.forall_mem_cons.mpr
    ⟨⟨target, m, mid, stands, Nat.le_refl m, inside⟩, (h.mono (Nat.le_of_lt less)).leads⟩

/-- They are no more than there are entries. -/
theorem length_le (h : fs.IsWalked n links) : links.length ≤ fs.entries.length := by
  have sub : links ⊆ fs.entries.map Prod.fst := fun link mem => by
    obtain ⟨target, _, _, stands, -⟩ := h.leads link mem
    exact List.mem_map_of_mem (mem_entries_of_status stands nofun)
  have few := (h.nodup.subperm sub).length_le
  rwa [List.length_map] at few

/-- So a trail to such a link is none of those that are being walked, and there is room to walk it. -/
theorem enter {next : Trail} (h : fs.IsWalked n (busy.map fun link => link.location fs.here))
    (stands : fs.status (next.location fs.here) = .ok (.link target))
    (inside : fs.Leads m (if isAbsolute target then [] else (next.location fs.here).tail)
      (slashPieces target) mid)
    (less : m < n) (room : fs.entries.length ≤ depth + busy.length) :
    next ∉ busy ∧ fs.IsWalked m ((next :: busy).map fun link => link.location fs.here) ∧
      ∃ further, depth = further + 1 ∧ fs.entries.length ≤ further + (next :: busy).length := by
  have within := h.cons stands inside less
  have few := within.length_le
  rw [List.length_cons, List.length_map] at few
  refine ⟨fun mem => h.not_mem stands inside less (List.mem_map_of_mem mem), within, depth - 1, ?_, ?_⟩
  · omega
  · rw [List.length_cons]
    omega

end IsWalked

/-- What is looked at is there, or it is too long for that. -/
theorem look_of_status {e : Entry} (clean : NulFree t.names)
    (stands : fs.status (t.location fs.here) = .ok e) :
    fs.look t = .ok e ∨ fs.look t = .error (.refused .nameTooLong t.text) := by
  unfold look
  simp only [List.contains_eq_mem, Trail.noNul_text clean, decide_false, Bool.false_eq_true,
    if_false, stands]
  split
  · exact .inr rfl
  · exact .inl rfl

/-- **A strict walk gets to where its names lead**, if it is not too long to look at one of them. By
induction on how they lead: a link that is met is none of those that are being walked, so there is room
to walk its target, and then the names left. -/
theorem Leads.walk (nulFree : fs.IsNulFree) {n : Nat} (h : fs.Leads n l names l') :
    ∀ {depth : Nat} {busy : List Trail} {t : Trail}, t.location fs.here = l → NulFree t.names →
      NulFree names → fs.IsWalked n (busy.map fun link => link.location fs.here) →
      fs.entries.length ≤ depth + busy.length →
      (∃ t', fs.walk true depth busy t names = .ok (.arrived t') ∧ t'.location fs.here = l' ∧
        NulFree t'.names) ∨
      ∃ text, fs.walk true depth busy t names = .error (.refused .nameTooLong text) := by
  induction h with
  | arrived =>
    intro depth busy t at_ free _ _ _
    exact .inl ⟨t, walk_nil, at_, free⟩
  | stay dot _ ih =>
    intro depth busy t at_ free clean walked room
    rw [walk_stay dot]
    exact ih at_ free (List.forall_mem_cons.mp clean).2 walked room
  | up _ ih =>
    intro depth busy t at_ free clean walked room
    rw [walk_up]
    exact ih (by simp [at_]) (Trail.nulFree_pop free) (List.forall_mem_cons.mp clean).2 walked room
  | @enter _ l _ name _ _ noDot noDots stands noLink _ ih =>
    intro depth busy t at_ free clean walked room
    obtain ⟨first, clean⟩ := List.forall_mem_cons.mp clean
    have next := Trail.nulFree_push free first
    have there : (t.push name).location fs.here = name :: l := by simp [at_]
    rcases look_of_status next (there ▸ stands) with look | long
    · rw [walk_enter noDot noDots look noLink]
      exact ih there next clean walked room
    · exact .inr ⟨_, walk_refused noDot noDots long⟩
  | @follow m k l mid _ name target _ noDot noDots stands inside _ inner ih =>
    intro depth busy t at_ free clean walked room
    obtain ⟨first, clean⟩ := List.forall_mem_cons.mp clean
    have next := Trail.nulFree_push free first
    have there : (t.push name).location fs.here = name :: l := by simp [at_]
    rcases look_of_status next (there ▸ stands) with look | long
    · have less : m < m + k + 1 := by omega
      obtain ⟨fresh, walkedInside, depth, rfl, roomInside⟩ :=
        walked.enter (there ▸ stands) (by rw [there]; exact inside) less room
      have start : (Trail.ofTarget t target).location fs.here =
          if isAbsolute target then [] else l := by
        simp [at_]
      have pieces : NulFree (slashPieces target) :=
        nulFree_slashPieces (nulFree.links _ _ (mem_entries_of_status stands nofun))
      rcases inner start (Trail.nulFree_ofTarget free target) pieces walkedInside roomInside with
        ⟨t', entered, at', free'⟩ | ⟨text, refused⟩
      · rw [walk_follow noDot noDots look fresh entered]
        exact ih at' free' clean (walked.mono (by omega)) room
      · exact .inr ⟨text, walk_follow_error noDot noDots look fresh refused⟩
    · exact .inr ⟨_, walk_refused noDot noDots long⟩

/-! ## The law -/

/-- A path resolves to where its names lead, if it is not too long to look at one of them. -/
theorem resolve_of_leads (nulFree : fs.IsNulFree) {p : Path} (clean : NulFree p.names) {n : Nat}
    (h : fs.Leads n (fs.startOf p) p.names l) :
    fs.resolve p = .ok l.path ∨ ∃ text, fs.resolve p = .error (.refused .nameTooLong text) := by
  have free : NulFree (trailStart p).names := by
    unfold trailStart
    split <;> exact nofun
  have room : fs.entries.length ≤ fs.walkDepth + ([] : List Trail).length := by
    unfold walkDepth
    omega
  unfold resolve
  have none_ : fs.IsWalked n (([] : List Trail).map fun link => link.location fs.here) :=
    ⟨List.nodup_nil, fun _ absent => nomatch absent⟩
  rcases h.walk nulFree (location_trailStart p) free clean none_ room with
    ⟨t, walked, rfl, -⟩ | ⟨text, refused⟩
  · rw [walked]
    exact .inl rfl
  · rw [refused]
    exact .inr ⟨text, rfl⟩

/-- **A path resolves to the place that it leads to when it is opened**, if it is not too long to look at
one of the names on the way. -/
theorem resolve_of_locate (nulFree : fs.IsNulFree) {p : Path} (h : fs.locate false p = .ok l) :
    fs.resolve p = .ok l.path ∨ ∃ text, fs.resolve p = .error (.refused .nameTooLong text) := by
  obtain ⟨n, leads⟩ := exists_leads_of_locate h
  refine resolve_of_leads nulFree (Path.nulFree_of_text fun nul => ?_) leads
  unfold locate at h
  simp only [List.contains_iff_mem.mpr nul, if_true] at h
  cases h

/-- The lenient walk goes where the strict one goes, if that is so for links. -/
theorem walkLenient_of_walkWith
    {enter enter' : Trail → Trail → List String → Except Fault WalkEnd}
    (follows : ∀ link t names t', enter link t names = .ok (.arrived t') →
      enter' link t names = .ok (.arrived t'))
    (h : fs.walkWith true busy enter t names = .ok (.arrived t')) :
    fs.walkWith false busy enter' t names = .ok (.arrived t') := by
  induction names generalizing t with
  | nil => exact h
  | cons name rest ih =>
    unfold walkWith
    cases walksOn_of_walkWith h with
    | stay dot onward =>
      rw [if_pos dot]
      exact ih onward
    | up onward =>
      rw [if_neg (by decide), if_pos rfl]
      exact ih onward
    | @enter _ e noDot noDots look noLink onward =>
      simp only [if_neg noDot, if_neg noDots, look]
      cases e with
      | link target => exact absurd rfl (noLink target)
      | file content => exact ih onward
      | folder => exact ih onward
    | follow noDot noDots look free inside onward =>
      simp only [if_neg noDot, if_neg noDots, look, free, Bool.false_eq_true, if_false,
        follows _ _ _ _ inside]
      exact ih onward

/-- The lenient walk goes where the strict one goes, by induction on how deep links may be nested. -/
theorem walkLenient_of_walk (h : fs.walk true depth busy t names = .ok (.arrived t')) :
    fs.walk false depth busy t names = .ok (.arrived t') := by
  induction depth generalizing busy t names t' with
  | zero => exact walkLenient_of_walkWith (fun _ _ _ _ entered => by cases entered) h
  | succ depth ih => exact walkLenient_of_walkWith (fun _ _ _ _ entered => ih entered) h

/-- **What a path resolves to by the strict walk, it resolves to by the lenient one.** -/
theorem resolveLenient_of_resolve (placed : fs.IsPlaced) {p found : Path} (clean : SlashFree p.names)
    (h : fs.resolve p = .ok found) : fs.resolveLenient p = .ok found := by
  obtain ⟨l, rfl, canonical⟩ := isCanonical_of_resolve placed clean h
  unfold resolve at h
  split at h
  · cases h
  · rename_i t walked
    have there : t.location fs.here = l := by
      have reversed := congrArg Path.names (Except.ok.inj h)
      exact List.reverse_inj.mp reversed
    exact canonical.resolveLenient_of_walk (walkLenient_of_walk walked) there
  · cases h

/-! ## Files -/

theorem locate_of_stat {p : Path} {e : Entry} (h : fs.stat p = .ok e) :
    ∃ l, fs.locate false p = .ok l ∧ fs.status l = .ok e := by
  unfold stat at h
  split at h
  · cases h
  · rename_i l located
    split at h
    · rename_i stands
      cases h
      exact ⟨l, located, stands⟩
    · cases h

theorem locate_of_readBytes {p : Path} {content : List UInt8} (h : fs.readBytes p = .ok content) :
    ∃ l, fs.locate false p = .ok l ∧ fs.status l = .ok (.file content) := by
  unfold readBytes at h
  split at h
  · cases h
  · rename_i there
    cases h
    exact locate_of_stat there
  · cases h
  · cases h

theorem locate_of_isFile {p : Path} (h : fs.isFile p = .ok true) :
    ∃ l content, fs.locate false p = .ok l ∧ fs.status l = .ok (.file content) := by
  unfold isFile at h
  split at h
  · rename_i content there
    obtain ⟨l, located, stands⟩ := locate_of_stat there
    exact ⟨l, content, located, stands⟩
  all_goals cases h

/-- The canonical path of a file. -/
def IsCanonicalFile (fs : FileSystem) (p : Path) : Prop :=
  ∃ l content, p = l.path ∧ fs.IsCanonical l ∧ fs.status l = .ok (.file content)

theorem IsCanonical.isCanonicalFile (h : fs.IsCanonical l) (file : fs.isFile l.path = .ok true) :
    fs.IsCanonicalFile l.path := by
  obtain ⟨_, content, located, stands⟩ := locate_of_isFile file
  rw [h.locate] at located
  split at located
  · cases located
  · cases located
    exact ⟨l, content, rfl, h, stands⟩

/-- **What a path that leads to a file resolves to is the canonical path of a file**, by the lenient walk
too, if it is not too long to look at a name on the way. -/
theorem isCanonicalFile_of_resolveLenient (placed : fs.IsPlaced) (nulFree : fs.IsNulFree)
    {p found : Path} (clean : SlashFree p.names) (file : fs.isFile p = .ok true)
    (within : ∀ long, fs.resolve p ≠ .error (.refused .nameTooLong long))
    (h : fs.resolveLenient p = .ok found) : fs.IsCanonicalFile found := by
  obtain ⟨l, content, located, stands⟩ := locate_of_isFile file
  rcases resolve_of_locate nulFree located with resolved | ⟨long, refused⟩
  · obtain ⟨_, same, canonical⟩ := isCanonical_of_resolve placed clean resolved
    cases List.reverse_inj.mp (congrArg Path.names same)
    cases (resolveLenient_of_resolve placed clean resolved).symm.trans h
    exact ⟨l, content, rfl, canonical, stands⟩
  · exact absurd refused (within long)

/-- **A file system has finitely many canonical paths of files**: each is that of an entry. -/
theorem finite_isCanonicalFile (fs : FileSystem) : {p | fs.IsCanonicalFile p}.Finite := by
  refine (List.finite_toSet (fs.entries.map fun e => Location.path e.1)).subset ?_
  rintro _ ⟨l, content, rfl, -, stands⟩
  exact List.mem_map_of_mem (f := fun e => Location.path e.1) (mem_entries_of_status stands nofun)

end FileSystem

end SlideDeck
