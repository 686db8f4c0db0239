import Switchboard.Files.Tree
import Switchboard.Proofs.Success

/-!
# What writing leaves of a tree

A walk asks only for directories. So whatever keeps the directories of a tree
keeps where its paths lead, and that is all the steps of saving a file need to
know of each other: the directories made on the way stay where the write that
follows looks for them, and the same write done again finds them all.

The directories a path asks for may be made one after another and stop at a
refusal. The account of them is therefore the same for both outcomes: every
place is as it was, or nothing was there and a directory on the way is now.
-/

namespace Switchboard.Files

variable {t t' u : Tree} {p q : Path} {place other : Place} {node : Node}
  {s : String} {content : List UInt8} {e : FileError}

/-! ## A node put at a place -/

theorem lookup_putNode_self (place : Place) (node : Node)
    (nodes : List (Place × Node)) :
    (putNode place node nodes).lookup place = some node := by
  induction nodes with
  | nil => exact List.lookup_cons_self
  | cons entry rest ih =>
    obtain ⟨q, n⟩ := entry
    rw [putNode]
    split_ifs with h
    · rw [h, List.lookup_cons_self]
    · rw [List.lookup_cons, beq_eq_false_iff_ne.mpr (Ne.symm h)]
      exact ih

theorem lookup_putNode_of_ne (h : other ≠ place) (node : Node)
    (nodes : List (Place × Node)) :
    (putNode place node nodes).lookup other = nodes.lookup other := by
  induction nodes with
  | nil => rw [putNode, List.lookup_cons, beq_eq_false_iff_ne.mpr h]
  | cons entry rest ih =>
    obtain ⟨q, n⟩ := entry
    rw [putNode]
    split_ifs with hq
    · rw [hq, List.lookup_cons, List.lookup_cons, beq_eq_false_iff_ne.mpr h]
    · rw [List.lookup_cons, List.lookup_cons, ih]

/-- To put what is there already changes nothing. -/
theorem putNode_of_lookup {nodes : List (Place × Node)}
    (h : nodes.lookup place = some node) : putNode place node nodes = nodes := by
  induction nodes with
  | nil => exact nomatch h
  | cons entry rest ih =>
    obtain ⟨q, n⟩ := entry
    rw [putNode]
    split_ifs with hq
    · rw [hq, List.lookup_cons_self] at h
      rw [Option.some.inj h]
    · rw [List.lookup_cons, beq_eq_false_iff_ne.mpr (Ne.symm hq)] at h
      rw [ih h]

namespace Tree

theorem node?_put_self (h : place ≠ []) : (t.put place node).node? place = some node := by
  rw [node?, if_neg h]
  exact lookup_putNode_self place node t.nodes

theorem node?_put_of_ne (h : other ≠ place) :
    (t.put place node).node? other = t.node? other := by
  rw [node?, node?]
  split_ifs
  · rfl
  · exact lookup_putNode_of_ne h node t.nodes

theorem put_of_node? (hplace : place ≠ []) (h : t.node? place = some node) :
    t.put place node = t := by
  rw [node?, if_neg hplace] at h
  rw [put, putNode_of_lookup h]

/-! ## Where a path leads -/

theorem requireDirectory_eq_ok :
    t.requireDirectory place = .ok () ↔ t.node? place = some .directory := by
  rw [requireDirectory]
  split <;> simp_all only [reduceCtorEq, Option.some.injEq]

theorem step_eq_ok : t.step place s = .ok other
    ↔ t.node? place = some .directory ∧ stepFrom place s = other := by
  rw [step, bind_eq_ok]
  constructor
  · rintro ⟨⟨⟩, hdir, h⟩
    exact ⟨requireDirectory_eq_ok.mp hdir, Except.ok.inj h⟩
  · rintro ⟨hdir, rfl⟩
    exact ⟨(), requireDirectory_eq_ok.mpr hdir, rfl⟩

theorem stepFrom_of_isName (h : isName s = true) : stepFrom place s = place ++ [s] := by
  simp only [isName, Bool.and_eq_true, decide_eq_true_eq] at h
  rw [stepFrom, if_neg h.1, if_neg h.2]

theorem approach_eq_ok {last : Option String} :
    t.approach p = .ok (place, last)
      ↔ p.steps.dropLast.foldlM t.step (start p) = .ok place
        ∧ t.node? place = some .directory ∧ p.steps.getLast? = last := by
  rw [approach, bind_eq_ok]
  constructor
  · rintro ⟨mid, hmid, h⟩
    obtain ⟨⟨⟩, hdir, h⟩ := bind_eq_ok.mp h
    obtain ⟨rfl, rfl⟩ := Prod.mk.inj (Except.ok.inj h)
    exact ⟨hmid, requireDirectory_eq_ok.mp hdir, rfl⟩
  · rintro ⟨hmid, hdir, rfl⟩
    exact ⟨place, hmid, bind_eq_ok.mpr ⟨(), requireDirectory_eq_ok.mpr hdir, rfl⟩⟩

/-- **A path leads where its last step does**, from the directory before it. -/
theorem walk_eq_ok_of_getLast? (hs : p.steps.getLast? = some s) :
    t.walk p = .ok other
      ↔ ∃ place, t.approach p = .ok (place, some s) ∧ stepFrom place s = other := by
  have hsteps : p.steps = p.steps.dropLast ++ [s] :=
    (List.dropLast_append_getLast? s hs).symm
  have hwalk : t.walk p = p.steps.dropLast.foldlM t.step (start p)
      >>= fun place => [s].foldlM t.step place := by
    rw [← List.foldlM_append, ← hsteps, walk]
  rw [hwalk, bind_eq_ok]
  refine exists_congr fun place => ?_
  rw [List.foldlM_cons, approach_eq_ok, bind_eq_ok]
  constructor
  · rintro ⟨hmid, next, hstep, h⟩
    obtain ⟨hdir, rfl⟩ := step_eq_ok.mp hstep
    exact ⟨⟨hmid, hdir, hs⟩, Except.ok.inj h⟩
  · rintro ⟨⟨hmid, hdir, _⟩, rfl⟩
    exact ⟨hmid, _, step_eq_ok.mpr ⟨hdir, rfl⟩, rfl⟩

theorem walk_of_approach (h : t.approach p = .ok (place, some s)) :
    t.walk p = .ok (stepFrom place s) :=
  (walk_eq_ok_of_getLast? (approach_eq_ok.mp h).2.2).mpr ⟨place, h, rfl⟩

theorem isDirectory_iff : t.isDirectory p = true
    ↔ ∃ place, t.walk p = .ok place ∧ t.node? place = some .directory := by
  rw [isDirectory]
  cases t.walk p with
  | error e => simp
  | ok place => simp

/-! ## Directories that are kept -/

/-- **A tree keeps the directories** of another one. -/
def KeepsDirectories (t t' : Tree) : Prop :=
  ∀ place, t.node? place = some .directory → t'.node? place = some .directory

theorem KeepsDirectories.foldlM_step (h : KeepsDirectories t t') {steps : List String}
    (hwalk : steps.foldlM t.step place = .ok other) :
    steps.foldlM t'.step place = .ok other := by
  induction steps generalizing place with
  | nil => exact hwalk
  | cons s rest ih =>
    rw [List.foldlM_cons, bind_eq_ok] at hwalk ⊢
    obtain ⟨next, hstep, hrest⟩ := hwalk
    obtain ⟨hdir, hnext⟩ := step_eq_ok.mp hstep
    exact ⟨next, step_eq_ok.mpr ⟨h _ hdir, hnext⟩, ih hrest⟩

/-- **Where directories are kept, paths lead to the same places.** -/
theorem KeepsDirectories.walk (h : KeepsDirectories t t') (hwalk : t.walk p = .ok place) :
    t'.walk p = .ok place :=
  h.foldlM_step hwalk

theorem KeepsDirectories.approach (h : KeepsDirectories t t') {last : Option String}
    (happroach : t.approach p = .ok (place, last)) :
    t'.approach p = .ok (place, last) := by
  obtain ⟨hmid, hdir, hlast⟩ := approach_eq_ok.mp happroach
  exact approach_eq_ok.mpr ⟨h.foldlM_step hmid, h _ hdir, hlast⟩

theorem KeepsDirectories.isDirectory (h : KeepsDirectories t t')
    (hdir : t.isDirectory p = true) : t'.isDirectory p = true := by
  obtain ⟨place, hwalk, hplace⟩ := isDirectory_iff.mp hdir
  exact isDirectory_iff.mpr ⟨place, h.walk hwalk, h _ hplace⟩

/-- A node put where no directory is keeps them all. -/
theorem keepsDirectories_put (hplace : t.node? place ≠ some .directory) (node : Node) :
    KeepsDirectories t (t.put place node) := by
  intro other hother
  have hne : other ≠ place := fun h => hplace (h ▸ hother)
  rw [node?_put_of_ne hne, hother]

/-! ## Directories that are made -/

/-- **A directory made along a path**: nothing was at its place, and the path or
a beginning of it leads there. -/
def MadeAlong (t t' : Tree) (q : Path) (place : Place) : Prop :=
  t.node? place = none ∧ t'.node? place = some .directory
    ∧ ∃ above, above <+: q.steps ∧ t'.walk ⟨q.rooted, above, false⟩ = .ok place

/-- **A tree has grown along a path**: every place is as it was, or has a
directory made along the path. -/
def GrownAlong (t t' : Tree) (q : Path) : Prop :=
  ∀ place, t'.node? place = t.node? place ∨ MadeAlong t t' q place

theorem MadeAlong.mono {q' : Path} (h : MadeAlong t u q place)
    (hrooted : q.rooted = q'.rooted) (hsteps : q.steps <+: q'.steps)
    (hkeeps : KeepsDirectories u t') : MadeAlong t t' q' place := by
  obtain ⟨hnone, hdir, above, habove, hwalk⟩ := h
  exact ⟨hnone, hkeeps _ hdir, above, habove.trans hsteps,
    hrooted ▸ hkeeps.walk hwalk⟩

theorem GrownAlong.refl (t : Tree) (q : Path) : GrownAlong t t q :=
  fun _ => .inl rfl

theorem GrownAlong.keepsDirectories (h : GrownAlong t t' q) : KeepsDirectories t t' := by
  intro place hplace
  rcases h place with hsame | ⟨hnone, _⟩
  · rw [hsame, hplace]
  · exact nomatch hnone.symm.trans hplace

/-- Growth along a beginning of a path is followed by growth along the path. -/
theorem GrownAlong.trans {above steps : List String} {rooted : Bool}
    (h : GrownAlong t u ⟨rooted, above, false⟩) (habove : above <+: steps)
    (h' : GrownAlong u t' ⟨rooted, steps, false⟩) :
    GrownAlong t t' ⟨rooted, steps, false⟩ := by
  intro place
  rcases h place with hsame | hmade
  · rcases h' place with hsame' | ⟨hnone, hmade⟩
    · exact .inl (hsame'.trans hsame)
    · exact .inr ⟨hsame ▸ hnone, hmade⟩
  · exact .inr (hmade.mono rfl habove h'.keepsDirectories)

/-- **What making a directory does**: a free place, which the path leads to
from then on, has a directory, and all else is as it was. -/
theorem exists_of_makeDirectory (h : t.makeDirectory p = .ok t') :
    ∃ place, t.node? place = none ∧ t'.node? place = some .directory
      ∧ t'.walk p = .ok place ∧ ∀ other ≠ place, t'.node? other = t.node? other := by
  rw [makeDirectory, bind_eq_ok] at h
  obtain ⟨⟨above, last⟩, happroach, h⟩ := h
  cases last with
  | none => exact nomatch h
  | some s =>
    dsimp only at h
    split_ifs at h with hfree
    obtain rfl := Except.ok.inj h
    simp only [Bool.or_eq_true, Bool.not_eq_true', not_or, Bool.not_eq_false,
      Option.isSome_iff_ne_none, not_not] at hfree
    obtain ⟨hname, hnone⟩ := hfree
    have hdir : t.node? (above ++ [s]) ≠ some .directory := by simp [hnone]
    have hwalk := (keepsDirectories_put hdir .directory).walk (walk_of_approach happroach)
    rw [stepFrom_of_isName hname] at hwalk
    exact ⟨above ++ [s], hnone, node?_put_self (by simp), hwalk,
      fun other hother => node?_put_of_ne hother⟩

/-- A directory that is there is not made again. -/
theorem makeDirectory_of_isDirectory (h : t.isDirectory p = true) :
    t.makeDirectory p = .error .alreadyThere := by
  obtain ⟨place, hwalk, hplace⟩ := isDirectory_iff.mp h
  rw [makeDirectory]
  cases hs : p.steps.getLast? with
  | none =>
    have hsteps : p.steps = [] := List.getLast?_eq_none_iff.mp hs
    rw [Tree.walk, hsteps] at hwalk
    have hstart : start p = place := Except.ok.inj hwalk
    have happroach : t.approach p = .ok (place, none) :=
      approach_eq_ok.mpr ⟨by rw [hsteps]; exact hwalk, hplace, hs⟩
    rw [happroach]
    rfl
  | some s =>
    obtain ⟨above, happroach, rfl⟩ := (walk_eq_ok_of_getLast? hs).mp hwalk
    have hthere : (!isName s || (t.node? (above ++ [s])).isSome) = true := by
      cases hname : isName s with
      | false => rfl
      | true =>
        rw [stepFrom_of_isName hname] at hplace
        rw [hplace]
        rfl
    rw [happroach]
    exact if_pos hthere

theorem ensureDirectory_eq_ok : t.ensureDirectory p = .ok t'
    ↔ t.makeDirectory p = .ok t' ∨ (t.isDirectory p = true ∧ t = t') := by
  rw [ensureDirectory]
  constructor
  · intro h
    split at h
    · next hmade =>
      obtain rfl := Except.ok.inj h
      exact .inl hmade
    · split_ifs at h with hdir
      exact .inr ⟨hdir, Except.ok.inj h⟩
    · exact nomatch h
  · rintro (h | ⟨hdir, rfl⟩)
    · rw [h]
    · rw [makeDirectory_of_isDirectory hdir]
      exact if_pos hdir

/-- What is made at a path is a directory there. -/
theorem isDirectory_of_ensureDirectory (h : t.ensureDirectory p = .ok t') :
    t'.isDirectory p = true := by
  rcases ensureDirectory_eq_ok.mp h with hmade | ⟨hdir, rfl⟩
  · obtain ⟨place, _, hplace, hwalk, _⟩ := exists_of_makeDirectory hmade
    exact isDirectory_iff.mpr ⟨place, hwalk, hplace⟩
  · exact hdir

theorem grownAlong_ensureDirectory {rooted : Bool} {steps : List String}
    (h : t.ensureDirectory ⟨rooted, steps, false⟩ = .ok t') :
    GrownAlong t t' ⟨rooted, steps, false⟩ := by
  rcases ensureDirectory_eq_ok.mp h with hmade | ⟨_, rfl⟩
  · obtain ⟨place, hnone, hplace, hwalk, hrest⟩ := exists_of_makeDirectory hmade
    intro other
    by_cases hother : other = place
    · subst hother
      exact .inr ⟨hnone, hplace, steps, List.prefix_rfl, hwalk⟩
    · exact .inl (hrest other hother)
  · exact .refl _ _

/-- **Directories made one above another are all on the path**, also when one
of them is refused. -/
theorem grownAlong_ensureAll (t : Tree) (rooted : Bool) (steps : List String) :
    GrownAlong t (t.ensureAll rooted steps).1 ⟨rooted, steps.reverse, false⟩ := by
  -- the directories above are made first, along a beginning of the path
  induction steps with
  | nil => exact .refl _ _
  | cons s above ih =>
    have habove : above.reverse <+: (s :: above).reverse := by
      rw [List.reverse_cons]
      exact List.prefix_append _ _
    rw [ensureAll]
    split
    · next hmade => exact grownAlong_ensureDirectory hmade
    · split
      · next hall =>
        rw [hall] at ih
        exact ih.trans habove (.refl _ _)
      · next hall =>
        rw [hall] at ih
        split
        · next hmade => exact ih.trans habove (grownAlong_ensureDirectory hmade)
        · exact ih.trans habove (.refl _ _)
    · exact .refl _ _

theorem isDirectory_of_ensureAll {rooted : Bool} {above : List String}
    (h : t.ensureAll rooted (s :: above) = (t', none)) :
    t'.isDirectory ⟨rooted, (s :: above).reverse, false⟩ = true := by
  rw [ensureAll] at h
  split at h
  · next hmade =>
    obtain rfl := (Prod.mk.inj h).1
    exact isDirectory_of_ensureDirectory hmade
  · split at h
    · exact nomatch (Prod.mk.inj h).2
    · split at h
      · next hmade =>
        obtain rfl := (Prod.mk.inj h).1
        exact isDirectory_of_ensureDirectory hmade
      · exact nomatch (Prod.mk.inj h).2
  · exact nomatch (Prod.mk.inj h).2

/-- **Directories that were all made are all found** wherever they are kept. -/
theorem ensureAll_of_keepsDirectories {rooted : Bool} {steps : List String}
    (h : t.ensureAll rooted steps = (u, none)) (hkeeps : KeepsDirectories u t') :
    t'.ensureAll rooted steps = (t', none) := by
  cases steps with
  | nil => rfl
  | cons s above =>
    have hdir := hkeeps.isDirectory (isDirectory_of_ensureAll h)
    rw [ensureAll, ensureDirectory_eq_ok.mpr (.inr ⟨hdir, rfl⟩)]

/-! ## A file saved -/

/-- **A directory made towards a path**: along the path to its parent. -/
def MadeTowards (t t' : Tree) (p : Path) (place : Place) : Prop :=
  ∃ q, p.parent? = some q ∧ MadeAlong t t' q place

/-- What was there is not made. -/
theorem not_madeTowards (h : t.node? place = some node) : ¬MadeTowards t t' p place :=
  fun ⟨_, _, hnone, _⟩ => nomatch hnone.symm.trans h

theorem ensureParents_node? (t : Tree) (p : Path) (place : Place) :
    (t.ensureParents p).1.node? place = t.node? place
      ∨ MadeTowards t (t.ensureParents p).1 p place := by
  rw [ensureParents]
  split
  · next q hq =>
    have hgrown := grownAlong_ensureAll t q.rooted q.steps.reverse
    rw [List.reverse_reverse] at hgrown
    exact (hgrown place).imp_right fun hmade => ⟨q, hq, hmade⟩
  · exact .inl rfl

theorem ensureParents_of_keepsDirectories (h : t.ensureParents p = (u, none))
    (hkeeps : KeepsDirectories u t') : t'.ensureParents p = (t', none) := by
  rw [ensureParents] at h ⊢
  split at h
  · exact ensureAll_of_keepsDirectories h hkeeps
  · rfl

theorem write_eq_ok : t.write p content = .ok t'
    ↔ p.isNothing = false ∧ p.slash = false ∧ ∃ place s,
      t.approach p = .ok (place, some s) ∧ isName s = true
        ∧ t.node? (place ++ [s]) ≠ some .directory
        ∧ t.put (place ++ [s]) (.file content) = t' := by
  rw [write, throw_if_eq_ok, Bool.not_eq_true, bind_eq_ok]
  refine and_congr_right fun _ => ?_
  constructor
  · rintro ⟨⟨place, last⟩, happroach, h⟩
    cases last with
    | none => exact nomatch h
    | some s =>
      dsimp only at h
      split_ifs at h with hfree
      simp only [Bool.or_eq_true, Bool.not_eq_true', decide_eq_true_eq, not_or,
        Bool.not_eq_true, Bool.not_eq_false] at hfree
      exact ⟨hfree.1.1, place, s, happroach, hfree.1.2, hfree.2, Except.ok.inj h⟩
  · rintro ⟨hslash, place, s, happroach, hname, hfree, rfl⟩
    exact ⟨(place, some s), happroach, if_neg (by simp [hslash, hname, hfree])⟩

theorem read_eq_ok : t.read p = .ok content
    ↔ p.isNothing = false ∧ p.slash = false
      ∧ ∃ place, t.walk p = .ok place ∧ t.node? place = some (.file content) := by
  rw [read, throw_if_eq_ok, Bool.not_eq_true, bind_eq_ok]
  refine and_congr_right fun _ => ?_
  constructor
  · rintro ⟨place, hwalk, h⟩
    split at h
    · exact nomatch h
    · exact nomatch h
    · next hplace =>
      split_ifs at h with hslash
      obtain rfl := Except.ok.inj h
      exact ⟨Bool.not_eq_true _ ▸ hslash, place, hwalk, hplace⟩
  · rintro ⟨hslash, place, hwalk, hplace⟩
    refine ⟨place, hwalk, ?_⟩
    rw [hplace, hslash]
    rfl

/-- **What writing a file does**: the path leads to it, it holds what was
written, all else is as it was, and to write it again changes nothing. -/
theorem exists_of_write (h : t.write p content = .ok t') :
    KeepsDirectories t t' ∧ t'.read p = .ok content ∧ t'.write p content = .ok t'
      ∧ ∃ place, t'.walk p = .ok place ∧ t.node? place ≠ some .directory
        ∧ ∀ other ≠ place, t'.node? other = t.node? other := by
  obtain ⟨hthere, hslash, above, s, happroach, hname, hfree, rfl⟩ := write_eq_ok.mp h
  have hkeeps := keepsDirectories_put hfree (.file content)
  have hhas : (t.put (above ++ [s]) (.file content)).node? (above ++ [s])
      = some (.file content) := node?_put_self (by simp)
  have hwalk := hkeeps.walk (walk_of_approach happroach)
  rw [stepFrom_of_isName hname] at hwalk
  refine ⟨hkeeps, read_eq_ok.mpr ⟨hthere, hslash, _, hwalk, hhas⟩, ?_,
    _, hwalk, hfree, fun other hother => node?_put_of_ne hother⟩
  exact write_eq_ok.mpr ⟨hthere, hslash, above, s, hkeeps.approach happroach, hname,
    by simp [hhas], put_of_node? (by simp) hhas⟩

/-- **A file saved at a path**: its place, where no directory was, has what was
written, and elsewhere only directories towards the path were made. -/
structure SavedAt (t t' : Tree) (p : Path) (content : List UInt8) (place : Place) :
    Prop where
  leads : t'.walk p = .ok place
  holds : t'.read p = .ok content
  free : t.node? place ≠ some .directory
  rest : ∀ other ≠ place, t'.node? other = t.node? other ∨ MadeTowards t t' p other

/-- **What a save that fails leaves**: every place as it was, or a directory
made towards the path. -/
theorem node?_of_save_error (h : t.save p content = (t', some e)) (place : Place) :
    t'.node? place = t.node? place ∨ MadeTowards t t' p place := by
  have hparents := ensureParents_node? t p place
  rw [save] at h
  split at h
  · next hp =>
    rw [hp] at hparents
    rwa [(Prod.mk.inj h).1] at hparents
  · next hp =>
    rw [hp] at hparents
    split at h
    · exact nomatch (Prod.mk.inj h).2
    · rwa [(Prod.mk.inj h).1] at hparents

/-- **A save that succeeds** leaves the file saved, and done again it leaves all
as it is. -/
theorem savedAt_of_save (h : t.save p content = (t', none)) :
    ∃ place, SavedAt t t' p content place ∧ t'.save p content = (t', none) := by
  rw [save] at h
  split at h
  · exact nomatch (Prod.mk.inj h).2
  · next u hparents =>
    split at h
    · next hwrite =>
      obtain rfl := (Prod.mk.inj h).1
      have hmade := ensureParents_node? t p
      rw [hparents] at hmade
      obtain ⟨hkeeps, hread, hagain, place, hwalk, hfree, hrest⟩ := exists_of_write hwrite
      refine ⟨place, ⟨hwalk, hread, fun hdir => ?_, fun other hother => ?_⟩, ?_⟩
      · -- a directory that was there is still there when the file is written
        rcases hmade place with hsame | hmade
        · exact hfree (hsame.trans hdir)
        · exact not_madeTowards hdir hmade
      · rw [hrest other hother]
        exact (hmade other).imp_right fun ⟨q, hq, halong⟩ =>
          ⟨q, hq, halong.mono rfl List.prefix_rfl hkeeps⟩
      · rw [save, ensureParents_of_keepsDirectories hparents hkeeps]
        dsimp only
        rw [hagain]
    · exact nomatch (Prod.mk.inj h).2

theorem SavedAt.keepsDirectories (h : SavedAt t t' p content place) :
    KeepsDirectories t t' := by
  intro other hdir
  have hother : other ≠ place := fun heq => h.free (heq ▸ hdir)
  rcases h.rest other hother with hsame | hmade
  · rw [hsame, hdir]
  · exact absurd hmade (not_madeTowards hdir)

/-- **A file elsewhere is read as before.** -/
theorem SavedAt.readText (h : SavedAt t t' p content place)
    (hother : t'.walk q ≠ .ok place) {text : String} (hread : t.readText q = .ok text) :
    t'.readText q = .ok text := by
  rw [Tree.readText, bind_eq_ok] at hread ⊢
  obtain ⟨bytes, hbytes, htext⟩ := hread
  refine ⟨bytes, ?_, htext⟩
  obtain ⟨hthere, hslash, source, hwalk, hsource⟩ := read_eq_ok.mp hbytes
  have hwalk' := h.keepsDirectories.walk hwalk
  have hne : source ≠ place := fun heq => hother (heq ▸ hwalk')
  rcases h.rest source hne with hsame | hmade
  · exact read_eq_ok.mpr ⟨hthere, hslash, source, hwalk', hsame.trans hsource⟩
  · exact absurd hmade (not_madeTowards hsource)

end Tree

end Switchboard.Files
