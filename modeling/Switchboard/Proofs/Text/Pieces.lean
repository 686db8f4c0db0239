import Mathlib.Data.List.DropRight
import Switchboard.Text.Blank
import Switchboard.Text.Pieces

/-!
# Cutting undoes joining

Cutting at every occurrence of a separator is the library's `List.splitOn`, so
cutting what was joined gives the parts back as soon as no part holds the
separator (`pieces_join`). Cutting once finds the first separator
(`cut?_append`). Trimming takes the blanks at the ends of a text and nothing else
(`exists_eq_append_trim`, `trim_trim`).
-/

namespace Switchboard.Text

variable {α : Type} [DecidableEq α]

/-- **Cutting everywhere is the library's splitting.** -/
theorem pieces_eq_splitOn (sep : α) (cs : List α) :
    pieces sep cs = cs.splitOn sep := by
  induction cs with
  | nil => rfl
  | cons c rest ih =>
    rw [pieces, List.splitOn_cons_eq_if_modifyHead, ih]
    by_cases h : c = sep
    · rw [if_pos h, if_pos (by simpa using h)]
    · rw [if_neg h, if_neg (by simpa using h)]
      have hne := List.splitOn_ne_nil sep rest
      cases hs : rest.splitOn sep with
      | nil => exact absurd hs hne
      | cons p ps => rfl

/-- No piece holds the separator. -/
theorem notMem_of_mem_pieces {sep : α} {cs p : List α}
    (h : p ∈ pieces sep cs) : sep ∉ p := by
  induction cs generalizing p with
  | nil =>
    rw [show p = [] by simpa [pieces] using h]
    exact List.not_mem_nil
  | cons c rest ih =>
    rw [pieces] at h
    split at h
    · rcases List.mem_cons.mp h with rfl | hp
      · exact List.not_mem_nil
      · exact ih hp
    · next hc =>
      cases hs : pieces sep rest with
      | nil =>
        rw [pieces_eq_splitOn] at hs
        exact absurd hs (List.splitOn_ne_nil sep rest)
      | cons q qs =>
        rw [hs] at ih h
        rcases List.mem_cons.mp h with rfl | hp
        · rw [List.mem_cons, not_or]
          exact ⟨fun e => hc e.symm, ih List.mem_cons_self⟩
        · exact ih (List.mem_cons_of_mem q hp)

/-- A piece consists of elements of what was cut. -/
theorem mem_of_mem_pieces {sep : α} {cs p : List α}
    (h : p ∈ pieces sep cs) {x : α} (hx : x ∈ p) : x ∈ cs := by
  rw [pieces_eq_splitOn] at h
  have hjoin : [sep].intercalate (cs.splitOn sep) = cs :=
    List.intercalate_splitOn sep
  rw [← hjoin]
  generalize cs.splitOn sep = parts at h
  induction parts with
  | nil => exact absurd h List.not_mem_nil
  | cons q qs ih =>
    cases qs with
    | nil =>
      rw [List.intercalate_singleton, ← List.mem_singleton.mp h]
      exact hx
    | cons r rs =>
      rw [List.intercalate_cons_cons, List.append_assoc, List.mem_append]
      rcases List.mem_cons.mp h with rfl | hp
      · exact .inl hx
      · exact .inr (List.mem_append_right _ (ih hp))

/-- What does not hold the separator is not cut. -/
theorem pieces_of_notMem {sep : α} {cs : List α} (h : sep ∉ cs) : pieces sep cs = [cs] := by
  rw [pieces_eq_splitOn, List.splitOn_eq_singleton h]

/-- The first piece ends at the first separator. -/
theorem pieces_append_cons {sep : α} {before : List α} (h : sep ∉ before) (after : List α) :
    pieces sep (before ++ sep :: after) = before :: pieces sep after := by
  rw [pieces_eq_splitOn, pieces_eq_splitOn, List.splitOn_append_cons_self_of_not_mem h]

/-- A text may be cut at one of its separators first. -/
theorem pieces_append_sep (sep : α) (before after : List α) :
    pieces sep (before ++ sep :: after) = pieces sep before ++ pieces sep after := by
  rw [pieces_eq_splitOn, pieces_eq_splitOn, pieces_eq_splitOn, List.splitOn_append_cons_self]

/-- What is no separator goes before the first piece. -/
theorem exists_pieces_cons {sep c : α} (h : c ≠ sep) (cs : List α) :
    ∃ p ps, pieces sep cs = p :: ps ∧ pieces sep (c :: cs) = (c :: p) :: ps := by
  rw [pieces, if_neg h]
  cases hcs : pieces sep cs with
  | nil => exact absurd (pieces_eq_splitOn sep cs ▸ hcs) (List.splitOn_ne_nil sep cs)
  | cons p ps => exact ⟨p, ps, rfl, rfl⟩

/-- What stands before the first separator is the first piece. -/
theorem headD_pieces (sep : Char) (cs : List Char) :
    (pieces sep cs).headD [] = cs.takeWhile (· != sep) := by
  induction cs with
  | nil => rfl
  | cons c cs ih =>
    rw [pieces]
    by_cases h : c = sep
    · rw [if_pos h, List.takeWhile_cons_of_neg (by simp [h])]
      rfl
    · rw [if_neg h, List.takeWhile_cons_of_pos (by simp [h]), ← ih]
      cases pieces sep cs <;> rfl

/-- There is one piece more than there are separators. -/
theorem length_pieces (sep : Char) (cs : List Char) :
    (pieces sep cs).length = cs.count sep + 1 := by
  induction cs with
  | nil => rfl
  | cons c rest ih =>
    rw [pieces]
    by_cases h : c = sep
    · rw [if_pos h, List.length_cons, ih, h, List.count_cons_self]
    · rw [if_neg h, List.count_cons_of_ne h, ← ih]
      cases hp : pieces sep rest with
      | nil => rw [hp] at ih; exact absurd ih (by simp)
      | cons p ps => rfl

/-- **Cutting undoes joining** parts that do not hold the separator. -/
theorem pieces_join {sep : Char} {parts : List String} (hne : parts ≠ [])
    (h : ∀ p ∈ parts, sep ∉ p.toList) :
    (pieces sep (join (String.singleton sep) parts).toList).map String.ofList
      = parts := by
  rw [join, String.toList_intercalate, pieces_eq_splitOn,
    String.toList_singleton, List.splitOn_intercalate sep _ (by simpa using hne),
    List.map_map]
  · simp
  · intro l hl
    obtain ⟨p, hp, rfl⟩ := List.mem_map.mp hl
    exact h p hp

@[simp] theorem join_singleton (sep t : String) : join sep [t] = t := by
  rw [join, String.intercalate_singleton]

/-- **The first of joined parts** stands before the rest, with the separator
between. -/
theorem join_cons (sep t : String) {parts : List String} (h : parts ≠ []) :
    join sep (t :: parts) = t ++ sep ++ join sep parts := by
  cases parts with
  | nil => exact absurd rfl h
  | cons p ps => rw [join, String.intercalate_cons_cons, join]

/-- Parts at the end may be joined beforehand. -/
theorem join_append_join (sep : String) (front : List String) {back : List String}
    (h : back ≠ []) : join sep (front ++ [join sep back]) = join sep (front ++ back) := by
  induction front with
  | nil => rw [List.nil_append, List.nil_append, join_singleton]
  | cons t ts ih =>
    rw [List.cons_append, List.cons_append, join_cons _ _ (by simp),
      join_cons _ _ (by simp [h]), ih]

/-- Joining adds nothing but the separator. -/
theorem notMem_join {x : Char} {sep : String} {parts : List String}
    (hsep : x ∉ sep.toList) (h : ∀ p ∈ parts, x ∉ p.toList) :
    x ∉ (join sep parts).toList := by
  induction parts with
  | nil => exact List.not_mem_nil
  | cons p ps ih =>
    rw [List.forall_mem_cons] at h
    by_cases hps : ps = []
    · rw [hps, join_singleton]
      exact h.1
    · rw [join_cons _ _ hps, String.toList_append, String.toList_append]
      simp [h.1, hsep, ih h.2]

/-- Joined parts that all end with a character end with it. -/
theorem getLast?_join {sep : String} {c : Char} {parts : List String}
    (hne : parts ≠ []) (h : ∀ p ∈ parts, p.toList.getLast? = some c) :
    (join sep parts).toList.getLast? = some c := by
  induction parts with
  | nil => exact absurd rfl hne
  | cons p ps ih =>
    rw [List.forall_mem_cons] at h
    by_cases hps : ps = []
    · rw [hps, join_singleton]
      exact h.1
    · rw [join_cons _ _ hps, String.toList_append, List.getLast?_append, ih hps h.2,
        Option.some_or]

/-- **The first separator is where a text is cut.** -/
theorem cut?_append {sep : α} {before : List α} (h : sep ∉ before)
    (after : List α) : cut? sep (before ++ sep :: after) = some (before, after) := by
  induction before with
  | nil => simp [cut?]
  | cons c rest ih =>
    rw [List.mem_cons, not_or] at h
    rw [List.cons_append, cut?, if_neg (fun e => h.1 e.symm), ih h.2]
    rfl

/-- Cutting takes a text apart and loses the separator only. -/
theorem eq_append_of_cut? {sep : α} {cs before after : List α}
    (h : cut? sep cs = some (before, after)) : cs = before ++ sep :: after := by
  induction cs generalizing before with
  | nil => simp [cut?] at h
  | cons c rest ih =>
    rw [cut?] at h
    split at h
    · next hc =>
      obtain ⟨rfl, rfl⟩ := Prod.mk.inj (Option.some.inj h)
      rw [hc, List.nil_append]
    · obtain ⟨⟨b, a⟩, hcut, he⟩ := Option.map_eq_some_iff.mp h
      obtain ⟨rfl, rfl⟩ := Prod.mk.inj he
      rw [ih hcut, List.cons_append]

/-! ## Trimming -/

/-- Trimming drops characters and adds none. -/
theorem mem_of_mem_trim {cs : List Char} {c : Char} (h : c ∈ trim cs) :
    c ∈ cs := by
  have hend : c ∈ trimStart cs := by
    rw [trim, trimEnd] at h
    exact List.mem_reverse.mp
      ((List.dropWhile_suffix isBlank).subset (List.mem_reverse.mp h))
  exact (List.dropWhile_suffix isBlank).subset hend

/-- **A text without blanks at its ends is trimmed already.** -/
theorem trim_of_ends {cs : List Char} (hfirst : ∀ c ∈ cs.head?, isBlank c = false)
    (hlast : ∀ c ∈ cs.getLast?, isBlank c = false) : trim cs = cs := by
  have hstart : trimStart cs = cs := by
    cases cs with
    | nil => rfl
    | cons c rest =>
      have hc : isBlank c = false := hfirst c rfl
      rw [trimStart, List.dropWhile_cons_of_neg (by simp [hc])]
  rw [trim, hstart]
  refine List.rdropWhile_eq_self_iff.mpr (fun hne hblank => ?_)
  rw [hlast _ (List.getLast?_eq_some_getLast hne)] at hblank
  exact Bool.false_ne_true hblank

/-- A text is the blanks before it and the text without them. -/
theorem takeWhile_append_trimStart (cs : List Char) :
    cs.takeWhile isBlank ++ trimStart cs = cs := List.takeWhile_append_dropWhile

/-- Nothing is left of blanks when they are trimmed, and something of all else. -/
theorem trim_eq_nil_iff {cs : List Char} : trim cs = [] ↔ ∀ c ∈ cs, isBlank c = true := by
  have hstart : (∀ c ∈ trimStart cs, isBlank c = true) ↔ ∀ c ∈ cs, isBlank c = true := by
    conv_rhs => rw [← takeWhile_append_trimStart cs]
    rw [List.forall_mem_append]
    exact (and_iff_right fun c hc => List.mem_takeWhile_imp hc).symm
  exact List.rdropWhile_eq_nil_iff.trans hstart

/-- Blanks before a text are trimmed with those of the text. -/
theorem trim_append_left {blanks : List Char} (h : ∀ c ∈ blanks, isBlank c = true)
    (cs : List Char) : trim (blanks ++ cs) = trim cs := by
  rw [trim, trim, trimStart, trimStart, List.dropWhile_append_of_pos h]

/-- Blanks after a text are trimmed with those of the text. -/
theorem trim_append_right {blanks : List Char} (h : ∀ c ∈ blanks, isBlank c = true)
    (cs : List Char) : trim (cs ++ blanks) = trim cs := by
  by_cases hcs : ∀ c ∈ cs, isBlank c = true
  · rw [trim_eq_nil_iff.mpr hcs, trim_eq_nil_iff, List.forall_mem_append]
    exact ⟨hcs, h⟩
  · have hstart : trimStart (cs ++ blanks) = trimStart cs ++ blanks := by
      have hne : ¬(cs.dropWhile isBlank).isEmpty = true := by simpa using hcs
      rw [trimStart, List.dropWhile_append, if_neg hne, trimStart]
    rw [trim, hstart, trim, trimEnd, List.reverse_append,
      List.dropWhile_append_of_pos fun c hc => h c (List.mem_reverse.mp hc), trimEnd]

/-- **A text is blanks, what is left when it is trimmed, and blanks.** -/
theorem exists_eq_append_trim (cs : List Char) :
    ∃ before after, (∀ c ∈ before, isBlank c = true) ∧ (∀ c ∈ after, isBlank c = true)
      ∧ cs = before ++ trim cs ++ after := by
  refine ⟨cs.takeWhile isBlank, (trimStart cs).rtakeWhile isBlank,
    fun c hc => List.mem_takeWhile_imp hc, fun c hc => List.mem_rtakeWhile_imp hc, ?_⟩
  have hend : trim cs ++ (trimStart cs).rtakeWhile isBlank = trimStart cs :=
    List.rdropWhile_append_rtakeWhile
  rw [List.append_assoc, hend, takeWhile_append_trimStart]

/-- **Trimming twice is trimming once.** -/
theorem trim_trim (cs : List Char) : trim (trim cs) = trim cs := by
  refine trim_of_ends (fun c hc => ?_) (fun c hc => ?_)
  · obtain ⟨rest, hrest⟩ : trim cs <+: trimStart cs := List.rdropWhile_prefix _ _
    have hhead : (trimStart cs).head? = some c := by
      rw [← hrest, List.head?_append, hc, Option.some_or]
    have hstart := List.head?_dropWhile_not isBlank cs
    rw [← trimStart, hhead] at hstart
    exact hstart
  · have hne : trim cs ≠ [] := List.ne_nil_of_mem (List.mem_of_mem_getLast? hc)
    have hlast := List.rdropWhile_last_not isBlank (trimStart cs) hne
    rw [Option.mem_def, List.getLast?_eq_some_getLast hne] at hc
    rw [← Option.some.inj hc]
    exact Bool.eq_false_iff.mpr hlast

/-! ## Occurring -/

theorem occursIn_iff {needle cs : List Char} :
    occursIn needle cs = true ↔ needle <:+: cs := by
  induction cs with
  | nil => rw [occursIn, List.isEmpty_iff, List.infix_nil]
  | cons c rest ih =>
    rw [occursIn, Bool.or_eq_true, List.isPrefixOf_iff_prefix, ih, List.infix_cons_iff]

end Switchboard.Text
