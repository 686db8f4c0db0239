import Mathlib.Data.List.Pairwise
import Switchboard.Api.Document
import Switchboard.Api.Rules
import Switchboard.Proofs.Doc.Constraints

/-!
# What the clauses of an annotation come to

Clauses are taken in one after the other, and each sets one part of the constraints, the
part its key stands for. Clauses of different keys set different parts, so they may
change places; of clauses with one key the later sets the part anew, so the earlier ones
may be left out. Both are laws about two clauses (`Clause.apply_comm`,
`Clause.apply_apply`), and from them follows what holds of a whole annotation: the order
of clauses of distinct keys does not count, and of each key the last clause does
(`constraints_of_clauses`). A clause that cannot be read is one in any order. Which of
several is complained about is a matter of order, so nothing is said of refusals but
that there is one.

Between commas there may also be nothing but blanks, which is no clause. An annotation
of such tokens only is not the same as a blank one: it counts as declared all the same
(`declared_of_constraints`).
-/

namespace Switchboard

open Text

/-- **Constraints whose parts fit together**: the bounds are in order, and no text holds
what texts are cut at. -/
structure Constraints.IsWellFormed (c : Constraints) : Prop where
  /-- The least value is not above the greatest. -/
  bounds : ∀ lo ∈ c.min, ∀ hi ∈ c.max, lo ≤ hi
  /-- The form key holds no comma. -/
  key : ',' ∉ c.key.toList
  /-- The value to fall back on holds no comma. -/
  fallback : ',' ∉ c.fallback.toList
  /-- No choice holds a comma or a vertical bar. -/
  choices : ∀ t ∈ c.choices, ',' ∉ t.toList ∧ '|' ∉ t.toList

/-- A document that is an object has a member of this name and value. -/
def Json.HasMember (j : Json) (name : String) (value : Json) : Prop :=
  ∃ members, j = .object members ∧ (name, value) ∈ members

/-- **A bound that is not set is written as zero.** -/
theorem Constraints.unset_bound_document (c : Constraints) :
    (c.document.HasMember "is_min" (.bool false) → c.document.HasMember "min" (.int 0))
      ∧ (c.document.HasMember "is_max" (.bool false) → c.document.HasMember "max" (.int 0)) := by
  constructor
  all_goals
    rintro ⟨members, hdoc, hunset⟩
    obtain rfl := Json.object.inj hdoc
    refine ⟨_, rfl, ?_⟩
    simp at hunset
    simp [hunset]

namespace Doc

/-! ## Two clauses -/

/-- **The key of the part that a clause sets**; none for a clause without a meaning. -/
def Clause.part? : Clause → Option String
  | required => some "required"
  | key _ => some "paramname"
  | choices _ => some "enum"
  | fallback _ => some "default"
  | min _ => some "min"
  | max _ => some "max"
  | unknown => none

/-- **A clause sets the part its key stands for**, if the key means something. -/
theorem Clause.part?_of_read {key : String} {value : Option (List Char)} {clause : Clause}
    (h : Clause.read key value = .ok clause) :
    clause.part? = if key ∈ clauseKeys then some key else none := by
  cases Clause.isRead_of_read h with
  | unknown hother => rw [if_neg hother, part?]
  | _ => rfl

/-- **Clauses that set different parts may change places.** -/
theorem Clause.apply_comm {a b : Clause} (h : a.part? = b.part? → a.part? = none)
    (c : Constraints) : b.apply (a.apply c) = a.apply (b.apply c) := by
  cases a <;> cases b <;> first | rfl | exact nomatch h rfl

/-- **Of two clauses that set one part the later counts.** -/
theorem Clause.apply_apply {a b : Clause} (h : a.part? = b.part?) (c : Constraints) :
    b.apply (a.apply c) = b.apply c := by
  cases a <;> cases b <;> first | rfl | simp [part?] at h

/-! ## Clauses as they are written -/

/-- The key of a clause's text. -/
def clauseKey (text : List Char) : String := (splitClause text).1

/-- **A text is taken in by its clause**, which sets the part of its key. -/
theorem takeClause_eq_ok {c c' : Constraints} {text : List Char} :
    takeClause c text = .ok c'
      ↔ ∃ clause, Clause.read (clauseKey text) (splitClause text).2 = .ok clause
          ∧ clause.apply c = c' := by
  show (Clause.read _ _ >>= fun clause => pure (clause.apply c)) = _ ↔ _
  rw [bind_eq_ok]
  exact exists_congr fun _ => and_congr_right fun _ =>
    ⟨Except.ok.inj, congrArg Except.ok⟩

/-- Texts with different keys may be taken in in either order. -/
theorem takeClause_comm {c c₁ c₂ : Constraints} {s t : List Char}
    (hkey : clauseKey s ≠ clauseKey t) (hs : takeClause c s = .ok c₁)
    (ht : takeClause c₁ t = .ok c₂) :
    ∃ c', takeClause c t = .ok c' ∧ takeClause c' s = .ok c₂ := by
  obtain ⟨a, ha, rfl⟩ := takeClause_eq_ok.mp hs
  obtain ⟨b, hb, rfl⟩ := takeClause_eq_ok.mp ht
  refine ⟨_, takeClause_eq_ok.mpr ⟨b, hb, rfl⟩, takeClause_eq_ok.mpr ⟨a, ha, ?_⟩⟩
  refine (Clause.apply_comm (fun hpart => ?_) c).symm
  rw [Clause.part?_of_read ha] at hpart ⊢
  rw [Clause.part?_of_read hb] at hpart
  split_ifs at hpart ⊢
  · exact absurd (Option.some.inj hpart) hkey
  · rfl

/-- **The order of texts with distinct keys does not count.** -/
theorem foldlM_takeClause_of_perm {ss ts : List (List Char)} (h : ss.Perm ts)
    (hkeys : (ss.map clauseKey).Nodup) {c c' : Constraints}
    (hss : ss.foldlM takeClause c = .ok c') : ts.foldlM takeClause c = .ok c' := by
  induction h generalizing c with
  | nil => exact hss
  | cons t _ ih =>
    rw [List.foldlM_cons] at hss ⊢
    obtain ⟨mid, hmid, hrest⟩ := bind_eq_ok.mp hss
    exact bind_eq_ok.mpr ⟨mid, hmid, ih (List.nodup_cons.mp hkeys).2 hrest⟩
  | swap s t rest =>
    rw [List.foldlM_cons] at hss ⊢
    obtain ⟨mid, hmid, hrest⟩ := bind_eq_ok.mp hss
    rw [List.foldlM_cons] at hrest
    obtain ⟨mid', hmid', hrest⟩ := bind_eq_ok.mp hrest
    have hkey : clauseKey t ≠ clauseKey s := fun he =>
      (List.nodup_cons.mp hkeys).1 (he ▸ List.mem_cons_self)
    obtain ⟨other, ht, hs⟩ := takeClause_comm hkey hmid hmid'
    exact bind_eq_ok.mpr ⟨other, ht, bind_eq_ok.mpr ⟨mid', hs, hrest⟩⟩
  | trans hfirst _ ihfirst ihsecond =>
    exact ihsecond ((hfirst.map clauseKey).nodup_iff.mp hkeys) (ihfirst hkeys hss)

/-- **The last text of each key**, in order. -/
def lastOfEachKey (texts : List (List Char)) : List (List Char) :=
  texts.pwFilter fun s t => clauseKey s ≠ clauseKey t

/-- A text may be left out before another one with its key. -/
theorem foldlM_takeClause_of_later {texts : List (List Char)} {t : List Char}
    (h : ∃ s ∈ texts, clauseKey s = clauseKey t) {c mid c' : Constraints}
    (ht : takeClause c t = .ok mid) (htexts : texts.foldlM takeClause mid = .ok c') :
    texts.foldlM takeClause c = .ok c' := by
  induction texts generalizing c mid with
  | nil => exact absurd h (by simp)
  | cons s rest ih =>
    rw [List.foldlM_cons] at htexts ⊢
    obtain ⟨mid', hmid', hrest⟩ := bind_eq_ok.mp htexts
    by_cases hkey : clauseKey s = clauseKey t
    · obtain ⟨a, ha, rfl⟩ := takeClause_eq_ok.mp ht
      obtain ⟨b, hb, rfl⟩ := takeClause_eq_ok.mp hmid'
      have hpart : a.part? = b.part? := by
        rw [Clause.part?_of_read ha, Clause.part?_of_read hb, hkey]
      rw [Clause.apply_apply hpart] at hrest
      exact bind_eq_ok.mpr ⟨_, takeClause_eq_ok.mpr ⟨b, hb, rfl⟩, hrest⟩
    · obtain ⟨u, hu, hukey⟩ := h
      have hlater : ∃ u ∈ rest, clauseKey u = clauseKey t :=
        ⟨u, (List.mem_cons.mp hu).resolve_left fun he => hkey (he ▸ hukey), hukey⟩
      obtain ⟨other, hs, hother⟩ := takeClause_comm (Ne.symm hkey) ht hmid'
      exact bind_eq_ok.mpr ⟨other, hs, ih hlater hother hrest⟩

/-- **Of each key the last text counts.** -/
theorem foldlM_lastOfEachKey {texts : List (List Char)} {c c' : Constraints}
    (h : texts.foldlM takeClause c = .ok c') :
    (lastOfEachKey texts).foldlM takeClause c = .ok c' := by
  induction texts generalizing c with
  | nil => exact h
  | cons t rest ih =>
    rw [List.foldlM_cons] at h
    obtain ⟨mid, hmid, hrest⟩ := bind_eq_ok.mp h
    by_cases hlast : ∀ s ∈ lastOfEachKey rest, clauseKey t ≠ clauseKey s
    · rw [lastOfEachKey, List.pwFilter_cons_of_pos hlast, List.foldlM_cons]
      exact bind_eq_ok.mpr ⟨mid, hmid, ih hrest⟩
    · rw [lastOfEachKey, List.pwFilter_cons_of_neg hlast]
      push Not at hlast
      obtain ⟨s, hs, hkey⟩ := hlast
      exact foldlM_takeClause_of_later ⟨s, hs, hkey.symm⟩ hmid (ih hrest)

theorem lastOfEachKey_ne_nil {texts : List (List Char)} (h : texts ≠ []) :
    lastOfEachKey texts ≠ [] := by
  obtain ⟨t, rest, rfl⟩ := List.exists_cons_of_ne_nil h
  by_cases hlast : ∀ s ∈ lastOfEachKey rest, clauseKey t ≠ clauseKey s
  · rw [lastOfEachKey, List.pwFilter_cons_of_pos hlast]
    exact List.cons_ne_nil _ _
  · rw [lastOfEachKey, List.pwFilter_cons_of_neg hlast]
    push Not at hlast
    obtain ⟨s, hs, -⟩ := hlast
    exact List.ne_nil_of_mem hs

/-! ## Tokens between commas -/

/-- **The tokens of an annotation's value**: what stands between its commas. -/
def tokens (body : String) : List (List Char) := pieces ',' body.toList

/-- **There is no clause** where all tokens are blank. -/
theorem clauseTexts_eq_nil_iff {body : String} :
    clauseTexts body.toList = [] ↔ ∀ t ∈ tokens body, ∀ c ∈ t, isBlank c = true := by
  rw [clauseTexts, List.filter_eq_nil_iff, List.forall_mem_map]
  refine forall₂_congr fun t _ => ?_
  rw [← trim_eq_nil_iff]
  simp

/-- **A blank value** is a single token that is no clause. -/
theorem isBlankText_iff {body : String} :
    isBlankText body = true ↔ ',' ∉ body.toList ∧ clauseTexts body.toList = [] := by
  rw [isBlankText, List.all_eq_true, clauseTexts_eq_nil_iff]
  constructor
  · intro h
    exact ⟨fun hcomma => absurd (h ',' hcomma) (by decide),
      fun t ht c hc => h c (mem_of_mem_pieces ht hc)⟩
  · rintro ⟨hcomma, h⟩
    have hsingle : tokens body = [body.toList] := pieces_of_notMem hcomma
    rw [hsingle, List.forall_mem_singleton] at h
    exact h

theorem clauseTexts_perm {a b : String} (h : (tokens a).Perm (tokens b)) :
    (clauseTexts a.toList).Perm (clauseTexts b.toList) :=
  (h.map trim).filter _

/-- Values whose tokens are the same up to their order are blank at once. -/
theorem isBlankText_of_perm {a b : String} (h : (tokens a).Perm (tokens b)) :
    isBlankText a = isBlankText b := by
  have hcomma : ',' ∈ a.toList ↔ ',' ∈ b.toList := by
    have hlength := h.length_eq
    rw [tokens, tokens, length_pieces, length_pieces] at hlength
    rw [← List.count_pos_iff, ← List.count_pos_iff, Nat.add_right_cancel hlength]
  have hclauses : clauseTexts a.toList = [] ↔ clauseTexts b.toList = [] := by
    have hperm := clauseTexts_perm h
    exact ⟨fun ha => (ha ▸ hperm).nil_eq.symm, fun hb => (hb ▸ hperm).eq_nil⟩
  rw [Bool.eq_iff_iff, isBlankText_iff, isBlankText_iff, hcomma, hclauses]

/-! ## Constraints of an annotation -/

/-- **What a tag's annotation comes to**: nothing for a blank value, else its clauses, one
after the other. -/
theorem constraints_of_lookup {tag body : String}
    (h : lookup tag "apivalidator" = some body) :
    constraints tag =
      if isBlankText body then .ok Constraints.none
      else (clauseTexts body.toList).foldlM takeClause Constraints.none >>= checkBounds := by
  rw [constraints, h]
  cases hblank : isBlankText body with
  | false =>
    rw [Option.filter, hblank]
    rfl
  | true =>
    rw [Option.filter, hblank]
    rfl

/-- Without an annotation, or with a blank one, there are no demands. -/
theorem constraints_eq_none {tag : String}
    (h : ∀ body, lookup tag "apivalidator" = some body → isBlankText body = true) :
    constraints tag = .ok Constraints.none := by
  cases hbody : lookup tag "apivalidator" with
  | none =>
    rw [constraints, hbody]
    rfl
  | some body => rw [constraints_of_lookup hbody, if_pos (h body hbody)]

/-- The text that a clause sets a part to. -/
def Clause.text? : Clause → Option String
  | key name => some name
  | fallback value => some value
  | _ => none

/-- The text of a clause is its value as it stands. -/
theorem Clause.value_of_read {key : String} {value : Option (List Char)} {clause : Clause}
    (h : Clause.read key value = .ok clause) {t : String} (ht : t ∈ clause.text?) :
    value = some t.toList := by
  cases Clause.isRead_of_read h with
  | key => rw [← Option.some.inj ht, String.toList_ofList]
  | fallback => rw [← Option.some.inj ht, String.toList_ofList]
  | _ => exact nomatch ht

/-- Taking in the clause of a text without commas brings no comma into the form key and
the value to fall back on. -/
theorem noComma_takeClause {c c' : Constraints} {t : List Char} (ht : ',' ∉ t)
    (hc : ',' ∉ c.key.toList ∧ ',' ∉ c.fallback.toList) (h : takeClause c t = .ok c') :
    ',' ∉ c'.key.toList ∧ ',' ∉ c'.fallback.toList := by
  obtain ⟨clause, hread, rfl⟩ := takeClause_eq_ok.mp h
  have htext : ∀ u ∈ clause.text?, ',' ∉ u.toList := fun u hu =>
    noComma_of_splitClause ht (Clause.value_of_read hread hu)
  cases clause with
  | key name => exact ⟨htext name rfl, hc.2⟩
  | fallback value => exact ⟨hc.1, htext value rfl⟩
  | required => exact hc
  | choices values => exact hc
  | min bound => exact hc
  | max bound => exact hc
  | unknown => exact hc

/-- Bounds that pass the check are in order. -/
theorem bounds_of_checkBounds {c c' : Constraints} (h : checkBounds c = .ok c') :
    ∀ lo ∈ c'.min, ∀ hi ∈ c'.max, lo ≤ hi := by
  rw [eq_of_checkBounds h]
  intro lo hlo hi hhi
  rw [checkBounds, show c.min = some lo from hlo, show c.max = some hi from hhi] at h
  by_contra hlt
  simp [Int.not_le.mp hlt] at h

theorem isWellFormed_none : Constraints.none.IsWellFormed :=
  ⟨fun _ h => absurd h (Option.not_mem_none _), by decide, by decide,
    fun _ h => absurd h List.not_mem_nil⟩

/-- **What a tag states is well-formed.** -/
theorem isWellFormed_of_constraints {tag : String} {c : Constraints}
    (h : constraints tag = .ok c) : c.IsWellFormed := by
  have hchoices : ∀ t ∈ c.choices, ',' ∉ t.toList ∧ '|' ∉ t.toList := fun t ht =>
    ⟨(isPrintable_of_constraints h).noComma t ht, (isPrintable_of_constraints h).noBar t ht⟩
  rw [constraints] at h
  split at h
  · rw [← Except.ok.inj h]
    exact isWellFormed_none
  · next body _ =>
    obtain ⟨taken, htaken, hchecked⟩ := bind_eq_ok.mp h
    have htexts : ',' ∉ taken.key.toList ∧ ',' ∉ taken.fallback.toList :=
      foldlM_invariant (fun c => ',' ∉ c.key.toList ∧ ',' ∉ c.fallback.toList)
        (fun t ht _ _ => noComma_takeClause (noComma_of_mem_clauseTexts ht))
        ⟨by decide, by decide⟩ htaken
    have heq := eq_of_checkBounds hchecked
    exact ⟨bounds_of_checkBounds hchecked, heq ▸ htexts.1, heq ▸ htexts.2, hchoices⟩

/-- **Clauses count by their keys**, not by their order. Between the commas of a value
stand tokens; one that is not blank states the clause of its key.

Two values with the same tokens come to the same, in whatever order these stand, as long
as no key is stated twice. Where one is, a value that states of each key only the last
clause, in any spacing, comes to what the whole did. What a value comes to is well-formed
and has a zero for each bound that is not set, and a blank value, or none, makes no
demands. -/
theorem constraints_of_clauses :
    (∀ {s t a b : String}, lookup s "apivalidator" = some a →
        lookup t "apivalidator" = some b → (tokens a).Perm (tokens b) →
        ((clauseTexts a.toList).map clauseKey).Nodup →
        ∀ c, constraints s = .ok c ↔ constraints t = .ok c)
      ∧ (∀ {s t a b : String}, lookup s "apivalidator" = some a →
          lookup t "apivalidator" = some b → clauseTexts a.toList ≠ [] →
          clauseTexts b.toList = lastOfEachKey (clauseTexts a.toList) →
          ∀ c, constraints s = .ok c → constraints t = .ok c)
      ∧ (∀ {tag : String} {c : Constraints}, constraints tag = .ok c →
          c.IsWellFormed
            ∧ (c.document.HasMember "is_min" (.bool false) →
                c.document.HasMember "min" (.int 0))
            ∧ (c.document.HasMember "is_max" (.bool false) →
                c.document.HasMember "max" (.int 0)))
      ∧ ∀ {tag : String}, (∀ body, lookup tag "apivalidator" = some body →
          isBlankText body = true) → constraints tag = .ok Constraints.none := by
  refine ⟨?_, ?_, fun h => ⟨isWellFormed_of_constraints h, Constraints.unset_bound_document _⟩,
    constraints_eq_none⟩
  · intro s t a b ha hb hperm hkeys c
    rw [constraints_of_lookup ha, constraints_of_lookup hb, isBlankText_of_perm hperm]
    by_cases hblank : isBlankText b
    · rw [if_pos hblank, if_pos hblank]
    · rw [if_neg hblank, if_neg hblank, bind_eq_ok, bind_eq_ok]
      have htexts := clauseTexts_perm hperm
      have hkeys' := (htexts.map clauseKey).nodup_iff.mp hkeys
      exact exists_congr fun taken => and_congr_left fun _ =>
        ⟨foldlM_takeClause_of_perm htexts hkeys, foldlM_takeClause_of_perm htexts.symm hkeys'⟩
  · intro s t a b ha hb hne hlast c h
    have hblank : ∀ {body : String}, clauseTexts body.toList ≠ [] → ¬ isBlankText body :=
      fun hne hblank => hne (isBlankText_iff.mp hblank).2
    have hne' : clauseTexts b.toList ≠ [] := hlast ▸ lastOfEachKey_ne_nil hne
    rw [constraints_of_lookup ha, if_neg (hblank hne)] at h
    rw [constraints_of_lookup hb, if_neg (hblank hne'), hlast]
    obtain ⟨taken, htaken, hchecked⟩ := bind_eq_ok.mp h
    exact bind_eq_ok.mpr ⟨taken, foldlM_lastOfEachKey htaken, hchecked⟩

/-- Clauses in another order, with blanks and blank tokens among them, and clauses of
which one is overruled. -/
theorem constraints_of_reordered_clauses :
    constraints "apivalidator:\"paramname=x,min=1,, enum=a|b\""
        = .ok ⟨true, false, "x", ["a", "b"], "", some 1, none⟩
      ∧ constraints "apivalidator:\" enum=a, min=2\""
        = .ok ⟨true, false, "", ["a"], "", some 2, none⟩
      ∧ constraints "apivalidator:\" \"" = .ok Constraints.none := by
  obtain ⟨hperm, hlast, -, hblank⟩ := constraints_of_clauses
  refine ⟨?_, ?_, hblank fun body hbody => ?_⟩
  · refine (hperm (s := "apivalidator:\"min=1, enum=a|b,,paramname=x\"")
      (a := "min=1, enum=a|b,,paramname=x") (b := "paramname=x,min=1,, enum=a|b")
      ?_ ?_ ?_ ?_ _).mp ?_
    all_goals decide +kernel
  · refine hlast (s := "apivalidator:\"min=3, enum=a ,, min=2\"")
      (a := "min=3, enum=a ,, min=2") (b := " enum=a, min=2") ?_ ?_ ?_ ?_ _ ?_
    all_goals decide +kernel
  · have hvalue : lookup "apivalidator:\" \"" "apivalidator" = some " " := by decide +kernel
    rw [← Option.some.inj (hvalue.symm.trans hbody)]
    decide

/-! ## The mark of an annotation -/

/-- **Constraints are declared where the annotation is not blank.** -/
theorem declared_iff {tag : String} {c : Constraints} (h : constraints tag = .ok c) :
    c.declared = true ↔ ∃ body, lookup tag "apivalidator" = some body
      ∧ isBlankText body = false := by
  cases hbody : lookup tag "apivalidator" with
  | none =>
    rw [constraints_eq_none (by simp [hbody])] at h
    simp [← Except.ok.inj h, Constraints.none]
  | some body =>
    rw [constraints_of_lookup hbody] at h
    by_cases hblank : isBlankText body
    · rw [if_pos hblank] at h
      simp [← Except.ok.inj h, Constraints.none, hblank]
    · rw [if_neg hblank] at h
      obtain ⟨taken, -, hchecked⟩ := bind_eq_ok.mp h
      simp [eq_of_checkBounds hchecked, hblank]

/-- Without clauses nothing but the mark can be set. -/
theorem eq_none_of_clauseTexts {tag : String} {c : Constraints}
    (hclauses : ∀ body, lookup tag "apivalidator" = some body → clauseTexts body.toList = [])
    (h : constraints tag = .ok c) : c = { Constraints.none with declared := c.declared } := by
  cases hbody : lookup tag "apivalidator" with
  | none =>
    rw [constraints_eq_none (by simp [hbody])] at h
    rw [← Except.ok.inj h]
  | some body =>
    rw [constraints_of_lookup hbody, hclauses body hbody] at h
    split at h
    · rw [← Except.ok.inj h]
    · rw [← Except.ok.inj h]

/-- **What the mark of an annotation says.** Constraints are declared where a token of the
annotation's value is not blank, that is, where there is a clause, and also where the
value is made of blank tokens with commas between them. Blank tokens demand nothing, so
the mark is then all there is: where it is set the rule states the kind, and else it is the
one that demands nothing. -/
theorem declared_of_constraints {tag : String} {c : Constraints}
    (h : constraints tag = .ok c) :
    (c.declared = true ↔ ∃ body, lookup tag "apivalidator" = some body
        ∧ ((∃ t ∈ tokens body, ∃ ch ∈ t, isBlank ch = false) ∨ ',' ∈ body.toList))
      ∧ ((∀ body, lookup tag "apivalidator" = some body →
            ∀ t ∈ tokens body, ∀ ch ∈ t, isBlank ch = true) →
          c = { Constraints.none with declared := c.declared }
            ∧ ∀ kind, ruleText kind c =
                if c.declared then clause "type" kind.name else noRule) := by
  constructor
  · rw [declared_iff h]
    refine exists_congr fun body => and_congr_right fun _ => ?_
    rw [← Bool.not_eq_true, isBlankText_iff, clauseTexts_eq_nil_iff]
    simp only [not_and_or, not_not, not_forall, Bool.not_eq_true, exists_prop]
    exact or_comm
  · intro hblank
    have hnone := eq_none_of_clauseTexts
      (fun body hbody => clauseTexts_eq_nil_iff.mpr (hblank body hbody)) h
    refine ⟨hnone, fun kind => ?_⟩
    rw [hnone]
    cases kind <;> rfl

/-- **A comma alone sets the mark**, though it makes no clause: the rule of the field
states its kind. -/
theorem declared_of_comma :
    ∃ c, constraints "apivalidator:\",\"" = .ok c ∧ c.declared = true
      ∧ ruleText .int c = "type(int)" := by
  have hvalue : lookup "apivalidator:\",\"" "apivalidator" = some "," := by decide +kernel
  have hread : constraints "apivalidator:\",\"" =
      .ok { Constraints.none with declared := true } := by decide +kernel
  obtain ⟨hmark, hrule⟩ := declared_of_constraints hread
  refine ⟨_, hread, hmark.mpr ⟨",", hvalue, .inr (by decide)⟩, ?_⟩
  refine ((hrule fun body hbody => ?_).2 .int).trans (by decide)
  rw [← Option.some.inj (hvalue.symm.trans hbody), ← clauseTexts_eq_nil_iff]
  decide

/-- **The mark does not say that there is a clause**: a comma between blank tokens sets it
too. -/
theorem not_declared_iff_clause :
    ¬ ∀ (tag : String) (c : Constraints), constraints tag = .ok c →
      (c.declared = true ↔ ∃ body, lookup tag "apivalidator" = some body
          ∧ ∃ t ∈ tokens body, ∃ ch ∈ t, isBlank ch = false)
        ∧ ((∀ body, lookup tag "apivalidator" = some body →
              ∀ t ∈ tokens body, ∀ ch ∈ t, isBlank ch = true) →
            c = Constraints.none ∧ ∀ kind, ruleText kind c = noRule) := by
  intro hdeclared
  have hvalue : lookup "apivalidator:\",\"" "apivalidator" = some "," := by decide +kernel
  obtain ⟨hmark, -⟩ := hdeclared "apivalidator:\",\"" { Constraints.none with declared := true }
    (by decide +kernel)
  obtain ⟨body, hbody, t, ht, ch, hch, hblank⟩ := hmark.mp rfl
  rw [← Option.some.inj (hvalue.symm.trans hbody)] at ht
  have hnone : clauseTexts ",".toList = [] := by decide
  exact Bool.noConfusion (hblank.symm.trans (clauseTexts_eq_nil_iff.mp hnone t ht ch hch))

end Doc

end Switchboard
