import Switchboard.Proofs.Rules.Meaning

/-!
# Rules that are not taken apart as they were put together

A rule is a text, and what was a value in it and what was a clause has to be told
from its parentheses, commas and signs alone. Most of what a tag can state survives
that. Two things do not, and this module says exactly when.

The first are parentheses in a choice. A choice that opens one leaves the clause of
the choices open, and no comma behind it ends a clause any more: the choices swallow
the bounds that follow (`splitClauses_of_open`). Choices that close what they open
are kept apart from the bounds, and so are choices that no bound follows.

The second are signs of lengths. A bound is a signed integer, but a length is read
without a sign, so that the clause of a negative one is not understood and nothing
but zero meets the rule (`exists_rejected_of_unknown`). The bounds of integers keep
their sign (`read_range`).
-/

namespace Switchboard

open Text

/-! ## Clauses behind an open parenthesis -/

/-- **A clause that is level**: behind it one is as deep in parentheses as before it,
however deep that is, and it holds no comma. -/
structure IsLevel (t : String) : Prop extends IsClause t where
  /-- It ends with a parenthesis. -/
  last : t.toList.getLast? = some ')'
  /-- It holds no comma. -/
  noComma : ',' ∉ t.toList
  /-- It changes no depth. -/
  depth : ∀ depth, depthAfter depth t.toList = depth

theorem isLevel_clause {name argument : String} (hname : IsClauseName name)
    (hcomma : ',' ∉ argument.toList) (hopen : '(' ∉ argument.toList)
    (hclose : ')' ∉ argument.toList) : IsLevel (clause name argument) where
  toIsClause := isClause_clause hname hcomma hopen
  last := getLast?_clause name argument
  noComma := by
    rw [toList_clause]
    simp [hname.noComma, hcomma]
  depth depth := by
    rw [depthAfter_clause hname, depthAfter_eq hopen hclose, Nat.add_sub_cancel]

/-- **Inside a parenthesis commas end nothing**, as long as the clauses between them
are level. -/
theorem noOuterComma_join_of_pos {depth : Nat} (hpos : 0 < depth) {ts : List String}
    (h : ∀ t ∈ ts, IsLevel t) : NoOuterComma depth (join "," ts).toList := by
  induction ts with
  | nil => exact trivial
  | cons t rest ih =>
    rw [List.forall_mem_cons] at h
    have ht := noOuterComma_of_notMem h.1.noComma depth
    by_cases hrest : rest = []
    · rwa [hrest, join_singleton]
    · rw [join_cons _ _ hrest, String.toList_append, String.toList_append,
        List.append_assoc, noOuterComma_append, h.1.depth]
      exact ⟨ht, fun hc => hpos.ne' hc.2, ih h.2⟩

/-- **Clauses joined look like one clause** from outside: they begin with the name of
the first and end with the parenthesis of the last. -/
theorem exists_join_eq_clause (name argument : String) {ts : List String}
    (h : ∀ t ∈ ts, t.toList.getLast? = some ')') :
    ∃ whole, join "," (clause name argument :: ts) = clause name whole := by
  by_cases hne : ts = []
  · exact ⟨argument, by rw [hne, join_singleton]⟩
  · obtain ⟨front, hfront⟩ := List.getLast?_eq_some_iff.mp (getLast?_join hne h)
    refine ⟨argument ++ ")," ++ String.ofList front, String.toList_inj.mp ?_⟩
    rw [join_cons _ _ hne, String.toList_append, String.toList_append, hfront,
      toList_clause, toList_clause]
    simp

/-- **An open clause and the level clauses behind it are one.** -/
theorem isLastClause_join {name argument : String} (hname : IsClauseName name)
    (hcomma : ',' ∉ argument.toList) (hopen : 1 < depthAfter 1 argument.toList)
    {ts : List String} (h : ∀ t ∈ ts, IsLevel t) :
    IsLastClause (join "," (clause name argument :: ts)) := by
  obtain ⟨whole, hwhole⟩ := exists_join_eq_clause name argument fun t ht => (h t ht).last
  refine ⟨hwhole ▸ toList_clause_ne_nil hname whole, hwhole ▸ trim_clause hname whole, ?_⟩
  have hfirst := (isLastClause_clause hname hcomma).noOuterComma
  have hpos : 0 < depthAfter 0 (clause name argument).toList := by
    rw [depthAfter_clause hname]
    exact Nat.sub_pos_of_lt hopen
  by_cases hne : ts = []
  · rwa [hne, join_singleton]
  · rw [join_cons _ _ hne, String.toList_append, String.toList_append,
      List.append_assoc, noOuterComma_append]
    exact ⟨hfirst, fun hc => hpos.ne' hc.2, noOuterComma_join_of_pos hpos h⟩

/-! ## The clauses of a rule -/

/-- The clauses of a rule that stand before its choices. -/
def leadingClauses (kind : Kind) (c : Constraints) : List String :=
  (if c.required then ["required"] else []) ++ [clause "type" kind.name]

/-- The clause of the choices. -/
def choiceClause (c : Constraints) : String := clause "in" (join "|" c.choices)

/-- The clauses of the bounds on a value of a kind. -/
def boundClauses (kind : Kind) (c : Constraints) : List String :=
  match kind with
  | .string => lengthClauses c
  | .int | .uint64 => rangeClauses c

/-- **The clause of the choices is closed** by its own parenthesis: they leave none
open. -/
def Constraints.ClosesChoices (c : Constraints) : Prop :=
  depthAfter 1 (join "|" c.choices).toList ≤ 1

instance (c : Constraints) : Decidable c.ClosesChoices :=
  inferInstanceAs (Decidable (_ ≤ _))

section Clauses

variable {kind : Kind} {c : Constraints}

theorem ruleClauses_of_choices (h : c.choices ≠ []) :
    ruleClauses kind c
      = leadingClauses kind c ++ choiceClause c :: boundClauses kind c := by
  have hne : c.choices.isEmpty = false := by simpa using h
  unfold ruleClauses
  rw [hne, if_neg Bool.false_ne_true, List.append_assoc]
  rfl

theorem ruleClauses_of_no_choices (h : c.choices = []) :
    ruleClauses kind c = leadingClauses kind c ++ boundClauses kind c := by
  unfold ruleClauses
  rw [h, List.isEmpty_nil, if_pos rfl, List.append_nil]
  rfl

theorem isClause_of_mem_leadingClauses : ∀ t ∈ leadingClauses kind c, IsClause t := by
  unfold leadingClauses
  rw [List.forall_mem_append, List.forall_mem_singleton]
  refine ⟨fun t ht => ?_, isClause_type kind⟩
  rw [List.mem_singleton.mp (List.mem_ite_nil_right.mp ht).2]
  exact isClause_required

theorem boundClauses_eq_nil_iff :
    boundClauses kind c = [] ↔ c.min = none ∧ c.max = none := by
  unfold boundClauses lengthClauses rangeClauses
  cases kind <;> cases c.min <;> cases c.max <;> simp

theorem forall_mem_lengthClauses {p : String → Prop} :
    (∀ t ∈ lengthClauses c, p t)
      ↔ (∀ n ∈ c.min, p (clause "minstringlength" (decimal n)))
        ∧ ∀ n ∈ c.max, p (clause "maxstringlength" (decimal n)) := by
  unfold lengthClauses
  rw [List.forall_mem_append]
  cases c.min <;> cases c.max <;> simp

theorem eq_of_mem_rangeClauses {t : String} (h : t ∈ rangeClauses c) :
    t = clause "range" (boundText c.min ++ "|" ++ boundText c.max) := by
  unfold rangeClauses at h
  split at h
  · exact absurd h List.not_mem_nil
  · exact List.mem_singleton.mp h

theorem isLevel_of_mem_lengthClauses : ∀ t ∈ lengthClauses c, IsLevel t := by
  have hlevel : ∀ name, IsClauseName name → ∀ n : Int,
      IsLevel (clause name (decimal n)) := fun _ hname n =>
    isLevel_clause hname (notMem_decimal (by decide) rfl n)
      (notMem_decimal (by decide) rfl n) (notMem_decimal (by decide) rfl n)
  rw [forall_mem_lengthClauses]
  exact ⟨fun n _ => hlevel _ (by decide) n, fun n _ => hlevel _ (by decide) n⟩

theorem isLevel_of_mem_rangeClauses : ∀ t ∈ rangeClauses c, IsLevel t := by
  intro t ht
  rw [eq_of_mem_rangeClauses ht]
  exact isLevel_clause (by decide)
    (notMem_rangeArgument (by decide) rfl (by decide) _ _)
    (notMem_rangeArgument (by decide) rfl (by decide) _ _)
    (notMem_rangeArgument (by decide) rfl (by decide) _ _)

/-- **The clauses of bounds are level**: numbers hold neither commas nor
parentheses. -/
theorem isLevel_of_mem_boundClauses : ∀ t ∈ boundClauses kind c, IsLevel t := by
  unfold boundClauses
  cases kind with
  | string => exact isLevel_of_mem_lengthClauses
  | int => exact isLevel_of_mem_rangeClauses
  | uint64 => exact isLevel_of_mem_rangeClauses

/-! ## Splitting a rule -/

/-- **Choices that close what they open** keep the clauses of a rule apart. -/
theorem splitClauses_of_closesChoices (hcomma : ∀ t ∈ c.choices, ',' ∉ t.toList)
    (hcloses : c.choices ≠ [] → c.ClosesChoices) :
    splitClauses (join "," (ruleClauses kind c)) = ruleClauses kind c := by
  have hbounds : ∀ t ∈ boundClauses kind c, IsClause t := fun t ht =>
    (isLevel_of_mem_boundClauses t ht).toIsClause
  refine splitClauses_join ?_
  by_cases hne : c.choices = []
  · rw [ruleClauses_of_no_choices hne, List.forall_mem_append]
    exact ⟨isClause_of_mem_leadingClauses, hbounds⟩
  · rw [ruleClauses_of_choices hne, List.forall_mem_append, List.forall_mem_cons]
    exact ⟨isClause_of_mem_leadingClauses,
      isClause_clause_of_depth (by decide) (notMem_join (by decide) hcomma) (hcloses hne),
      hbounds⟩

/-- **Choices that leave a parenthesis open** swallow the bounds behind them. -/
theorem splitClauses_of_open (hcomma : ∀ t ∈ c.choices, ',' ∉ t.toList)
    (hne : c.choices ≠ []) (hopen : ¬c.ClosesChoices) :
    splitClauses (join "," (ruleClauses kind c))
      = leadingClauses kind c ++ [join "," (choiceClause c :: boundClauses kind c)] := by
  -- the choices and the bounds are taken as one clause, the last one, which need not
  -- close what it opens
  have hlast : IsLastClause (join "," (choiceClause c :: boundClauses kind c)) :=
    isLastClause_join (by decide) (notMem_join (by decide) hcomma)
      (Nat.lt_of_not_le hopen) isLevel_of_mem_boundClauses
  rw [ruleClauses_of_choices hne, ← join_append_join _ _ (List.cons_ne_nil _ _)]
  exact splitClauses_join_concat isClause_of_mem_leadingClauses hlast

/-- **When a rule is taken apart as it was put together**: there are no choices, or no
bounds, or the choices close what they open. -/
theorem splitClauses_ruleClauses_iff (hcomma : ∀ t ∈ c.choices, ',' ∉ t.toList) :
    splitClauses (join "," (ruleClauses kind c)) = ruleClauses kind c
      ↔ c.choices = [] ∨ (c.min = none ∧ c.max = none) ∨ c.ClosesChoices := by
  by_cases hkept : c.choices ≠ [] → c.ClosesChoices
  · refine iff_of_true (splitClauses_of_closesChoices hcomma hkept) ?_
    by_cases hne : c.choices = []
    · exact .inl hne
    · exact .inr (.inr (hkept hne))
  · obtain ⟨hne, hopen⟩ := Classical.not_imp.mp hkept
    have hnil : boundClauses kind c = [] ↔ c.min = none ∧ c.max = none :=
      boundClauses_eq_nil_iff
    rw [splitClauses_of_open hcomma hne hopen, ruleClauses_of_choices hne,
      List.append_cancel_left_eq, ← hnil]
    constructor
    · intro h
      -- one clause stands where there should be one more than there are bounds
      exact .inr (.inl (List.cons.inj h).2.symm)
    · rintro (hnone | hnone | hcloses)
      · exact absurd hnone hne
      · rw [hnone, join_singleton]
      · exact absurd hcloses hopen

/-! ## Understanding a rule -/

/-- The choices are understood, whatever they are. -/
theorem read_clause_in (argument : String) :
    Rule.read (clause "in" argument)
      = .oneOf ((pieces '|' argument.toList).map String.ofList) :=
  Rule.read_clause (by decide) argument

/-- **A length is understood when it has no sign.** -/
theorem read_length_ne_unknown_iff {name : String} {rule : Nat → Rule}
    (hname : IsClauseName name)
    (hrule : ∀ cs, ruleOf name cs = ((uint64? cs).map rule).getD .unknown)
    (hknown : ∀ k, rule k ≠ .unknown) {n : Int} (hn : fitsInt64 n = true) :
    Rule.read (clause name (decimal n)) ≠ .unknown ↔ 0 ≤ n := by
  rw [Rule.read_clause hname, hrule]
  by_cases h0 : 0 ≤ n
  · rw [uint64?_decimal_of_nonneg hn h0]
    exact iff_of_true (hknown _) h0
  · rw [uint64?_decimal_of_neg (Int.not_le.mp h0)]
    exact iff_of_false (fun h => h rfl) h0

/-- **The lengths of constraints on a kind are no negative numbers.** -/
def Constraints.HasLengths (c : Constraints) (kind : Kind) : Prop :=
  kind = .string → (∀ n ∈ c.min, 0 ≤ n) ∧ ∀ n ∈ c.max, 0 ≤ n

theorem forall_boundClauses_ne_unknown_iff (h : c.IsPrintable) :
    (∀ t ∈ boundClauses kind c, Rule.read t ≠ .unknown) ↔ c.HasLengths kind := by
  have hrange : ∀ t ∈ rangeClauses c, Rule.read t ≠ .unknown := by
    intro t ht
    rw [eq_of_mem_rangeClauses ht, read_range h.min h.max]
    exact Rule.noConfusion
  unfold boundClauses Constraints.HasLengths
  cases kind with
  | string =>
    rw [forall_mem_lengthClauses, imp_iff_right rfl]
    exact and_congr
      (forall₂_congr fun n hn => read_length_ne_unknown_iff (by decide) (fun _ => rfl)
        (fun _ => Rule.noConfusion) (h.min n hn))
      (forall₂_congr fun n hn => read_length_ne_unknown_iff (by decide) (fun _ => rfl)
        (fun _ => Rule.noConfusion) (h.max n hn))
  | int => exact iff_of_true hrange (fun he => nomatch he)
  | uint64 => exact iff_of_true hrange (fun he => nomatch he)

theorem read_ne_unknown_of_mem_leadingClauses :
    ∀ t ∈ leadingClauses kind c, Rule.read t ≠ .unknown := by
  unfold leadingClauses
  rw [List.forall_mem_append, List.forall_mem_singleton]
  constructor
  · intro t ht
    rw [List.mem_singleton.mp (List.mem_ite_nil_right.mp ht).2]
    decide
  · cases kind <;> decide

/-- **When the clauses of a rule are understood**: no length is negative. -/
theorem forall_ruleClauses_ne_unknown_iff (h : c.IsPrintable) :
    (∀ t ∈ ruleClauses kind c, Rule.read t ≠ .unknown) ↔ c.HasLengths kind := by
  have hleading : ∀ t ∈ leadingClauses kind c, Rule.read t ≠ .unknown :=
    read_ne_unknown_of_mem_leadingClauses
  rw [← forall_boundClauses_ne_unknown_iff h]
  by_cases hne : c.choices = []
  · rw [ruleClauses_of_no_choices hne, List.forall_mem_append, and_iff_right hleading]
  · have hchoices : Rule.read (choiceClause c) ≠ .unknown := by
      rw [choiceClause, read_clause_in]
      exact Rule.noConfusion
    rw [ruleClauses_of_choices hne, List.forall_mem_append, List.forall_mem_cons,
      and_iff_right hleading, and_iff_right hchoices]

/-- What is left of a rule whose choices swallow the bounds is understood: the bounds
are part of a choice. -/
theorem read_ne_unknown_of_open :
    ∀ t ∈ leadingClauses kind c ++ [join "," (choiceClause c :: boundClauses kind c)],
      Rule.read t ≠ .unknown := by
  have hlast : ∀ t ∈ boundClauses kind c, t.toList.getLast? = some ')' := fun t ht =>
    (isLevel_of_mem_boundClauses t ht).last
  obtain ⟨whole, hwhole⟩ := exists_join_eq_clause "in" (join "|" c.choices) hlast
  rw [List.forall_mem_append, List.forall_mem_singleton]
  refine ⟨read_ne_unknown_of_mem_leadingClauses, ?_⟩
  rw [choiceClause, hwhole, read_clause_in]
  exact Rule.noConfusion

/-- **A rule with a clause that is not understood is met by nothing but zero.** -/
theorem exists_rejected_of_unknown {rule : String} (hrule : rule ≠ noRule)
    (h : ∃ t ∈ splitClauses rule, Rule.read t = .unknown) {v : InputValue}
    (hzero : v.isZero = false) :
    ∃ t, faultUnder rule (some v) = some (.rejected v t) := by
  obtain ⟨t, ht, hunknown⟩ := h
  have hfind : ((splitClauses rule).find? fun t => !(Rule.read t).accepts v).isSome := by
    rw [List.find?_isSome]
    exact ⟨t, ht, by rw [hunknown]; rfl⟩
  obtain ⟨u, hu⟩ := Option.isSome_iff_exists.mp hfind
  refine ⟨u, ?_⟩
  rw [faultUnder, if_neg hrule]
  simp [hzero, hu]

end Clauses

/-! ## The rules of a tag -/

/-- **Which rules of a tag are understood.** Whatever a tag states, its rule is taken
apart into the clauses it was put together from unless choices that leave a
parenthesis open stand before a bound, and then they swallow all bounds. Its clauses
are understood unless one is a negative length, and then nothing but zero meets the
rule. -/
theorem clauses_of_tag {tag : String} {c : Constraints}
    (htag : Doc.constraints tag = .ok c) (hdeclared : c.declared = true) (kind : Kind) :
    (splitClauses (ruleText kind c) = ruleClauses kind c
        ↔ c.choices = [] ∨ (c.min = none ∧ c.max = none) ∨ c.ClosesChoices)
      ∧ ((∀ t ∈ ruleClauses kind c, Rule.read t ≠ .unknown) ↔ c.HasLengths kind)
      ∧ (splitClauses (ruleText kind c) ≠ ruleClauses kind c →
          splitClauses (ruleText kind c)
              = leadingClauses kind c ++ [join "," (choiceClause c :: boundClauses kind c)]
            ∧ ∀ t ∈ splitClauses (ruleText kind c), Rule.read t ≠ .unknown)
      ∧ (splitClauses (ruleText kind c) = ruleClauses kind c → ¬c.HasLengths kind →
          ∀ v, v.isZero = false →
            ∃ t, faultUnder (ruleText kind c) (some v) = some (.rejected v t)) := by
  have hprintable := Doc.isPrintable_of_constraints htag
  have hunderstood : (∀ t ∈ ruleClauses kind c, Rule.read t ≠ .unknown)
      ↔ c.HasLengths kind := forall_ruleClauses_ne_unknown_iff hprintable
  have hsplit : splitClauses (join "," (ruleClauses kind c)) = ruleClauses kind c
      ↔ c.choices = [] ∨ (c.min = none ∧ c.max = none) ∨ c.ClosesChoices :=
    splitClauses_ruleClauses_iff hprintable.noComma
  rw [ruleText, if_pos hdeclared]
  refine ⟨hsplit, hunderstood, fun hdiffers => ?_, fun hkept hlengths v hzero => ?_⟩
  · rw [Ne, hsplit, not_or, not_or] at hdiffers
    rw [splitClauses_of_open hprintable.noComma hdiffers.1 hdiffers.2.2]
    exact ⟨rfl, read_ne_unknown_of_open⟩
  · refine exists_rejected_of_unknown (ne_noRule_of_splitClauses hkept) ?_ hzero
    rw [← hunderstood] at hlengths
    push Not at hlengths
    rwa [hkept]

/-- A choice that opens a parenthesis swallows the bound behind it, and a negative
length is met by nothing. -/
theorem clauses_of_tag_with_open_choice :
    let c : Constraints := ⟨true, false, "", ["a(b"], "", some 3, none⟩
    let d : Constraints := ⟨true, false, "", [], "", some (-1), none⟩
    Doc.constraints "apivalidator:\"enum=a(b,min=3\"" = .ok c
      ∧ splitClauses (ruleText .string c)
        = ["type(string)", "in(a(b),minstringlength(3)"]
      ∧ Doc.constraints "apivalidator:\"min=-1\"" = .ok d
      ∧ ∀ v, v.isZero = false →
          ∃ t, faultUnder (ruleText .string d) (some v) = some (.rejected v t) := by
  intro c d
  have hc : Doc.constraints "apivalidator:\"enum=a(b,min=3\"" = .ok c := by
    decide +kernel
  have hd : Doc.constraints "apivalidator:\"min=-1\"" = .ok d := by
    decide +kernel
  obtain ⟨hkept, -, hopen, -⟩ := clauses_of_tag hc rfl .string
  obtain ⟨hsplit, -, -, hrejected⟩ := clauses_of_tag hd rfl .string
  refine ⟨hc, (hopen ?_).1.trans (by decide), hd, hrejected ?_ ?_⟩
  · rw [Ne, hkept]
    decide
  · exact hsplit.mpr (.inl rfl)
  · exact fun h => absurd ((h rfl).1 (-1) rfl) (by decide)

/-- **Not every tag has a rule that is understood**: of one the clauses are not those
the rule was put together from, of another a clause is understood by none. -/
theorem not_every_rule_is_understood :
    (¬∀ tag c kind, Doc.constraints tag = .ok c → c.declared = true →
        splitClauses (ruleText kind c) = ruleClauses kind c)
      ∧ ¬∀ tag c kind, Doc.constraints tag = .ok c → c.declared = true →
        ∀ t ∈ ruleClauses kind c, Rule.read t ≠ .unknown := by
  refine ⟨fun h => ?_, fun h => ?_⟩
  · have hsplit := h "apivalidator:\"enum=a(b,min=3\""
      ⟨true, false, "", ["a(b"], "", some 3, none⟩ .string (by decide +kernel) rfl
    exact absurd hsplit (by decide)
  · have hknown := h "apivalidator:\"min=-1\""
      ⟨true, false, "", [], "", some (-1), none⟩ .string (by decide +kernel) rfl
      "minstringlength(-1)" (by decide)
    exact hknown (by decide)

end Switchboard
