import Mathlib.Data.List.Find
import Switchboard.Proofs.Doc.Constraints
import Switchboard.Proofs.Rules.Splitting
import Switchboard.Proofs.Validation

/-!
# A rule means what its constraints say

Constraints are put into a rule by one part of the library and understood by
another, which sees nothing but the text between them. What they agree on is
the list of **demands** that constraints make of a value (`Demand`): each has a
wording, which is its clause in the rule, and a meaning, which does not mention
the rule at all.

A rule is the join of the wordings (`ruleClauses_eq`), each wording reads back
as a rule that accepts what the demand does (`Demand.IsFaithful`), so that
validating under a rule is looking for the first demand that is not met
(`faultUnder_ruleText`).

Two things have to be asked of constraints for this. No choice may open a
parenthesis, or the clause of the choices would go on past its end. And the
least length of a text may not be negative, since a length is read without a
sign; a negative greatest length does no harm, as nothing is that short.
-/

namespace Switchboard

open Text

/-! ## Meaning -/

/-- What a bound is on: the number of characters of a text, or the integer. -/
def InputValue.size : InputValue → Int
  | string s => s.length
  | int n => n

/-- **A value within constraints**: among the choices, if there are any, and
within the bounds there are. -/
structure Constraints.Meets (c : Constraints) (v : InputValue) : Prop where
  /-- It is among the choices. -/
  choice : c.choices ≠ [] → v.text ∈ c.choices
  /-- It is not below the least. -/
  min : ∀ n ∈ c.min, n ≤ v.size
  /-- It is not above the greatest. -/
  max : ∀ n ∈ c.max, v.size ≤ n

/-- **A demand on a value that is not zero**: how a rule words it, and what it
asks. -/
structure Demand where
  /-- The wording. -/
  wording : String
  /-- Whether a value is as demanded. -/
  meets : InputValue → Bool

/-- The demand to be among the choices. -/
def Constraints.choiceDemands (c : Constraints) : List Demand :=
  if c.choices.isEmpty then []
  else [⟨clause "in" (join "|" c.choices),
    fun v => c.choices.contains v.text⟩]

/-- The demands on the length of a text, one for each bound. -/
def Constraints.lengthDemands (c : Constraints) : List Demand :=
  (c.min.map fun n =>
    ⟨clause "minstringlength" (decimal n), fun v => n ≤ v.size⟩).toList ++
  (c.max.map fun n =>
    ⟨clause "maxstringlength" (decimal n), fun v => v.size ≤ n⟩).toList

/-- The demand on an integer, one for both bounds. -/
def Constraints.rangeDemands (c : Constraints) : List Demand :=
  if c.min.isNone && c.max.isNone then []
  else [⟨clause "range" (boundText c.min ++ "|" ++ boundText c.max),
    fun v => c.min.all (· ≤ v.size) && c.max.all (v.size ≤ ·)⟩]

/-- The demands of the bounds on a value of a kind. -/
def Constraints.boundDemands (c : Constraints) : Kind → List Demand
  | .string => c.lengthDemands
  | .int | .uint64 => c.rangeDemands

/-- **The demands of constraints on a value of a kind**, in the order of their
rule: the choices come before the bounds. -/
def Constraints.demands (c : Constraints) (kind : Kind) : List Demand :=
  c.choiceDemands ++ c.boundDemands kind

/-- **What is wrong with an input under constraints**, if anything. -/
def Constraints.fault? (c : Constraints) (kind : Kind) (input : Option InputValue) :
    Option InputFault :=
  if c.declared then
    match input with
    | .none => if c.required then some .missing else .none
    | some v =>
      if v.isZero then if c.required then some .zero else .none
      else ((c.demands kind).find? fun d => !d.meets v).map
        fun d => .rejected v d.wording
  else .none

/-- **An input within constraints**: there are none, or it is missing or zero
and not required, or it is a value that meets them. -/
def Constraints.Admits (c : Constraints) (input : Option InputValue) : Prop :=
  c.declared = false
    ∨ (c.required = false ∧ ∀ v ∈ input, v.isZero = true)
    ∨ ∃ v ∈ input, v.isZero = false ∧ c.Meets v

theorem Constraints.forall_choiceDemands {c : Constraints} {v : InputValue} :
    (∀ d ∈ c.choiceDemands, d.meets v = true)
      ↔ (c.choices ≠ [] → v.text ∈ c.choices) := by
  unfold choiceDemands
  split
  · next h =>
    have hnil : c.choices = [] := List.isEmpty_iff.mp h
    exact iff_of_true (fun _ hd => absurd hd List.not_mem_nil)
      (fun hne => absurd hnil hne)
  · next h =>
    have hne : c.choices ≠ [] := fun e => h (List.isEmpty_iff.mpr e)
    rw [List.forall_mem_singleton, List.contains_iff_mem]
    exact ⟨fun hv _ => hv, fun hv => hv hne⟩

theorem Constraints.forall_lengthDemands {c : Constraints} {v : InputValue} :
    (∀ d ∈ c.lengthDemands, d.meets v = true)
      ↔ (∀ n ∈ c.min, n ≤ v.size) ∧ ∀ n ∈ c.max, v.size ≤ n := by
  unfold lengthDemands
  rw [List.forall_mem_append]
  cases c.min <;> cases c.max <;> simp

theorem Constraints.forall_rangeDemands {c : Constraints} {v : InputValue} :
    (∀ d ∈ c.rangeDemands, d.meets v = true)
      ↔ (∀ n ∈ c.min, n ≤ v.size) ∧ ∀ n ∈ c.max, v.size ≤ n := by
  unfold rangeDemands
  cases c.min <;> cases c.max <;> simp

/-- **To meet constraints is to meet each of their demands**, whatever the
kind. -/
theorem Constraints.forall_demands {c : Constraints} {kind : Kind}
    {v : InputValue} : (∀ d ∈ c.demands kind, d.meets v = true) ↔ c.Meets v := by
  have hbounds : (∀ d ∈ c.boundDemands kind, d.meets v = true)
      ↔ (∀ n ∈ c.min, n ≤ v.size) ∧ ∀ n ∈ c.max, v.size ≤ n := by
    cases kind with
    | string => exact forall_lengthDemands
    | int => exact forall_rangeDemands
    | uint64 => exact forall_rangeDemands
  rw [demands, List.forall_mem_append, forall_choiceDemands, hbounds]
  exact ⟨fun h => ⟨h.1, h.2.1, h.2.2⟩, fun h => ⟨h.choice, h.min, h.max⟩⟩

/-- **Nothing is wrong with an input exactly when it is within the
constraints.** -/
theorem Constraints.fault?_eq_none_iff {c : Constraints} {kind : Kind}
    {input : Option InputValue} :
    c.fault? kind input = .none ↔ c.Admits input := by
  unfold fault? Admits
  cases c.declared with
  | false => exact iff_of_true rfl (.inl rfl)
  | true =>
    cases input with
    | none => cases c.required <;> simp
    | some v =>
      cases hz : v.isZero with
      | true => cases c.required <;> simp [hz]
      | false =>
        have hdemands : (∀ d ∈ c.demands kind, d.meets v = true) ↔ c.Meets v :=
          forall_demands
        simp [hz, ← hdemands]

/-- **What is wrong with an input tells what the input is**: missing, zero, or
a value with a first demand that it does not meet. -/
theorem Constraints.eq_of_fault? {c : Constraints} {kind : Kind}
    {input : Option InputValue} {fault : InputFault}
    (h : c.fault? kind input = some fault) :
    (input = .none → fault = .missing)
      ∧ (∀ v ∈ input, v.isZero = true → fault = .zero)
      ∧ ∀ v ∈ input, v.isZero = false →
          ∃ d, (c.demands kind).find? (fun d => !d.meets v) = some d
            ∧ fault = .rejected v d.wording := by
  unfold fault? at h
  split at h
  · cases input with
    | none =>
      have hf := Option.some.inj (Option.ite_none_right_eq_some.mp h).2
      exact ⟨fun _ => hf.symm, fun v hv => (nomatch hv), fun v hv => (nomatch hv)⟩
    | some v =>
      cases hz : v.isZero with
      | true =>
        simp only [hz, if_true] at h
        have hf := Option.some.inj (Option.ite_none_right_eq_some.mp h).2
        refine ⟨fun e => (nomatch e), fun _ _ _ => hf.symm, ?_⟩
        rintro w ⟨⟩ hw
        exact absurd (hz.symm.trans hw) (by decide)
      | false =>
        simp only [hz, Bool.false_eq_true, if_false] at h
        obtain ⟨d, hd, he⟩ := Option.map_eq_some_iff.mp h
        refine ⟨fun e => (nomatch e), ?_, ?_⟩
        · rintro w ⟨⟩ hw
          exact absurd (hz.symm.trans hw) (by decide)
        · rintro w ⟨⟩ _
          exact ⟨d, hd, he.symm⟩
  · exact nomatch h

/-! ## Demands read back -/

/-- **A demand that reads back** on values of a kind: its wording is a clause
of its own, and the rule it reads as accepts what is demanded. -/
structure Demand.IsFaithful (d : Demand) (kind : Kind) : Prop where
  /-- The wording is a clause of its own. -/
  isClause : IsClause d.wording
  /-- It is not taken for the clause that asks for a value. -/
  ne_required : d.wording ≠ "required"
  /-- The rule it reads as accepts what is demanded. -/
  accepts : ∀ v, v.hasKind kind = true →
    (Rule.read d.wording).accepts v = d.meets v

/-- A demand with an argument reads back when its name and argument do. -/
theorem Demand.isFaithful_of_ruleOf {name argument : String}
    {meets : InputValue → Bool} {kind : Kind} (hname : IsClauseName name)
    (hcomma : ',' ∉ argument.toList) (hopen : '(' ∉ argument.toList)
    (h : ∀ v, v.hasKind kind = true →
      (ruleOf name argument.toList).accepts v = meets v) :
    Demand.IsFaithful ⟨clause name argument, meets⟩ kind where
  isClause := isClause_clause hname hcomma hopen
  ne_required := clause_ne_required name argument
  accepts v hv := by rw [Rule.read_clause hname, h v hv]

/-- A text that is not blank is read as a bound of a range by its number. -/
theorem readRangeBound_boundText {bound : Option Int}
    (h : ∀ n ∈ bound, fitsInt64 n = true) :
    readRangeBound (boundText bound).toList = some bound := by
  cases bound with
  | none => rfl
  | some n =>
    show readRangeBound (decimal n).toList = some (some n)
    rw [readRangeBound, if_neg (by simpa using toList_decimal_ne_nil n),
      int64?_decimal (h n rfl)]
    rfl

theorem notMem_boundText {c : Char} (hminus : c ≠ '-') (hdigit : c.isDigit = false)
    (bound : Option Int) : c ∉ (boundText bound).toList := by
  cases bound with
  | none => exact List.not_mem_nil
  | some n => exact notMem_decimal hminus hdigit n

/-- A value of a kind of integers is an integer, and its own size. -/
theorem InputValue.number?_of_hasKind {v : InputValue} {kind : Kind}
    (hkind : kind ≠ .string) (h : v.hasKind kind = true) :
    v.number? = some v.size := by
  cases v with
  | string s => cases kind with
    | string => exact absurd rfl hkind
    | int => exact Bool.noConfusion h
    | uint64 => exact Bool.noConfusion h
  | int n => rfl

/-- A value of the kind of texts is a text, and its length its size. -/
theorem InputValue.length_text_of_hasKind {v : InputValue}
    (h : v.hasKind .string = true) : (v.text.length : Int) = v.size := by
  cases v with
  | string s => rfl
  | int n => exact Bool.noConfusion h

/-- **Constraints whose rule reads back** on values of a kind: no choice opens
a parenthesis, and no text is asked to have a negative length at least. -/
structure Constraints.IsReadable (c : Constraints) (kind : Kind) : Prop
    extends c.IsPrintable where
  /-- No choice opens a parenthesis. -/
  noOpen : ∀ t ∈ c.choices, '(' ∉ t.toList
  /-- The least length of a text is not negative. -/
  min_nonneg : kind = .string → ∀ n ∈ c.min, 0 ≤ n

instance (c : Constraints) (kind : Kind) : Decidable (c.IsReadable kind) :=
  decidable_of_iff
    (((∀ t ∈ c.choices, ',' ∉ t.toList) ∧ (∀ t ∈ c.choices, '|' ∉ t.toList)
        ∧ (∀ n ∈ c.min, fitsInt64 n = true) ∧ ∀ n ∈ c.max, fitsInt64 n = true)
      ∧ (∀ t ∈ c.choices, '(' ∉ t.toList)
      ∧ (kind = .string → ∀ n ∈ c.min, 0 ≤ n))
    ⟨fun h => ⟨⟨h.1.1, h.1.2.1, h.1.2.2.1, h.1.2.2.2⟩, h.2.1, h.2.2⟩,
      fun h => ⟨⟨h.noComma, h.noBar, h.min, h.max⟩, h.noOpen, h.min_nonneg⟩⟩

section Faithful

variable {c : Constraints} {kind : Kind}

/-- The choices read back: a closing parenthesis in one of them is kept, since
only the last one of the clause is dropped. -/
theorem Constraints.isFaithful_choiceDemands (h : c.IsReadable kind) :
    ∀ d ∈ c.choiceDemands, d.IsFaithful kind := by
  unfold choiceDemands
  split
  · exact fun _ hd => absurd hd List.not_mem_nil
  · next hne =>
    rw [List.forall_mem_singleton]
    refine Demand.isFaithful_of_ruleOf (by decide)
      (notMem_join (by decide) h.noComma) (notMem_join (by decide) h.noOpen) ?_
    intro v _
    have hread : (pieces '|' (join "|" c.choices).toList).map String.ofList
        = c.choices := pieces_join (by simpa using hne) h.noBar
    show (Rule.oneOf ((pieces '|' (join "|" c.choices).toList).map
      String.ofList)).accepts v = _
    rw [hread, Rule.accepts]

/-- The bounds of a length read back. -/
theorem Constraints.isFaithful_lengthDemands (h : c.IsReadable .string) :
    ∀ d ∈ c.lengthDemands, d.IsFaithful .string := by
  have hcomma := notMem_decimal (c := ',') (by decide) rfl
  have hopen := notMem_decimal (c := '(') (by decide) rfl
  unfold lengthDemands
  rw [List.forall_mem_append]
  constructor
  · intro d hd
    obtain ⟨n, hn, rfl⟩ := Option.map_eq_some_iff.mp (Option.mem_toList.mp hd)
    have h0 := h.min_nonneg rfl n hn
    refine Demand.isFaithful_of_ruleOf (by decide) (hcomma n) (hopen n) ?_
    intro v hv
    have hsize := InputValue.length_text_of_hasKind hv
    show (((uint64? (decimal n).toList).map Rule.minLength).getD
      .unknown).accepts v = _
    rw [uint64?_decimal_of_nonneg (h.min n hn) h0]
    show decide (n.toNat ≤ v.text.length) = decide (n ≤ v.size)
    rw [decide_eq_decide]
    omega
  · intro d hd
    obtain ⟨n, hn, rfl⟩ := Option.map_eq_some_iff.mp (Option.mem_toList.mp hd)
    refine Demand.isFaithful_of_ruleOf (by decide) (hcomma n) (hopen n) ?_
    intro v hv
    have hsize := InputValue.length_text_of_hasKind hv
    show (((uint64? (decimal n).toList).map Rule.maxLength).getD
      .unknown).accepts v = _
    by_cases h0 : 0 ≤ n
    · rw [uint64?_decimal_of_nonneg (h.max n hn) h0]
      show decide (v.text.length ≤ n.toNat) = decide (v.size ≤ n)
      rw [decide_eq_decide]
      omega
    · -- a text is never shorter than zero, and the clause is one never met
      rw [uint64?_decimal_of_neg (by omega)]
      show false = decide (v.size ≤ n)
      rw [eq_comm, decide_eq_false_iff_not]
      omega

/-- The text between the parentheses of a range. -/
theorem toList_rangeArgument (min max : Option Int) :
    (boundText min ++ "|" ++ boundText max).toList
      = (boundText min).toList ++ '|' :: (boundText max).toList := by
  simp

/-- It holds nothing but numbers and the bar between them. -/
theorem notMem_rangeArgument {x : Char} (hminus : x ≠ '-') (hdigit : x.isDigit = false)
    (hbar : x ≠ '|') (min max : Option Int) :
    x ∉ (boundText min ++ "|" ++ boundText max).toList := by
  rw [toList_rangeArgument, List.mem_append, List.mem_cons, not_or, not_or]
  exact ⟨notMem_boundText hminus hdigit min, hbar, notMem_boundText hminus hdigit max⟩

/-- **A range reads back** with both its bounds. -/
theorem read_range {min max : Option Int} (hmin : ∀ n ∈ min, fitsInt64 n = true)
    (hmax : ∀ n ∈ max, fitsInt64 n = true) :
    Rule.read (clause "range" (boundText min ++ "|" ++ boundText max))
      = .range min max := by
  rw [Rule.read_clause (by decide), toList_rangeArgument]
  show (readRange? _).getD .unknown = _
  rw [readRange?, cut?_append (notMem_boundText (c := '|') (by decide) rfl min)]
  show ((readRangeBound _ >>= fun lo => readRangeBound _ >>= fun hi =>
    pure (Rule.range lo hi)).getD .unknown) = _
  rw [readRangeBound_boundText hmin, readRangeBound_boundText hmax]
  rfl

/-- The bounds of an integer read back. -/
theorem Constraints.isFaithful_rangeDemands (h : c.IsReadable kind)
    (hkind : kind ≠ .string) : ∀ d ∈ c.rangeDemands, d.IsFaithful kind := by
  unfold rangeDemands
  split
  · exact fun _ hd => absurd hd List.not_mem_nil
  · rw [List.forall_mem_singleton]
    have hcomma : ',' ∉ (boundText c.min ++ "|" ++ boundText c.max).toList :=
      notMem_rangeArgument (by decide) rfl (by decide) _ _
    have hopen : '(' ∉ (boundText c.min ++ "|" ++ boundText c.max).toList :=
      notMem_rangeArgument (by decide) rfl (by decide) _ _
    refine ⟨isClause_clause (by decide) hcomma hopen, clause_ne_required _ _, ?_⟩
    intro v hv
    dsimp only
    rw [read_range h.min h.max, Rule.accepts, InputValue.number?_of_hasKind hkind hv]

/-- **Every demand reads back.** -/
theorem Constraints.isFaithful_demands (h : c.IsReadable kind) :
    ∀ d ∈ c.demands kind, d.IsFaithful kind := by
  rw [demands, List.forall_mem_append]
  refine ⟨isFaithful_choiceDemands h, ?_⟩
  cases kind with
  | string => exact isFaithful_lengthDemands h
  | int => exact isFaithful_rangeDemands h (by decide)
  | uint64 => exact isFaithful_rangeDemands h (by decide)

end Faithful

/-! ## The rule as a whole -/

section Rules

variable {c : Constraints} {kind : Kind}

/-- **The clauses of a rule** are the one that asks for a value, the one that
asks for the kind, and the wordings of the demands. -/
theorem ruleClauses_eq (kind : Kind) (c : Constraints) :
    ruleClauses kind c
      = (if c.required then ["required"] else []) ++ [clause "type" kind.name]
        ++ (c.demands kind).map Demand.wording := by
  have hchoices : (if c.choices.isEmpty then []
      else [clause "in" (join "|" c.choices)])
        = c.choiceDemands.map Demand.wording := by
    unfold Constraints.choiceDemands
    split <;> rfl
  have hlength : lengthClauses c = c.lengthDemands.map Demand.wording := by
    unfold lengthClauses Constraints.lengthDemands
    cases c.min <;> cases c.max <;> rfl
  have hrange : rangeClauses c = c.rangeDemands.map Demand.wording := by
    unfold rangeClauses Constraints.rangeDemands
    split <;> rfl
  unfold ruleClauses
  rw [hchoices, Constraints.demands, List.map_append, ← List.append_assoc]
  cases kind with
  | string => rw [Constraints.boundDemands, ← hlength]
  | int => rw [Constraints.boundDemands, ← hrange]
  | uint64 => rw [Constraints.boundDemands, ← hrange]

theorem isClause_required : IsClause "required" where
  ne_empty := by decide
  trimmed := by decide
  noOuterComma := noOuterComma_of_notMem (by decide) 0
  closed := by decide

theorem isClause_type (kind : Kind) : IsClause (clause "type" kind.name) := by
  cases kind <;> exact isClause_clause (by decide) (by decide) (by decide)

/-- **Splitting a rule gives its clauses**, one for one and in order. -/
theorem splitClauses_ruleClauses (h : c.IsReadable kind) :
    splitClauses (join "," (ruleClauses kind c)) = ruleClauses kind c := by
  refine splitClauses_join ?_
  rw [ruleClauses_eq]
  intro t ht
  rcases List.mem_append.mp ht with ht | ht
  · rcases List.mem_append.mp ht with ht | ht
    · split at ht
      · rw [List.mem_singleton.mp ht]
        exact isClause_required
      · exact absurd ht List.not_mem_nil
    · rw [List.mem_singleton.mp ht]
      exact isClause_type kind
  · obtain ⟨d, hd, rfl⟩ := List.mem_map.mp ht
    exact (Constraints.isFaithful_demands h d hd).isClause

/-- A rule asks for a value exactly when its constraints do. -/
theorem contains_required_ruleClauses (h : c.IsReadable kind) :
    (ruleClauses kind c).contains "required" = c.required := by
  have hdemands : "required" ∉ (c.demands kind).map Demand.wording := by
    intro hmem
    obtain ⟨d, hd, he⟩ := List.mem_map.mp hmem
    exact (Constraints.isFaithful_demands h d hd).ne_required he
  have htype := (clause_ne_required "type" kind.name).symm
  rw [ruleClauses_eq, Bool.eq_iff_iff, List.contains_iff_mem]
  cases c.required <;> simp [hdemands, htype]

/-- A rule that is taken apart as it was put together is not the one that demands
nothing, since it asks for a kind. -/
theorem ne_noRule_of_splitClauses {rule : String}
    (h : splitClauses rule = ruleClauses kind c) : rule ≠ noRule := by
  rintro rfl
  have htype : clause "type" kind.name ∈ ruleClauses kind c := by
    rw [ruleClauses_eq]
    simp
  rw [← h, show splitClauses noRule = ["-"] from by decide, List.mem_singleton] at htype
  cases kind <;> exact absurd htype (by decide)

/-- A rule of declared constraints is not the one that demands nothing. -/
theorem join_ruleClauses_ne_noRule (h : c.IsReadable kind) :
    join "," (ruleClauses kind c) ≠ noRule :=
  ne_noRule_of_splitClauses (splitClauses_ruleClauses h)

/-- **The clause a value does not meet** is the wording of the first demand it
does not meet. -/
theorem find?_ruleClauses (h : c.IsReadable kind) {v : InputValue}
    (hkind : v.hasKind kind = true) (hzero : v.isZero = false) :
    ((ruleClauses kind c).find? fun t => !(Rule.read t).accepts v)
      = ((c.demands kind).find? fun d => !d.meets v).map Demand.wording := by
  -- the clauses in front of the demands accept every such value
  have hrequired : (Rule.read "required").accepts v = true := by
    show (!v.isZero) = true
    rw [hzero, Bool.not_false]
  have htype : (Rule.read (clause "type" kind.name)).accepts v = true := by
    have hread : Rule.read (clause "type" kind.name) = .type kind := by
      cases kind <;> decide
    rw [hread, Rule.accepts, hkind]
  have hhead : ((if c.required then ["required"] else [])
      ++ [clause "type" kind.name]).find? (fun t => !(Rule.read t).accepts v)
        = none := by
    rw [List.find?_eq_none]
    cases c.required <;> simp [hrequired, htype]
  rw [ruleClauses_eq, List.find?_append, hhead, Option.none_or, List.find?_map]
  refine congrArg (Option.map Demand.wording) (List.find?_congr (fun d hd => ?_))
  rw [Function.comp_apply,
    (Constraints.isFaithful_demands h d hd).accepts v hkind]

/-- **What is wrong with an input under a rule is what is wrong with it under
the constraints the rule is made from.** -/
theorem faultUnder_ruleText (h : c.IsReadable kind) {input : Option InputValue}
    (hkind : ∀ v ∈ input, v.hasKind kind = true) :
    faultUnder (ruleText kind c) input = c.fault? kind input := by
  unfold Constraints.fault? ruleText
  cases hd : c.declared with
  | false => rfl
  | true =>
    rw [if_pos rfl, if_pos rfl, faultUnder,
      if_neg (join_ruleClauses_ne_noRule h), splitClauses_ruleClauses h]
    dsimp only
    rw [contains_required_ruleClauses h]
    cases input with
    | none => rfl
    | some v =>
      cases hz : v.isZero with
      | true => simp only [hz, if_true]
      | false =>
        simp only [hz, Bool.false_eq_true, if_false]
        rw [find?_ruleClauses h (hkind v rfl) hz, Option.map_map]
        rfl

end Rules

/-! ## Validating under a rule -/

/-- Under a template of one entry there is at most one error. -/
theorem validate_singleton {inputs : InputMap} {key : String} (rule : String)
    (h : ∀ k ∈ inputs.keys, k = key) :
    validate inputs [(key, rule)]
      = ((faultUnder rule (inputs.get? key)).map fun f => ⟨key, f⟩).toList := by
  have hunlisted : unlistedErrors inputs [(key, rule)] = [] :=
    unlistedErrors_eq_nil_iff.mpr (fun k hk => by simpa using h k hk)
  rw [validate, hunlisted, List.append_nil, templateErrors]
  cases hf : faultUnder rule (inputs.get? key) <;> simp [hf]

/-- **A rule means what the annotation says.** Whatever a tag states, its rule
is met by exactly the inputs that are within the constraints. Any other input
has one error, which names what is missing, or the first demand that the value
does not meet. -/
theorem validate_ruleText {tag : String} {c : Constraints} {kind : Kind}
    {key : String} {inputs : InputMap} (htag : Doc.constraints tag = .ok c)
    (hopen : ∀ t ∈ c.choices, '(' ∉ t.toList)
    (hmin : kind = .string → ∀ n ∈ c.min, 0 ≤ n)
    (hkeys : ∀ k ∈ inputs.keys, k = key)
    (hkind : ∀ v ∈ inputs.get? key, v.hasKind kind = true) :
    (validate inputs [(key, ruleText kind c)] = []
      ↔ c.declared = false
        ∨ (c.required = false ∧ ∀ v ∈ inputs.get? key, v.isZero = true)
        ∨ ∃ v ∈ inputs.get? key, v.isZero = false ∧ c.Meets v)
    ∧ (validate inputs [(key, ruleText kind c)] ≠ [] →
        ∃ e, validate inputs [(key, ruleText kind c)] = [e] ∧ e.key = key
          ∧ (inputs.get? key = none → e.fault.message = "required field missing")
          ∧ (∀ v ∈ inputs.get? key, v.isZero = true →
              e.fault.message = "non zero value required")
          ∧ ∀ v ∈ inputs.get? key, v.isZero = false →
              ∃ d, (c.demands kind).find? (fun d => !d.meets v) = some d
                ∧ e.fault.message
                  = v.text ++ " does not validate as " ++ d.wording) := by
  have hreadable : c.IsReadable kind :=
    ⟨Doc.isPrintable_of_constraints htag, hopen, hmin⟩
  have hfault := faultUnder_ruleText hreadable hkind
  rw [validate_singleton _ hkeys, hfault]
  have hadmits : c.fault? kind (inputs.get? key) = none
      ↔ c.Admits (inputs.get? key) := Constraints.fault?_eq_none_iff
  cases hf : c.fault? kind (inputs.get? key) with
  | none =>
    rw [hf] at hadmits
    exact ⟨iff_of_true rfl (hadmits.mp rfl), fun h => absurd rfl h⟩
  | some fault =>
    rw [hf] at hadmits
    refine ⟨iff_of_false (by simp) (fun h => by simpa using hadmits.mpr h),
      fun _ => ⟨⟨key, fault⟩, rfl, rfl, ?_⟩⟩
    obtain ⟨hmissing, hzero, hrejected⟩ := Constraints.eq_of_fault? hf
    refine ⟨fun h => ?_, fun v hv hz => ?_, fun v hv hz => ?_⟩
    · rw [hmissing h]; rfl
    · rw [hzero v hv hz]; rfl
    · obtain ⟨d, hd, he⟩ := hrejected v hv hz
      exact ⟨d, hd, by rw [he]; rfl⟩

/-- A choice that closes a parenthesis is met like any other. -/
theorem validate_ruleText_closing_choice :
    let c : Constraints := ⟨true, true, "", ["a)", "b)c"], "", some 2, some 3⟩
    Doc.constraints "apivalidator:\"required,enum=a)|b)c,min=2,max=3\"" = .ok c
    ∧ validate (.ofList [("k", .string "b)c")]) [("k", ruleText .string c)]
      = [] := by
  intro c
  have htag : Doc.constraints
      "apivalidator:\"required,enum=a)|b)c,min=2,max=3\"" = .ok c := by
    decide +kernel
  refine ⟨htag, (validate_ruleText htag (by decide) ?_ (by decide) ?_).1.mpr ?_⟩
  · intro _ n hn
    rw [← Option.some.inj hn]
    decide
  · rintro v ⟨⟩
    rfl
  · refine .inr (.inr ⟨.string "b)c", rfl, rfl, ⟨fun _ => by decide, ?_, ?_⟩⟩)
    · rintro n ⟨⟩
      decide
    · rintro n ⟨⟩
      decide

end Switchboard
