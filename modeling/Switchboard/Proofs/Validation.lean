import Mathlib.Data.List.Perm.Basic
import Switchboard.Proofs.OrderedMap
import Switchboard.Validation

/-!
# Errors entry by entry

What a template reports of inputs is a matter of its entries taken singly. An entry has
at most one error, and this is told by its rule and the input of its key (`Finds`), with
no regard to other entries, to other inputs or to the place of either. The order of the
template is therefore the order of its errors and nothing else, and so it is with the
order in which inputs were put in: in another order the same errors are found
(`validate_entrywise`).

The one thing that entries share is which keys they name. An entry with a dash for a
rule finds nothing, but its key is named like any other
(`validate_append_noRule`).
-/

namespace Switchboard

/-! ## One entry -/

/-- **What a rule finds wrong with the input of a key.** Of a value that is not zero it
is the first clause that the value does not meet; all others only ask whether something
is required. A dash finds nothing. -/
inductive Finds (rule : String) : Option InputValue → InputFault → Prop where
  /-- A required input is missing. -/
  | missing (asks : rule ≠ noRule) (required : "required" ∈ splitClauses rule) :
    Finds rule none .missing
  /-- A required input is zero. -/
  | zero {v : InputValue} (asks : rule ≠ noRule) (isZero : v.isZero = true)
    (required : "required" ∈ splitClauses rule) : Finds rule (some v) .zero
  /-- A clause is not met, after others that are. -/
  | rejected {v : InputValue} {before after : List String} {clause : String}
    (asks : rule ≠ noRule) (nonzero : v.isZero = false)
    (clauses : splitClauses rule = before ++ clause :: after)
    (met : ∀ c ∈ before, (Rule.read c).accepts v = true)
    (unmet : (Rule.read clause).accepts v = false) :
    Finds rule (some v) (.rejected v clause)

/-- A rule finds no input without a template entry. -/
theorem Finds.ne_unlisted {rule : String} {input : Option InputValue} {fault : InputFault}
    (h : Finds rule input fault) : fault ≠ .unlisted := by
  cases h <;> exact fun h => nomatch h

theorem not_finds_noRule (input : Option InputValue) (fault : InputFault) :
    ¬Finds noRule input fault := by
  intro h
  cases h with
  | missing asks => exact asks rfl
  | zero asks => exact asks rfl
  | rejected asks => exact asks rfl

/-- **The fault under a rule is what the rule finds.** -/
theorem faultUnder_eq_some_iff {rule : String} {input : Option InputValue}
    {fault : InputFault} : faultUnder rule input = some fault ↔ Finds rule input fault := by
  by_cases hdash : rule = noRule
  · rw [hdash, faultUnder, if_pos rfl]
    exact iff_of_false (fun h => nomatch h) (not_finds_noRule input fault)
  rw [faultUnder, if_neg hdash]
  dsimp only
  have hrequired : (splitClauses rule).contains "required" = true
      ↔ "required" ∈ splitClauses rule := List.contains_iff_mem
  cases input with
  | none =>
    dsimp only
    rw [Option.ite_none_right_eq_some, hrequired]
    constructor
    · rintro ⟨hreq, ⟨⟩⟩
      exact .missing hdash hreq
    · intro h
      cases h with
      | missing _ required => exact ⟨required, rfl⟩
  | some v =>
    dsimp only
    cases hzero : v.isZero with
    | true =>
      rw [if_pos rfl, Option.ite_none_right_eq_some, hrequired]
      constructor
      · rintro ⟨hreq, ⟨⟩⟩
        exact .zero hdash hzero hreq
      · intro h
        cases h with
        | zero _ _ required => exact ⟨required, rfl⟩
        | rejected _ nonzero => exact nomatch hzero.symm.trans nonzero
    | false =>
      rw [if_neg Bool.false_ne_true, Option.map_eq_some_iff]
      constructor
      · rintro ⟨clause, hfind, rfl⟩
        obtain ⟨hunmet, before, after, hsplit, hmet⟩ :=
          List.find?_eq_some_iff_append.mp hfind
        exact .rejected hdash hzero hsplit (fun c hc => by simpa using hmet c hc)
          (by simpa using hunmet)
      · intro h
        cases h with
        | zero _ isZero => exact nomatch hzero.symm.trans isZero
        | rejected _ _ clauses met unmet =>
          exact ⟨_, List.find?_eq_some_iff_append.mpr ⟨by simpa using unmet, _, _, clauses,
            fun c hc => by simpa using met c hc⟩, rfl⟩

/-! ## All entries -/

/-- **What the entries of a template report of inputs**, in the order of the entries: an
entry adds the error that its rule finds, or nothing. -/
inductive Reports (inputs : InputMap) : Template → List FieldError → Prop where
  /-- No entry is left. -/
  | done : Reports inputs [] []
  /-- An entry finds nothing wrong. -/
  | fine {key rule : String} {template : Template} {errors : List FieldError}
    (fine : ∀ fault, ¬Finds rule (inputs.get? key) fault)
    (rest : Reports inputs template errors) :
    Reports inputs ((key, rule) :: template) errors
  /-- An entry finds something wrong. -/
  | error {key rule : String} {template : Template} {errors : List FieldError}
    {fault : InputFault} (finds : Finds rule (inputs.get? key) fault)
    (rest : Reports inputs template errors) :
    Reports inputs ((key, rule) :: template) (⟨key, fault⟩ :: errors)

/-- **The errors of the entries are those they report.** -/
theorem reports_iff {inputs : InputMap} {template : Template} {errors : List FieldError} :
    Reports inputs template errors ↔ errors = templateErrors inputs template := by
  induction template generalizing errors with
  | nil =>
    refine ⟨fun h => ?_, fun h => h ▸ .done⟩
    cases h
    rfl
  | cons entry template ih =>
    obtain ⟨key, rule⟩ := entry
    rw [templateErrors, List.filterMap_cons]
    dsimp only
    cases hfault : faultUnder rule (inputs.get? key) with
    | none =>
      have hfine : ∀ fault, ¬Finds rule (inputs.get? key) fault := fun fault h =>
        nomatch hfault.symm.trans (faultUnder_eq_some_iff.mpr h)
      constructor
      · intro h
        cases h with
        | fine _ rest => exact ih.mp rest
        | error finds => exact absurd finds (hfine _)
      · intro h
        exact .fine hfine (ih.mpr h)
    | some fault =>
      have hfinds := faultUnder_eq_some_iff.mp hfault
      constructor
      · intro h
        cases h with
        | fine fine => exact absurd hfinds (fine fault)
        | error finds rest =>
          have hsame := hfault.symm.trans (faultUnder_eq_some_iff.mpr finds)
          rw [ih.mp rest, ← Option.some.inj hsame]
          rfl
      · rintro rfl
        exact .error hfinds (ih.mpr rfl)

theorem templateErrors_append (inputs : InputMap) (template later : Template) :
    templateErrors inputs (template ++ later)
      = templateErrors inputs template ++ templateErrors inputs later :=
  List.filterMap_append

/-- No entry reports a key as unlisted. -/
theorem fault_ne_unlisted_of_mem {inputs : InputMap} {template : Template} {e : FieldError}
    (he : e ∈ templateErrors inputs template) : e.fault ≠ .unlisted := by
  obtain ⟨⟨key, rule⟩, -, he⟩ := List.mem_filterMap.mp he
  obtain ⟨fault, hfault, rfl⟩ := Option.map_eq_some_iff.mp he
  exact (faultUnder_eq_some_iff.mp hfault).ne_unlisted

/-- No entry has an error when none finds anything. -/
theorem templateErrors_eq_nil_iff {inputs : InputMap} {template : Template} :
    templateErrors inputs template = []
      ↔ ∀ entry ∈ template, ∀ fault, ¬Finds entry.2 (inputs.get? entry.1) fault := by
  rw [templateErrors, List.filterMap_eq_nil_iff]
  refine forall₂_congr fun entry _ => ?_
  rw [Option.map_eq_none_iff, Option.eq_none_iff_forall_ne_some]
  exact forall_congr' fun fault => not_congr faultUnder_eq_some_iff

/-! ## Inputs that no entry names -/

/-- **The inputs without an entry**, in their order. -/
theorem unlistedErrors_eq (inputs : InputMap) (template : Template) :
    unlistedErrors inputs template
      = (inputs.keys.filter fun key => decide (key ∉ template.map Prod.fst)).map
          fun key => ⟨key, .unlisted⟩ := by
  unfold unlistedErrors
  congr 1
  refine List.filter_congr fun key _ => ?_
  have hany : (template.any fun e => e.1 == key) = true ↔ key ∈ template.map Prod.fst := by
    rw [List.any_eq_true, List.mem_map]
    exact exists_congr fun e => and_congr_right fun _ => beq_iff_eq
  rw [Bool.eq_iff_iff, Bool.not_eq_true', decide_eq_true_iff, ← hany, Bool.not_eq_true]

theorem unlistedErrors_eq_nil_iff {inputs : InputMap} {template : Template} :
    unlistedErrors inputs template = []
      ↔ ∀ key ∈ inputs.keys, key ∈ template.map Prod.fst := by
  rw [unlistedErrors_eq, List.map_eq_nil_iff, List.filter_eq_nil_iff]
  simp only [decide_eq_true_iff, not_not]

/-- An entry more takes its key away from those that are not listed. -/
theorem unlistedErrors_append_cons (inputs : InputMap) (before after : Template)
    (key rule : String) :
    unlistedErrors inputs (before ++ (key, rule) :: after)
      = (unlistedErrors inputs (before ++ after)).filter fun e => e ≠ ⟨key, .unlisted⟩ := by
  rw [unlistedErrors_eq, unlistedErrors_eq, List.filter_map, List.filter_filter]
  congr 1
  refine List.filter_congr fun k _ => ?_
  simp only [Function.comp_apply, List.map_append, List.map_cons, List.mem_append,
    List.mem_cons]
  grind

/-! ## Other orders -/

/-- Maps with the same entries in another order answer alike. -/
theorem OrderedMap.get?_eq_of_perm {α : Type} {m m' : OrderedMap α}
    (h : m'.entries.Perm m.entries) (key : String) : m'.get? key = m.get? key := by
  refine Option.ext fun v => ?_
  rw [get?_eq_some_iff, get?_eq_some_iff]
  exact h.mem_iff

/-- **The order of entries is that of their errors.** -/
theorem templateErrors_perm {inputs inputs' : InputMap} {template template' : Template}
    (hinputs : ∀ key, inputs'.get? key = inputs.get? key)
    (htemplate : template'.Perm template) :
    (templateErrors inputs' template').Perm (templateErrors inputs template) := by
  have hsame : templateErrors inputs' template' = templateErrors inputs template' := by
    unfold templateErrors
    simp only [hinputs]
  rw [hsame]
  exact htemplate.filterMap _

theorem unlistedErrors_perm {inputs inputs' : InputMap} {template template' : Template}
    (hinputs : inputs'.entries.Perm inputs.entries) (htemplate : template'.Perm template) :
    (unlistedErrors inputs' template').Perm (unlistedErrors inputs template) := by
  have hnamed : ∀ key, key ∈ template'.map Prod.fst ↔ key ∈ template.map Prod.fst :=
    fun key => (htemplate.map Prod.fst).mem_iff
  rw [unlistedErrors_eq, unlistedErrors_eq]
  simp only [hnamed]
  exact ((hinputs.map Prod.fst).filter _).map _

/-! ## Validation -/

/-- **A dash takes one error away at most**: that its key is not listed. -/
theorem validate_append_noRule (inputs : InputMap) (before after : Template)
    (key : String) :
    validate inputs (before ++ (key, noRule) :: after)
      = (validate inputs (before ++ after)).filter fun e => e ≠ ⟨key, .unlisted⟩ := by
  have hsilent : templateErrors inputs ((key, noRule) :: after)
      = templateErrors inputs after := by
    have hnone : faultUnder noRule (inputs.get? key) = none := if_pos rfl
    rw [templateErrors, List.filterMap_cons]
    dsimp only
    rw [hnone]
    rfl
  have hkept : (templateErrors inputs (before ++ after)).filter
      (fun e => e ≠ ⟨key, .unlisted⟩) = templateErrors inputs (before ++ after) := by
    refine List.filter_eq_self.mpr fun e he => decide_eq_true ?_
    rintro rfl
    exact fault_ne_unlisted_of_mem he rfl
  rw [validate, validate, List.filter_append, hkept, unlistedErrors_append_cons,
    templateErrors_append, hsilent, ← templateErrors_append]

/-- **Validation goes entry by entry.** The errors of inputs are those that the entries
report, each of which is told by its own rule and the input of its own key, and then one
for each input that no entry names, in the order of the inputs. There is no error when
no entry finds anything and every input is named. With the entries and the inputs in any
other order the errors are the same in another order, so whether there are any is the
same. And an entry with a dash for a rule has no error and changes none, but for the one
that its key is not named. -/
theorem validate_entrywise (inputs : InputMap) (template : Template) :
    (∃ reported, (∀ errors, Reports inputs template errors ↔ errors = reported)
      ∧ validate inputs template
        = reported ++ (inputs.keys.filter fun key => decide (key ∉ template.map Prod.fst)).map
            fun key => ⟨key, .unlisted⟩)
    ∧ (validate inputs template = []
      ↔ (∀ entry ∈ template, ∀ fault, ¬Finds entry.2 (inputs.get? entry.1) fault)
        ∧ ∀ key ∈ inputs.keys, key ∈ template.map Prod.fst)
    ∧ (∀ (inputs' : InputMap) (template' : Template),
        inputs'.entries.Perm inputs.entries → template'.Perm template →
        (validate inputs' template').Perm (validate inputs template)
          ∧ (validate inputs' template' = [] ↔ validate inputs template = []))
    ∧ ∀ before key after, template = before ++ (key, noRule) :: after →
        validate inputs template
          = (validate inputs (before ++ after)).filter fun e => e ≠ ⟨key, .unlisted⟩ := by
  refine ⟨⟨_, fun errors => reports_iff, ?_⟩, ?_, fun inputs' template' hinputs htemplate => ?_, ?_⟩
  · rw [validate, unlistedErrors_eq]
  · rw [validate, List.append_eq_nil_iff, templateErrors_eq_nil_iff,
      unlistedErrors_eq_nil_iff]
  · have hperm : (validate inputs' template').Perm (validate inputs template) :=
      (templateErrors_perm (OrderedMap.get?_eq_of_perm hinputs) htemplate).append
        (unlistedErrors_perm hinputs htemplate)
    refine ⟨hperm, fun h => ?_, fun h => ?_⟩
    · rw [h] at hperm
      exact hperm.symm.eq_nil
    · rw [h] at hperm
      exact hperm.eq_nil
  · rintro before key after rfl
    exact validate_append_noRule inputs before after key

/-- With entries and inputs turned around, a clause that cannot be met, a zero and an
input without an entry are errors as before; the dash adds none. -/
theorem validate_entrywise_of_reversed :
    let template : Template := [("b", "in(y"), ("d", noRule), ("a", "required,type(int)")]
    let pairs := [("c", .int 5), ("b", .string "x"), ("d", .int 7), ("a", .string "")]
    let inputs : InputMap := .ofList pairs
    validate inputs template
        = [⟨"b", .rejected (.string "x") "in(y"⟩, ⟨"a", .zero⟩, ⟨"c", .unlisted⟩]
      ∧ (validate (.ofList pairs.reverse) template.reverse).Perm (validate inputs template)
      ∧ validate inputs template
        = (validate inputs [("b", "in(y"), ("a", "required,type(int)")]).filter
            fun e => e ≠ ⟨"d", .unlisted⟩ := by
  intro template pairs inputs
  obtain ⟨-, -, hperm, hdash⟩ := validate_entrywise inputs template
  have hpairs : (OrderedMap.ofList pairs.reverse).entries.Perm inputs.entries := by
    decide
  exact ⟨by decide, (hperm _ _ hpairs (List.reverse_perm template)).1,
    hdash [("b", "in(y")] "d" [("a", "required,type(int)")] rfl⟩

end Switchboard
