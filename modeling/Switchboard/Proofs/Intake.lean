import Switchboard.Intake
import Switchboard.Proofs.Form
import Switchboard.Proofs.Rules.Meaning

/-!
# What reaches a handler

The inputs a handler gets are decoded field by field and then validated as a
whole. With distinct form keys the fields do not meet: each one's input is what
decoding that field alone gives (`InputMap.read_of_ofForm`), the template has one
entry for each (`entries_templateOf`), and the inputs are valid exactly when each
is within the constraints of its own field (`validate_templateOf_eq_nil_iff`).
Together: a form reaches the handler exactly when every field decodes to an
input within its constraints (`inputsOfForm_eq_ok_iff`).
-/

namespace Switchboard

/-! ## Decoding a field -/

/-- A value has the kind of the field it is decoded for. -/
theorem InputField.hasKind_of_read {i : InputField} {form : Form}
    {v : InputValue} (h : i.read form = .ok (some v)) :
    v.hasKind i.kind = true := by
  rw [read] at h
  split at h
  · exact nomatch (Except.ok.inj h)
  · next raw _ =>
    obtain ⟨w, hw, he⟩ := map_eq_ok.mp h
    rw [← Option.some.inj he]
    unfold decode at hw
    cases hk : i.kind with
    | string =>
      simp only [hk] at hw
      rw [← Except.ok.inj hw]
      rfl
    | int | uint64 =>
      simp only [hk] at hw
      split at hw
      · rw [← Except.ok.inj hw]
        rfl
      · exact nomatch hw

/-- **The value a form has for a key**, where an empty one counts as none. -/
def Form.filled? (form : Form) (key : String) : Option String :=
  (form.get? key).filter (· != "")

theorem Form.filled?_eq_some_iff {form : Form} {key t : String} :
    form.filled? key = some t ↔ form.get? key = some t ∧ t ≠ "" := by
  rw [filled?, Option.filter_eq_some_iff, bne_iff_ne]

/-- Without a fallback, a field is decoded from what the form has. -/
theorem InputField.raw?_of_no_fallback {i : InputField}
    (h : i.hasFallback = false) (form : Form) :
    i.raw? form = form.filled? i.key := by
  rw [raw?, h, ← Form.filled?]
  cases form.filled? i.key <;> rfl

/-- With a fallback there is always something to decode. -/
theorem InputField.raw?_of_fallback {i : InputField} (h : i.hasFallback = true)
    (form : Form) :
    i.raw? form = some ((form.filled? i.key).getD i.fallback) := by
  rw [raw?, h, ← Form.filled?]
  cases form.filled? i.key <;> rfl

/-- A field for texts decodes to the text there is. -/
theorem InputField.read_of_string {i : InputField} (h : i.kind = .string)
    (form : Form) : i.read form = .ok ((i.raw? form).map .string) := by
  rw [read]
  cases i.raw? form with
  | none => rfl
  | some raw =>
    unfold decode
    simp only [h]
    rfl

/-- A field for integers decodes to the integer that the text there is
denotes. -/
theorem InputField.read_of_int {i : InputField} (h : i.kind = .int) {form : Form}
    {input : Option InputValue} (hread : i.read form = .ok input) :
    (i.raw? form = none ∧ input = none)
      ∨ ∃ raw n, i.raw? form = some raw ∧ Text.int64? raw.toList = some n
          ∧ input = some (.int n) := by
  rw [read] at hread
  split at hread
  · next hnone => exact .inl ⟨hnone, (Except.ok.inj hread).symm⟩
  · next raw hraw =>
    obtain ⟨v, hv, rfl⟩ := map_eq_ok.mp hread
    unfold decode at hv
    simp only [h] at hv
    split at hv
    · next n hn =>
      exact .inr ⟨raw, n, hraw, hn, congrArg some (Except.ok.inj hv).symm⟩
    · exact nomatch hv

/-! ## Decoding all fields -/

theorem InputMap.add_eq_ok {form : Form} {inputs out : InputMap}
    {i : InputField} : inputs.add form i = .ok out
      ↔ ∃ input, i.read form = .ok input
          ∧ out = match input with
            | some v => inputs.insert i.key v
            | none => inputs := by
  rw [InputMap.add, bind_eq_ok]
  refine exists_congr (fun input => and_congr_right (fun _ => ?_))
  cases input with
  | none => exact ⟨fun h => (Except.ok.inj h).symm, fun h => congrArg _ h.symm⟩
  | some v => exact ⟨fun h => (Except.ok.inj h).symm, fun h => congrArg _ h.symm⟩

/-- Adding a field gives its key what it decodes to. -/
theorem InputMap.get?_add_self {form : Form} {inputs out : InputMap}
    {i : InputField} (hnew : i.key ∉ inputs.keys)
    (h : inputs.add form i = .ok out) :
    i.read form = .ok (out.get? i.key) := by
  obtain ⟨input, hread, rfl⟩ := add_eq_ok.mp h
  cases input with
  | none => rw [hread, OrderedMap.get?_eq_none_iff.mpr hnew]
  | some v => rw [hread, OrderedMap.get?_insert_self]

/-- Adding a field leaves other keys alone. -/
theorem InputMap.get?_add_of_ne {form : Form} {inputs out : InputMap}
    {i : InputField} {key : String} (hne : key ≠ i.key)
    (h : inputs.add form i = .ok out) : out.get? key = inputs.get? key := by
  obtain ⟨input, _, rfl⟩ := add_eq_ok.mp h
  cases input with
  | none => rfl
  | some v => exact OrderedMap.get?_insert_of_ne hne inputs v

/-- **What fields added one after the other leave**: for each of their keys the
input of its field, for every other key what was there. -/
theorem InputMap.get?_foldlM_add {form : Form} {is : List InputField}
    {inputs out : InputMap} (hnodup : (is.map InputField.key).Nodup)
    (hnew : ∀ i ∈ is, i.key ∉ inputs.keys)
    (h : is.foldlM (InputMap.add form) inputs = .ok out) :
    (∀ i ∈ is, i.read form = .ok (out.get? i.key))
      ∧ ∀ key, key ∉ is.map InputField.key → out.get? key = inputs.get? key := by
  induction is generalizing inputs with
  | nil =>
    rw [← Except.ok.inj h]
    exact ⟨fun _ hi => absurd hi List.not_mem_nil, fun _ _ => rfl⟩
  | cons i rest ih =>
    rw [List.foldlM_cons] at h
    obtain ⟨mid, hadd, hrest⟩ := bind_eq_ok.mp h
    rw [List.map_cons, List.nodup_cons] at hnodup
    -- the keys are distinct, so adding the first field leaves the others free
    have hmid : ∀ j ∈ rest, j.key ∉ mid.keys := by
      intro j hj
      have hne : j.key ≠ i.key :=
        fun e => hnodup.1 (e ▸ List.mem_map_of_mem hj)
      rw [← OrderedMap.get?_eq_none_iff, get?_add_of_ne hne hadd,
        OrderedMap.get?_eq_none_iff]
      exact hnew j (List.mem_cons_of_mem i hj)
    obtain ⟨hin, hout⟩ := ih hnodup.2 hmid hrest
    constructor
    · intro j hj
      rcases List.mem_cons.mp hj with rfl | hj
      · rw [hout j.key hnodup.1]
        exact get?_add_self (hnew j List.mem_cons_self) hadd
      · exact hin j hj
    · intro key hkey
      rw [List.map_cons, List.mem_cons, not_or] at hkey
      rw [hout key hkey.2, get?_add_of_ne hkey.1 hadd]

/-- Fields that all decode can be added one after the other. -/
theorem InputMap.exists_foldlM_add {form : Form} {is : List InputField}
    (h : ∀ i ∈ is, ∃ input, i.read form = .ok input) (inputs : InputMap) :
    ∃ out, is.foldlM (InputMap.add form) inputs = .ok out := by
  induction is generalizing inputs with
  | nil => exact ⟨inputs, rfl⟩
  | cons i rest ih =>
    obtain ⟨input, hread⟩ := h i List.mem_cons_self
    obtain ⟨mid, hmid⟩ : ∃ mid, inputs.add form i = .ok mid :=
      ⟨_, add_eq_ok.mpr ⟨input, hread, rfl⟩⟩
    obtain ⟨out, hout⟩ := ih (fun j hj => h j (List.mem_cons_of_mem i hj)) mid
    refine ⟨out, ?_⟩
    rw [List.foldlM_cons]
    exact bind_eq_ok.mpr ⟨mid, hmid, hout⟩

section OfForm

variable {is : List InputField} {form : Form} {inputs : InputMap}

/-- The input of a field is what decoding that field alone gives. -/
theorem InputMap.read_of_ofForm (hnodup : (is.map InputField.key).Nodup)
    (h : InputMap.ofForm is form = .ok inputs) :
    ∀ i ∈ is, i.read form = .ok (inputs.get? i.key) :=
  (get?_foldlM_add hnodup (fun _ _ => List.not_mem_nil) h).1

/-- Inputs belong to fields. -/
theorem InputMap.mem_keys_ofForm (hnodup : (is.map InputField.key).Nodup)
    (h : InputMap.ofForm is form = .ok inputs) {key : String}
    (hkey : key ∈ inputs.keys) : key ∈ is.map InputField.key := by
  by_contra hnot
  have hget := (get?_foldlM_add hnodup (fun _ _ => List.not_mem_nil) h).2 key hnot
  exact OrderedMap.get?_eq_none_iff.mp hget hkey

end OfForm

/-! ## The template of fields -/

section Templates

variable {fields : List Field}

/-- **With distinct form keys the template has one entry for each field.** -/
theorem entries_templateOf (h : (fields.map Field.externalKey).Nodup) :
    (templateOf fields).entries = fields.map fun f => (f.externalKey, f.rule) := by
  refine OrderedMap.entries_ofList ?_
  rw [List.map_map]
  exact h

/-- **Fields whose inputs can be checked one by one**: their form keys are
distinct, and their rules read back. -/
structure FieldsReadable (fields : List Field) : Prop where
  /-- The form keys are distinct. -/
  nodup_keys : (fields.map Field.externalKey).Nodup
  /-- The rules read back. -/
  readable : ∀ f ∈ fields, f.constraints.IsReadable f.kind

instance (fields : List Field) : Decidable (FieldsReadable fields) :=
  decidable_of_iff
    ((fields.map Field.externalKey).Nodup
      ∧ ∀ f ∈ fields, f.constraints.IsReadable f.kind)
    ⟨fun h => ⟨h.1, h.2⟩, fun h => ⟨h.nodup_keys, h.readable⟩⟩

/-- **Inputs are valid exactly when each is within the constraints of its own
field.** -/
theorem validate_templateOf_eq_nil_iff {inputs : InputMap}
    (h : FieldsReadable fields)
    (hkeys : ∀ key ∈ inputs.keys, key ∈ fields.map Field.externalKey)
    (hkinds : ∀ f ∈ fields, ∀ v ∈ inputs.get? f.externalKey,
      v.hasKind f.kind = true) :
    validate inputs (templateOf fields).entries = []
      ↔ ∀ f ∈ fields, f.constraints.Admits (inputs.get? f.externalKey) := by
  have hunlisted : unlistedErrors inputs (templateOf fields).entries = [] := by
    refine unlistedErrors_eq_nil_iff.mpr (fun key hkey => ?_)
    rw [entries_templateOf h.nodup_keys, List.map_map]
    exact hkeys key hkey
  rw [validate, hunlisted, List.append_nil, entries_templateOf h.nodup_keys,
    templateErrors, List.filterMap_map, List.filterMap_eq_nil_iff]
  refine forall₂_congr (fun f hf => ?_)
  rw [Function.comp_apply, Option.map_eq_none_iff, Field.rule,
    faultUnder_ruleText (h.readable f hf) (hkinds f hf),
    Constraints.fault?_eq_none_iff]

/-! ## Forms that reach a handler -/

theorem map_key_input (fields : List Field) :
    (fields.map Field.input).map InputField.key = fields.map Field.externalKey := by
  rw [List.map_map]
  rfl

/-- The input of each field of a record is what decoding it alone gives. -/
theorem read_of_ofForm_fields (h : FieldsReadable fields) {form : Form}
    {inputs : InputMap}
    (hdecoded : InputMap.ofForm (fields.map Field.input) form = .ok inputs) :
    ∀ f ∈ fields, f.input.read form = .ok (inputs.get? f.externalKey) := by
  have hnodup := h.nodup_keys
  rw [← map_key_input] at hnodup
  exact fun f hf =>
    InputMap.read_of_ofForm hnodup hdecoded f.input (List.mem_map_of_mem hf)

/-- **A form reaches the handler** when its fields decode and each of the
inputs is within the constraints of its field. -/
theorem inputsOfForm_eq_ok_iff (h : FieldsReadable fields) {form : Form}
    {inputs : InputMap} :
    inputsOfForm fields form = .ok inputs
      ↔ InputMap.ofForm (fields.map Field.input) form = .ok inputs
        ∧ ∀ f ∈ fields, f.constraints.Admits (inputs.get? f.externalKey) := by
  have hvalid : InputMap.ofForm (fields.map Field.input) form = .ok inputs →
      (validate inputs (templateOf fields).entries = []
        ↔ ∀ f ∈ fields, f.constraints.Admits (inputs.get? f.externalKey)) := by
    intro hdecoded
    refine validate_templateOf_eq_nil_iff h (fun key hkey => ?_)
      (fun f hf v hv => ?_)
    · have hnodup := h.nodup_keys
      rw [← map_key_input] at hnodup ⊢
      exact InputMap.mem_keys_ofForm hnodup hdecoded hkey
    · have hread := read_of_ofForm_fields h hdecoded f hf
      rw [Option.mem_def.mp hv] at hread
      exact InputField.hasKind_of_read hread
  rw [inputsOfForm, bind_eq_ok]
  constructor
  · rintro ⟨decoded, hdecoded, hend⟩
    rw [mapError_eq_ok] at hdecoded
    split at hend
    · next hnil =>
      rw [Except.ok.inj hend] at hdecoded hnil
      exact ⟨hdecoded, (hvalid hdecoded).mp hnil⟩
    · exact nomatch hend
  · rintro ⟨hdecoded, hadmits⟩
    refine ⟨inputs, mapError_eq_ok.mpr hdecoded, ?_⟩
    rw [(hvalid hdecoded).mpr hadmits]
    rfl

/-- The inputs of a request are those of its form. -/
theorem inputsOfRequest_eq_ok {r : Http.Request} {inputs : InputMap} :
    inputsOfRequest fields r = .ok inputs
      ↔ ∃ form, Form.ofRequest r = .ok form
          ∧ inputsOfForm fields form = .ok inputs := by
  rw [inputsOfRequest, bind_eq_ok]
  exact exists_congr (fun form => and_congr_left (fun _ => mapError_eq_ok))

/-- **A request that is let through with its inputs**: its form can be read, the
fields decode, and the inputs are valid. -/
def Admitted (fields : List Field) (r : Http.Request) (inputs : InputMap) : Prop :=
  ∃ form, Form.ofRequest r = .ok form
    ∧ InputMap.ofForm (fields.map Field.input) form = .ok inputs
    ∧ validate inputs (templateOf fields).entries = []

/-- **A request that is refused before its handler is asked**: its form cannot
be read, or the fields do not decode, or the inputs are not valid. -/
def Refused (fields : List Field) (r : Http.Request) : Prop :=
  (∃ fault, Form.ofRequest r = .error fault)
    ∨ ∃ form, Form.ofRequest r = .ok form
      ∧ ((∃ e, InputMap.ofForm (fields.map Field.input) form = .error e)
        ∨ ∃ inputs, InputMap.ofForm (fields.map Field.input) form = .ok inputs
          ∧ validate inputs (templateOf fields).entries ≠ [])

theorem inputsOfForm_eq_ok {form : Form} {inputs : InputMap} :
    inputsOfForm fields form = .ok inputs
      ↔ InputMap.ofForm (fields.map Field.input) form = .ok inputs
        ∧ validate inputs (templateOf fields).entries = [] := by
  rw [inputsOfForm, bind_eq_ok]
  constructor
  · rintro ⟨decoded, hdecoded, hend⟩
    split at hend
    · next hnil =>
      rw [Except.ok.inj hend] at hdecoded hnil
      exact ⟨mapError_eq_ok.mp hdecoded, hnil⟩
    · exact nomatch hend
  · rintro ⟨hdecoded, hnil⟩
    refine ⟨inputs, mapError_eq_ok.mpr hdecoded, ?_⟩
    rw [hnil]
    rfl

/-- A request gets its inputs exactly when it is let through with them. -/
theorem inputsOfRequest_eq_ok_iff_admitted {r : Http.Request} {inputs : InputMap} :
    inputsOfRequest fields r = .ok inputs ↔ Admitted fields r inputs := by
  rw [inputsOfRequest_eq_ok]
  exact exists_congr (fun form => and_congr_right (fun _ => inputsOfForm_eq_ok))

/-- A request that is refused gets no inputs. -/
theorem exists_error_of_refused {r : Http.Request} (h : Refused fields r) :
    ∃ e, inputsOfRequest fields r = .error e := by
  cases hinputs : inputsOfRequest fields r with
  | error e => exact ⟨e, rfl⟩
  | ok inputs =>
    obtain ⟨form, hform, hdecoded, hvalid⟩ :=
      inputsOfRequest_eq_ok_iff_admitted.mp hinputs
    rcases h with ⟨fault, hfault⟩ | ⟨form', hform', hrefused⟩
    · exact nomatch hform.symm.trans hfault
    · obtain rfl : form = form' := Except.ok.inj (hform.symm.trans hform')
      rcases hrefused with ⟨e, he⟩ | ⟨inputs', hdecoded', hinvalid⟩
      · exact nomatch hdecoded.symm.trans he
      · rw [Except.ok.inj (hdecoded.symm.trans hdecoded')] at hvalid
        exact absurd hvalid hinvalid

/-- **What a handler is given**: the input of each field is what decoding the
field alone gives, and it is within the field's constraints. -/
theorem read_of_inputsOfForm (h : FieldsReadable fields) {form : Form}
    {inputs : InputMap} (hinputs : inputsOfForm fields form = .ok inputs) :
    ∀ f ∈ fields, f.input.read form = .ok (inputs.get? f.externalKey)
      ∧ f.constraints.Admits (inputs.get? f.externalKey) := by
  obtain ⟨hdecoded, hadmits⟩ := (inputsOfForm_eq_ok_iff h).mp hinputs
  exact fun f hf => ⟨read_of_ofForm_fields h hdecoded f hf, hadmits f hf⟩

/-- A required input is there, is not zero, and is within the bounds. -/
theorem Constraints.Admits.of_required {c : Constraints} {input : Option InputValue}
    (h : c.Admits input) (hdeclared : c.declared = true)
    (hrequired : c.required = true) :
    ∃ v, input = some v ∧ v.isZero = false ∧ c.Meets v := by
  rcases h with h | ⟨h, _⟩ | ⟨v, hv, hzero, hmeets⟩
  · exact absurd (hdeclared.symm.trans h) (by decide)
  · exact absurd (hrequired.symm.trans h) (by decide)
  · exact ⟨v, hv, hzero, hmeets⟩

/-- **A required text is there**: the form has a value for it that is not
empty, and that value is within the bounds. -/
theorem text_of_required {f : Field} (hkind : f.kind = .string)
    (hdeclared : f.constraints.declared = true)
    (hrequired : f.constraints.required = true)
    (hfallback : f.constraints.hasFallback = false) {form : Form}
    {input : Option InputValue} (hread : f.input.read form = .ok input)
    (hadmits : f.constraints.Admits input) :
    ∃ t, form.filled? f.externalKey = some t ∧ input = some (.string t)
      ∧ f.constraints.Meets (.string t) := by
  have hinput : input = (form.filled? f.externalKey).map .string := by
    rw [InputField.read_of_string hkind] at hread
    rw [← Except.ok.inj hread, InputField.raw?_of_no_fallback hfallback]
    rfl
  obtain ⟨v, hv, _, hmeets⟩ := hadmits.of_required hdeclared hrequired
  rw [hinput] at hv
  obtain ⟨t, ht, rfl⟩ := Option.map_eq_some_iff.mp hv
  exact ⟨t, ht, by rw [hinput, ht]; rfl, hmeets⟩

/-- **A form whose fields all decode within their constraints reaches the
handler.** -/
theorem exists_inputsOfForm (h : FieldsReadable fields) {form : Form}
    (hfields : ∀ f ∈ fields, ∃ input, f.input.read form = .ok input
      ∧ f.constraints.Admits input) :
    ∃ inputs, inputsOfForm fields form = .ok inputs := by
  obtain ⟨inputs, hdecoded⟩ : ∃ inputs,
      InputMap.ofForm (fields.map Field.input) form = .ok inputs := by
    refine InputMap.exists_foldlM_add (fun i hi => ?_) .empty
    obtain ⟨f, hf, rfl⟩ := List.mem_map.mp hi
    obtain ⟨input, hread, _⟩ := hfields f hf
    exact ⟨input, hread⟩
  refine ⟨inputs, (inputsOfForm_eq_ok_iff h).mpr ⟨hdecoded, fun f hf => ?_⟩⟩
  obtain ⟨input, hinput, hadmits⟩ := hfields f hf
  have hread := read_of_ofForm_fields h hdecoded f hf
  rw [← Except.ok.inj (hinput.symm.trans hread)]
  exact hadmits

end Templates

end Switchboard
