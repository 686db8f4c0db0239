import Mathlib.Algebra.Ring.Int.Defs
import Switchboard.Proofs.Intake

/-!
# From a form to the values of a record

A form has a text for a field or none (`Field.textIn?`), and from there on
nothing is lost or mixed up: the text is decoded under the field's own form key,
checked, and taken out again under that key. Three tables are made of the same
fields for this, one to decode by, one to check by and one to take out by; what
ties them together is that the form keys are distinct.

Decoding fails at the first field that asks for an integer and has another text
(`InputMap.ofForm_eq_error_iff`). Otherwise every field is given the value of its
text (`Kind.Gives`), since taking one field out leaves the inputs of the others
where they are (`takeFields_eq`), and no input is left without its template entry
(`fault_ne_unlisted_of_ofForm`).
-/

namespace Switchboard

open Text

/-! ## The text of a field -/

/-- **The text a form has for a field**: the first value of its form key where
that is not empty, else the value to fall back on, if there is one. -/
def Field.textIn? (f : Field) (form : Form) : Option String :=
  (form.filled? f.externalKey).or
    (if f.constraints.fallback = "" then none else some f.constraints.fallback)

theorem Field.raw?_input (f : Field) (form : Form) :
    f.input.raw? form = f.textIn? form := by
  have hfallback : f.input.hasFallback = !(f.constraints.fallback == "") := rfl
  by_cases h : f.constraints.fallback = ""
  · rw [InputField.raw?_of_no_fallback (by rw [hfallback, h]; rfl), textIn?,
      if_pos h, Option.or_none]
    rfl
  · rw [InputField.raw?_of_fallback (by simp [hfallback, h]), textIn?, if_neg h]
    show some ((form.filled? f.externalKey).getD f.constraints.fallback) = _
    cases form.filled? f.externalKey <;> rfl

/-- **A text that denotes an integer of 64 bits**: it is the integer in decimal,
and the integer is in range. -/
def Denotes (t : String) (n : Int) : Prop :=
  IsDecimal t.toList n ∧ int64Min ≤ n ∧ n ≤ int64Max

theorem int64?_eq_none_iff {t : String} :
    int64? t.toList = none ↔ ∀ n, ¬Denotes t n := by
  rw [Option.eq_none_iff_forall_ne_some]
  exact forall_congr' (fun n => not_congr int64?_eq_some_iff)

/-- **A text that a field cannot use**: the field asks for an integer, and the
form has another text for it. -/
def Field.Misreads (f : Field) (form : Form) (t : String) : Prop :=
  f.kind ≠ .string ∧ f.textIn? form = some t ∧ ∀ n, ¬Denotes t n

/-- A text for integers is decoded to what it denotes. -/
theorem InputField.decode_of_ne_string {i : InputField} (h : i.kind ≠ .string)
    (t : String) : i.decode t = match int64? t.toList with
      | some n => .ok (.int n)
      | none => .error ⟨i.key, t⟩ := by
  unfold decode
  cases hk : i.kind with
  | string => exact absurd hk h
  | int => rfl
  | uint64 => rfl

/-- **Decoding a field fails exactly at a text that it cannot use**, and the
failure names both. -/
theorem Field.read_eq_error_iff {f : Field} {form : Form} {e : InputError} :
    f.input.read form = .error e
      ↔ ∃ t, f.Misreads form t ∧ e = ⟨f.externalKey, t⟩ := by
  by_cases hkind : f.kind = .string
  · rw [InputField.read_of_string hkind]
    refine iff_of_false (by rintro ⟨⟩) ?_
    rintro ⟨_, h, _⟩
    exact h.1 hkind
  · rw [InputField.read, raw?_input]
    cases htext : f.textIn? form with
    | none =>
      refine iff_of_false (by rintro ⟨⟩) ?_
      rintro ⟨t, h, _⟩
      exact Option.some_ne_none t (h.2.1.symm.trans htext)
    | some t =>
      dsimp only
      rw [InputField.decode_of_ne_string hkind]
      cases hread : int64? t.toList with
      | some n =>
        refine iff_of_false (by rintro ⟨⟩) ?_
        rintro ⟨u, h, _⟩
        obtain rfl : t = u := Option.some.inj (htext.symm.trans h.2.1)
        exact h.2.2 n (int64?_eq_some_iff.mp hread)
      | none =>
        have hmisreads : f.Misreads form t :=
          ⟨hkind, htext, int64?_eq_none_iff.mp hread⟩
        constructor
        · intro h
          exact ⟨t, hmisreads, (Except.error.inj h).symm⟩
        · rintro ⟨u, h, rfl⟩
          rw [Option.some.inj (htext.symm.trans h.2.1)]
          rfl

/-! ## Decoding all fields -/

/-- Adding a field fails where decoding it does. -/
theorem InputMap.add_eq_error_iff {form : Form} {inputs : InputMap}
    {i : InputField} {e : InputError} :
    inputs.add form i = .error e ↔ i.read form = .error e := by
  rw [InputMap.add]
  cases i.read form with
  | error e' =>
    exact ⟨fun h => congrArg _ (Except.error.inj h),
      fun h => congrArg _ (Except.error.inj h)⟩
  | ok input =>
    cases input with
    | none => exact iff_of_false (by rintro ⟨⟩) (by rintro ⟨⟩)
    | some v => exact iff_of_false (by rintro ⟨⟩) (by rintro ⟨⟩)

section OfForm

variable {fields : List Field} {form : Form}

theorem Field.exists_read_iff {f : Field} :
    (∃ input, f.input.read form = .ok input) ↔ ∀ t, ¬f.Misreads form t := by
  constructor
  · rintro ⟨input, hread⟩ t ht
    rw [read_eq_error_iff.mpr ⟨t, ht, rfl⟩] at hread
    exact nomatch hread
  · intro h
    cases hread : f.input.read form with
    | ok input => exact ⟨input, rfl⟩
    | error e =>
      obtain ⟨t, ht, _⟩ := read_eq_error_iff.mp hread
      exact absurd ht (h t)

/-- **Decoding fails at the first field whose text cannot be used**, and names
its form key and the text. -/
theorem InputMap.ofForm_eq_error_iff {e : InputError} :
    InputMap.ofForm (fields.map Field.input) form = .error e
      ↔ ∃ before f after t, fields = before ++ f :: after
          ∧ (∀ g ∈ before, ∀ u, ¬g.Misreads form u)
          ∧ f.Misreads form t ∧ e = ⟨f.externalKey, t⟩ := by
  rw [ofForm, foldlM_eq_error_iff]
  constructor
  · rintro ⟨bs, i, as, mid, hsplit, hbefore, hi⟩
    obtain ⟨before, rest, rfl, rfl, hrest⟩ := List.map_eq_append_iff.mp hsplit
    obtain ⟨f, after, rfl, rfl, rfl⟩ := List.map_eq_cons_iff.mp hrest
    obtain ⟨t, ht, rfl⟩ := Field.read_eq_error_iff.mp (add_eq_error_iff.mp hi)
    refine ⟨before, f, after, t, rfl, fun g hg => ?_, ht, rfl⟩
    obtain ⟨_, _, hadd⟩ := exists_step_of_foldlM hbefore (List.mem_map_of_mem hg)
    obtain ⟨input, hread, _⟩ := add_eq_ok.mp hadd
    exact Field.exists_read_iff.mp ⟨input, hread⟩
  · rintro ⟨before, f, after, t, rfl, hbefore, ht, rfl⟩
    obtain ⟨mid, hmid⟩ : ∃ mid,
        (before.map Field.input).foldlM (InputMap.add form) .empty = .ok mid := by
      refine exists_foldlM_add (fun i hi => ?_) .empty
      obtain ⟨g, hg, rfl⟩ := List.mem_map.mp hi
      exact Field.exists_read_iff.mpr (hbefore g hg)
    refine ⟨before.map Field.input, f.input, after.map Field.input, mid, ?_, hmid, ?_⟩
    · rw [List.map_append, List.map_cons]
    · exact add_eq_error_iff.mpr (Field.read_eq_error_iff.mpr ⟨t, ht, rfl⟩)

end OfForm

/-! ## Taking values out -/

/-- The text of an input, empty where there is none. -/
def textOf : Option InputValue → String
  | some (.string s) => s
  | _ => ""

/-- The integer of an input, zero where there is none. -/
def integerOf : Option InputValue → Int
  | some (.int n) => n
  | _ => 0

/-- **The value a field is given for an input**, or for none. -/
def Kind.valueOf (kind : Kind) (input : Option InputValue) : FieldValue :=
  match kind with
  | .string => .string (textOf input)
  | .int => .int (integerOf input)
  | .uint64 => .uint64 (integerOf input % 18446744073709551616).toNat

/-- Taking a text out gives that of its input. -/
theorem InputMap.takeString_eq (inputs : InputMap) (key : String) :
    inputs.takeString key = (textOf (inputs.get? key), inputs.erase key) := by
  rw [takeString]
  rcases inputs.get? key with _ | _ | _ <;> rfl

/-- Taking an integer out gives that of its input. -/
theorem InputMap.takeInt_eq (inputs : InputMap) (key : String) :
    inputs.takeInt key = (integerOf (inputs.get? key), inputs.erase key) := by
  rw [takeInt]
  rcases inputs.get? key with _ | _ | _ <;> rfl

/-- Taking a field out gives the value of its input, and erases its key. -/
theorem Field.take_eq (f : Field) (inputs : InputMap) :
    f.take inputs
      = (f.kind.valueOf (inputs.get? f.externalKey),
        inputs.erase f.externalKey) := by
  unfold take Kind.valueOf
  cases f.kind with
  | string => rw [InputMap.takeString_eq]; rfl
  | int => rw [InputMap.takeInt_eq]; rfl
  | uint64 => simp only [InputMap.takeUint64, InputMap.takeInt_eq, Prod.map, id]

/-- **Taking fields out one after the other** takes each of them as it was at
first, since no two share a form key. -/
theorem takeFields_eq {fields : List Field}
    (h : (fields.map Field.externalKey).Nodup) (inputs : InputMap) :
    takeFields fields inputs
      = fields.map fun f =>
          (f.name, f.kind.valueOf (inputs.get? f.externalKey)) := by
  induction fields generalizing inputs with
  | nil => rfl
  | cons f rest ih =>
    rw [List.map_cons, List.nodup_cons] at h
    rw [takeFields, Field.take_eq]
    dsimp only
    rw [ih h.2, List.map_cons]
    refine congrArg _ (List.map_congr_left (fun g hg => ?_))
    have hne : g.externalKey ≠ f.externalKey :=
      fun e => h.1 (e ▸ List.mem_map_of_mem hg)
    rw [OrderedMap.get?_erase_of_ne hne]

/-- **What a field of a kind is given for a text**, or for none: the text
itself, the integer it denotes, or this integer modulo `2^64`; and zero where
there is no text. -/
inductive Kind.Gives : Kind → Option String → FieldValue → Prop where
  /-- A text as it stands. -/
  | string (t : String) : Gives .string (some t) (.string t)
  /-- No text. -/
  | noString : Gives .string none (.string "")
  /-- The integer that a text denotes. -/
  | int {t : String} {n : Int} (h : Denotes t n) : Gives .int (some t) (.int n)
  /-- No integer. -/
  | noInt : Gives .int none (.int 0)
  /-- The integer that a text denotes, read without a sign. -/
  | uint64 {t : String} {n : Int} {m : Nat} (h : Denotes t n)
      (hm : (m : Int) = n % 2 ^ 64) : Gives .uint64 (some t) (.uint64 m)
  /-- No integer to read without a sign. -/
  | noUint64 : Gives .uint64 none (.uint64 0)

/-- An input of a field that asks for an integer is what its text denotes. -/
theorem Field.denotes_of_read {f : Field} (hkind : f.kind ≠ .string) {form : Form}
    {v : InputValue} (h : f.input.read form = .ok (some v)) :
    ∃ t n, f.textIn? form = some t ∧ Denotes t n ∧ v = .int n := by
  rw [InputField.read, raw?_input] at h
  cases htext : f.textIn? form with
  | none =>
    rw [htext] at h
    cases h
  | some t =>
    rw [htext] at h
    dsimp only at h
    rw [InputField.decode_of_ne_string hkind] at h
    cases hread : int64? t.toList with
    | none =>
      rw [hread] at h
      cases h
    | some n =>
      rw [hread] at h
      exact ⟨t, n, rfl, int64?_eq_some_iff.mp hread,
        (Option.some.inj (Except.ok.inj h)).symm⟩

/-- **A decoded field is given the value of its text.** -/
theorem Field.gives_of_read {f : Field} {form : Form} {input : Option InputValue}
    (h : f.input.read form = .ok input) :
    f.kind.Gives (f.textIn? form) (f.kind.valueOf input) := by
  by_cases hkind : f.kind = .string
  · rw [InputField.read_of_string hkind, raw?_input] at h
    rw [← Except.ok.inj h, hkind]
    cases f.textIn? form with
    | none => exact .noString
    | some t => exact .string t
  · cases input with
    | none =>
      have htext : f.textIn? form = none := by
        rw [InputField.read, raw?_input] at h
        cases htext : f.textIn? form with
        | none => rfl
        | some t =>
          rw [htext] at h
          obtain ⟨_, _, he⟩ := map_eq_ok.mp h
          cases he
      rw [htext]
      cases hk : f.kind with
      | string => exact absurd hk hkind
      | int => exact .noInt
      | uint64 =>
        have hzero : Kind.uint64.valueOf none = .uint64 0 := by
          simp [Kind.valueOf, integerOf]
        rw [hzero]
        exact .noUint64
    | some v =>
      obtain ⟨t, n, htext, hdenotes, rfl⟩ := denotes_of_read hkind h
      rw [htext]
      cases hk : f.kind with
      | string => exact absurd hk hkind
      | int => exact .int hdenotes
      | uint64 =>
        refine .uint64 hdenotes ?_
        have hnonneg : 0 ≤ n % 18446744073709551616 :=
          Int.emod_nonneg n (by simp)
        simp only [integerOf, Int.toNat_of_nonneg hnonneg, Int.reducePow]

/-! ## From the form to the record -/

/-- Of all faults only the one of an input without a template entry is worded
so. -/
theorem InputFault.message_eq_unlisted_iff {fault : InputFault} :
    fault.message = InputFault.unlisted.message ↔ fault = .unlisted := by
  refine ⟨fun h => ?_, fun h => congrArg _ h⟩
  cases fault with
  | unlisted => rfl
  | missing => exact absurd h (by simp [message])
  | zero => exact absurd h (by simp [message])
  | rejected value clause =>
    -- a letter that is there twice between value and clause is there once in
    -- the other wording
    have hcount := congrArg (fun s => s.toList.count 'd') h
    simp only [message, String.toList_append, List.count_append] at hcount
    have htwice : " does not validate as ".toList.count 'd' = 2 := by decide
    have honce : "all map keys has to be present in the validation map".toList.count 'd'
        = 1 := by decide
    omega

/-- **Every input has a template entry** when inputs and template are of the
same fields. -/
theorem fault_ne_unlisted_of_ofForm {fields : List Field} {form : Form}
    {inputs : InputMap} (h : (fields.map Field.externalKey).Nodup)
    (hinputs : InputMap.ofForm (fields.map Field.input) form = .ok inputs)
    {e : FieldError} (he : e ∈ validate inputs (templateOf fields).entries) :
    e.fault ≠ .unlisted := by
  have hlisted : unlistedErrors inputs (templateOf fields).entries = [] := by
    refine unlistedErrors_eq_nil_iff.mpr (fun key hkey => ?_)
    rw [entries_templateOf h, List.map_map]
    rw [← map_key_input] at h
    have hmem := InputMap.mem_keys_ofForm h hinputs hkey
    rw [map_key_input] at hmem
    exact hmem
  rw [validate, hlisted, List.append_nil] at he
  exact fault_ne_unlisted_of_mem he

/-- **No value is lost or mixed up between a form and a record.** Decoding
fails exactly when some field that asks for an integer has another text, and
names the first one of them with its text. No input is without its template
entry, and every field is given the value of its own text. -/
theorem values_of_form {record : Record}
    (hkeys : (record.fields.map Field.externalKey).Nodup) (form : Form) :
    let decoded := InputMap.ofForm (record.fields.map Field.input) form
    ((∃ e, decoded = .error e) ↔ ∃ f ∈ record.fields, ∃ t, f.Misreads form t)
    ∧ (∀ e, decoded = .error e →
        ∃ before f after t, record.fields = before ++ f :: after
          ∧ (∀ g ∈ before, ∀ u, ¬g.Misreads form u)
          ∧ f.Misreads form t ∧ e = ⟨f.externalKey, t⟩)
    ∧ ∀ inputs, decoded = .ok inputs →
        (∀ e ∈ validate inputs record.template.entries, e.fault.message
          ≠ "all map keys has to be present in the validation map")
        ∧ List.Forall₂
            (fun f v => v.1 = f.name ∧ f.kind.Gives (f.textIn? form) v.2)
            record.fields (takeFields record.fields inputs) := by
  intro decoded
  have hinputKeys : ((record.fields.map Field.input).map InputField.key).Nodup := by
    rw [map_key_input]
    exact hkeys
  refine ⟨?_, fun e he => InputMap.ofForm_eq_error_iff.mp he,
    fun inputs hinputs => ⟨?_, ?_⟩⟩
  · constructor
    · rintro ⟨e, he⟩
      obtain ⟨before, f, after, t, hfields, _, ht, _⟩ :=
        InputMap.ofForm_eq_error_iff.mp he
      exact ⟨f, by rw [hfields]; simp, t, ht⟩
    · rintro ⟨f, hf, t, ht⟩
      cases hdecoded : decoded with
      | error e => exact ⟨e, rfl⟩
      | ok inputs =>
        have hread := InputMap.read_of_ofForm hinputKeys hdecoded f.input
          (List.mem_map_of_mem hf)
        exact absurd ht (Field.exists_read_iff.mp ⟨_, hread⟩ t)
  · intro e he hmessage
    exact fault_ne_unlisted_of_ofForm hkeys hinputs he
      (InputFault.message_eq_unlisted_iff.mp hmessage)
  · rw [takeFields_eq hkeys, List.forall₂_map_right_iff, List.forall₂_same]
    intro f hf
    exact ⟨rfl, Field.gives_of_read
      (InputMap.read_of_ofForm hinputKeys hinputs f.input (List.mem_map_of_mem hf))⟩

/-- A fallback is taken for an empty value, and a negative number wraps around
where no sign is kept. -/
theorem values_of_form_with_fallback_and_sign :
    let fields : List Field :=
      [⟨"Title", .string, "", { Constraints.none with fallback := "none" }⟩,
        ⟨"Count", .int, "", .none⟩,
        ⟨"Owner", .uint64, "", { Constraints.none with key := "owner_id" }⟩]
    let record : Record := ⟨"Note", fields, false, ⟨"", 0, 0⟩⟩
    let form := Form.ofList [("count", "+7"), ("owner_id", "-1"), ("title", "")]
    (fields.map Field.externalKey).Nodup
    ∧ ∃ inputs, InputMap.ofForm (fields.map Field.input) form = .ok inputs
      ∧ List.Forall₂
          (fun f v => v.1 = f.name ∧ f.kind.Gives (f.textIn? form) v.2)
          record.fields (takeFields fields inputs)
      ∧ takeFields fields inputs = [("Title", .string "none"), ("Count", .int 7),
          ("Owner", .uint64 18446744073709551615)] := by
  intro fields record form
  have hkeys : (record.fields.map Field.externalKey).Nodup := by decide +kernel
  obtain ⟨inputs, hinputs, htaken⟩ := map_eq_ok.mp (show
    (InputMap.ofForm (record.fields.map Field.input) form).map (takeFields fields)
      = .ok [("Title", .string "none"), ("Count", .int 7),
          ("Owner", .uint64 18446744073709551615)] by decide +kernel)
  exact ⟨hkeys, inputs, hinputs,
    ((values_of_form hkeys form).2.2 inputs hinputs).2, htaken⟩

end Switchboard
