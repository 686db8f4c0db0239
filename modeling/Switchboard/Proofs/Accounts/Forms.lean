import Switchboard.Accounts
import Switchboard.Proofs.Intake

/-!
# What a form says of an account

A form that reaches the route that creates describes an account: its login and
full name as they stand, its status and age with the values taken where they
are missing or empty (`Describes`). Whatever it says, the account is sound
(`User.IsSound`): a rule lets zero values pass, but an empty login is refused
where one is required, an empty status is not taken, and an age of zero is
within its bounds anyway.

A form that has a login reaches the route that looks accounts up, with that
login (`exists_profile_inputs`).
-/

namespace Switchboard.Accounts

/-- **A sound account**: the login is long enough, the age within its bounds,
and the status one of three. -/
structure User.IsSound (u : User) : Prop where
  /-- The login has at least ten characters. -/
  login : 10 ≤ u.login.length
  /-- The age is not negative. -/
  age_nonneg : 0 ≤ u.age
  /-- The age is at most 128. -/
  age_le : u.age ≤ 128
  /-- The status is one of three. -/
  status : u.status ∈ ["user", "moderator", "admin"]

/-- **What a form says of an account.** -/
structure Describes (form : Form) (u : User) : Prop where
  /-- The login is the first there is. -/
  login : form.get? "login" = some u.login
  /-- The full name is the first there is, or empty. -/
  fullName : u.fullName = (form.get? "full_name").getD ""
  /-- The status is the first there is, or `user` when it is missing or
  empty. -/
  status : u.status = (form.filled? "status").getD "user"
  /-- The age is what its text denotes, or zero when it is missing or empty. -/
  age : match form.filled? "age" with
    | none => u.age = 0
    | some t => Text.int64? t.toList = some u.age

theorem fieldsReadable_createFields : FieldsReadable createFields := by decide

theorem fieldsReadable_profileFields : FieldsReadable profileFields := by decide

/-! ## Taking values out -/

theorem takeString_of_get? {inputs : InputMap} {key t : String}
    (h : inputs.get? key = some (.string t)) : (inputs.takeString key).1 = t := by
  rw [InputMap.takeString, h]

theorem takeString_erase_of_ne {key other : String} (h : other ≠ key)
    (inputs : InputMap) :
    (InputMap.takeString (inputs.erase key) other).1
      = (inputs.takeString other).1 := by
  rw [InputMap.takeString, InputMap.takeString, OrderedMap.get?_erase_of_ne h]

theorem takeInt_erase_of_ne {key other : String} (h : other ≠ key)
    (inputs : InputMap) :
    (InputMap.takeInt (inputs.erase key) other).1 = (inputs.takeInt other).1 := by
  rw [InputMap.takeInt, InputMap.takeInt, OrderedMap.get?_erase_of_ne h]

/-- **Taking the values of an account out one after the other** takes each of
them as it was at first. -/
theorem newUser_eq (id : UInt64) (inputs : InputMap) :
    newUser id inputs
      = ⟨id, (inputs.takeString "login").1, (inputs.takeString "full_name").1,
        (inputs.takeString "status").1, (inputs.takeInt "age").1⟩ := by
  have hname : (InputMap.takeString (inputs.erase "login") "full_name").1
      = (inputs.takeString "full_name").1 :=
    takeString_erase_of_ne (by decide) inputs
  have hstatus : (InputMap.takeString
      ((inputs.erase "login").erase "full_name") "status").1
        = (inputs.takeString "status").1 := by
    rw [takeString_erase_of_ne (by decide), takeString_erase_of_ne (by decide)]
  have hage : (InputMap.takeInt
      (((inputs.erase "login").erase "full_name").erase "status") "age").1
        = (inputs.takeInt "age").1 := by
    rw [takeInt_erase_of_ne (by decide), takeInt_erase_of_ne (by decide),
      takeInt_erase_of_ne (by decide)]
  rw [← hname, ← hstatus, ← hage]
  rfl

/-! ## Accounts that forms describe -/

section Create

variable {form : Form} {inputs : InputMap}

/-- The login is there and long enough. -/
theorem login_of_createInputs (h : inputsOfForm createFields form = .ok inputs) :
    ∃ login, form.get? "login" = some login
      ∧ inputs.get? "login" = some (.string login) ∧ 10 ≤ login.length := by
  obtain ⟨hread, hadmits⟩ := read_of_inputsOfForm fieldsReadable_createFields h _
    List.mem_cons_self
  obtain ⟨login, hform, hinput, hmeets⟩ :=
    text_of_required rfl rfl rfl rfl hread hadmits
  have hmin : (10 : Int) ≤ login.length := hmeets.min 10 rfl
  exact ⟨login, (Form.filled?_eq_some_iff.mp hform).1, hinput, by omega⟩

/-- The full name is the one of the form, or empty. -/
theorem fullName_of_createInputs
    (h : inputsOfForm createFields form = .ok inputs) :
    (inputs.takeString "full_name").1 = (form.get? "full_name").getD "" := by
  obtain ⟨hread, -⟩ := read_of_inputsOfForm fieldsReadable_createFields h _
    (List.mem_cons_of_mem _ List.mem_cons_self)
  rw [InputField.read_of_string rfl, InputField.raw?_of_no_fallback rfl] at hread
  have hinput : inputs.get? "full_name"
      = (form.filled? "full_name").map .string := (Except.ok.inj hread).symm
  rw [InputMap.takeString, hinput, Form.filled?]
  cases form.get? "full_name" with
  | none => rfl
  | some t =>
    by_cases ht : t = ""
    · rw [ht]; rfl
    · rw [Option.filter_some, if_pos (by simpa using ht)]; rfl

/-- The status is the one of the form, or the usual one, and one of three. -/
theorem status_of_createInputs
    (h : inputsOfForm createFields form = .ok inputs) :
    (inputs.takeString "status").1 = (form.filled? "status").getD "user"
      ∧ (inputs.takeString "status").1 ∈ ["user", "moderator", "admin"] := by
  obtain ⟨hread, hadmits⟩ := read_of_inputsOfForm fieldsReadable_createFields h _
    (List.mem_cons_of_mem _ (List.mem_cons_of_mem _ List.mem_cons_self))
  rw [InputField.read_of_string rfl, InputField.raw?_of_fallback rfl] at hread
  have hinput : inputs.get? "status"
      = some (.string ((form.filled? "status").getD "user")) :=
    (Except.ok.inj hread).symm
  have hne : (form.filled? "status").getD "user" ≠ "" := by
    cases hstatus : form.filled? "status" with
    | none => decide
    | some t => exact (Form.filled?_eq_some_iff.mp hstatus).2
  have htake : (inputs.takeString "status").1
      = (form.filled? "status").getD "user" := takeString_of_get? hinput
  refine ⟨htake, ?_⟩
  rw [htake]
  rcases hadmits with hdeclared | ⟨_, hzero⟩ | ⟨v, hv, _, hmeets⟩
  · exact nomatch hdeclared
  · -- the status is never empty, so the rule cannot be passed over
    have hz := hzero _ hinput
    exact absurd (by simpa [InputValue.isZero] using hz) hne
  · rw [show v = _ from Option.some.inj (hv.symm.trans hinput)] at hmeets
    exact hmeets.choice (by decide)

/-- The age is what its text denotes, or zero, and within its bounds. -/
theorem age_of_createInputs (h : inputsOfForm createFields form = .ok inputs) :
    (match form.filled? "age" with
      | none => (inputs.takeInt "age").1 = 0
      | some t => Text.int64? t.toList = some (inputs.takeInt "age").1)
      ∧ 0 ≤ (inputs.takeInt "age").1 ∧ (inputs.takeInt "age").1 ≤ 128 := by
  obtain ⟨hread, hadmits⟩ := read_of_inputsOfForm fieldsReadable_createFields h _
    (List.mem_cons_of_mem _ (List.mem_cons_of_mem _
      (List.mem_cons_of_mem _ List.mem_cons_self)))
  rcases InputField.read_of_int rfl hread with ⟨hraw, hinput⟩
    | ⟨raw, n, hraw, hn, hinput⟩
  · have htake : (inputs.takeInt "age").1 = 0 := by
      rw [InputMap.takeInt, show inputs.get? "age" = none from hinput]
    rw [InputField.raw?_of_no_fallback rfl] at hraw
    rw [show form.filled? "age" = none from hraw, htake]
    exact ⟨rfl, by decide, by decide⟩
  · have htake : (inputs.takeInt "age").1 = n := by
      rw [InputMap.takeInt, show inputs.get? "age" = some (.int n) from hinput]
    rw [InputField.raw?_of_no_fallback rfl] at hraw
    rw [show form.filled? "age" = some raw from hraw, htake]
    refine ⟨hn, ?_⟩
    rcases hadmits with hdeclared | ⟨_, hzero⟩ | ⟨v, hv, _, hmeets⟩
    · exact nomatch hdeclared
    · -- zero passes its rule unchecked, and is within the bounds
      have hz : n = 0 := by simpa [InputValue.isZero] using hzero _ hinput
      omega
    · rw [show v = _ from Option.some.inj (hv.symm.trans hinput)] at hmeets
      exact ⟨hmeets.min 0 rfl, hmeets.max 128 rfl⟩

/-- **A form that reaches the route describes the account it creates.** -/
theorem describes_newUser (h : inputsOfForm createFields form = .ok inputs)
    (id : UInt64) : Describes form (newUser id inputs) := by
  obtain ⟨login, hform, hinput, _⟩ := login_of_createInputs h
  have hlogin : (inputs.takeString "login").1 = login :=
    takeString_of_get? hinput
  rw [newUser_eq]
  exact ⟨by rw [hlogin]; exact hform, fullName_of_createInputs h,
    (status_of_createInputs h).1, (age_of_createInputs h).1⟩

/-- **The account it creates is sound.** -/
theorem isSound_newUser (h : inputsOfForm createFields form = .ok inputs)
    (id : UInt64) : (newUser id inputs).IsSound := by
  obtain ⟨login, _, hinput, hlength⟩ := login_of_createInputs h
  have hlogin : (inputs.takeString "login").1 = login :=
    takeString_of_get? hinput
  obtain ⟨_, hnonneg, hle⟩ := age_of_createInputs h
  rw [newUser_eq]
  exact ⟨by rw [hlogin]; exact hlength, hnonneg, hle,
    (status_of_createInputs h).2⟩

end Create

/-! ## Forms that look an account up -/

/-- **A form with a login reaches the look-up**, with that login. -/
theorem exists_profile_inputs {form : Form} {login : String}
    (h : form.get? "login" = some login) (hne : login ≠ "") :
    ∃ inputs, inputsOfForm profileFields form = .ok inputs
      ∧ inputs.get? "login" = some (.string login) := by
  have hfilled : form.filled? "login" = some login :=
    Form.filled?_eq_some_iff.mpr ⟨h, hne⟩
  have hread : ∀ f ∈ profileFields,
      f.input.read form = .ok (some (.string login)) := by
    intro f hf
    rw [List.mem_singleton.mp hf, InputField.read_of_string rfl,
      InputField.raw?_of_no_fallback rfl]
    show Except.ok ((form.filled? "login").map _) = _
    rw [hfilled]
    rfl
  have hadmits : ∀ f ∈ profileFields,
      f.constraints.Admits (some (.string login)) := by
    intro f hf
    rw [List.mem_singleton.mp hf]
    refine .inr (.inr ⟨.string login, rfl, by simpa [InputValue.isZero] using hne, ?_⟩)
    exact ⟨fun hchoices => absurd rfl hchoices, fun _ hn => (nomatch hn),
      fun _ hn => (nomatch hn)⟩
  obtain ⟨inputs, hinputs⟩ := exists_inputsOfForm fieldsReadable_profileFields
    (fun f hf => ⟨_, hread f hf, hadmits f hf⟩)
  obtain ⟨hdecoded, -⟩ := read_of_inputsOfForm fieldsReadable_profileFields
    hinputs _ List.mem_cons_self
  exact ⟨inputs, hinputs, Except.ok.inj
    (hdecoded.symm.trans (hread _ List.mem_cons_self))⟩

end Switchboard.Accounts
