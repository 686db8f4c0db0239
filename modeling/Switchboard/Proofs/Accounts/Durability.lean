import Switchboard.Proofs.Accounts.Forms
import Switchboard.Proofs.Accounts.Steps

/-!
# Accounts stay as they were created

No request drops an account or changes one: the only change there is adds an
account under a login that is not taken, so what the store has for a login it
has for good (`get?_run`). A look-up finds the account there
(`step_profile_of_stored`) and a creation finds the login taken
(`step_create_of_stored`), however long ago it was created and whatever happened
since. The two logins with which a look-up goes another way are too short to
have been created.
-/

namespace Switchboard.Accounts

open Text

variable {s : Store} {r : Http.Request} {login : String} {u : User}

/-! ## What is stored stays -/

/-- A request leaves what is stored for a login as it is. -/
theorem get?_step (hstored : s.users.get? login = some u)
    (q : Service × Http.Request) :
    (step s q.1 q.2).1.users.get? login = some u := by
  rcases step_cases s q with ⟨_, v, hcreates, hstep⟩ | ⟨hstate, _⟩
  · -- the login of the new account is not taken, so it is another one
    have hne : login ≠ v.login := by
      rintro rfl
      exact hcreates.fresh (OrderedMap.mem_keys_of_get? hstored)
    rw [hstep]
    show (s.users.insert v.login v).get? login = some u
    rw [OrderedMap.get?_insert_of_ne hne, hstored]
  · rw [hstate]
    exact hstored

/-- **What is stored for a login stays as it is along every run.** -/
theorem get?_run (hstored : s.users.get? login = some u)
    (qs : List (Service × Http.Request)) :
    (run s qs).1.users.get? login = some u :=
  run_keeps (P := fun s => s.users.get? login = some u)
    (fun _ q h => get?_step h q) hstored qs

/-- A created account is stored. -/
theorem get?_add (s : Store) (u : User) :
    (s.add u).users.get? u.login = some u :=
  OrderedMap.get?_insert_self s.users u.login u

/-! ## What is answered about it -/

/-- A login long enough to be created is none of the special ones. -/
theorem not_special_of_length (h : 10 ≤ login.length) :
    login ≠ "" ∧ login ≠ "bad_user" ∧ login ≠ "panic" := by
  refine ⟨?_, ?_, ?_⟩
  all_goals
    rintro rfl
    exact absurd h (by decide)

/-- **A look-up answers with the account that is stored.** -/
theorem step_profile_of_stored (hstored : s.users.get? login = some u)
    (hlength : 10 ≤ login.length) (hpath : r.uri.path = "/user/profile")
    {form : Form} (hform : Form.ofRequest r = .ok form)
    (hlogin : form.get? "login" = some login) :
    step s .accounts r = (s, .success u.json) := by
  obtain ⟨hne, hbad, hpanic⟩ := not_special_of_length hlength
  obtain ⟨inputs, hinputs, hget⟩ := exists_profile_inputs hlogin hne
  have htake : (inputs.takeString "login").1 = login :=
    takeString_of_get? hget
  have hprofile : profile s r inputs = .value s u.json := by
    unfold profile
    dsimp only
    rw [htake, if_neg hbad, if_neg hpanic, hstored]
  show serve routes s r = _
  rw [serve_profile hpath, inputsOfRequest_eq_ok.mpr ⟨form, hform, hinputs⟩]
  dsimp only
  rw [hprofile, Result.settle]

/-- **A creation is refused where the login is stored.** -/
theorem step_create_of_stored (hstored : s.users.get? login = some u)
    (hpath : r.uri.path = "/user/create") (hverb : r.verb = "POST")
    (htoken : r.header? "X-Auth" = some (utf8 "100500")) {inputs : InputMap}
    (hinputs : inputsOfRequest createFields r = .ok inputs)
    (hlogin : (newUser s.nextId inputs).login = login) :
    step s .accounts r
      = (s, .failure 409 ("user " ++ login ++ " exist")) := by
  have hkey : login ∈ s.users.keys := OrderedMap.mem_keys_of_get? hstored
  show serve routes s r = _
  rw [serve_create_of_token hpath hverb htoken, hinputs]
  dsimp only
  rw [hlogin, OrderedMap.contains_iff.mpr hkey, if_pos rfl, User.takenReply,
    hlogin]

/-! ## Creation and what comes after it -/

/-- **A created account stays as it was created.** A creation that is answered
200, in any store, stores the account its form describes under the next number.
From then on, whatever requests the two services get, looking its login up
answers 200 with just this account, and creating one with this login answers
409; neither changes the store. The login is none of the special ones. -/
theorem profile_after_create (s : Store) {r : Http.Request}
    (hpath : r.uri.path = "/user/create")
    (hstatus : (step s .accounts r).2.status = 200)
    (after : List (Service × Http.Request)) :
    let t := (run (step s .accounts r).1 after).1
    ∃ form u, Form.ofRequest r = .ok form ∧ Describes form u
      ∧ u.id = s.nextId
      ∧ (step s .accounts r).2 = .success (.object [("id", .int u.id.toNat)])
      ∧ (∀ q form', q.uri.path = "/user/profile" →
          Form.ofRequest q = .ok form' → form'.get? "login" = some u.login →
            step t .accounts q
              = (t, .success (.object [("id", .int u.id.toNat),
                  ("login", .string u.login), ("full_name", .string u.fullName),
                  ("status", .string u.status), ("age", .int u.age)])))
      ∧ (∀ q form' inputs, q.uri.path = "/user/create" → q.verb = "POST" →
          q.header? "X-Auth" = some (utf8 "100500") →
          Form.ofRequest q = .ok form' → form'.get? "login" = some u.login →
          inputsOfForm createFields form' = .ok inputs →
            step t .accounts q
              = (t, .failure 409 ("user " ++ u.login ++ " exist")))
      ∧ u.login ≠ "bad_user" ∧ u.login ≠ "panic" := by
  intro t
  obtain ⟨u, hcreates, hstep⟩ := creates_of_status hpath hstatus
  have hstored : t.users.get? u.login = some u := by
    show (run (step s .accounts r).1 after).1.users.get? u.login = some u
    rw [hstep]
    exact get?_run (get?_add s u) after
  obtain ⟨inputs, hinputs, hu⟩ := hcreates.account
  obtain ⟨form, hform, hintake⟩ := inputsOfRequest_eq_ok.mp hinputs
  have hdescribes : Describes form u := hu ▸ describes_newUser hintake s.nextId
  have hlength : 10 ≤ u.login.length := by
    rw [hu]
    exact (isSound_newUser hintake s.nextId).login
  obtain ⟨_, hbad, hpanic⟩ := not_special_of_length hlength
  refine ⟨form, u, hform, hdescribes, ?_, ?_, ?_, ?_, hbad, hpanic⟩
  · rw [hu]
    rfl
  · rw [hstep, User.createdReply]
  · intro q form' hpath hform' hlogin
    exact step_profile_of_stored hstored hlength hpath hform' hlogin
  · intro q form' inputs' hpath hverb htoken hform' hlogin hinputs'
    have hsame : (newUser t.nextId inputs').login = u.login :=
      Option.some.inj ((describes_newUser hinputs' t.nextId).login.symm.trans hlogin)
    exact step_create_of_stored hstored hpath hverb htoken
      (inputsOfRequest_eq_ok.mpr ⟨form', hform', hinputs'⟩) hsame

/-- An account created from a login alone gets the usual values, and keeps them
when another request tries to create it with an age. -/
theorem profile_after_create_with_usual_values :
    let r : Http.Request := ⟨"POST", ⟨"/user/create", some "login=long_enough"⟩,
      [⟨"x-auth", utf8 "100500"⟩], []⟩
    let other : Http.Request :=
      ⟨"POST", ⟨"/user/create", some "login=long_enough&age=30"⟩,
        [⟨"x-auth", utf8 "100500"⟩], []⟩
    let q : Http.Request :=
      ⟨"GET", ⟨"/user/profile", some "login=long_enough"⟩, [], []⟩
    let t := (run (step .initial .accounts r).1 [(.accounts, other)]).1
    (step .initial .accounts r).2.status = 200
    ∧ step t .accounts q
      = (t, .success (.object [("id", .int 43), ("login", .string "long_enough"),
          ("full_name", .string ""), ("status", .string "user"),
          ("age", .int 0)])) := by
  intro r other q t
  have hstatus : (step .initial .accounts r).2.status = 200 := by decide +kernel
  have hr : Form.ofRequest r = .ok (.ofList [("login", "long_enough")]) := by
    rw [Form.ofRequest_of_not_inBody (by decide +kernel),
      show Form.queryPairs r = [("login", "long_enough")] by decide +kernel]
  have hq : Form.ofRequest q = .ok (.ofList [("login", "long_enough")]) := by
    rw [Form.ofRequest_of_not_inBody (by decide +kernel),
      show Form.queryPairs q = [("login", "long_enough")] by decide +kernel]
  obtain ⟨form, u, hform, hdescribes, hid, -, hprofile, -⟩ :=
    profile_after_create .initial rfl hstatus [(.accounts, other)]
  obtain rfl : Form.ofList [("login", "long_enough")] = form :=
    Except.ok.inj (hr.symm.trans hform)
  have hlogin : u.login = "long_enough" :=
    (Option.some.inj hdescribes.login).symm
  have hfullName : u.fullName = "" := hdescribes.fullName
  have hstatusIs : u.status = "user" := hdescribes.status
  have hage : u.age = 0 := hdescribes.age
  refine ⟨hstatus, ?_⟩
  rw [hprofile q _ rfl hq hdescribes.login, hid, hlogin, hfullName, hstatusIs, hage]
  rfl

end Switchboard.Accounts
