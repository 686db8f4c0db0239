import Switchboard.Proofs.Accounts.Decisions
import Switchboard.Proofs.Agreement

/-!
# What a form can tell the accounts

Each path of the two services has a record, and of the form of a request only the
first values of the form keys of this record count (`fieldsAt`). Two requests that are
alike in path, verb and headers, and whose forms agree there, are answered alike and
leave the same store (`step_eq`).

A rating has a part that is no field of its record, where it is from. What is no field
is never filled from a form, so it is the header alone that says so, also to a form
with a value of that name (`source_of_rating`).
-/

namespace Switchboard.Accounts

open Text

/-- **The fields that a form fills** on a path of a service. -/
def fieldsAt : Service → String → List Field
  | .accounts, "/user/profile" => profileFields
  | .accounts, "/user/create" => createFields
  | .accounts, "/user/rate" => rateFields
  | .characters, "/user/create" => characterFields
  | _, _ => []

section Requests

variable {r q : Http.Request}

/-- A rating looks at the headers of its request, and not at its form again. -/
theorem rate_eq (hheaders : r.headers = q.headers) (s : Store) (inputs : InputMap) :
    rate s r inputs = rate s q inputs := by
  have hagent : r.headerText? "User-Agent" = q.headerText? "User-Agent" := by
    rw [Http.Request.headerText?, Http.Request.headerText?, Http.Request.header?,
      Http.Request.header?, hheaders]
  rw [rate, rate, hagent]

/-- **What no field asks for does not reach a service**: requests that differ in
nothing else get the same reply and leave the same store. -/
theorem step_eq (hpath : r.uri.path = q.uri.path) (hverb : r.verb = q.verb)
    (hheaders : r.headers = q.headers) {a b : Form} (hr : Form.ofRequest r = .ok a)
    (hq : Form.ofRequest q = .ok b) {service : Service}
    (h : a.AgreesOn (fieldsAt service r.uri.path) b) (s : Store) :
    step s service r = step s service q := by
  cases service with
  | accounts =>
    refine serve_eq hpath hverb hheaders (fun route hroute hurl => ?_)
    rw [← hurl] at h
    simp only [routes, List.mem_cons, List.not_mem_nil, or_false] at hroute
    rcases hroute with rfl | rfl | rfl
    · exact handler_eq (inputsOfRequest_eq hr hq h) (fun _ => rfl)
    · exact handler_eq (inputsOfRequest_eq hr hq h) (fun _ => rfl)
    · exact handler_eq (inputsOfRequest_eq hr hq h) (rate_eq hheaders s)
  | characters =>
    have hserve : serve characterRoutes () r = serve characterRoutes () q := by
      refine serve_eq hpath hverb hheaders (fun route hroute hurl => ?_)
      rw [← hurl] at h
      rw [characterRoutes, List.mem_singleton] at hroute
      subst hroute
      exact handler_eq (inputsOfRequest_eq hr hq h) (fun _ => rfl)
    rw [step, step, hserve]

/-- **A rating that is answered says where it is from**, which is the agent in its
headers. -/
theorem source_of_rating (hpath : r.uri.path = "/user/rate") {s : Store}
    (hstatus : (step s .accounts r).2.status = 200) :
    ∃ (user : Nat) (stars : Int), Json.read (step s .accounts r).2.body
      = .ok (.object [("error", .string ""),
          ("response", .object [("user_id", .int user), ("stars", .int stars),
            ("source", .string ((r.headerText? "User-Agent").getD "unknown"))])]) := by
  cases hinputs : inputsOfRequest rateFields r with
  | error e =>
    have hrefused : (step s .accounts r).2.status = 400 := by
      show (serve routes s r).2.status = 400
      rw [serve_rate hpath, hinputs]
      rfl
    exact absurd (hstatus.symm.trans hrefused) (by decide)
  | ok inputs =>
    obtain ⟨-, _, stars, user, -, -, -, -, -, -, hbody⟩ :=
      decides_rated (s := s) hpath (inputsOfRequest_eq_ok_iff_admitted.mp hinputs)
    exact ⟨user, stars, hbody⟩

end Requests

/-- **Only the form keys of a record count.** Forms that agree on them come to the
same values, or are refused in the same words, whatever else they hold; in particular
nothing comes of a pair under another key, or of a further value. Requests to a service
that differ in nothing else are answered alike in every state and leave the same store.
No form says where a rating is from: that is told by the agent in the headers alone. -/
theorem declared_keys_decide :
    (∀ (record : Record) (a b : Form), a.AgreesOn record.fields b →
      (inputsOfForm record.fields a).map (takeFields record.fields)
        = (inputsOfForm record.fields b).map (takeFields record.fields))
    ∧ (∀ (record : Record) (form : Form) (key value : String),
      (∀ f ∈ record.fields, f.externalKey ≠ key) ∨ (form.get? key).isSome = true →
      (inputsOfForm record.fields (form.append key value)).map (takeFields record.fields)
        = (inputsOfForm record.fields form).map (takeFields record.fields))
    ∧ (∀ (s : Store) (service : Service) (r q : Http.Request) (a b : Form),
      r.uri.path = q.uri.path → r.verb = q.verb → r.headers = q.headers →
      Form.ofRequest r = .ok a → Form.ofRequest q = .ok b →
      a.AgreesOn (fieldsAt service r.uri.path) b →
      step s service r = step s service q)
    ∧ (∀ inputs, (newRating inputs).source = none)
    ∧ ∀ (s : Store) (r : Http.Request), r.uri.path = "/user/rate" →
      (step s .accounts r).2.status = 200 →
      ∃ (user : Nat) (stars : Int), Json.read (step s .accounts r).2.body
        = .ok (.object [("error", .string ""),
            ("response", .object [("user_id", .int user), ("stars", .int stars),
              ("source", .string ((r.headerText? "User-Agent").getD "unknown"))])]) := by
  refine ⟨fun record a b h => ?_, fun record form key value h => ?_, ?_, fun _ => rfl,
    fun _ _ hpath => source_of_rating hpath⟩
  · rw [inputsOfForm_eq h]
  · rw [inputsOfForm_eq (Form.agreesOn_append h value)]
  · intro s service r q a b hpath hverb hheaders hr hq h
    exact step_eq hpath hverb hheaders hr hq h s

/-- A form with a source, with its keys in another order and with a second value for
one of them, is answered like one without. -/
theorem declared_keys_decide_of_other_pairs :
    let r : Http.Request :=
      ⟨"GET", ⟨"/user/rate", some "user_id=7&stars=3"⟩, [], []⟩
    let q : Http.Request :=
      ⟨"GET", ⟨"/user/rate", some "source=me&stars=3&user_id=7&user_id=8"⟩, [], []⟩
    let a := Form.ofList [("user_id", "7"), ("stars", "3")]
    let b := Form.ofList [("source", "me"), ("stars", "3"), ("user_id", "7"),
      ("user_id", "8")]
    Form.ofRequest r = .ok a ∧ Form.ofRequest q = .ok b ∧ a.AgreesOn rateFields b
    ∧ (inputsOfForm rateFields a).map (takeFields rateFields)
      = (inputsOfForm rateFields (a.append "source" "me")).map (takeFields rateFields)
    ∧ (inputsOfForm rateFields a).map (takeFields rateFields)
      = (inputsOfForm rateFields b).map (takeFields rateFields)
    ∧ step .initial .accounts r = step .initial .accounts q
    ∧ (step .initial .accounts q).2.status = 200
    ∧ ∃ (user : Nat) (stars : Int), Json.read (step .initial .accounts q).2.body
        = .ok (.object [("error", .string ""),
            ("response", .object [("user_id", .int user), ("stars", .int stars),
              ("source", .string "unknown")])]) := by
  intro r q a b
  have hr : Form.ofRequest r = .ok a := by
    rw [Form.ofRequest_of_not_inBody (by decide +kernel),
      show Form.queryPairs r = [("user_id", "7"), ("stars", "3")] by decide +kernel]
  have hq : Form.ofRequest q = .ok b := by
    rw [Form.ofRequest_of_not_inBody (by decide +kernel),
      show Form.queryPairs q = [("source", "me"), ("stars", "3"), ("user_id", "7"),
        ("user_id", "8")] by decide +kernel]
  have hagree : a.AgreesOn rateFields b := by
    intro f hf
    simp only [rateFields, List.mem_cons, List.not_mem_nil, or_false] at hf
    rcases hf with rfl | rfl <;> decide +kernel
  have hstatus : (step .initial .accounts q).2.status = 200 := by decide +kernel
  let record : Record := ⟨"RateParams", rateFields, true, ⟨"", 0, 0⟩⟩
  obtain ⟨hforms, hpairs, hsteps, -, hsource⟩ := declared_keys_decide
  exact ⟨hr, hq, hagree, (hpairs record a "source" "me" (.inl (by decide +kernel))).symm,
    hforms record a b hagree, hsteps .initial .accounts r q a b rfl rfl rfl hr hq hagree,
    hstatus, hsource .initial q rfl hstatus⟩

end Switchboard.Accounts
