import Switchboard.Proofs.Accounts.Steps

/-!
# The gate in front of creation

Who has no token learns nothing and changes nothing. The route that creates
answers a wrong verb, and then a missing token, by one fixed reply each, before
it looks at the state, the query or the body (`step_of_wrongVerb`,
`step_of_unauthorized`); this holds of both services.

Only a request that gets past both checks can leave a trace in the store
(`step_state_of_not_passesGate`). Dropping all others from a run therefore
changes neither where it ends nor what the requests that are left are answered.
-/

namespace Switchboard.Accounts

open Text

variable {s : Store} {service : Service} {r : Http.Request}

/-- **A verb other than the one that creates** has one answer, whatever the
service, the state and the rest of the request. -/
theorem step_of_wrongVerb (hpath : r.uri.path = "/user/create")
    (hverb : r.verb ≠ "POST") (s : Store) (service : Service) :
    step s service r = (s, wrongVerb) := by
  cases service with
  | accounts =>
    show serve routes s r = _
    rw [serve_create hpath, Route.serve_of_wrongVerb (by decide) hverb]
  | characters =>
    show (s, (serve characterRoutes () r).2) = _
    rw [serve_character hpath, Route.serve_of_wrongVerb (by decide) hverb]

/-- **A request to create without the token** has one answer, whatever the
service, the state and the rest of the request. -/
theorem step_of_unauthorized (hpath : r.uri.path = "/user/create")
    (hverb : r.verb = "POST")
    (htoken : r.header? "X-Auth" ≠ some (utf8 "100500")) (s : Store)
    (service : Service) : step s service r = (s, unauthorized) := by
  cases service with
  | accounts =>
    show serve routes s r = _
    rw [serve_create hpath,
      Route.serve_of_unauthorized (Directive.takesVerb_of_eq hverb) rfl htoken]
  | characters =>
    show (s, (serve characterRoutes () r).2) = _
    rw [serve_character hpath,
      Route.serve_of_unauthorized (Directive.takesVerb_of_eq hverb) rfl htoken]

/-! ## Runs -/

/-- **Whether a request gets past the gate of the accounts.** -/
def passesGate (q : Service × Http.Request) : Bool :=
  q.1 == .accounts && q.2.uri.path == "/user/create" && q.2.verb == "POST"
    && q.2.header? "X-Auth" == some (utf8 "100500")

theorem passesGate_iff {q : Service × Http.Request} :
    passesGate q = true ↔ q.1 = .accounts ∧ q.2.uri.path = "/user/create"
      ∧ q.2.verb = "POST" ∧ q.2.header? "X-Auth" = some (utf8 "100500") := by
  rw [passesGate, Bool.and_eq_true, Bool.and_eq_true, Bool.and_eq_true,
    beq_iff_eq, beq_iff_eq, beq_iff_eq, beq_iff_eq, and_assoc, and_assoc]

/-- What does not get past the gate leaves no trace. -/
theorem step_state_of_not_passesGate {q : Service × Http.Request}
    (h : passesGate q = false) (s : Store) : (step s q.1 q.2).1 = s := by
  rcases step_cases s q with ⟨hservice, u, hcreates, _⟩ | ⟨hstate, _⟩
  · have hpasses : passesGate q = true := passesGate_iff.mpr
      ⟨hservice, hcreates.path, hcreates.verb, hcreates.token⟩
    exact absurd (h.symm.trans hpasses) Bool.false_ne_true
  · exact hstate

/-- **Requests that do not get past the gate can be dropped from a run.** -/
theorem run_filter_passesGate (s : Store) (qs : List (Service × Http.Request)) :
    run s (qs.filter passesGate)
      = ((run s qs).1,
        ((qs.zip (run s qs).2).filter fun a => passesGate a.1).map Prod.snd) := by
  induction qs generalizing s with
  | nil => rfl
  | cons q rest ih =>
    -- what is dropped leaves the state as it was, so the rest of the run is
    -- the same from there on
    rw [run_cons s q rest, List.zip_cons_cons, List.filter_cons, List.filter_cons]
    cases hq : passesGate q with
    | true =>
      simp only [if_true]
      rw [run_cons, ih, List.map_cons]
    | false =>
      simp only [Bool.false_eq_true, if_false]
      rw [step_state_of_not_passesGate hq, ih]

/-- **The gate, and what it keeps out.** Any two requests to create without the
token get the same answer from either service in any two states, and so do any
two with another verb; none of them changes a state. In every run, dropping
all requests that do not get past the gate changes neither the store at the
end nor the replies to the requests that are left. -/
theorem gate_noninterference :
    (∀ (s₁ s₂ : Store) (service₁ service₂ : Service) (r₁ r₂ : Http.Request),
      r₁.uri.path = "/user/create" → r₂.uri.path = "/user/create" →
      r₁.verb = "POST" → r₂.verb = "POST" →
      r₁.header? "X-Auth" ≠ some (utf8 "100500") →
      r₂.header? "X-Auth" ≠ some (utf8 "100500") →
        let reply : Reply :=
          ⟨403, "application/json", "\x7b\"error\":\"unauthorized\"\x7d"⟩
        step s₁ service₁ r₁ = (s₁, reply) ∧ step s₂ service₂ r₂ = (s₂, reply))
    ∧ (∀ (s₁ s₂ : Store) (service₁ service₂ : Service) (r₁ r₂ : Http.Request),
      r₁.uri.path = "/user/create" → r₂.uri.path = "/user/create" →
      r₁.verb ≠ "POST" → r₂.verb ≠ "POST" →
        let reply : Reply :=
          ⟨405, "application/json", "\x7b\"error\":\"bad method\"\x7d"⟩
        step s₁ service₁ r₁ = (s₁, reply) ∧ step s₂ service₂ r₂ = (s₂, reply))
    ∧ ∀ (s : Store) (qs : List (Service × Http.Request)),
        (run s qs).2.length = qs.length
        ∧ (run s (qs.filter passesGate)).1 = (run s qs).1
        ∧ (run s (qs.filter passesGate)).2
          = ((qs.zip (run s qs).2).filter fun a => passesGate a.1).map
              Prod.snd := by
  refine ⟨?_, ?_, ?_⟩
  · intro s₁ s₂ service₁ service₂ r₁ r₂ hpath₁ hpath₂ hverb₁ hverb₂ htoken₁ htoken₂
    have hreply : unauthorized
        = ⟨403, "application/json", "\x7b\"error\":\"unauthorized\"\x7d"⟩ := rfl
    rw [← hreply]
    exact ⟨step_of_unauthorized hpath₁ hverb₁ htoken₁ s₁ service₁,
      step_of_unauthorized hpath₂ hverb₂ htoken₂ s₂ service₂⟩
  · intro s₁ s₂ service₁ service₂ r₁ r₂ hpath₁ hpath₂ hverb₁ hverb₂
    have hreply : wrongVerb
        = ⟨405, "application/json", "\x7b\"error\":\"bad method\"\x7d"⟩ := rfl
    rw [← hreply]
    exact ⟨step_of_wrongVerb hpath₁ hverb₁ s₁ service₁,
      step_of_wrongVerb hpath₂ hverb₂ s₂ service₂⟩
  · intro s qs
    rw [run_filter_passesGate]
    exact ⟨length_run s qs, rfl, rfl⟩

/-- Without a token, and with part of one, the answer is the same: the second
request is to another service, in another state, and would create an account. -/
theorem gate_noninterference_missing_and_short_token :
    let r₁ : Http.Request := ⟨"POST", ⟨"/user/create", none⟩, [], []⟩
    let r₂ : Http.Request := ⟨"POST", ⟨"/user/create", some "login=long_enough"⟩,
      [⟨"x-auth", utf8 "10050"⟩, ⟨"x-auth", utf8 "100500"⟩], []⟩
    let reply : Reply :=
      ⟨403, "application/json", "\x7b\"error\":\"unauthorized\"\x7d"⟩
    r₁.header? "X-Auth" ≠ some (utf8 "100500")
    ∧ r₂.header? "X-Auth" ≠ some (utf8 "100500")
    ∧ step .initial .characters r₁ = (.initial, reply)
    ∧ step ⟨.empty, 7⟩ .accounts r₂ = (⟨.empty, 7⟩, reply) := by
  intro r₁ r₂ reply
  have htoken₁ : r₁.header? "X-Auth" ≠ some (utf8 "100500") := by decide +kernel
  have htoken₂ : r₂.header? "X-Auth" ≠ some (utf8 "100500") := by decide +kernel
  exact ⟨htoken₁, htoken₂, gate_noninterference.1 .initial ⟨.empty, 7⟩ .characters
    .accounts r₁ r₂ rfl rfl rfl rfl htoken₁ htoken₂⟩

end Switchboard.Accounts
