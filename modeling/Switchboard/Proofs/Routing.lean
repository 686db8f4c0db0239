import Switchboard.Proofs.Intake
import Switchboard.Routing

/-!
# The order of the checks around a handler

A route answers a wrong verb before it looks at the token, and a missing token
before it looks at anything else. So there are two closed forms: what a route
answers to a request that fails one of the two checks, for which the state and
the rest of the request do not matter (`Route.serve_of_wrongVerb`,
`Route.serve_of_unauthorized`), and what is left to a handler
(`Route.serve_handler`).

The token check looks at all bytes of the header, and what it decides is
equality (`sameBytes_iff`), so that a request is let through exactly when the
first value of the header is the token (`authorized_iff`).
-/

namespace Switchboard

/-! ## The token -/

/-- **Rows of one length differ nowhere exactly when they are equal.** -/
theorem difference_eq_zero_iff {a b : List UInt8} (h : a.length = b.length) :
    difference a b = 0 ↔ a = b := by
  induction a generalizing b with
  | nil =>
    rw [List.length_nil, eq_comm, List.length_eq_zero_iff] at h
    rw [h]
    exact iff_of_true rfl rfl
  | cons x xs ih =>
    cases b with
    | nil => exact absurd h (Nat.succ_ne_zero _)
    | cons y ys =>
      rw [difference, UInt8.or_eq_zero_iff, UInt8.xor_eq_zero_iff,
        ih (Nat.succ.inj h), List.cons.injEq]

/-- **The comparison that looks at all bytes decides equality.** -/
theorem sameBytes_iff {a b : List UInt8} : sameBytes a b = true ↔ a = b := by
  rw [sameBytes, Bool.and_eq_true, beq_iff_eq, beq_iff_eq]
  constructor
  · rintro ⟨hlen, hdiff⟩
    exact (difference_eq_zero_iff hlen).mp hdiff
  · rintro rfl
    exact ⟨rfl, (difference_eq_zero_iff rfl).mpr rfl⟩

/-- **A request is let through exactly when the first value of the header is
the token**; a missing header counts as an empty one, which the token is not. -/
theorem authorized_iff {r : Http.Request} :
    authorized r = true ↔ r.header? tokenHeader = some (Text.utf8 token) := by
  rw [authorized, sameBytes_iff]
  cases r.header? tokenHeader with
  | none => exact iff_of_false (by decide) (fun h => nomatch h)
  | some value => exact ⟨congrArg some, Option.some.inj⟩

/-! ## Routes -/

section Routes

variable {σ : Type} {route : Route σ} {r : Http.Request}

/-- **A wrong verb is answered first**, whatever the state, the token and the
rest of the request are. -/
theorem Route.serve_of_wrongVerb (hverb : route.directive.verb ≠ "")
    (hother : r.verb ≠ route.directive.verb) (state : σ) :
    route.serve state r = (state, wrongVerb) := by
  have htakes : route.directive.takesVerb r.verb = false := by
    rw [Directive.takesVerb, Bool.or_eq_false_iff, beq_eq_false_iff_ne,
      beq_eq_false_iff_ne]
    exact ⟨hverb, hother.symm⟩
  rw [Route.serve, htakes]
  rfl

theorem Directive.takesVerb_of_eq {d : Directive} {verb : String}
    (h : verb = d.verb) : d.takesVerb verb = true := by
  rw [takesVerb, h, beq_self_eq_true, Bool.or_true]

/-- **A missing token is answered next**, whatever the state and the rest of
the request are. -/
theorem Route.serve_of_unauthorized
    (hverb : route.directive.takesVerb r.verb = true)
    (hauth : route.directive.auth = true)
    (htoken : r.header? tokenHeader ≠ some (Text.utf8 token)) (state : σ) :
    route.serve state r = (state, unauthorized) := by
  have hfalse : authorized r = false := by
    rw [← Bool.not_eq_true, authorized_iff]
    exact htoken
  rw [Route.serve, hverb, hauth, hfalse]
  rfl

/-- The state and the reply a result leads to. -/
def Result.settle (state : σ) : Result σ → σ × Reply
  | value state v => (state, .success v)
  | error e => (state, .ofError e)
  | panic p => (state, .ofPanic p)

/-- **What is left to a handler**: the failure of its intake, or what comes of
its work. -/
theorem Route.serve_handler {d : Directive} {fields : List Field}
    {work : σ → Http.Request → InputMap → Result σ}
    (hverb : d.takesVerb r.verb = true)
    (htoken : d.auth = true → r.header? tokenHeader = some (Text.utf8 token))
    (state : σ) :
    Route.serve ⟨d, handler fields work⟩ state r
      = match inputsOfRequest fields r with
        | .error e => (state, e.reply)
        | .ok inputs => (work state r inputs).settle state := by
  have hguard : (d.auth && !authorized r) = false := by
    cases hauth : d.auth with
    | false => rfl
    | true => rw [authorized_iff.mpr (htoken hauth)]; rfl
  rw [Route.serve, hverb, hguard]
  show (handler fields work state r).settle state = _
  rw [handler]
  cases inputsOfRequest fields r with
  | error e => rfl
  | ok inputs =>
    dsimp only
    cases work state r inputs <;> rfl

end Routes

end Switchboard
