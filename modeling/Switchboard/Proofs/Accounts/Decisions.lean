import Switchboard.Proofs.Accounts.Invariant
import Switchboard.Proofs.Replies
import Switchboard.Proofs.Values

/-!
# What the accounts answer

The checks a request goes through stand in several places: the path and the verb
and the token around a handler, the three stages before it, the store behind it.
Together they are one table of statuses (`Decides`), and each of its rows holds
in every state.

That a reply does not contradict itself rests on more than the table: a value has
to be read back from its text, and the age of an account is a number of any size
in its type. It is small in every account there can be (`UsersAreSound`), which
is why this is a statement about the states that can be reached
(`decides_of_run`).
-/

namespace Switchboard.Accounts

open Text

/-! ## The table -/

/-- The login that a form asks for, once it is let through. -/
def loginOf (inputs : InputMap) : String := textOf (inputs.get? "login")

/-- **The decision table of the accounts**: what a request is answered with in a
state, and the state after it. -/
structure Decides (s : Store) (r : Http.Request) (t : Store) (reply : Reply) :
    Prop where
  /-- No other path is known. -/
  unknownPath : r.uri.path ∉ ["/user/profile", "/user/create", "/user/rate"] →
    reply.status = 404
  /-- Creating asks for its verb first. -/
  createVerb : r.uri.path = "/user/create" → r.verb ≠ "POST" → reply.status = 405
  /-- Then for the token. -/
  createToken : r.uri.path = "/user/create" → r.verb = "POST" →
    r.header? "X-Auth" ≠ some (utf8 "100500") → reply.status = 403
  /-- Then for a form that is let through. -/
  createRefused : r.uri.path = "/user/create" → r.verb = "POST" →
    r.header? "X-Auth" = some (utf8 "100500") → Refused createFields r →
    reply.status = 400
  /-- Then for a login that is not taken. -/
  createTaken : r.uri.path = "/user/create" → r.verb = "POST" →
    r.header? "X-Auth" = some (utf8 "100500") →
    ∀ inputs, Admitted createFields r inputs → loginOf inputs ∈ s.users.keys →
    reply.status = 409
  /-- Then an account is created. -/
  created : r.uri.path = "/user/create" → r.verb = "POST" →
    r.header? "X-Auth" = some (utf8 "100500") →
    ∀ inputs, Admitted createFields r inputs → loginOf inputs ∉ s.users.keys →
    reply.status = 200
  /-- A look-up asks for a form that is let through. -/
  profileRefused : r.uri.path = "/user/profile" → Refused profileFields r →
    reply.status = 400
  /-- Two logins break it. -/
  profileBroken : r.uri.path = "/user/profile" →
    ∀ inputs, Admitted profileFields r inputs →
    loginOf inputs ∈ ["bad_user", "panic"] → reply.status = 500
  /-- Others may be unknown. -/
  profileMissing : r.uri.path = "/user/profile" →
    ∀ inputs, Admitted profileFields r inputs →
    loginOf inputs ∉ ["bad_user", "panic"] → loginOf inputs ∉ s.users.keys →
    reply.status = 404
  /-- Or else they are found. -/
  profileFound : r.uri.path = "/user/profile" →
    ∀ inputs, Admitted profileFields r inputs →
    loginOf inputs ∉ ["bad_user", "panic"] → loginOf inputs ∈ s.users.keys →
    reply.status = 200
  /-- A rating asks for a form that is let through. -/
  rateRefused : r.uri.path = "/user/rate" → Refused rateFields r →
    reply.status = 400
  /-- Then it answers with the number it was given, read without a sign, which is
  not zero, and with the stars, from one to five. -/
  rated : r.uri.path = "/user/rate" → ∀ inputs, Admitted rateFields r inputs →
    reply.status = 200
    ∧ ∃ (n stars : Int) (user : Nat) (source : String),
      inputs.get? "user_id" = some (.int n) ∧ (user : Int) = n % 2 ^ 64 ∧ user ≠ 0
      ∧ inputs.get? "stars" = some (.int stars) ∧ 1 ≤ stars ∧ stars ≤ 5
      ∧ Json.read reply.body = .ok (.object [("error", .string ""),
          ("response", .object [("user_id", .int user), ("stars", .int stars),
            ("source", .string source)])])
  /-- The reply does not contradict itself. -/
  consistent : reply.IsConsistent
  /-- Only an account that is created changes the state. -/
  state : t = s ∨ r.uri.path = "/user/create" ∧ reply.status = 200

section Rows

variable {s : Store} {r : Http.Request}

/-! ## Creating -/

theorem loginOf_eq (inputs : InputMap) : (inputs.takeString "login").1 = loginOf inputs := by
  rw [InputMap.takeString_eq, loginOf]

section Create

variable (hpath : r.uri.path = "/user/create") (hverb : r.verb = "POST")
  (htoken : r.header? "X-Auth" = some (utf8 "100500"))

include hpath hverb htoken

theorem status_of_createRefused (h : Refused createFields r) :
    (serve routes s r).2.status = 400 := by
  obtain ⟨e, he⟩ := exists_error_of_refused h
  rw [serve_create_of_token hpath hverb htoken, he]
  rfl

theorem status_of_createTaken {inputs : InputMap} (h : Admitted createFields r inputs)
    (htaken : loginOf inputs ∈ s.users.keys) : (serve routes s r).2.status = 409 := by
  have hlogin : (newUser s.nextId inputs).login = loginOf inputs := by
    rw [newUser_eq, loginOf_eq]
  rw [serve_create_of_token hpath hverb htoken,
    inputsOfRequest_eq_ok_iff_admitted.mpr h]
  dsimp only
  rw [hlogin, if_pos (OrderedMap.contains_iff.mpr htaken)]
  rfl

theorem status_of_created {inputs : InputMap} (h : Admitted createFields r inputs)
    (hfresh : loginOf inputs ∉ s.users.keys) : (serve routes s r).2.status = 200 := by
  have hlogin : (newUser s.nextId inputs).login = loginOf inputs := by
    rw [newUser_eq, loginOf_eq]
  have hcreates : Creates s r (newUser s.nextId inputs) :=
    ⟨hpath, hverb, htoken, ⟨inputs, inputsOfRequest_eq_ok_iff_admitted.mpr h, rfl⟩,
      hlogin ▸ hfresh⟩
  exact congrArg (·.2.status) hcreates.step_eq

end Create

/-! ## Looking up -/

theorem profile_eq (s : Store) (r : Http.Request) (inputs : InputMap) :
    profile s r inputs
      = if loginOf inputs = "bad_user" then .error (.text "bad user")
        else if loginOf inputs = "panic" then .panic (.text "profile exploded")
        else match s.users.get? (loginOf inputs) with
          | some u => .value s u.json
          | none => .error (.withStatus .boxed 404 "user not exist") := by
  rw [← loginOf_eq]
  rfl

section Profile

variable (hpath : r.uri.path = "/user/profile")

include hpath

theorem status_of_profileRefused (h : Refused profileFields r) :
    (serve routes s r).2.status = 400 := by
  obtain ⟨e, he⟩ := exists_error_of_refused h
  rw [serve_profile hpath, he]
  rfl

variable {inputs : InputMap} (h : Admitted profileFields r inputs)

include h

theorem serve_profile_of_admitted :
    serve routes s r = (profile s r inputs).settle s := by
  rw [serve_profile hpath, inputsOfRequest_eq_ok_iff_admitted.mpr h]

theorem status_of_profileBroken (hlogin : loginOf inputs ∈ ["bad_user", "panic"]) :
    (serve routes s r).2.status = 500 := by
  rw [serve_profile_of_admitted hpath h, profile_eq]
  rcases List.mem_cons.mp hlogin with he | he
  · rw [if_pos he]
    rfl
  · rw [List.mem_singleton.mp he]
    rfl

theorem status_of_profileMissing (hlogin : loginOf inputs ∉ ["bad_user", "panic"])
    (hmissing : loginOf inputs ∉ s.users.keys) :
    (serve routes s r).2.status = 404 := by
  simp only [List.mem_cons, List.not_mem_nil, or_false, not_or] at hlogin
  rw [serve_profile_of_admitted hpath h, profile_eq, if_neg hlogin.1,
    if_neg hlogin.2, OrderedMap.get?_eq_none_iff.mpr hmissing]
  rfl

theorem status_of_profileFound (hlogin : loginOf inputs ∉ ["bad_user", "panic"])
    (hfound : loginOf inputs ∈ s.users.keys) :
    (serve routes s r).2.status = 200 := by
  simp only [List.mem_cons, List.not_mem_nil, or_false, not_or] at hlogin
  rw [serve_profile_of_admitted hpath h, profile_eq, if_neg hlogin.1,
    if_neg hlogin.2]
  cases hget : s.users.get? (loginOf inputs) with
  | none => exact absurd hfound (OrderedMap.get?_eq_none_iff.mp hget)
  | some u => rfl

end Profile

/-! ## Rating -/

theorem fieldsReadable_rateFields : FieldsReadable rateFields := by decide

/-- **What a rating that is let through says**: a number that is not zero, and
stars from one to five. -/
theorem exists_rating {inputs : InputMap} (h : Admitted rateFields r inputs) :
    ∃ n stars : Int, inputs.get? "user_id" = some (.int n) ∧ n ≠ 0
      ∧ int64Min ≤ n ∧ n ≤ int64Max
      ∧ inputs.get? "stars" = some (.int stars) ∧ 1 ≤ stars ∧ stars ≤ 5 := by
  obtain ⟨form, -, hform⟩ := inputsOfRequest_eq_ok.mp
    (inputsOfRequest_eq_ok_iff_admitted.mpr h)
  have hfields := read_of_inputsOfForm fieldsReadable_rateFields hform
  obtain ⟨hread, hadmits⟩ := hfields _ List.mem_cons_self
  obtain ⟨v, hv, hzero, -⟩ := hadmits.of_required rfl rfl
  rw [hv] at hread
  obtain ⟨t, n, -, hdenotes, rfl⟩ := Field.denotes_of_read (by decide) hread
  obtain ⟨hread', hadmits'⟩ := hfields _ (List.mem_cons_of_mem _ List.mem_cons_self)
  obtain ⟨w, hw, -, hmeets⟩ := hadmits'.of_required rfl rfl
  rw [hw] at hread'
  obtain ⟨-, stars, -, -, rfl⟩ := Field.denotes_of_read (by decide) hread'
  exact ⟨n, stars, hv, by simpa [InputValue.isZero] using hzero, hdenotes.2.1,
    hdenotes.2.2, hw, hmeets.min 1 rfl, hmeets.max 5 rfl⟩

/-- The reply to a rating. -/
def ratingReply (user : Nat) (stars : Int) (source : String) : Reply :=
  .success (.object [("user_id", .int user), ("stars", .int stars),
    ("source", .string source)])

theorem isExact_rating {user : Nat} {stars : Int} (huser : user < 18446744073709551616)
    (hone : 1 ≤ stars) (hfive : stars ≤ 5) (source : String) :
    (Json.object [("user_id", .int user), ("stars", .int stars),
      ("source", .string source)]).IsExact := by
  have hmin : int64Min ≤ 0 := by decide
  exact ⟨by simp, ⟨by omega, by omega⟩, ⟨by omega, by omega⟩, trivial, trivial⟩

/-- Where a rating is from: the agent that sent it. -/
def sourceOf (r : Http.Request) : String := (r.headerText? "User-Agent").getD "unknown"

/-- A rating is answered with what it says. -/
theorem serve_rate_of_admitted (hpath : r.uri.path = "/user/rate") {inputs : InputMap}
    (h : Admitted rateFields r inputs) {n stars : Int}
    (hn : inputs.get? "user_id" = some (.int n))
    (hstars : inputs.get? "stars" = some (.int stars)) :
    serve routes s r
      = (s, ratingReply (n % 18446744073709551616).toNat stars (sourceOf r)) := by
  have herased : OrderedMap.get? (inputs.erase "user_id") "stars" = some (.int stars) := by
    rw [OrderedMap.get?_erase_of_ne (by decide)]
    exact hstars
  rw [serve_rate hpath, inputsOfRequest_eq_ok_iff_admitted.mpr h]
  simp only [rate, newRating, Rating.unfilled, InputMap.takeUint64, InputMap.takeInt_eq,
    herased, hn, integerOf, Result.settle, ratingReply, sourceOf, Option.none_or]

/-- **A rating that is let through** is answered with a number that is not zero,
with its stars and with where it is from. -/
theorem decides_rated (hpath : r.uri.path = "/user/rate") {inputs : InputMap}
    (h : Admitted rateFields r inputs) :
    (serve routes s r).2.status = 200
    ∧ ∃ (n stars : Int) (user : Nat),
      inputs.get? "user_id" = some (.int n) ∧ (user : Int) = n % 2 ^ 64 ∧ user ≠ 0
      ∧ inputs.get? "stars" = some (.int stars) ∧ 1 ≤ stars ∧ stars ≤ 5
      ∧ Json.read (serve routes s r).2.body
        = .ok (.object [("error", .string ""),
            ("response", .object [("user_id", .int user), ("stars", .int stars),
              ("source", .string (sourceOf r))])]) := by
  obtain ⟨n, stars, hn, hzero, hmin, hmax, hstars, hone, hfive⟩ := exists_rating h
  have hserve := serve_rate_of_admitted (s := s) hpath h hn hstars
  rw [int64Min] at hmin
  rw [int64Max] at hmax
  have huser : ((n % 18446744073709551616).toNat : Int) = n % 2 ^ 64 := by
    have hnonneg : 0 ≤ n % 18446744073709551616 := Int.emod_nonneg n (by simp)
    simp only [Int.toNat_of_nonneg hnonneg, Int.reducePow]
  rw [hserve]
  refine ⟨rfl, n, stars, _, hn, huser, by omega, hstars, hone, hfive, ?_⟩
  exact Reply.read_success (isExact_rating (by omega) hone hfive _)

/-! ## Replies that do not contradict themselves -/

/-- **Accounts that can be written**: all but the first are sound. -/
def UsersAreSound (s : Store) : Prop :=
  ∀ u ∈ s.users.values, u = seed ∨ u.IsSound

theorem usersAreSound_initial : UsersAreSound .initial := isSound_initial.users

/-- **Accounts stay as they are**, and new ones are sound. -/
theorem usersAreSound_step (s : Store) (q : Service × Http.Request)
    (hs : UsersAreSound s) : UsersAreSound (step s q.1 q.2).1 := by
  rcases step_cases s q with ⟨_, u, hcreates, hstep⟩ | ⟨hstate, _⟩
  · rw [hstep]
    intro v hv
    obtain ⟨e, he, rfl⟩ := List.mem_map.mp hv
    rw [hcreates.entries_add] at he
    rcases List.mem_append.mp he with he | he
    · exact hs e.2 (List.mem_map_of_mem he)
    · rw [List.mem_singleton.mp he]
      exact .inr hcreates.isSound
  · rw [hstate]
    exact hs

/-- An account with an age that fits is read back from its text. -/
theorem isExact_json {u : User} (h : u = seed ∨ u.IsSound) : u.json.IsExact := by
  have hid : u.id.toNat < 18446744073709551616 := u.id.toNat_lt
  have hmin : int64Min ≤ 0 := by decide
  have hage : 0 ≤ u.age ∧ u.age ≤ 128 := by
    rcases h with rfl | h
    · decide
    · exact ⟨h.age_nonneg, h.age_le⟩
  exact ⟨by simp, ⟨by omega, by omega⟩, trivial, trivial, trivial,
    ⟨by omega, by omega⟩, trivial⟩

theorem isConsistent_profile (hs : UsersAreSound s) (inputs : InputMap) :
    ((profile s r inputs).settle s).2.IsConsistent := by
  rw [profile_eq]
  split
  · exact Reply.isConsistent_failure (by decide) (by decide)
  split
  · exact Reply.isConsistent_failure (by decide) (by decide)
  cases hget : s.users.get? (loginOf inputs) with
  | none => exact Reply.isConsistent_failure (by decide) (by decide)
  | some u =>
    have hmem : u ∈ s.users.values :=
      List.mem_map.mpr ⟨_, OrderedMap.get?_eq_some_iff.mp hget, rfl⟩
    exact Reply.isConsistent_success (isExact_json (hs u hmem))

theorem isConsistent_createdReply (u : User) : u.createdReply.IsConsistent := by
  have hid : u.id.toNat < 18446744073709551616 := u.id.toNat_lt
  have hmin : int64Min ≤ 0 := by decide
  exact Reply.isConsistent_success
    ⟨by simp, ⟨by omega, by omega⟩, trivial⟩

theorem isConsistent_takenReply (u : User) : u.takenReply.IsConsistent := by
  refine Reply.isConsistent_failure (by decide) ?_
  rw [Ne, String.append_eq_empty_iff]
  exact fun h => absurd h.2 (by decide)

/-- **No reply contradicts itself** while the accounts are sound. -/
theorem isConsistent_serve (hs : UsersAreSound s) :
    (serve routes s r).2.IsConsistent := by
  by_cases hprofile : r.uri.path = "/user/profile"
  · rw [serve_profile hprofile]
    cases hinputs : inputsOfRequest profileFields r with
    | error e => exact isConsistent_of_inputsOfRequest hinputs
    | ok inputs => exact isConsistent_profile hs inputs
  by_cases hcreate : r.uri.path = "/user/create"
  · by_cases hverb : r.verb = "POST"
    · by_cases htoken : r.header? "X-Auth" = some (utf8 "100500")
      · rw [serve_create_of_token hcreate hverb htoken]
        cases hinputs : inputsOfRequest createFields r with
        | error e => exact isConsistent_of_inputsOfRequest hinputs
        | ok inputs =>
          dsimp only
          split
          · exact isConsistent_takenReply _
          · exact isConsistent_createdReply _
      · rw [serve_create hcreate, Route.serve_of_unauthorized
          (Directive.takesVerb_of_eq hverb) rfl htoken]
        exact Reply.isConsistent_failure (by decide) (by decide)
    · rw [serve_create hcreate, Route.serve_of_wrongVerb (by decide) hverb]
      exact Reply.isConsistent_failure (by decide) (by decide)
  by_cases hrate : r.uri.path = "/user/rate"
  · cases hinputs : inputsOfRequest rateFields r with
    | error e =>
      rw [serve_rate hrate, hinputs]
      exact isConsistent_of_inputsOfRequest hinputs
    | ok inputs =>
      have hadmitted := inputsOfRequest_eq_ok_iff_admitted.mp hinputs
      obtain ⟨n, stars, hn, -, -, -, hstars, hone, hfive⟩ := exists_rating hadmitted
      rw [serve_rate_of_admitted hrate hadmitted hn hstars]
      exact Reply.isConsistent_success (isExact_rating (by omega) hone hfive _)
  rw [serve_of_unknownPath hprofile hcreate hrate]
  exact Reply.isConsistent_failure (by decide) (by decide)

/-- **Only a creation changes the state.** -/
theorem serve_state (s : Store) (r : Http.Request) :
    (serve routes s r).1 = s
      ∨ r.uri.path = "/user/create" ∧ (serve routes s r).2.status = 200 := by
  rcases step_cases s (.accounts, r) with ⟨_, u, hcreates, hstep⟩ | ⟨hstate, _⟩
  · exact .inr ⟨hcreates.path, congrArg (·.2.status) hstep⟩
  · exact .inl hstate

/-- **The accounts answer by the table** while the accounts are sound. -/
theorem decides_serve (hs : UsersAreSound s) (r : Http.Request) :
    Decides s r (serve routes s r).1 (serve routes s r).2 where
  unknownPath h := by
    simp only [List.mem_cons, List.not_mem_nil, or_false, not_or] at h
    rw [serve_of_unknownPath h.1 h.2.1 h.2.2]
    rfl
  createVerb hpath hverb := by
    rw [serve_create hpath, Route.serve_of_wrongVerb (by decide) hverb]
    rfl
  createToken hpath hverb htoken := by
    rw [serve_create hpath, Route.serve_of_unauthorized
      (Directive.takesVerb_of_eq hverb) rfl htoken]
    rfl
  createRefused hpath hverb htoken := status_of_createRefused hpath hverb htoken
  createTaken hpath hverb htoken _ := status_of_createTaken hpath hverb htoken
  created hpath hverb htoken _ := status_of_created hpath hverb htoken
  profileRefused hpath := status_of_profileRefused hpath
  profileBroken hpath _ := status_of_profileBroken hpath
  profileMissing hpath _ := status_of_profileMissing hpath
  profileFound hpath _ := status_of_profileFound hpath
  rateRefused hpath h := by
    obtain ⟨e, he⟩ := exists_error_of_refused h
    rw [serve_rate hpath, he]
    rfl
  rated hpath _ h := by
    obtain ⟨hstatus, n, stars, user, hrating⟩ := decides_rated hpath h
    exact ⟨hstatus, n, stars, user, _, hrating⟩
  consistent := isConsistent_serve hs
  state := serve_state s r

end Rows

/-- **The accounts answer by one table** in every state that requests to the two
services can lead to. -/
theorem decides_of_run (qs : List (Service × Http.Request)) (r : Http.Request) :
    let s := (run Store.initial qs).1
    Decides s r (step s .accounts r).1 (step s .accounts r).2 :=
  decides_serve (run_keeps usersAreSound_step usersAreSound_initial qs) r

end Switchboard.Accounts
