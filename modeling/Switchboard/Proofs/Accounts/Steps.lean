import Switchboard.Accounts
import Switchboard.Proofs.Routing

/-!
# What one request does to the accounts

A request to the accounts goes to one of three routes by its path, and to none
by any other path (`serve_create` and its siblings). Only one of the three
changes the store, and only in one way: it adds an account under a login that
is not taken, numbered with the next number (`Creates`). Everything a request
can do is therefore one of two things (`step_cases`): it creates an account and
says so, or it leaves the store as it was and reports no creation. What holds of
all runs is derived from these two cases (`run_keeps`).
-/

namespace Switchboard.Accounts

open Text

variable {s : Store} {r : Http.Request}

/-! ## Routes by path -/

/-- The route that creates accounts. -/
def createRoute : Route Store :=
  ⟨⟨"/user/create", true, "POST"⟩, handler createFields create⟩

/-- The route that makes characters. -/
def characterRoute : Route Unit :=
  ⟨⟨"/user/create", true, "POST"⟩, handler characterFields createCharacter⟩

/-- A look-up needs neither a verb nor a token. -/
theorem serve_profile (h : r.uri.path = "/user/profile") (s : Store) :
    serve routes s r
      = match inputsOfRequest profileFields r with
        | .error e => (s, e.reply)
        | .ok inputs => (profile s r inputs).settle s := by
  rw [serve, h]
  show Route.serve ⟨⟨"/user/profile", false, ""⟩, handler profileFields profile⟩
    s r = _
  exact Route.serve_handler rfl (fun e => absurd e Bool.false_ne_true) s

theorem serve_create (h : r.uri.path = "/user/create") (s : Store) :
    serve routes s r = createRoute.serve s r := by
  rw [serve, h]
  rfl

/-- A rating needs neither a verb nor a token. -/
theorem serve_rate (h : r.uri.path = "/user/rate") (s : Store) :
    serve routes s r
      = match inputsOfRequest rateFields r with
        | .error e => (s, e.reply)
        | .ok inputs => (rate s r inputs).settle s := by
  rw [serve, h]
  show Route.serve ⟨⟨"/user/rate", false, ""⟩, handler rateFields rate⟩ s r = _
  exact Route.serve_handler rfl (fun e => absurd e Bool.false_ne_true) s

theorem serve_character (h : r.uri.path = "/user/create") :
    serve characterRoutes () r = characterRoute.serve () r := by
  rw [serve, h]
  rfl

/-- No other path leads anywhere. -/
theorem serve_of_unknownPath (hprofile : r.uri.path ≠ "/user/profile")
    (hcreate : r.uri.path ≠ "/user/create") (hrate : r.uri.path ≠ "/user/rate")
    (s : Store) : serve routes s r = (s, unknownPath) := by
  have hnone : (routes.find? fun route => route.directive.url == r.uri.path)
      = none := by
    simp [routes, Ne.symm hprofile, Ne.symm hcreate, Ne.symm hrate]
  rw [serve, hnone]

/-! ## Routes that only read -/

/-- Looking an account up leaves the store as it was, also where it panics. -/
theorem settle_profile_fst (s : Store) (r : Http.Request) (inputs : InputMap) :
    ((profile s r inputs).settle s).1 = s := by
  unfold profile
  dsimp only
  split
  · rfl
  · split
    · rfl
    · split <;> rfl

/-- **Looking up and rating leave the store as it was.** -/
theorem serve_state_of_ne_create (h : r.uri.path ≠ "/user/create") (s : Store) :
    (serve routes s r).1 = s := by
  by_cases hprofile : r.uri.path = "/user/profile"
  · rw [serve_profile hprofile]
    cases inputsOfRequest profileFields r with
    | error e => rfl
    | ok inputs => exact settle_profile_fst s r inputs
  · by_cases hrate : r.uri.path = "/user/rate"
    · rw [serve_rate hrate]
      cases inputsOfRequest rateFields r with
      | error e => rfl
      | ok inputs => rfl
    · rw [serve_of_unknownPath hprofile h hrate]

/-! ## The route that creates -/

/-- The store with an account added. -/
def Store.add (s : Store) (u : User) : Store :=
  ⟨s.users.insert u.login u, s.nextId + 1⟩

/-- The reply to a request that creates an account. -/
def User.createdReply (u : User) : Reply :=
  .success (.object [("id", .int u.id.toNat)])

/-- The reply to a request for an account whose login is taken. -/
def User.takenReply (u : User) : Reply :=
  .failure 409 ("user " ++ u.login ++ " exist")

/-- **A request that creates an account**: it goes to the right place with the
right verb and token, its form describes the account, and the login is not
taken. -/
structure Creates (s : Store) (r : Http.Request) (u : User) : Prop where
  /-- It goes to the route that creates. -/
  path : r.uri.path = "/user/create"
  /-- It has the verb. -/
  verb : r.verb = "POST"
  /-- It has the token. -/
  token : r.header? tokenHeader = some (utf8 token)
  /-- Its form describes the account. -/
  account : ∃ inputs, inputsOfRequest createFields r = .ok inputs
    ∧ u = newUser s.nextId inputs
  /-- The login is not taken. -/
  fresh : u.login ∉ s.users.keys

/-- What creating comes to, once verb and token are right. -/
theorem serve_create_of_token (hpath : r.uri.path = "/user/create")
    (hverb : r.verb = "POST")
    (htoken : r.header? tokenHeader = some (utf8 token)) (s : Store) :
    serve routes s r
      = match inputsOfRequest createFields r with
        | .error e => (s, e.reply)
        | .ok inputs =>
          let u := newUser s.nextId inputs
          if s.users.contains u.login then (s, u.takenReply)
          else (s.add u, u.createdReply) := by
  rw [serve_create hpath, createRoute,
    Route.serve_handler (Directive.takesVerb_of_eq hverb) (fun _ => htoken)]
  cases inputsOfRequest createFields r with
  | error e => rfl
  | ok inputs =>
    dsimp only
    unfold create
    dsimp only
    split <;> rfl

/-- A request that creates an account adds it and says so. -/
theorem Creates.step_eq {u : User} (h : Creates s r u) :
    step s .accounts r = (s.add u, u.createdReply) := by
  obtain ⟨inputs, hinputs, hu⟩ := h.account
  have hfresh : s.users.contains (newUser s.nextId inputs).login = false := by
    rw [← Bool.not_eq_true, OrderedMap.contains_iff, ← hu]
    exact h.fresh
  show serve routes s r = _
  rw [serve_create_of_token h.path h.verb h.token, hinputs]
  dsimp only
  rw [hfresh, ← hu]
  rfl

/-- **Whether a reply reports that a request created an account.** -/
def reportsCreation (q : Service × Http.Request) (reply : Reply) : Bool :=
  q.1 == .accounts && q.2.uri.path == "/user/create" && reply.status == 200

theorem reportsCreation_iff {q : Service × Http.Request} {reply : Reply} :
    reportsCreation q reply = true
      ↔ q.1 = .accounts ∧ q.2.uri.path = "/user/create" ∧ reply.status = 200 := by
  rw [reportsCreation, Bool.and_eq_true, Bool.and_eq_true, beq_iff_eq, beq_iff_eq,
    beq_iff_eq, and_assoc]

/-- A failure reports no creation. -/
theorem reportsCreation_of_status {q : Service × Http.Request} {reply : Reply}
    (h : reply.status ≠ 200) : reportsCreation q reply = false := by
  rw [← Bool.not_eq_true, reportsCreation_iff]
  exact fun hall => h hall.2.2

/-- **Everything a request can do**: it creates an account, or it leaves the
store as it was and reports no creation. -/
theorem step_cases (s : Store) (q : Service × Http.Request) :
    (q.1 = .accounts ∧ ∃ u, Creates s q.2 u
        ∧ step s q.1 q.2 = (s.add u, u.createdReply))
      ∨ ((step s q.1 q.2).1 = s
        ∧ reportsCreation q (step s q.1 q.2).2 = false) := by
  obtain ⟨service, r⟩ := q
  cases service with
  | characters => exact .inr ⟨rfl, rfl⟩
  | accounts =>
    show _ ∨ (serve routes s r).1 = s
      ∧ reportsCreation (.accounts, r) (serve routes s r).2 = false
    -- path, verb, token, form and login, in the order they are looked at
    by_cases hpath : r.uri.path = "/user/create"
    · by_cases hverb : r.verb = "POST"
      · by_cases htoken : r.header? tokenHeader = some (utf8 token)
        · cases hinputs : inputsOfRequest createFields r with
          | error e =>
            rw [serve_create_of_token hpath hverb htoken, hinputs]
            exact .inr ⟨rfl, reportsCreation_of_status (show 400 ≠ 200 by decide)⟩
          | ok inputs =>
            by_cases hkey : (newUser s.nextId inputs).login ∈ s.users.keys
            · rw [serve_create_of_token hpath hverb htoken, hinputs]
              dsimp only
              rw [OrderedMap.contains_iff.mpr hkey]
              exact .inr ⟨rfl, reportsCreation_of_status (show 409 ≠ 200 by decide)⟩
            · have hcreates : Creates s r (newUser s.nextId inputs) :=
                ⟨hpath, hverb, htoken, ⟨inputs, hinputs, rfl⟩, hkey⟩
              exact .inl ⟨rfl, _, hcreates, hcreates.step_eq⟩
        · rw [serve_create hpath, Route.serve_of_unauthorized
            (Directive.takesVerb_of_eq hverb) rfl htoken]
          exact .inr ⟨rfl, reportsCreation_of_status (show 403 ≠ 200 by decide)⟩
      · rw [serve_create hpath, Route.serve_of_wrongVerb (by decide) hverb]
        exact .inr ⟨rfl, reportsCreation_of_status (show 405 ≠ 200 by decide)⟩
    · refine .inr ⟨serve_state_of_ne_create hpath s, ?_⟩
      rw [← Bool.not_eq_true, reportsCreation_iff]
      exact fun hall => hpath hall.2.1

/-- **What is answered 200 where accounts are created is a creation.** -/
theorem creates_of_status (hpath : r.uri.path = "/user/create")
    (hstatus : (step s .accounts r).2.status = 200) :
    ∃ u, Creates s r u ∧ step s .accounts r = (s.add u, u.createdReply) := by
  rcases step_cases s (.accounts, r) with ⟨_, hcreates⟩ | ⟨_, hnone⟩
  · exact hcreates
  · rw [reportsCreation_iff.mpr ⟨rfl, hpath, hstatus⟩] at hnone
    exact absurd hnone (by decide)

/-! ## Runs -/

theorem run_cons (s : Store) (q : Service × Http.Request)
    (rest : List (Service × Http.Request)) :
    run s (q :: rest)
      = ((run (step s q.1 q.2).1 rest).1,
        (step s q.1 q.2).2 :: (run (step s q.1 q.2).1 rest).2) := rfl

/-- Every request of a run is answered. -/
theorem length_run (s : Store) (qs : List (Service × Http.Request)) :
    (run s qs).2.length = qs.length := by
  induction qs generalizing s with
  | nil => rfl
  | cons q rest ih => rw [run_cons, List.length_cons, ih, List.length_cons]

/-- **What every request keeps, every run keeps.** -/
theorem run_keeps {P : Store → Prop}
    (hstep : ∀ (s : Store) (q : Service × Http.Request), P s →
      P (step s q.1 q.2).1)
    {s : Store} (h : P s) (qs : List (Service × Http.Request)) :
    P (run s qs).1 := by
  induction qs generalizing s with
  | nil => exact h
  | cons q rest ih =>
    rw [run_cons]
    exact ih (hstep s q h)

end Switchboard.Accounts
