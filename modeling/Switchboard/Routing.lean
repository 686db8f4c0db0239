import Switchboard.Intake

/-!
# Routing requests

A service is a row of routes over a state. A request goes to the first route
whose path is its own, and nowhere else: a wrong verb is answered there, even
where a later route would take it. After the verb comes the token, and only
then the handler. A handler that panics leaves the state as it was.
-/

namespace Switchboard

/-- **What comes of calling a handler.** -/
inductive Outcome (σ : Type) where
  /-- A reply, and the state from then on. -/
  | reply (state : σ) (reply : Reply)
  /-- A panic. -/
  | panic (p : Panic)

/-- **A route of a service.** -/
structure Route (σ : Type) where
  /-- Where it is reached. -/
  directive : Directive
  /-- What it does. -/
  handle : σ → Http.Request → Outcome σ

/-- The reply to a request for no route. -/
def unknownPath : Reply := .failure 404 "unknown method"

/-- The reply to a request with another verb than its route asks for. -/
def wrongVerb : Reply := .failure 405 "bad method"

/-- Whether a route takes a verb. -/
def Directive.takesVerb (d : Directive) (verb : String) : Bool :=
  d.verb == "" || d.verb == verb

variable {σ : Type}

/-- The state and the reply after a handler was called. -/
def Outcome.settle (state : σ) : Outcome σ → σ × Reply
  | reply state r => (state, r)
  | panic p => (state, .ofPanic p)

/-- **What a route answers.** -/
def Route.serve (route : Route σ) (state : σ) (r : Http.Request) : σ × Reply :=
  if !route.directive.takesVerb r.verb then (state, wrongVerb)
  else if route.directive.auth && !authorized r then (state, unauthorized)
  else (route.handle state r).settle state

/-- **What a service answers.** -/
def serve (routes : List (Route σ)) (state : σ) (r : Http.Request) : σ × Reply :=
  match routes.find? fun route => route.directive.url == r.uri.path with
  | none => (state, unknownPath)
  | some route => route.serve state r

/-- What a handler answers: a value, an error, or a panic. -/
inductive Result (σ : Type) where
  /-- A value, and the state from then on. -/
  | value (state : σ) (v : Json)
  /-- An error, which leaves the state as it was. -/
  | error (e : BusinessError)
  /-- A panic. -/
  | panic (p : Panic)

/-- **A handler of fields**: it gets their inputs, and what it answers is put
into a reply. -/
def handler (fields : List Field)
    (work : σ → Http.Request → InputMap → Result σ) (state : σ)
    (r : Http.Request) : Outcome σ :=
  match inputsOfRequest fields r with
  | .error e => .reply state e.reply
  | .ok inputs =>
    match work state r inputs with
    | .value state v => .reply state (.success v)
    | .error e => .reply state (.ofError e)
    | .panic p => .panic p

end Switchboard
