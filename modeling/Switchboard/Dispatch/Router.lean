import Switchboard.Dispatch.Code
import Switchboard.Dispatch.Names
import Switchboard.Dispatch.Service
import Switchboard.Text.Quoted

/-!
# Routers

A router asks for the path of a request, branch by branch, and the first branch
of that path answers: with a refusal when it asks for another verb, else with
what its target answers, after the token was checked where one is needed.
-/

namespace Switchboard.Dispatch

open Text (quote)

/-- **A branch of a router.** -/
structure Branch where
  /-- The path it is taken for. -/
  url : String
  /-- The verb it asks for, if it does. -/
  verb : Option String
  /-- Whether the token is checked first. -/
  guarded : Bool
  /-- The method that answers. -/
  target : String
deriving DecidableEq, Repr

/-- The branch of a handler. -/
def branchOf (h : Handler) : Branch where
  url := h.directive.url
  verb := if h.directive.verb = "" then none else some h.directive.verb
  guarded := h.directive.auth
  target := methodName h.name

/-- **The branches of a service.** -/
def branches (s : Service) : List Branch :=
  s.endpoints.map fun e => branchOf e.handler

/-- The parameters and the result of a method that answers requests. -/
def answerSignature : String :=
  "<B: AsRef<[u8]>>(&self, req: &Request<B>) -> Response<String> \x7b"

/-- The test for the verb of a branch. -/
def verbCode (verb : String) : Code :=
  .block ("if req.method().as_str() != " ++ quote verb ++ " \x7b")
    [.line ("return apigen_rt::respond_error(StatusCode::METHOD_NOT_ALLOWED, "
      ++ "\"bad method\");")]
    "\x7d"

/-- The call of a target, with what stands around it. -/
def callText (b : Branch) : String :=
  let call := "self." ++ b.target ++ "(req)"
  if b.guarded then "auth_middleware(req, |req| " ++ call ++ ")" else call

/-- **The code of a branch.** -/
def branchCode (b : Branch) : Code :=
  .block ("if req.uri().path() == " ++ quote b.url ++ " \x7b")
    ((b.verb.map verbCode).toList
      ++ [.line ("return error_middleware(req, |req| " ++ callText b ++ ");")])
    "\x7d"

/-- A block of methods of a receiver. -/
def methodsOf (receiver : String) (methods : List Code) : Code :=
  .block ("impl " ++ receiver ++ " \x7b") methods "\x7d"

/-- **The code of a router.** -/
def routerCode (s : Service) : Code :=
  methodsOf s.receiver
    [.line "/// Dispatches a request to the handler registered for its path.",
     .block ("pub fn serve_http" ++ answerSignature)
       ((branches s).map branchCode ++
         [.line ("apigen_rt::respond_error(StatusCode::NOT_FOUND, "
           ++ "\"unknown method\")")])
       "\x7d"]

end Switchboard.Dispatch
