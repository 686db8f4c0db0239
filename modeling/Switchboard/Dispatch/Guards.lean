import Switchboard.Dispatch.Code
import Switchboard.Guard
import Switchboard.Text.Quoted

/-!
# Guard functions

Two functions stand around the methods that answer: one lets a request through
only with the token, the other answers when a method panics. They are emitted
whether they are used or not.
-/

namespace Switchboard.Dispatch

open Text (quote)

/-- A guard function: what is done with a request and the method behind. -/
def guardCode (name : String) (inside : List Code) : List Code :=
  [.line "#[allow(dead_code)]",
   .line ("fn " ++ name
     ++ "<B, F>(req: &Request<B>, next: F) -> Response<String>"),
   .line "where",
   .line "    F: FnOnce(&Request<B>) -> Response<String>,",
   .block "\x7b" inside "\x7d"]

/-- The guard that checks the token. -/
def tokenGuard : List Code :=
  guardCode "auth_middleware"
    [.line ("let token = req.headers().get(" ++ quote tokenHeader
       ++ ").map(|value| value.as_bytes()).unwrap_or_default();"),
     .block ("if !apigen_rt::constant_time_eq(token, b" ++ quote token
         ++ ") \x7b")
       [.line ("apigen_rt::tracing::debug!"
          ++ "(path = req.uri().path(), \"no auth\");"),
        .line ("return apigen_rt::respond_error(StatusCode::FORBIDDEN, "
          ++ "\"unauthorized\");")]
       "\x7d",
     .line "next(req)"]

/-- The guard that answers when a method panics. -/
def panicGuard : List Code :=
  guardCode "error_middleware"
    [.block ("match std::panic::catch_unwind"
         ++ "(std::panic::AssertUnwindSafe(|| next(req))) \x7b")
       [.line "Ok(response) => response,",
        .block "Err(payload) => \x7b"
          [.line "let message = apigen_rt::panic_message(&*payload);",
           .line ("apigen_rt::tracing::error!(path = req.uri().path(), "
             ++ "panic = %message, \"recovered from panic\");"),
           .line ("apigen_rt::respond_error"
             ++ "(StatusCode::INTERNAL_SERVER_ERROR, message)")]
          "\x7d"]
       "\x7d"]

/-- **Both guards.** -/
def guardsCode : List Code := tokenGuard ++ [.blank] ++ panicGuard

end Switchboard.Dispatch
