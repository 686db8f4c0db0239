import Switchboard.Dispatch.Guards
import Switchboard.Dispatch.Handler

/-!
# The emitted module

The code of an API is a banner with what it needs, a router for each service,
the methods that answer for each service, and the guards. It is appended to
what has been written before, or not at all: an API with a link that leads
nowhere leaves the output as it was.
-/

namespace Switchboard.Dispatch

/-- **The banner**: the file that the API was read from and its module. -/
def banner (moduleName label : String) : String :=
  "// Code generated by apigen from " ++ label ++ " (module \x60" ++ moduleName
    ++ "\x60). DO NOT EDIT."

/-- What the module takes from elsewhere. -/
def importsCode : List Code :=
  ["use super::*;",
   "use apigen_rt::http::\x7bRequest, Response, StatusCode\x7d;",
   "use apigen_rt::\x7bContext, InputField, Kind\x7d;"].flatMap fun text =>
    [.line "#[allow(unused_imports)]", .line text]

/-- **The code of services** below the banner. -/
def servicesCode (services : List Service) : List Code :=
  (services.flatMap fun s => [.blank, routerCode s])
    ++ (services.flatMap fun s => [.blank, endpointsCode s])
    ++ [.blank] ++ guardsCode

/-- **The code of a module.** -/
def moduleCode (moduleName label : String) (services : List Service) : List Code :=
  [.line (banner moduleName label), .blank] ++ importsCode
    ++ servicesCode services

/-- **An API appended to what has been written**, or the refusal. -/
def Output.emit (o : Output) (api : Api) (label : String) :
    Output × Option GenerationError :=
  match api.services with
  | .ok services => (o.writeAll (moduleCode api.moduleName label services), none)
  | .error e => (o, some e)

/-- **The text of an API's module.** -/
def render (api : Api) (label : String) : Except GenerationError String :=
  match Output.empty.emit api label with
  | (o, none) => .ok o.text
  | (_, some e) => .error e

end Switchboard.Dispatch
