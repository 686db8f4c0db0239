import Switchboard.Proofs.Dispatch.Resolution
import Switchboard.Proofs.Text.Quoted
import Switchboard.Routing

/-!
# What a router answers

A router is code, and what it answers is a matter of reading that code: line by
line from the top, a test for the path or the verb of the request decides whether
the lines inside its block are read, and the first line that returns ends it. The
texts that the tests compare with are the literals in their lines.

Read so, a router asks for nothing but the first of its endpoints on the path of the
request (`readRouter_routerCode`). The test for the verb stands inside the test for
the path, so a wrong verb is answered there, and an endpoint with another one on the
same path behind it is never reached. An endpoint is served when it is the first of
its receiver on its path (`dispatch_of_source`); that its verb is its own among those
on the path is not enough (`not_every_handler_is_served`).
-/

namespace Switchboard

open Text (join)

/-- **Directives that a request can meet both**, as far as its verb goes. -/
def Directive.Overlaps (d e : Directive) : Prop :=
  ∃ verb, d.takesVerb verb = true ∧ e.takesVerb verb = true

namespace Dispatch

open Text

/-! ## Reading code -/

/-- What stands in a line between a fixed beginning and a fixed end. -/
def between? (before after line : String) : Option (List Char) := do
  after.toList.isSuffixOf? (← before.toList.isPrefixOf? line.toList)

theorem between?_eq_some_iff {before after line : String} {cs : List Char} :
    between? before after line = some cs
      ↔ line.toList = before.toList ++ cs ++ after.toList := by
  rw [between?, Option.bind_eq_bind, Option.bind_eq_some_iff]
  simp only [List.isPrefixOf?_eq_some_iff_append_eq, List.isSuffixOf?_eq_some_iff_append_eq]
  constructor
  · rintro ⟨_, hline, rfl⟩
    rw [← hline, List.append_assoc]
  · intro h
    exact ⟨_, (List.append_assoc .. ▸ h).symm, rfl⟩

/-- A line that begins with another character has no such beginning. -/
theorem between?_of_head? {before after line : String} (hbefore : before.toList ≠ [])
    (h : line.toList.head? ≠ before.toList.head?) : between? before after line = none := by
  rw [Option.eq_none_iff_forall_not_mem]
  intro cs hcs
  rw [between?_eq_some_iff.mp hcs, List.append_assoc, List.head?_append_of_ne_nil _ hbefore] at h
  exact h rfl

/-- **What a line asks of a request** when it opens a block. -/
inductive Question where
  /-- Is this its path? -/
  | path (url : String)
  /-- Is its verb another than this? -/
  | otherVerb (verb : String)
deriving DecidableEq, Repr

/-- The question of a line, with the text that its literal stands for. -/
def Question.read? (line : String) : Option Question :=
  match between? "if req.uri().path() == " " \x7b" line,
    between? "if req.method().as_str() != " " \x7b" line with
  | some literal, _ => (unquote? literal).map .path
  | none, some literal => (unquote? literal).map .otherVerb
  | none, none => none

/-- The answer to a question for a request with a path and a verb. -/
def Question.answer (path verb : String) : Question → Bool
  | .path url => path == url
  | .otherVerb asked => verb != asked

/-- **What reading code comes to.** -/
inductive Reading where
  /-- The code ends nothing, and what follows it is read. -/
  | goesOn
  /-- The method ends with the value of an expression. -/
  | value (expression : String)
  /-- The code is none that can be read. -/
  | unreadable
deriving DecidableEq, Repr

/-- What reading a line comes to: a value that is returned, or one that stands at the
end of the method without a semicolon. -/
def readLine (line : String) : Reading :=
  match between? "return " ";" line with
  | some expression => .value (String.ofList expression)
  | none => if line.toList.getLast? = some ';' then .unreadable else .value line

/-- Readings one after the other. -/
def Reading.andThen : Reading → Reading → Reading
  | goesOn, next => next
  | r, _ => r

mutual

/-- **What reading code comes to** for a request with a path and a verb. -/
def Code.read (path verb : String) : Code → Reading
  | .line text => readLine text
  | .blank => .goesOn
  | .block opening inside _ =>
    match Question.read? opening with
    | some q => if q.answer path verb then readAll path verb inside else .goesOn
    | none => .unreadable

/-- Pieces of code read from top to bottom. -/
def Code.readAll (path verb : String) : List Code → Reading
  | [] => .goesOn
  | c :: rest => (c.read path verb).andThen (readAll path verb rest)

end

/-- The body of the method that serves requests, if code is that method. -/
def serveBody? : Code → Option (List Code)
  | .block opening body _ =>
    if "pub fn serve_http".toList.isPrefixOf opening.toList then some body else none
  | _ => none

/-- **What a router answers** to a request with a path and a verb. -/
def readRouter (path verb : String) : Code → Reading
  | .block _ methods _ =>
    match methods.findSome? serveBody? with
    | some body => Code.readAll path verb body
    | none => .unreadable
  | _ => .unreadable

/-! ## Reading branches -/

/-- What a router answers when it has no branch on a path. -/
def unknownPathExpression : String :=
  "apigen_rt::respond_error(StatusCode::NOT_FOUND, \"unknown method\")"

/-- What a branch answers to a verb it does not take. -/
def wrongVerbExpression : String :=
  "apigen_rt::respond_error(StatusCode::METHOD_NOT_ALLOWED, \"bad method\")"

/-- **The call of a handler's method**, inside the guards that stand around it. -/
def callExpression (h : Handler) : String :=
  let call := "self." ++ methodName h.name ++ "(req)"
  "error_middleware(req, |req| "
    ++ (if h.directive.auth then "auth_middleware(req, |req| " ++ call ++ ")" else call)
    ++ ")"

theorem read?_path (url : String) :
    Question.read? ("if req.uri().path() == " ++ quote url ++ " \x7b")
      = some (.path url) := by
  have hpath : between? "if req.uri().path() == " " \x7b"
      ("if req.uri().path() == " ++ quote url ++ " \x7b") = some (quote url).toList := by
    rw [between?_eq_some_iff, String.toList_append, String.toList_append]
  rw [Question.read?, hpath]
  dsimp only
  rw [unquote?_quote, Option.map_some]

theorem read?_otherVerb (verb : String) :
    Question.read? ("if req.method().as_str() != " ++ quote verb ++ " \x7b")
      = some (.otherVerb verb) := by
  have hpath : between? "if req.uri().path() == " " \x7b"
      ("if req.method().as_str() != " ++ quote verb ++ " \x7b") = none := by
    rw [between?, String.toList_append, String.toList_append, List.append_assoc]
    rfl
  have hverb : between? "if req.method().as_str() != " " \x7b"
      ("if req.method().as_str() != " ++ quote verb ++ " \x7b")
        = some (quote verb).toList := by
    rw [between?_eq_some_iff, String.toList_append, String.toList_append]
  rw [Question.read?, hpath, hverb]
  dsimp only
  rw [unquote?_quote, Option.map_some]

theorem readLine_return (expression : String) :
    readLine ("return " ++ expression ++ ";") = .value expression := by
  have hreturn : between? "return " ";" ("return " ++ expression ++ ";")
      = some expression.toList := by
    rw [between?_eq_some_iff, String.toList_append, String.toList_append]
  rw [readLine, hreturn]
  dsimp only
  rw [String.ofList_toList]

/-- A branch on another path is passed over. -/
theorem read_branchCode_of_ne {path : String} {h : Handler}
    (hurl : h.directive.url ≠ path) (verb : String) :
    (branchCode (branchOf h)).read path verb = .goesOn := by
  have hno : Question.answer path verb (.path (branchOf h).url) = false :=
    beq_eq_false_iff_ne.mpr (Ne.symm hurl)
  rw [branchCode, Code.read, read?_path]
  dsimp only
  rw [hno]
  rfl

/-- The call of a branch is read as the expression it returns. -/
theorem read_call (h : Handler) (path verb : String) :
    Code.read path verb
        (.line ("return error_middleware(req, |req| " ++ callText (branchOf h) ++ ");"))
      = .value (callExpression h) := by
  have hline : "return error_middleware(req, |req| " ++ callText (branchOf h) ++ ");"
      = "return " ++ callExpression h ++ ";" := by
    have hopening : "return error_middleware(req, |req| "
        = "return " ++ "error_middleware(req, |req| " := by decide
    have hclosing : ");" = ")" ++ ";" := by decide
    have hcall : callExpression h
        = "error_middleware(req, |req| " ++ callText (branchOf h) ++ ")" := rfl
    rw [hopening, hclosing, hcall]
    simp only [String.append_assoc]
  rw [Code.read, hline, readLine_return]

/-- The test for a verb refuses every other verb. -/
theorem read_verbCode (asked path verb : String) :
    (verbCode asked).read path verb
      = if verb = asked then .goesOn else .value wrongVerbExpression := by
  have hrefusal : Code.read path verb
      (.line ("return apigen_rt::respond_error(StatusCode::METHOD_NOT_ALLOWED, "
        ++ "\"bad method\");")) = .value wrongVerbExpression := by
    have hline : "return apigen_rt::respond_error(StatusCode::METHOD_NOT_ALLOWED, "
        ++ "\"bad method\");" = "return " ++ wrongVerbExpression ++ ";" := by decide
    rw [Code.read, hline, readLine_return]
  rw [verbCode, Code.read, read?_otherVerb]
  dsimp only
  rw [Code.readAll, hrefusal]
  by_cases h : verb = asked
  · rw [if_pos h, if_neg (by simpa [Question.answer] using h)]
  · rw [if_neg h, if_pos (by simpa [Question.answer] using h)]
    rfl

/-- **A branch on the path of a request ends the router**, with a refusal when the
verb is wrong. -/
theorem read_branchCode (h : Handler) (verb : String) :
    (branchCode (branchOf h)).read h.directive.url verb
      = .value (if h.directive.takesVerb verb then callExpression h
          else wrongVerbExpression) := by
  have hyes : Question.answer h.directive.url verb (.path (branchOf h).url) = true :=
    beq_self_eq_true _
  rw [branchCode, Code.read, read?_path]
  dsimp only
  rw [if_pos hyes]
  by_cases hany : h.directive.verb = ""
  · have htakes : h.directive.takesVerb verb = true := by
      rw [Directive.takesVerb, hany]
      rfl
    have hverb : (branchOf h).verb = none := if_pos hany
    rw [hverb, htakes, if_pos rfl, Option.map_none, Option.toList_none, List.nil_append,
      Code.readAll, read_call]
    rfl
  · have hverb : (branchOf h).verb = some h.directive.verb := if_neg hany
    rw [hverb, Option.map_some, Option.toList_some, List.singleton_append, Code.readAll,
      Code.readAll, read_verbCode, read_call]
    have htakes : h.directive.takesVerb verb = true ↔ verb = h.directive.verb := by
      rw [Directive.takesVerb, Bool.or_eq_true, beq_iff_eq, beq_iff_eq, eq_comm (b := verb)]
      exact or_iff_right hany
    by_cases hsame : verb = h.directive.verb
    · rw [if_pos hsame, if_pos (htakes.mpr hsame)]
      rfl
    · rw [if_neg hsame, if_neg (fun ht => hsame (htakes.mp ht))]
      rfl

/-- **The first branch on the path of a request answers it.** -/
theorem readAll_branches (path verb : String) (hs : List Handler) :
    Code.readAll path verb ((hs.map fun h => branchCode (branchOf h))
        ++ [.line ("apigen_rt::respond_error(StatusCode::NOT_FOUND, "
          ++ "\"unknown method\")")])
      = .value (match hs.find? fun h => h.directive.url == path with
        | none => unknownPathExpression
        | some h => if h.directive.takesVerb verb then callExpression h
            else wrongVerbExpression) := by
  induction hs with
  | nil =>
    have hunknown : readLine ("apigen_rt::respond_error(StatusCode::NOT_FOUND, "
        ++ "\"unknown method\")") = .value unknownPathExpression := by decide +kernel
    rw [List.map_nil, List.nil_append, Code.readAll, Code.read, hunknown]
    rfl
  | cons h rest ih =>
    rw [List.map_cons, List.cons_append, Code.readAll]
    by_cases hurl : h.directive.url = path
    · rw [← hurl, read_branchCode, List.find?_cons_of_pos (by simp)]
      rfl
    · rw [read_branchCode_of_ne hurl, List.find?_cons_of_neg (by simpa using hurl)]
      exact ih

/-- **What a router answers**: the first endpoint on the path of a request decides,
by the verb it asks for. -/
theorem readRouter_routerCode (s : Service) (path verb : String) :
    readRouter path verb (routerCode s)
      = .value (match (s.endpoints.map Endpoint.handler).find?
            fun h => h.directive.url == path with
        | none => unknownPathExpression
        | some h => if h.directive.takesVerb verb then callExpression h
            else wrongVerbExpression) := by
  have hbranches : (branches s).map branchCode
      = (s.endpoints.map Endpoint.handler).map fun h => branchCode (branchOf h) := by
    rw [branches, List.map_map, List.map_map]
    rfl
  rw [← readAll_branches, ← hbranches]
  rfl

end Dispatch

open Dispatch

/-! ## Routers of a source -/

/-- The handlers of a service are those of its receiver. -/
theorem handlers_of_servicesOf {hs : List Handler} {es : List Endpoint}
    (h : es.map Endpoint.handler = hs) (receiver : String) :
    (es.filter fun e => e.receiver == receiver).map Endpoint.handler
      = hs.filter fun h => h.receiver == receiver := by
  rw [← h, List.filter_map]
  rfl

/-- **Every handler of a source has a router** in the module, which is that of all
handlers of its receiver. -/
theorem Api.exists_router_of_source {moduleName source file : String} {api : Api}
    (h : Api.ofSource moduleName source file = .ok api) (label : String) :
    ∃ text services, render api label = .ok text ∧ api.services = .ok services
      ∧ ∀ g ∈ api.handlers, ∃ s ∈ services, s.receiver = g.receiver
        ∧ s.endpoints.map Endpoint.handler
          = api.handlers.filter (fun f => f.receiver == g.receiver)
        ∧ (routerCode s).chars 0 <:+: text.toList := by
  obtain ⟨-, es, hes, -⟩ := exists_endpoints_of_source h
  have hhandlers : es.map Endpoint.handler = api.handlers := by
    rw [eq_comm, ← List.forall₂_eq_eq_eq, List.forall₂_map_right_iff]
    exact hes.imp fun _ _ he => (handler_of_endpoint he).symm
  refine ⟨_, _, render_eq_ok hes label, services_eq_ok hes, fun g hg => ?_⟩
  rw [← hhandlers, List.mem_map] at hg
  obtain ⟨e, he, rfl⟩ := hg
  have hs : (⟨e.receiver, es.filter fun d => d.receiver == e.receiver⟩ : Service)
      ∈ servicesOf es := List.mem_map.mpr ⟨_, mem_keysOf.mpr ⟨e, he, rfl⟩, rfl⟩
  refine ⟨_, hs, rfl, handlers_of_servicesOf hhandlers _, infix_moduleText ?_⟩
  unfold servicesCode
  simp only [List.mem_append, List.mem_flatMap]
  exact .inl (.inl (.inl ⟨_, hs, by simp⟩))

/-- **A handler is served when it is the first of its receiver on its path.** Of every
source that is accepted, the router of a handler's receiver calls it for each request
on its path with a verb it takes, provided that no handler before it is on the same
path. On any path the first handler there decides alone: it is called, or the verb is
refused; on a path without a handler nothing is. -/
theorem dispatch_of_source {moduleName source file : String} {api : Api}
    (h : Api.ofSource moduleName source file = .ok api) (label : String) :
    ∃ text services, render api label = .ok text ∧ api.services = .ok services
      ∧ ∀ g ∈ api.handlers, ∃ s ∈ services, s.receiver = g.receiver
        ∧ s.endpoints.map Endpoint.handler
          = api.handlers.filter (fun f => f.receiver == g.receiver)
        ∧ (routerCode s).chars 0 <:+: text.toList
        ∧ (∀ before after, s.endpoints.map Endpoint.handler = before ++ g :: after →
            (∀ f ∈ before, f.directive.url ≠ g.directive.url) →
            ∀ verb, g.directive.takesVerb verb = true →
              readRouter g.directive.url verb (routerCode s) = .value (callExpression g))
        ∧ ∀ path verb, readRouter path verb (routerCode s)
            = .value (match (s.endpoints.map Endpoint.handler).find?
                  fun f => f.directive.url == path with
              | none => unknownPathExpression
              | some f => if f.directive.takesVerb verb then callExpression f
                  else wrongVerbExpression) := by
  obtain ⟨text, services, hrender, hservices, hrouters⟩ :=
    Api.exists_router_of_source h label
  refine ⟨text, services, hrender, hservices, fun g hg => ?_⟩
  obtain ⟨s, hs, hreceiver, hhandlers, htext⟩ := hrouters g hg
  refine ⟨s, hs, hreceiver, hhandlers, htext, ?_, readRouter_routerCode s⟩
  intro before after hsplit hbefore verb hverb
  have hfind : (s.endpoints.map Endpoint.handler).find?
      (fun f => f.directive.url == g.directive.url) = some g := by
    rw [List.find?_eq_some_iff_append]
    exact ⟨beq_self_eq_true _, before, after, hsplit, fun f hf => by
      simpa using hbefore f hf⟩
  rw [readRouter_routerCode, hfind]
  exact congrArg Reading.value (if_pos hverb)

/-- A source with two handlers of one receiver on one path, for different verbs. -/
def sharedPathSource : String := join "\n" [
  "struct P \x7b", "/// apivalidator:\"required\"", "t: String", "\x7d",
  "impl S \x7b", "/// apigen:api \x7b\"url\": \"/a\", \"method\": \"GET\"\x7d",
  "fn f(&self, p: &P) -> Result<P, E> \x7b\x7d",
  "/// apigen:api \x7b\"url\": \"/a\", \"method\": \"POST\"\x7d",
  "fn g(&self, p: &P) -> Result<P, E> \x7b\x7d", "\x7d"]

/-- The handlers of that source, linked. -/
def sharedPathHandler (name verb : String) (line : Nat) : Handler :=
  ⟨"S", name, "p", "P", true, none, "P", ⟨"/a", false, verb⟩, some 0, ⟨"s.rs", line, 4⟩⟩

/-- The API of that source. -/
def sharedPathApi : Api :=
  ⟨"s", [sharedPathHandler "f" "GET" 7, sharedPathHandler "g" "POST" 9],
    [⟨"P", [⟨"t", .string, "apivalidator:\"required\"",
      ⟨true, true, "", [], "", none, none⟩⟩], false, ⟨"s.rs", 1, 8⟩⟩]⟩

theorem ofSource_sharedPathSource :
    Api.ofSource "s" sharedPathSource "s.rs" = .ok sharedPathApi := by
  -- the characters of short lines are found much faster than those of one long text
  rw [Api.ofSource, Source.declarations, Source.fileTokens, sharedPathSource, join,
    String.toList_intercalate]
  simp only [List.map_cons, List.map_nil]
  repeat rewrite [String.toList_ofList]
  decide +kernel

/-- Of two handlers on one path, the first is called for its verb, and the verb of the
second is refused. -/
theorem dispatch_of_source_with_shared_path :
    Api.ofSource "s" sharedPathSource "s.rs" = .ok sharedPathApi
      ∧ ∃ s services, sharedPathApi.services = .ok services ∧ s ∈ services
        ∧ readRouter "/a" "GET" (routerCode s)
          = .value "error_middleware(req, |req| self.handle_f(req))"
        ∧ readRouter "/a" "POST" (routerCode s) = .value wrongVerbExpression := by
  obtain ⟨_, services, -, hservices, hserved⟩ :=
    dispatch_of_source ofSource_sharedPathSource "s.rs"
  obtain ⟨s, hs, -, hhandlers, -, hfirst, htable⟩ :=
    hserved (sharedPathHandler "f" "GET" 7) (by decide)
  have hboth : s.endpoints.map Endpoint.handler = sharedPathApi.handlers :=
    hhandlers.trans (by decide)
  refine ⟨ofSource_sharedPathSource, s, services, hservices, hs, ?_, ?_⟩
  · exact hfirst [] _ hboth (fun f hf => absurd hf List.not_mem_nil) "GET" (by decide)
  · rw [htable, hboth]
    decide

/-- **A handler with a verb of its own on its path need not be served**: the one
before it on the same path refuses that verb. -/
theorem not_every_handler_is_served :
    ¬∀ api, Api.ofSource "s" sharedPathSource "s.rs" = .ok api →
      ∀ services, api.services = .ok services → ∀ s ∈ services,
        ∀ before g after, s.endpoints.map Endpoint.handler = before ++ g :: after →
          (∀ f ∈ before ++ after, f.directive.url = g.directive.url →
            ¬f.directive.Overlaps g.directive) →
          ∀ verb, g.directive.takesVerb verb = true →
            readRouter g.directive.url verb (routerCode s) = .value (callExpression g) := by
  intro h
  have hcall := h sharedPathApi ofSource_sharedPathSource _ rfl _ (List.mem_singleton_self _)
    [sharedPathHandler "f" "GET" 7] (sharedPathHandler "g" "POST" 9) [] rfl ?_ "POST"
    (by decide)
  · rw [readRouter_routerCode] at hcall
    exact absurd hcall (by decide)
  · intro f hf _ hoverlaps
    obtain ⟨verb, hget, hpost⟩ := hoverlaps
    rw [List.append_nil, List.mem_singleton] at hf
    rw [hf] at hget
    simp only [sharedPathHandler, Directive.takesVerb] at hget hpost
    have hget : "GET" = verb := by simpa using hget
    have hpost : "POST" = verb := by simpa using hpost
    exact absurd (hget.trans hpost.symm) (by decide)

end Switchboard
