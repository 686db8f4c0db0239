import Switchboard.Dispatch.Module
import Switchboard.Proofs.Api.Receivers
import Switchboard.Proofs.Dispatch.Legible
import Switchboard.Proofs.Dispatch.Placement

/-!
# What an emitted module shows

An emitted module loses nothing that dispatch goes by: its text shows the receivers
in order and of each its endpoints in order, with the path, the verb and the token
they ask for, with the handler and how it is called, and with the record, its rules
and its fields (`outlines_of_render`). What is in a url, a key, a rule or a fallback
is arbitrary text; it stands in literals, and these cannot pass for the code around
them.

The routers come first, then the methods that answer, then the guards. A router
shows where its endpoints are reached and the methods show the rest. All of them
stand in blocks of the same form, so where the routers end is seen only inside a
block, by its first line.
-/

namespace Switchboard

/-! ## Outlines of services -/

/-- **What of a service dispatch goes by.** -/
structure ServiceOutline where
  /-- The receiver. -/
  receiver : String
  /-- Its endpoints, in order. -/
  endpoints : List EndpointOutline
deriving DecidableEq, Repr

/-- The outline of a service. -/
def Service.outline (s : Service) : ServiceOutline :=
  ⟨s.receiver, s.endpoints.map Endpoint.outline⟩

/-- **A service made of names.** -/
structure Service.IsNamed (s : Service) : Prop where
  /-- That of its receiver. -/
  receiver : IsName s.receiver
  /-- Those of its endpoints. -/
  endpoints : ∀ e ∈ s.endpoints, e.IsNamed

/-- Services of endpoints made of names are made of names. -/
theorem isNamed_of_mem_servicesOf {es : List Endpoint} (h : ∀ e ∈ es, e.IsNamed)
    {s : Service} (hs : s ∈ servicesOf es) : s.IsNamed := by
  obtain ⟨r, hr, rfl⟩ := List.mem_map.mp hs
  obtain ⟨e, he, rfl⟩ := mem_keysOf.mp hr
  exact ⟨(h e he).receiver, fun e he => h e (List.mem_of_mem_filter he)⟩

namespace Dispatch

open Text

/-! ## Branches -/

theorem toList_callText (b : Branch) :
    (callText b).toList
      = (if b.guarded then "auth_middleware(req, |req| self." else "self.").toList
        ++ (b.target.toList
        ++ (if b.guarded then "(req))" else "(req)").toList) := by
  cases hguarded : b.guarded <;> simp [callText, hguarded]

/-- A call shows whether it is guarded and what it calls. -/
theorem legible_callText :
    Legible (fun b : Branch => '(' ∉ b.target.toList) (fun b => (callText b).toList)
      (fun b => (b.guarded, b.target)) := by
  intro a b ha hb r s h
  simp only [toList_callText, List.append_assoc] at h
  have hopening : Legible (fun _ => True) (fun guarded : Bool =>
      (if guarded then "auth_middleware(req, |req| self." else "self.").toList) id :=
    .of_apart (fun guarded : Bool =>
      (if guarded then "auth_middleware(req, |req| self." else "self.").toList)
      (fun _ => rfl) (by decide)
  obtain ⟨hguarded, h⟩ := hopening trivial trivial h
  have hguarded : a.guarded = b.guarded := hguarded
  have hclosing : ∀ guarded : Bool,
      (if guarded then "(req))" else "(req)").toList.head? = some '(' := by decide
  rw [hguarded] at h
  obtain ⟨htarget, h⟩ := append_fixed_inj (hclosing b.guarded) ha hb h
  exact ⟨Prod.ext hguarded (String.toList_inj.mp htarget), h⟩

/-- The test for a verb shows the verb. -/
theorem legible_verbCode (depth : Nat) :
    Legible (fun _ => True) (fun verb => (verbCode verb).chars depth) id := by
  intro a b _ _ r s h
  unfold verbCode at h
  simp only [Code.chars, lineChars, String.toList_append, List.append_assoc] at h
  rw [List.append_cancel_left_eq, List.append_cancel_left_eq] at h
  obtain ⟨hverb, h⟩ := quote_append_inj h
  simp only [List.append_cancel_left_eq] at h
  exact ⟨hverb, h⟩

/-- The test for a verb can be told from what a branch does behind it. -/
theorem ends_verbCode (depth : Nat) (r : List Char) :
    Ends (fun _ => True) (fun verb => (verbCode verb).chars depth)
      (List.replicate (4 * depth) ' '
        ++ ("return error_middleware(req, |req| ".toList ++ r)) := by
  intro verb _ t heq
  unfold verbCode at heq
  simp only [Code.chars, lineChars, String.toList_append, List.append_assoc] at heq
  exact append_ne_append (by decide) _ _ (List.append_cancel_left heq)

/-- **How a branch is laid out.** -/
theorem chars_branchCode (depth : Nat) (b : Branch) (t : List Char) :
    (branchCode b).chars depth ++ t
      = List.replicate (4 * depth) ' ' ++ ("if req.uri().path() == ".toList
        ++ ((quote b.url).toList ++ (" \x7b\n".toList
        ++ (b.verb.toList.flatMap (fun verb => (verbCode verb).chars (depth + 1))
        ++ (List.replicate (4 * (depth + 1)) ' '
        ++ ("return error_middleware(req, |req| ".toList
        ++ ((callText b).toList ++ (");\n".toList
        ++ (lineChars depth "\x7d" ++ t))))))))) := by
  cases hverb : b.verb <;>
    simp [branchCode, hverb, Code.chars, Code.charsAll, lineChars]

/-- **A branch shows all that it is made from.** -/
theorem legible_branchCode (depth : Nat) :
    Legible (fun b : Branch => '(' ∉ b.target.toList)
      (fun b => (branchCode b).chars depth) id := by
  intro a b ha hb r s h
  dsimp only at h
  rw [chars_branchCode, chars_branchCode, List.append_cancel_left_eq,
    List.append_cancel_left_eq] at h
  obtain ⟨hurl, h⟩ := quote_append_inj h
  rw [List.append_cancel_left_eq] at h
  obtain ⟨hverb, h⟩ := (legible_verbCode (depth + 1)).flatMap (fun _ _ => trivial)
    (fun _ _ => trivial) (ends_verbCode _ _) (ends_verbCode _ _) h
  -- an optional test is a row of one or none
  have hverb : a.verb = b.verb := by
    have hhead := congrArg List.head? hverb
    rwa [List.map_id, List.map_id, Option.head?_toList, Option.head?_toList] at hhead
  rw [List.append_cancel_left_eq, List.append_cancel_left_eq] at h
  obtain ⟨hcall, h⟩ := legible_callText ha hb h
  rw [List.append_cancel_left_eq, List.append_cancel_left_eq] at h
  obtain ⟨hguarded, htarget⟩ := Prod.mk.inj hcall
  refine ⟨?_, h⟩
  show a = b
  cases a
  cases b
  rw [Branch.mk.injEq]
  exact ⟨hurl, hverb, hguarded, htarget⟩

/-- **A branch shows where and how its handler is reached.** -/
theorem directive_of_branchOf {g h : Handler} (heq : branchOf g = branchOf h) :
    g.directive = h.directive := by
  obtain ⟨hurl, hverb, hguarded, -⟩ := Branch.mk.inj heq
  have hverb : g.directive.verb = h.directive.verb := by
    split at hverb <;> split at hverb
    · next hg hh => rw [hg, hh]
    · exact nomatch hverb
    · exact nomatch hverb
    · exact Option.some.inj hverb
  cases hg : g.directive
  cases hh : h.directive
  rw [hg, hh] at hurl hverb hguarded
  rw [Directive.mk.injEq]
  exact ⟨hurl, hguarded, hverb⟩

/-! ## Services -/

/-- **How the methods of a receiver are laid out.** -/
theorem chars_methodsOf (receiver : String) (methods : List Code) (t : List Char) :
    (methodsOf receiver methods).chars 0 ++ t
      = "impl ".toList ++ (receiver.toList ++ (" \x7b\n".toList
        ++ (Code.charsAll 1 methods ++ (lineChars 0 "\x7d" ++ t)))) := by
  simp [methodsOf, Code.chars, lineChars]

/-- The receiver of methods can be told, and so can where the methods start. -/
theorem methodsOf_inj {receiver receiver' : String} (h : IsName receiver)
    (h' : IsName receiver') {methods methods' : List Code} {r s : List Char}
    (heq : (methodsOf receiver methods).chars 0 ++ r
      = (methodsOf receiver' methods').chars 0 ++ s) :
    receiver = receiver'
      ∧ Code.charsAll 1 methods ++ (lineChars 0 "\x7d" ++ r)
        = Code.charsAll 1 methods' ++ (lineChars 0 "\x7d" ++ s) := by
  rw [chars_methodsOf, chars_methodsOf, List.append_cancel_left_eq] at heq
  have hblank : isIdentContinue ' ' = false := by decide +kernel
  obtain ⟨hreceiver, heq⟩ := append_fixed_inj (by decide) (h.notMem hblank (by decide))
    (h'.notMem hblank (by decide)) heq
  exact ⟨String.toList_inj.mp hreceiver, heq⟩

/-- What a router answers when it has no branch for a path, and its end. -/
def routerEnd : List Char :=
  lineChars 2 "apigen_rt::respond_error(StatusCode::NOT_FOUND, \"unknown method\")"
    ++ lineChars 1 "\x7d"

/-- The branches of a router can be seen to end. -/
theorem ends_branchCode (r : List Char) :
    Ends (fun b : Branch => '(' ∉ b.target.toList) (fun b => (branchCode b).chars 2)
      (routerEnd ++ r) := by
  intro b _ t heq
  simp only [chars_branchCode, routerEnd, lineChars, List.append_assoc] at heq
  exact append_ne_append (by decide) _ _ (List.append_cancel_left heq)

/-- **How a router is laid out.** -/
theorem charsAll_routerCode (s : Service) (t : List Char) :
    Code.charsAll 1
      [.line "/// Dispatches a request to the handler registered for its path.",
       .block ("pub fn serve_http" ++ answerSignature)
         ((branches s).map branchCode ++
           [.line ("apigen_rt::respond_error(StatusCode::NOT_FOUND, "
             ++ "\"unknown method\")")])
         "\x7d"] ++ t
      = lineChars 1 "/// Dispatches a request to the handler registered for its path."
        ++ (lineChars 1 ("pub fn serve_http" ++ answerSignature)
        ++ ((branches s).flatMap (fun b => (branchCode b).chars 2) ++ (routerEnd ++ t))) := by
  simp [Code.charsAll, Code.chars, Code.charsAll_map, routerEnd]

/-- **A router shows its receiver and its branches.** -/
theorem legible_routerCode :
    Legible Service.IsNamed (fun s => (routerCode s).chars 0)
      (fun s => (s.receiver, branches s)) := by
  intro a b ha hb r s h
  obtain ⟨hreceiver, h⟩ := methodsOf_inj ha.receiver hb.receiver h
  rw [charsAll_routerCode, charsAll_routerCode, List.append_cancel_left_eq,
    List.append_cancel_left_eq] at h
  have htarget : ∀ {s : Service}, s.IsNamed →
      ∀ b ∈ branches s, '(' ∉ b.target.toList := by
    intro s hs b hb
    obtain ⟨e, he, rfl⟩ := List.mem_map.mp hb
    exact notMem_methodName (hs.endpoints e he).handler (by decide +kernel) (by decide)
      (by decide)
  obtain ⟨hbranches, h⟩ := (legible_branchCode 2).flatMap (htarget ha) (htarget hb)
    (ends_branchCode _) (ends_branchCode _) h
  rw [List.map_id, List.map_id] at hbranches
  rw [List.append_cancel_left_eq, List.append_cancel_left_eq] at h
  exact ⟨Prod.ext hreceiver hbranches, h⟩

/-- The methods of a service can be seen to end. -/
theorem ends_endpointCode (r : List Char) :
    Ends Endpoint.IsNamed (fun e => (endpointCode e).chars 1)
      (lineChars 0 "\x7d" ++ r) := by
  intro e _ t heq
  simp only [chars_endpointCode, lineChars, List.append_assoc] at heq
  exact replicate_append_ne (by decide) (by decide) _ _ heq

/-- **The methods of a service show its receiver and its endpoints.** -/
theorem legible_endpointsCode :
    Legible Service.IsNamed (fun s => (endpointsCode s).chars 0)
      (fun s => (s.receiver, s.endpoints.map Endpoint.shown)) := by
  intro a b ha hb r s h
  obtain ⟨hreceiver, h⟩ := methodsOf_inj ha.receiver hb.receiver h
  have hclosing : ∀ x : List Char, (lineChars 0 "\x7d" ++ x).head? ≠ some '\n' :=
    fun x h => absurd (show some '\x7d' = some '\n' from h) (by decide)
  obtain ⟨hendpoints, h⟩ := (legible_endpointCode 1).spaced ha.endpoints hb.endpoints
    (ends_endpointCode r) (hclosing r) (ends_endpointCode s) (hclosing s) h
  rw [List.append_cancel_left_eq] at h
  exact ⟨Prod.ext hreceiver hendpoints, h⟩

/-- **A router is not the methods of a service.** -/
theorem routerCode_ne_endpointsCode {a b : Service} (ha : a.IsNamed) (hb : b.IsNamed)
    (r s : List Char) :
    (routerCode a).chars 0 ++ r ≠ (endpointsCode b).chars 0 ++ s := by
  intro h
  -- both stand in a block of the same receiver; their first lines differ
  obtain ⟨-, h⟩ := methodsOf_inj ha.receiver hb.receiver h
  rw [charsAll_routerCode] at h
  cases hes : b.endpoints with
  | nil =>
    rw [hes] at h
    simp only [lineChars, List.append_assoc] at h
    exact replicate_append_ne (by decide) (by decide) _ _ h
  | cons e es =>
    rw [hes, charsAll_spaced_cons, List.append_assoc, chars_endpointCode] at h
    simp only [lineChars, List.append_assoc] at h
    exact append_ne_append (by decide) _ _ (List.append_cancel_left h)

/-! ## Modules -/

/-- The guards are neither a router nor the methods of a service. -/
theorem methodsOf_ne_guardsCode (receiver : String) (methods : List Code)
    (r : List Char) :
    (methodsOf receiver methods).chars 0 ++ r ≠ Code.charsAll 0 guardsCode := by
  intro h
  have hguards : Code.charsAll 0 guardsCode
      = "#[allow(dead_code)]".toList ++ ('\n' :: Code.charsAll 0 guardsCode.tail) := by
    rw [guardsCode, tokenGuard, guardCode, List.cons_append, List.cons_append,
      Code.charsAll, Code.chars, lineChars]
    simp
  rw [chars_methodsOf, hguards] at h
  exact append_ne_append (by decide) _ _ h

/-- The methods of all services can be seen to end. -/
theorem ends_endpointsCode :
    Ends Service.IsNamed (fun s => '\n' :: (endpointsCode s).chars 0)
      ('\n' :: Code.charsAll 0 guardsCode) :=
  fun _ _ t h => methodsOf_ne_guardsCode _ _ t (List.cons.inj h).2

/-- The routers of all services can be seen to end. -/
theorem ends_routerCode {services : List Service} (h : ∀ s ∈ services, s.IsNamed) :
    Ends Service.IsNamed (fun s => '\n' :: (routerCode s).chars 0)
      (services.flatMap (fun s => '\n' :: (endpointsCode s).chars 0)
        ++ ('\n' :: Code.charsAll 0 guardsCode)) := by
  intro s hs t heq
  cases services with
  | nil => exact methodsOf_ne_guardsCode _ _ t (List.cons.inj heq).2
  | cons next rest =>
    rw [List.flatMap_cons, List.append_assoc] at heq
    exact routerCode_ne_endpointsCode hs (h next List.mem_cons_self) _ _
      (List.cons.inj heq).2

/-- **How the services of a module are laid out**: all routers, then the methods of
all services, then the guards. -/
theorem charsAll_servicesCode (services : List Service) :
    Code.charsAll 0 (servicesCode services)
      = services.flatMap (fun s => '\n' :: (routerCode s).chars 0)
        ++ (services.flatMap (fun s => '\n' :: (endpointsCode s).chars 0)
        ++ ('\n' :: Code.charsAll 0 guardsCode)) := by
  simp [servicesCode, Code.charsAll_flatMap, Code.charsAll, Code.chars]

/-- Of a module, nothing but its services depends on the endpoints. -/
theorem toList_moduleText (moduleName label : String) (es : List Endpoint) :
    (moduleText moduleName label es).toList
      = Code.charsAll 0 ([.line (banner moduleName label), .blank] ++ importsCode)
        ++ Code.charsAll 0 (servicesCode (servicesOf es)) := by
  rw [moduleText, Output.toList_writeAll, moduleCode, Code.charsAll_append]
  rfl

/-- What the router and the methods of a service show makes up its outline. -/
theorem outline_eq_of_views {s t : Service}
    (hrouter : (s.receiver, branches s) = (t.receiver, branches t))
    (hmethods : (s.receiver, s.endpoints.map Endpoint.shown)
      = (t.receiver, t.endpoints.map Endpoint.shown)) :
    s.outline = t.outline := by
  obtain ⟨hreceiver, hbranches⟩ := Prod.mk.inj hrouter
  rw [Service.outline, Service.outline, hreceiver]
  refine congrArg _ (map_eq_map_of_views (fun d e hbranch hview => ?_) hbranches
    (Prod.mk.inj hmethods).2)
  obtain ⟨hname, hview⟩ := Prod.mk.inj hview
  obtain ⟨hcontext, hview⟩ := Prod.mk.inj hview
  obtain ⟨hbyRef, hrecord⟩ := Prod.mk.inj hview
  rw [Endpoint.outline, directive_of_branchOf hbranch, hname, hcontext, hbyRef, hrecord,
    Endpoint.outline]

/-- **The code of services shows what dispatch goes by.** -/
theorem outlines_of_servicesCode {ss ts : List Service} (hss : ∀ s ∈ ss, s.IsNamed)
    (hts : ∀ t ∈ ts, t.IsNamed)
    (h : Code.charsAll 0 (servicesCode ss) = Code.charsAll 0 (servicesCode ts)) :
    ss.map Service.outline = ts.map Service.outline := by
  have hrouter : Legible Service.IsNamed (fun s => '\n' :: (routerCode s).chars 0) _ :=
    fun a b ha hb r s heq => legible_routerCode ha hb (List.cons.inj heq).2
  have hmethods : Legible Service.IsNamed
      (fun s => '\n' :: (endpointsCode s).chars 0) _ :=
    fun a b ha hb r s heq => legible_endpointsCode ha hb (List.cons.inj heq).2
  rw [charsAll_servicesCode, charsAll_servicesCode] at h
  obtain ⟨hrouters, h⟩ :=
    hrouter.flatMap hss hts (ends_routerCode hss) (ends_routerCode hts) h
  have hends : Ends Service.IsNamed (fun s => '\n' :: (endpointsCode s).chars 0)
      ('\n' :: Code.charsAll 0 guardsCode) := ends_endpointsCode
  obtain ⟨hmethods, -⟩ := hmethods.flatMap hss hts hends hends h
  exact map_eq_map_of_views (fun _ _ => outline_eq_of_views) hrouters hmethods

end Dispatch

open Dispatch

/-- **A module shows what dispatch goes by**: when two APIs read from sources have
the same module under one label and name, they have the same receivers in the same
order, with endpoints of the same outlines. -/
theorem outlines_of_render {moduleName source file source' file' label : String}
    {a b : Api} (ha : Api.ofSource moduleName source file = .ok a)
    (hb : Api.ofSource moduleName source' file' = .ok b)
    (h : render a label = render b label) :
    ∃ ss ts, a.services = .ok ss ∧ b.services = .ok ts
      ∧ ss.map Service.outline = ts.map Service.outline := by
  obtain ⟨hmodule, es, hes, hnamed⟩ := Api.exists_endpoints_of_source ha
  obtain ⟨hmodule', es', hes', hnamed'⟩ := Api.exists_endpoints_of_source hb
  refine ⟨_, _, Api.services_eq_ok hes, Api.services_eq_ok hes', ?_⟩
  rw [render_eq_ok hes, render_eq_ok hes', hmodule, hmodule'] at h
  have hchars := congrArg String.toList (Except.ok.inj h)
  rw [toList_moduleText, toList_moduleText, List.append_cancel_left_eq] at hchars
  exact outlines_of_servicesCode (fun s => isNamed_of_mem_servicesOf hnamed)
    (fun s => isNamed_of_mem_servicesOf hnamed') hchars

/-- A source, and one with another record that no handler takes; the fallback of a
field looks like code. -/
theorem outlines_of_render_with_other_record :
    let source := "struct N \x7b\n/// apivalidator:\"default=]; Kind \x7b\"\nt: String\n\x7d\n"
      ++ "impl S \x7b\n/// apigen:api \x7b\"url\": \"/a\"\x7d\n"
      ++ "fn f(&self, n: &N) -> Result<N, E> \x7b\x7d\n\x7d\n"
    let other := "struct M \x7b\n/// apivalidator:\"required\"\nt: u64\n\x7d\n"
    ∃ a b ss ts, Api.ofSource "n" source "n.rs" = .ok a
      ∧ Api.ofSource "n" (source ++ other) "n.rs" = .ok b
      ∧ a.records.length = 1 ∧ b.records.length = 2
      ∧ render a "n.rs" = render b "n.rs"
      ∧ a.services = .ok ss ∧ b.services = .ok ts
      ∧ ss.map Service.outline = ts.map Service.outline := by
  intro source other
  let handler : Handler := ⟨"S", "f", "n", "N", true, none, "N", ⟨"/a", false, ""⟩,
    some 0, ⟨"n.rs", 7, 4⟩⟩
  let taken : Record := ⟨"N", [⟨"t", .string, "apivalidator:\"default=]; Kind \x7b\"",
    ⟨true, false, "", [], "]; Kind \x7b", none, none⟩⟩], false, ⟨"n.rs", 1, 8⟩⟩
  let unused : Record := ⟨"M", [⟨"t", .uint64, "apivalidator:\"required\"",
    ⟨true, true, "", [], "", none, none⟩⟩], false, ⟨"n.rs", 9, 8⟩⟩
  -- the characters of short texts are found much faster than those of one long text
  have ha : Api.ofSource "n" source "n.rs" = .ok ⟨"n", [handler], [taken]⟩ := by
    simp only [Api.ofSource, Source.declarations, Source.fileTokens, source,
      String.toList_append]
    repeat rewrite [String.toList_ofList]
    decide +kernel
  have hb : Api.ofSource "n" (source ++ other) "n.rs"
      = .ok ⟨"n", [handler], [taken, unused]⟩ := by
    simp only [Api.ofSource, Source.declarations, Source.fileTokens, source, other,
      String.toList_append]
    repeat rewrite [String.toList_ofList]
    decide +kernel
  have hrender : render ⟨"n", [handler], [taken]⟩ "n.rs"
      = render ⟨"n", [handler], [taken, unused]⟩ "n.rs" := rfl
  obtain ⟨ss, ts, hss, hts, houtlines⟩ := outlines_of_render ha hb hrender
  exact ⟨_, _, ss, ts, ha, hb, rfl, rfl, hrender, hss, hts, houtlines⟩

end Switchboard
