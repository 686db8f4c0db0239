import Switchboard.Dispatch.Module
import Switchboard.Proofs.Api.Build
import Switchboard.Proofs.Api.Receivers

/-!
# Where declarations stand

The emitted module is made of the endpoints of an API, and of nothing else
(`render_eq_ok`). An endpoint carries its link, a position among the records that
changes whenever a record is declared elsewhere, but no line of the module shows
it (`servicesCode_unlinked`).

So records may be declared anywhere. What counts is the handlers in order and,
for each record they take, the first declaration of it; with these the same, the
module is the same to the byte (`render_of_moved_records`).
-/

namespace Switchboard

open Dispatch

/-! ## Endpoints without links -/

/-- An endpoint without the link of its handler. -/
def Endpoint.unlinked (e : Endpoint) : Endpoint := ⟨e.handler.unlinked, e.record⟩

/-- **What a declaration means does not depend on where declarations stand**:
only on the first record of the name it takes. -/
theorem HandlerDeclaration.Means.unlinked_eq {decls moved : List Declaration}
    {d : HandlerDeclaration} {a b : Endpoint} (ha : d.Means decls a)
    (hb : d.Means moved b)
    (hrecord : firstRecord? moved d.record = firstRecord? decls d.record) :
    a.unlinked = b.unlinked := by
  obtain ⟨ra, hra, haread⟩ := ha.record
  obtain ⟨rb, hrb, hbread⟩ := hb.record
  have hsame : ra = rb :=
    Option.some.inj (hra.symm.trans (hrecord.symm.trans hrb))
  rw [hsame] at haread
  rw [Endpoint.unlinked, Endpoint.unlinked,
    Except.ok.inj (ha.handler.symm.trans hb.handler),
    Except.ok.inj (haread.symm.trans hbread)]

theorem map_unlinked_eq {decls moved : List Declaration}
    {ds : List HandlerDeclaration} {es es' : List Endpoint}
    (hes : List.Forall₂ (HandlerDeclaration.Means decls) ds es)
    (hes' : List.Forall₂ (HandlerDeclaration.Means moved) ds es')
    (hrecords : ∀ d ∈ ds, firstRecord? moved d.record = firstRecord? decls d.record) :
    es.map Endpoint.unlinked = es'.map Endpoint.unlinked := by
  induction hes generalizing es' with
  | nil => rw [List.forall₂_nil_left_iff.mp hes']
  | cons hd _ ih =>
    obtain ⟨e', rest', hd', hrest', rfl⟩ := List.forall₂_cons_left_iff.mp hes'
    rw [List.forall_mem_cons] at hrecords
    rw [List.map_cons, List.map_cons, hd.unlinked_eq hd' hrecords.1,
      ih hrest' hrecords.2]

/-- No line of a method shows where its record stands. -/
theorem endpointCode_unlinked (e : Endpoint) :
    endpointCode e.unlinked = endpointCode e := rfl

/-- **A change that no branch and no method shows**, no line of the services shows. -/
theorem servicesCode_map (change : Endpoint → Endpoint)
    (hreceiver : ∀ e, (change e).receiver = e.receiver)
    (hbranch : ∀ e, branchOf (change e).handler = branchOf e.handler)
    (hmethod : ∀ e, endpointCode (change e) = endpointCode e) (es : List Endpoint) :
    servicesCode (servicesOf (es.map change)) = servicesCode (servicesOf es) := by
  have hrouter : ∀ s : Service,
      routerCode ⟨s.receiver, s.endpoints.map change⟩ = routerCode s := by
    intro s
    have hbranches : branches ⟨s.receiver, s.endpoints.map change⟩ = branches s := by
      rw [branches, branches, List.map_map]
      exact List.map_congr_left fun e _ => hbranch e
    rw [routerCode, hbranches, routerCode]
  have hendpoints : ∀ s : Service,
      endpointsCode ⟨s.receiver, s.endpoints.map change⟩ = endpointsCode s := by
    intro s
    rw [endpointsCode, List.map_map, endpointsCode]
    exact congrArg (fun methods => methodsOf s.receiver (spaced methods))
      (List.map_congr_left fun e _ => hmethod e)
  rw [servicesOf_map hreceiver, servicesCode, servicesCode, List.flatMap_map,
    List.flatMap_map]
  simp only [hrouter, hendpoints]

/-- **No line of the services shows where records stand.** -/
theorem servicesCode_unlinked (es : List Endpoint) :
    servicesCode (servicesOf (es.map Endpoint.unlinked)) = servicesCode (servicesOf es) :=
  servicesCode_map Endpoint.unlinked (fun _ => rfl) (fun _ => rfl) endpointCode_unlinked es

/-! ## The emitted module -/

/-- **A banner begins as a comment**, and the names stand in it as they are, between texts
without line breaks. -/
theorem Dispatch.exists_toList_banner : ∃ before between after : List Char,
    '\n' ∉ before ∧ '\n' ∉ between ∧ '\n' ∉ after
      ∧ ∀ moduleName label : String, (banner moduleName label).toList
        = '/' :: '/' ::
          (before ++ (label.toList ++ (between ++ (moduleName.toList ++ after)))) := by
  have hslashes : "// Code generated by apigen from ".toList
      = '/' :: '/' :: " Code generated by apigen from ".toList := by decide
  refine ⟨" Code generated by apigen from ".toList, " (module \x60".toList,
    "\x60). DO NOT EDIT.".toList, by decide, by decide, by decide, fun moduleName label => ?_⟩
  unfold banner
  simp only [String.toList_append, List.append_assoc]
  generalize " Code generated by apigen from ".toList = before at *
  rw [hslashes]
  rfl

/-- The text of the module of endpoints. -/
def moduleText (moduleName label : String) (es : List Endpoint) : String :=
  (Output.empty.writeAll (moduleCode moduleName label (servicesOf es))).text

/-- **An API is rendered from its endpoints.** -/
theorem render_eq_ok {api : Api} {es : List Endpoint}
    (h : List.Forall₂ (fun h e => api.endpoint h = .ok e) api.handlers es)
    (label : String) :
    render api label = .ok (moduleText api.moduleName label es) := by
  rw [render, Output.emit, Api.services_eq_ok h]
  rfl

/-- **An API that was built is rendered** from what its declarations mean. -/
theorem exists_render_eq_ok {moduleName : String} {decls : List Declaration}
    {api : Api} (h : Api.ofDeclarations moduleName decls = .ok api) :
    ∃ es, List.Forall₂ (HandlerDeclaration.Means decls) (handlersIn decls) es
      ∧ ∀ label, render api label = .ok (moduleText moduleName label es) := by
  obtain ⟨es, hes, hmeans⟩ := Api.exists_endpoints h
  refine ⟨es, hmeans, fun label => ?_⟩
  rw [render_eq_ok hes, (Api.ofDeclarations_eq_ok.mp h).1]

/-- **Where records are declared does not matter.** Of two lists of
declarations with the same handlers in the same order, and with the same first
declaration of each record taken, the modules are the same. And when one is the
other in another order, an API is built of one exactly when it is built of the
other. -/
theorem render_of_moved_records {decls moved : List Declaration}
    (hhandlers : handlersIn moved = handlersIn decls)
    (hrecords : ∀ d ∈ handlersIn decls,
      firstRecord? moved d.record = firstRecord? decls d.record)
    (moduleName : String) :
    (∀ a b label, Api.ofDeclarations moduleName decls = .ok a →
        Api.ofDeclarations moduleName moved = .ok b →
        ∃ text, render a label = .ok text ∧ render b label = .ok text)
    ∧ (decls.Perm moved →
        ((∃ a, Api.ofDeclarations moduleName decls = .ok a)
          ↔ ∃ b, Api.ofDeclarations moduleName moved = .ok b)) := by
  constructor
  · intro a b label ha hb
    obtain ⟨es, hes, hrender⟩ := exists_render_eq_ok ha
    obtain ⟨es', hes', hrender'⟩ := exists_render_eq_ok hb
    rw [hhandlers] at hes'
    have hunlinked := map_unlinked_eq hes hes' hrecords
    have htext : moduleText moduleName label es = moduleText moduleName label es' := by
      rw [moduleText, moduleCode, ← servicesCode_unlinked, hunlinked,
        servicesCode_unlinked]
      rfl
    exact ⟨_, hrender label, htext ▸ hrender' label⟩
  · intro hperm
    have hmem : ∀ rd, rd ∈ recordsIn decls ↔ rd ∈ recordsIn moved :=
      fun _ => (hperm.filterMap Declaration.record?).mem_iff
    simp only [Api.exists_ofDeclarations_iff, hhandlers, hmem]

/-- A record declared after its handler and one declared before it, beside two
others of the same name or of none that counts. -/
theorem render_of_moved_records_with_namesakes :
    let handler : Declaration := .handler ⟨"Notes", "add",
      "apigen:api \x7b\"url\": \"/add\", \"auth\": true\x7d", none, "params", "Note",
      false, "Note", ⟨"notes.rs", 4, 5⟩⟩
    let note : Declaration := .record ⟨"Note",
      [⟨"text", .string, "apivalidator:\"required\"", ⟨"notes.rs", 9, 5⟩⟩], false,
      ⟨"notes.rs", 8, 8⟩⟩
    let namesake : Declaration := .record ⟨"Note", [], true, ⟨"notes.rs", 12, 8⟩⟩
    let other : Declaration := .record ⟨"Other", [], true, ⟨"notes.rs", 1, 8⟩⟩
    let decls := [handler, note, namesake]
    let moved := [other, note, handler]
    ∃ a b text, Api.ofDeclarations "notes" decls = .ok a
      ∧ Api.ofDeclarations "notes" moved = .ok b
      ∧ a.handlers.map Handler.link = [some 0]
      ∧ b.handlers.map Handler.link = [some 1]
      ∧ render a "notes.rs" = .ok text ∧ render b "notes.rs" = .ok text := by
  intro handler note namesake other decls moved
  obtain ⟨a, ha, hlinka⟩ := map_eq_ok.mp (show
    (Api.ofDeclarations "notes" decls).map (fun a => a.handlers.map Handler.link)
      = .ok [some 0] by decide +kernel)
  obtain ⟨b, hb, hlinkb⟩ := map_eq_ok.mp (show
    (Api.ofDeclarations "notes" moved).map (fun a => a.handlers.map Handler.link)
      = .ok [some 1] by decide +kernel)
  obtain ⟨text, hrender, hrender'⟩ :=
    (render_of_moved_records (by decide +kernel) (by decide +kernel) "notes").1
      a b "notes.rs" ha hb
  exact ⟨a, b, text, ha, hb, hlinka, hlinkb, hrender, hrender'⟩

end Switchboard
