import Switchboard.Generation
import Switchboard.Proofs.Api.Names
import Switchboard.Proofs.Dispatch.Layout
import Switchboard.Proofs.Dispatch.Placement

/-!
# Links that lead nowhere

A link is a position and nothing more, and an API may be changed after it was
linked: links can be missing, lead past the end, or lead to another record than
the one whose name the handler has. A module is rendered exactly when every
link leads to some record; otherwise the refusal names the first handler at
fault, the handlers taken receiver by receiver and not in the order they stand
in (`render_eq_error_iff`).

Links are followed twice, once before anything is written and once more as each
handler's turn comes. The second time could leave half a module behind, but
never does (`Output.emitByTurns_eq`).

The links of a source all lead to records, so the refusals of a source file are all
made before its module is written (`generate_eq_error_iff`).
-/

namespace Switchboard

open Dispatch

/-! ## Links that lead nowhere -/

/-- **The handlers receiver by receiver**: the receivers by first appearance, the
handlers of each in the order they stand in. -/
def Api.handlersByReceiver (api : Api) : List Handler :=
  (keysOf Handler.receiver api.handlers).flatMap fun r =>
    api.handlers.filter fun h => h.receiver == r

theorem Api.mem_handlersByReceiver {api : Api} {h : Handler} :
    h ∈ api.handlersByReceiver ↔ h ∈ api.handlers := by
  rw [handlersByReceiver, List.mem_flatMap]
  constructor
  · rintro ⟨r, -, hh⟩
    exact List.mem_of_mem_filter hh
  · intro hh
    exact ⟨h.receiver, mem_keysOf.mpr ⟨h, hh, rfl⟩,
      List.mem_filter.mpr ⟨hh, beq_self_eq_true _⟩⟩

/-- **A handler whose link leads to a record.** -/
def Api.Resolves (api : Api) (h : Handler) : Prop :=
  ∃ i ∈ h.link, i < api.records.length

instance (api : Api) (h : Handler) : Decidable (api.Resolves h) :=
  inferInstanceAs (Decidable (∃ i ∈ h.link, i < api.records.length))

theorem Api.linkedRecord?_eq_none_iff {api : Api} {h : Handler} :
    api.linkedRecord? h = none ↔ ¬api.Resolves h := by
  rw [linkedRecord?, Resolves]
  cases h.link with
  | none => exact iff_of_true rfl (fun ⟨_, hi, _⟩ => nomatch hi)
  | some i =>
    show api.records[i]? = none ↔ _
    simp

/-- A handler is refused when its link leads nowhere. -/
theorem Api.refusal?_endpoint (api : Api) (h : Handler) :
    refusal? (api.endpoint h)
      = (Option.guard (fun h => decide ¬api.Resolves h) h).map Handler.unresolved := by
  rw [endpoint, Option.guard]
  cases hrecord : api.linkedRecord? h with
  | none => rw [if_pos (decide_eq_true (linkedRecord?_eq_none_iff.mp hrecord))]; rfl
  | some r =>
    have hresolves : api.Resolves h := by
      by_contra hn
      exact Option.some_ne_none r (hrecord.symm.trans (linkedRecord?_eq_none_iff.mpr hn))
    rw [if_neg (by simpa using hresolves)]
    rfl

/-- **Of an API, the first handler whose link leads nowhere is refused**, the
handlers taken receiver by receiver. -/
theorem Api.refusal?_services (api : Api) :
    refusal? api.services
      = (api.handlersByReceiver.find? fun h => decide ¬api.Resolves h).map
          Handler.unresolved := by
  -- within a receiver the first refusal is that of the first handler at fault
  have hreceiver : ∀ entry : String × List Handler,
      refusal? (do return Service.mk entry.1 (← entry.2.mapM api.endpoint))
        = (entry.2.find? fun h => decide ¬api.Resolves h).map Handler.unresolved := by
    intro entry
    refine (refusal?_bind_pure _ _).trans ?_
    rw [refusal?_mapM, ← List.findSome?_guard, List.map_findSome?]
    exact congrArg (List.findSome? · _) (funext api.refusal?_endpoint)
  rw [services, refusal?_mapM, entries_byReceiver, handlersByReceiver,
    List.find?_flatMap, List.map_findSome?, List.findSome?_map]
  exact congrArg (List.findSome? · _) (funext fun r => hreceiver (r, _))

theorem Api.refusal?_render (api : Api) (label : String) :
    refusal? (render api label)
      = (api.handlersByReceiver.find? fun h => decide ¬api.Resolves h).map
          Handler.unresolved := by
  rw [← refusal?_services, render, Output.emit]
  cases api.services <;> rfl

/-- **An API is refused exactly when a link is missing or leads past the end.** -/
theorem exists_render_eq_error_iff {api : Api} {label : String} :
    (∃ e, render api label = .error e)
      ↔ ∃ h ∈ api.handlers, h.link = none
          ∨ ∃ i, h.link = some i ∧ api.records.length ≤ i := by
  simp only [← refusal?_eq_some_iff, Api.refusal?_render]
  rw [← Option.isSome_iff_exists, Option.isSome_map, List.find?_isSome]
  refine exists_congr fun h => and_congr Api.mem_handlersByReceiver ?_
  rw [decide_eq_true_iff, Api.Resolves]
  cases h.link <;> simp

/-- Handlers whose links lead to records have endpoints. -/
theorem Api.exists_endpoints_of_resolves {api : Api} (h : ∀ g ∈ api.handlers, api.Resolves g) :
    ∃ es, List.Forall₂ (fun h e => api.endpoint h = .ok e) api.handlers es := by
  refine exists_forall₂_iff.mpr fun g hg => ?_
  obtain ⟨r, hr⟩ : ∃ r, api.linkedRecord? g = some r :=
    Option.ne_none_iff_exists'.mp fun hnone => linkedRecord?_eq_none_iff.mp hnone (h g hg)
  exact ⟨⟨g, r⟩, by rw [endpoint, hr]⟩

/-- **What is rendered is the module of the endpoints.** -/
theorem exists_endpoints_of_render {api : Api} {label text : String}
    (h : render api label = .ok text) :
    ∃ es, List.Forall₂ (fun h e => api.endpoint h = .ok e) api.handlers es
      ∧ text = moduleText api.moduleName label es := by
  have hresolves : ∀ g ∈ api.handlers, api.Resolves g := by
    have hnone : refusal? (render api label) = none := by
      rw [h]
      rfl
    rw [Api.refusal?_render, Option.map_eq_none_iff, List.find?_eq_none] at hnone
    exact fun g hg => by simpa using hnone g (Api.mem_handlersByReceiver.mpr hg)
  obtain ⟨es, hes⟩ := Api.exists_endpoints_of_resolves hresolves
  exact ⟨es, hes, Except.ok.inj (h.symm.trans (render_eq_ok hes label))⟩

/-- **The refusal names the first handler at fault**, the handlers taken receiver by
receiver. -/
theorem render_eq_error_iff {api : Api} {label : String} {e : GenerationError} :
    render api label = .error e
      ↔ ∃ before h after, api.handlersByReceiver = before ++ h :: after
          ∧ (∀ g ∈ before, api.Resolves g) ∧ ¬api.Resolves h ∧ e = h.unresolved := by
  rw [← refusal?_eq_some_iff, Api.refusal?_render, Option.map_eq_some_iff]
  constructor
  · rintro ⟨h, hfind, he⟩
    obtain ⟨hh, before, after, hsplit, hbefore⟩ := List.find?_eq_some_iff_append.mp hfind
    exact ⟨before, h, after, hsplit, fun g hg => by simpa using hbefore g hg,
      by simpa using hh, he.symm⟩
  · rintro ⟨before, h, after, hsplit, hbefore, hh, he⟩
    exact ⟨h, List.find?_eq_some_iff_append.mpr ⟨by simpa using hh, before, after,
      hsplit, fun g hg => by simpa using hbefore g hg⟩, he.symm⟩

/-! ## Following links again -/

namespace Dispatch

/-- The methods that answer for handlers, written one by one: the link of each is
followed when its turn comes, and one that leads nowhere stops the writing where it
stands. `written` says how many were written before. -/
def Output.writeEndpoints (api : Api) (o : Output) (written : Nat) :
    List Handler → Output × Option GenerationError
  | [] => (o, none)
  | h :: rest =>
    let o := if written > 0 then o.blank else o
    match api.endpoint h with
    | .error e => (o, some e)
    | .ok e => (o.write (endpointCode e)).writeEndpoints api (written + 1) rest

/-- The methods of all receivers, written the same way. -/
def Output.writeReceivers (api : Api) (o : Output) :
    List (String × List Handler) → Output × Option GenerationError
  | [] => (o, none)
  | (receiver, handlers) :: rest =>
    let o := (o.blank.line ("impl " ++ receiver ++ " \x7b")).deeper
    match o.writeEndpoints api 0 handlers with
    | (o, some e) => (o, some e)
    | (o, none) => (o.higher.line "\x7d").writeReceivers api rest

/-- **An API appended with every link followed twice**: before anything is written,
and again when the turn of its handler comes. -/
def Output.emitByTurns (o : Output) (api : Api) (label : String) :
    Output × Option GenerationError :=
  match api.services with
  | .error e => (o, some e)
  | .ok services =>
    let o := o.writeAll ([.line (banner api.moduleName label), .blank] ++ importsCode
      ++ services.flatMap fun s => [.blank, routerCode s])
    match o.writeReceivers api api.byReceiver.entries with
    | (o, some e) => (o, some e)
    | (o, none) => (o.writeAll ([.blank] ++ guardsCode), none)

theorem Output.writeAll_append (o : Output) (cs ds : List Code) :
    o.writeAll (cs ++ ds) = (o.writeAll cs).writeAll ds := by
  induction cs generalizing o with
  | nil => rfl
  | cons c cs ih => exact ih (o.write c)

theorem spaced_cons (c : Code) (cs : List Code) :
    spaced (c :: cs) = c :: cs.flatMap fun d => [.blank, d] := by
  induction cs generalizing c with
  | nil => rfl
  | cons d ds ih =>
    rw [spaced, ih, List.flatMap_cons]
    rfl

/-- Further methods are written behind an empty line each. -/
theorem Output.writeEndpoints_of_pos {api : Api} {hs : List Handler} {es : List Endpoint}
    (h : List.Forall₂ (fun h e => api.endpoint h = .ok e) hs es) (o : Output)
    {written : Nat} (hpos : 0 < written) :
    o.writeEndpoints api written hs
      = (o.writeAll ((es.map endpointCode).flatMap fun c => [.blank, c]), none) := by
  induction h generalizing o written with
  | nil => rfl
  | cons he _ ih =>
    rw [writeEndpoints, if_pos hpos, he]
    exact ih _ (Nat.succ_pos written)

/-- **Where the links lead to records, the methods of a receiver are written as they
are laid out.** -/
theorem Output.writeEndpoints_eq {api : Api} {hs : List Handler} {es : List Endpoint}
    (h : List.Forall₂ (fun h e => api.endpoint h = .ok e) hs es) (o : Output) :
    o.writeEndpoints api 0 hs = (o.writeAll (spaced (es.map endpointCode)), none) := by
  cases h with
  | nil => rfl
  | cons he hrest =>
    rw [writeEndpoints, if_neg (Nat.lt_irrefl 0), he, List.map_cons, spaced_cons]
    exact writeEndpoints_of_pos hrest _ (Nat.succ_pos 0)

/-- The same holds receiver by receiver. -/
theorem Output.writeReceivers_eq {api : Api} {entries : List (String × List Handler)}
    {services : List Service}
    (h : List.Forall₂ (fun entry s =>
      (do return Service.mk entry.1 (← entry.2.mapM api.endpoint)) = .ok s)
      entries services) (o : Output) :
    o.writeReceivers api entries
      = (o.writeAll (services.flatMap fun s => [.blank, endpointsCode s]), none) := by
  induction h generalizing o with
  | nil => rfl
  | cons hs _ ih =>
    obtain ⟨es, hes, hs⟩ := bind_eq_ok.mp hs
    rw [← Except.ok.inj hs, writeReceivers, writeEndpoints_eq (mapM_eq_ok.mp hes)]
    exact ih _

/-- **Following links again changes nothing**: once all links were found to lead to
records, writing cannot stop in between. -/
theorem Output.emitByTurns_eq (o : Output) (api : Api) (label : String) :
    o.emitByTurns api label = o.emit api label := by
  rw [emitByTurns, emit]
  cases hservices : api.services with
  | error e => rfl
  | ok services =>
    dsimp only
    rw [writeReceivers_eq (mapM_eq_ok.mp hservices)]
    dsimp only
    rw [moduleCode, servicesCode, ← writeAll_append, ← writeAll_append]
    simp only [List.append_assoc]

/-! ## What a module holds -/

theorem Code.infix_charsAll {c : Code} {cs : List Code} (h : c ∈ cs) (depth : Nat) :
    c.chars depth <:+: Code.charsAll depth cs := by
  obtain ⟨before, after, rfl⟩ := List.append_of_mem h
  rw [charsAll_append, charsAll]
  exact ⟨_, _, List.append_assoc _ _ _⟩

/-- What stands inside a block is part of its text. -/
theorem Code.infix_block {c : Code} {inside : List Code} (h : c ∈ inside) (depth : Nat)
    (opening closing : String) :
    c.chars (depth + 1) <:+: (Code.block opening inside closing).chars depth := by
  rw [chars]
  exact (infix_charsAll h (depth + 1)).trans ⟨_, _, rfl⟩

theorem mem_spaced {c : Code} {cs : List Code} (h : c ∈ cs) : c ∈ spaced cs := by
  cases cs with
  | nil => exact absurd h List.not_mem_nil
  | cons d ds =>
    rw [spaced_cons, List.mem_cons, List.mem_flatMap]
    exact (List.mem_cons.mp h).imp_right fun hc => ⟨c, hc, by simp⟩

/-- **What stands below the banner** of services. -/
def belowBanner (services : List Service) : List Char :=
  Code.charsAll 0 ([.blank] ++ importsCode ++ servicesCode services)

/-- **A module is its banner on a line and what stands below it**, which shows neither the name
of the module nor the label. -/
theorem toList_writeAll_moduleCode (moduleName label : String) (services : List Service) :
    (Output.empty.writeAll (moduleCode moduleName label services)).text.toList
      = (banner moduleName label).toList ++ '\n' :: belowBanner services := by
  rw [Output.toList_writeAll, moduleCode]
  show [] ++ (lineChars 0 (banner moduleName label) ++ _) = _
  rw [lineChars, List.nil_append, Nat.mul_zero, List.replicate_zero, List.nil_append,
    List.append_assoc]
  rfl

/-- **A module holds the code of its services.** -/
theorem infix_moduleText {moduleName label : String} {es : List Endpoint} {c : Code}
    (h : c ∈ servicesCode (servicesOf es)) :
    c.chars 0 <:+: (moduleText moduleName label es).toList := by
  have hmodule : c ∈ moduleCode moduleName label (servicesOf es) :=
    List.mem_append_right _ h
  rw [moduleText, Output.toList_writeAll]
  exact (Code.infix_charsAll hmodule 0).trans ⟨[], [], by simp [Output.empty]⟩

/-- **A module holds the method that answers for each of its endpoints.** -/
theorem infix_moduleText_of_mem {moduleName label : String} {es : List Endpoint}
    {e : Endpoint} (he : e ∈ es) :
    (endpointCode e).chars 1 <:+: (moduleText moduleName label es).toList := by
  let s : Service := ⟨e.receiver, es.filter fun d => d.receiver == e.receiver⟩
  have hs : s ∈ servicesOf es :=
    List.mem_map.mpr ⟨e.receiver, mem_keysOf.mpr ⟨e, he, rfl⟩, rfl⟩
  have hservice : endpointsCode s ∈ servicesCode (servicesOf es) := by
    unfold servicesCode
    simp only [List.mem_append, List.mem_flatMap]
    exact .inl (.inl (.inr ⟨s, hs, by simp⟩))
  have hmethod : endpointCode e ∈ spaced (s.endpoints.map endpointCode) :=
    mem_spaced (List.mem_map_of_mem (List.mem_filter.mpr ⟨he, beq_self_eq_true _⟩))
  exact (Code.infix_block hmethod 0 _ _).trans (infix_moduleText hservice)

/-- The text of a module does not show where records stand. -/
theorem moduleText_unlinked (moduleName label : String) (es : List Endpoint) :
    moduleText moduleName label (es.map Endpoint.unlinked)
      = moduleText moduleName label es := by
  rw [moduleText, moduleCode, servicesCode_unlinked, moduleText, moduleCode]

end Dispatch

/-! ## Refusals of a source -/

/-- A source is refused before its module is rendered, or not at all. -/
theorem generate_eq_error_iff {source file moduleName : String} {e : GenerationError} :
    generate source file moduleName = .error e
      ↔ Api.ofSource moduleName source file = .error e := by
  rw [generate]
  cases hapi : Api.ofSource moduleName source file with
  | error e' =>
    show Except.error e' = Except.error e ↔ _
    rw [Except.error.injEq, Except.error.injEq]
  | ok api =>
    obtain ⟨-, es, hes, -⟩ := Api.exists_endpoints_of_source hapi
    show (render api file >>= fun text => pure (api, text)) = _ ↔ _
    rw [render_eq_ok hes]
    exact iff_of_false (fun h => nomatch h) (fun h => nomatch h)

end Switchboard
