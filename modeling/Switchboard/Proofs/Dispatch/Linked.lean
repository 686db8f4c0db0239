import Switchboard.Proofs.Dispatch.Filling

/-!
# Rendering goes by links

Linking forgets what the links were. Where it goes through, each handler is rendered
with the first record of the name it takes (`Api.exists_endpoints_of_link`).

Which record that is can be seen in the module. The method of a handler writes its
record out, field by field, and from its text one can tell the handler, the record and
its fields, so a method made from another record would be another text
(`render_by_links`).
-/

namespace Switchboard

open Dispatch

/-! ## Rendering after linking -/

/-- Linking goes through when each handler has its record, and changes nothing but
the links. -/
theorem Api.link_eq_iff {api linked : Api} :
    api.link = (linked, none)
      ↔ linked.moduleName = api.moduleName ∧ linked.records = api.records
        ∧ List.Forall₂ (fun h l => h.linkedIn? api.records = some l) api.handlers
            linked.handlers := by
  rw [link, ← linkHandlers_eq_iff]
  cases linked with
  | mk moduleName handlers records =>
    rw [Prod.mk.injEq, Api.mk.injEq]
    constructor
    · rintro ⟨⟨hmodule, hhandlers, hrecords⟩, hnone⟩
      exact ⟨hmodule.symm, hrecords.symm, Prod.ext hhandlers hnone⟩
    · rintro ⟨hmodule, hrecords, hlink⟩
      rw [hlink]
      exact ⟨⟨hmodule.symm, rfl, hrecords.symm⟩, rfl⟩

/-- **What is rendered of an API after linking**: each handler with the first record
of the name it takes, whatever its link was before. -/
theorem Api.exists_endpoints_of_link {api linked : Api}
    (h : api.link = (linked, none)) :
    ∃ es, List.Forall₂ (fun h e => linked.endpoint h = .ok e) linked.handlers es
      ∧ List.Forall₂ (fun h e => e.handler = h.unlinked
          ∧ (api.records.find? fun r => r.name == h.record) = some e.record)
          api.handlers (es.map Endpoint.unlinked) := by
  obtain ⟨-, hrecords, hlinked⟩ := link_eq_iff.mp h
  generalize api.handlers = hs at hlinked ⊢
  generalize linked.handlers = ls at hlinked ⊢
  induction hlinked with
  | nil => exact ⟨[], .nil, .nil⟩
  | @cons g l _ _ hl _ ih =>
    obtain ⟨es, hes, hmeans⟩ := ih
    obtain ⟨hlink, r, hfind, hget⟩ := Handler.linkedIn?_eq_some hl
    have hrecord : linked.linkedRecord? l = some r := by rwa [linkedRecord?, hrecords]
    have hunlinked : l.unlinked = g.unlinked := by rw [hlink]; rfl
    refine ⟨⟨l, r⟩ :: es, .cons ?_ hes, .cons ⟨hunlinked, hfind⟩ hmeans⟩
    rw [endpoint, hrecord]

/-! ## What is rendered -/

/-- **An API is rendered by its links.** It is refused exactly when a link is missing
or leads past the end, and the refusal names the first such handler, the handlers
taken receiver by receiver; following the links a second time while writing can no
longer fail. After linking there is no refusal, and each handler is written with the
first record of the name it takes: its method is a part of the text, it writes out this
record with its fields, and no method of another handler or another record, made of names,
can be read in its place. So a source is refused exactly when its API cannot be built, for
the same reason. -/
theorem render_by_links (api : Api) (label : String) :
    ((∃ e, render api label = .error e)
      ↔ ∃ h ∈ api.handlers, h.link = none
          ∨ ∃ i, h.link = some i ∧ api.records.length ≤ i)
    ∧ (∀ e, render api label = .error e
      ↔ ∃ before h after, api.handlersByReceiver = before ++ h :: after
          ∧ (∀ g ∈ before, api.Resolves g) ∧ ¬api.Resolves h
          ∧ e = .unresolvedRecord h.location h.receiver h.name h.record)
    ∧ (∀ o : Output, o.emitByTurns api label = o.emit api label)
    ∧ (∀ linked, api.link = (linked, none) →
        ∃ es, List.Forall₂ (fun h e => e.handler = h.unlinked
              ∧ (api.records.find? fun r => r.name == h.record) = some e.record)
            api.handlers es
          ∧ render linked label = .ok (moduleText api.moduleName label es)
          ∧ ∀ e ∈ es,
            (endpointCode e).chars 1 <:+: (moduleText api.moduleName label es).toList
            ∧ ((∀ f ∈ e.record.fields, IsPlain f.name) → literalsOf (endpointCode e)
              = [⟨e.record.name, e.record.fields.map Field.name, e.record.hasOtherFields⟩])
            ∧ (e.IsNamed → ∀ d : Endpoint, d.IsNamed → ∀ behind other,
              (endpointCode e).chars 1 ++ behind = (endpointCode d).chars 1 ++ other →
              d.shown = e.shown))
    ∧ ∀ source file moduleName e, generate source file moduleName = .error e
        ↔ Api.ofSource moduleName source file = .error e := by
  refine ⟨exists_render_eq_error_iff, fun e => render_eq_error_iff,
    fun o => o.emitByTurns_eq api label, fun linked h => ?_,
    fun _ _ _ _ => generate_eq_error_iff⟩
  · obtain ⟨es, hes, hmeans⟩ := Api.exists_endpoints_of_link h
    refine ⟨es.map Endpoint.unlinked, hmeans, ?_, fun e he => ?_⟩
    · rw [render_eq_ok hes, moduleText_unlinked, (Api.link_eq_iff.mp h).1]
    · exact ⟨infix_moduleText_of_mem he, literalsOf_endpointCode,
        fun hnamed d hd _ _ heq => (legible_endpointCode 1 hd hnamed heq.symm).1⟩

/-- Of three handlers whose links are stale, past the end and missing, the second
stands before the third but belongs to a later receiver. Linked, each of them writes out
the record whose name it has. -/
theorem render_by_links_of_stale_links :
    let handler (receiver name : String) (link : Option Nat) (line : Nat) : Handler :=
      ⟨receiver, name, "p", "P", false, none, "P", ⟨"/" ++ name, false, ""⟩, link,
        ⟨"n.rs", line, 5⟩⟩
    let other : Record := ⟨"Q", [], true, ⟨"n.rs", 1, 8⟩⟩
    let taken : Record := ⟨"P", [], true, ⟨"n.rs", 4, 8⟩⟩
    let api : Api := ⟨"n", [handler "S" "f" (some 0) 10, handler "T" "g" (some 2) 12,
      handler "S" "h" none 14], [other, taken]⟩
    render api "n.rs" = .error (.unresolvedRecord ⟨"n.rs", 14, 5⟩ "S" "h" "P")
      ∧ ∃ linked es, api.link = (linked, none)
        ∧ render linked "n.rs" = .ok (moduleText "n" "n.rs" es)
        ∧ es.map Endpoint.record = [taken, taken, taken]
        ∧ ∀ e ∈ es, literalsOf (endpointCode e) = [⟨"P", [], true⟩] := by
  intro handler other taken api
  obtain ⟨-, hrefusal, -, hlinked, -⟩ := render_by_links api "n.rs"
  constructor
  · refine (hrefusal _).mpr ⟨[handler "S" "f" (some 0) 10], handler "S" "h" none 14,
      [handler "T" "g" (some 2) 12], rfl, ?_, by decide, rfl⟩
    decide
  · obtain ⟨es, hes, hrender, hshown⟩ := hlinked api.link.1 rfl
    have hsome : [some taken, some taken, some taken]
        = (es.map Endpoint.record).map some := by
      show (api.handlers.map fun h => api.records.find? fun r => r.name == h.record) = _
      rw [← List.forall₂_eq_eq_eq, List.forall₂_map_left_iff, List.forall₂_map_right_iff,
        List.forall₂_map_right_iff]
      exact hes.imp fun _ _ h => h.2
    have hrecords : es.map Endpoint.record = [taken, taken, taken] :=
      List.map_injective_iff.mpr (Option.some_injective _) hsome.symm
    refine ⟨_, es, rfl, hrender, hrecords, fun e he => ?_⟩
    have htaken : e.record = taken := by
      have hmem : e.record ∈ [taken, taken, taken] := hrecords ▸ List.mem_map_of_mem he
      simpa using hmem
    have hliterals := (hshown e he).2.1
    rw [htaken] at hliterals
    exact hliterals fun _ hf => absurd hf List.not_mem_nil

end Switchboard
