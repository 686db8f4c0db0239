import Switchboard.Api.Build
import Switchboard.Dispatch.Service
import Switchboard.Proofs.Success

/-!
# What declarations mean

An API is built when each declaration can be read and every handler names a
record that is declared (`exists_ofDeclarations_iff`). The order of the
declarations decides what is built, but only through two lists: the handlers in
order, and the records in order.

Of the records, a handler sees one, the first of the name it takes. So each
declared handler has an endpoint of its own that is told by its declaration and
by that of its record (`HandlerDeclaration.Means`), wherever they stand.
-/

namespace Switchboard

/-! ## Declarations of either kind -/

/-- The handler that a declaration is about, if it is about one. -/
def Declaration.handler? : Declaration → Option HandlerDeclaration
  | .handler d => some d
  | .record _ => none

/-- The record that a declaration is about, if it is about one. -/
def Declaration.record? : Declaration → Option RecordDeclaration
  | .handler _ => none
  | .record d => some d

/-- The handlers declared, in order. -/
def handlersIn (decls : List Declaration) : List HandlerDeclaration :=
  decls.filterMap Declaration.handler?

/-- The records declared, in order. -/
def recordsIn (decls : List Declaration) : List RecordDeclaration :=
  decls.filterMap Declaration.record?

theorem mem_handlersIn {decls : List Declaration} {d : HandlerDeclaration} :
    d ∈ handlersIn decls ↔ .handler d ∈ decls := by
  rw [handlersIn, List.mem_filterMap]
  constructor
  · rintro ⟨_ | _, hmem, hd⟩
    · exact Option.some.inj hd ▸ hmem
    · exact nomatch hd
  · exact fun hmem => ⟨_, hmem, rfl⟩

theorem mem_recordsIn {decls : List Declaration} {d : RecordDeclaration} :
    d ∈ recordsIn decls ↔ .record d ∈ decls := by
  rw [recordsIn, List.mem_filterMap]
  constructor
  · rintro ⟨_ | _, hmem, hd⟩
    · exact nomatch hd
    · exact Option.some.inj hd ▸ hmem
  · exact fun hmem => ⟨_, hmem, rfl⟩

/-- **The first record of a name** among declarations. -/
def firstRecord? (decls : List Declaration) (name : String) :
    Option RecordDeclaration :=
  (recordsIn decls).find? fun d => d.name == name

/-- Declarations are read one by one, handlers and records apart. -/
theorem exists_parts_iff {decls : List Declaration} {hs : List Handler}
    {rs : List Record} :
    (∃ parts, List.Forall₂ (fun d p => d.parts = .ok p) decls parts
        ∧ parts.flatMap Prod.fst = hs ∧ parts.flatMap Prod.snd = rs)
      ↔ List.Forall₂ (fun d h => d.handler = .ok h) (handlersIn decls) hs
        ∧ List.Forall₂ (fun d r => d.record = .ok r) (recordsIn decls) rs := by
  induction decls generalizing hs rs with
  | nil =>
    simp [handlersIn, recordsIn, eq_comm]
  | cons d rest ih =>
    cases d with
    | handler d =>
      have hhandlers : handlersIn (.handler d :: rest) = d :: handlersIn rest := rfl
      have hrecords : recordsIn (.handler d :: rest) = recordsIn rest := rfl
      rw [hhandlers, hrecords, List.forall₂_cons_left_iff]
      constructor
      · rintro ⟨parts, hparts, rfl, rfl⟩
        obtain ⟨p, ps, hp, hps, rfl⟩ := List.forall₂_cons_left_iff.mp hparts
        obtain ⟨h, hh, hp⟩ := bind_eq_ok.mp hp
        obtain ⟨hhs, hrs⟩ := ih.mp ⟨ps, hps, rfl, rfl⟩
        rw [← Except.ok.inj hp]
        exact ⟨⟨h, _, hh, hhs, rfl⟩, hrs⟩
      · rintro ⟨⟨h, hs, hh, hhs, rfl⟩, hrs⟩
        obtain ⟨ps, hps, rfl, rfl⟩ := ih.mpr ⟨hhs, hrs⟩
        exact ⟨([h], []) :: ps, .cons (bind_eq_ok.mpr ⟨h, hh, rfl⟩) hps, rfl, rfl⟩
    | record d =>
      have hhandlers : handlersIn (.record d :: rest) = handlersIn rest := rfl
      have hrecords : recordsIn (.record d :: rest) = d :: recordsIn rest := rfl
      rw [hhandlers, hrecords, List.forall₂_cons_left_iff]
      constructor
      · rintro ⟨parts, hparts, rfl, rfl⟩
        obtain ⟨p, ps, hp, hps, rfl⟩ := List.forall₂_cons_left_iff.mp hparts
        obtain ⟨r, hr, hp⟩ := bind_eq_ok.mp hp
        obtain ⟨hhs, hrs⟩ := ih.mp ⟨ps, hps, rfl, rfl⟩
        rw [← Except.ok.inj hp]
        exact ⟨hhs, r, _, hr, hrs, rfl⟩
      · rintro ⟨hhs, r, rs, hr, hrs, rfl⟩
        obtain ⟨ps, hps, rfl, rfl⟩ := ih.mpr ⟨hhs, hrs⟩
        exact ⟨([], [r]) :: ps, .cons (bind_eq_ok.mpr ⟨r, hr, rfl⟩) hps, rfl, rfl⟩

/-- **A handler is what is declared and a directive**, not linked yet. -/
theorem HandlerDeclaration.eq_of_handler {d : HandlerDeclaration} {h : Handler}
    (hh : d.handler = .ok h) :
    h = ⟨d.receiver, d.name, d.argument, d.record, d.byRef, d.context, d.result,
      h.directive, none, d.location⟩ := by
  obtain ⟨directive, _, hh⟩ := bind_eq_ok.mp hh
  rw [← Except.ok.inj hh]

theorem HandlerDeclaration.record_of_handler {d : HandlerDeclaration} {h : Handler}
    (hh : d.handler = .ok h) : h.record = d.record := by
  rw [eq_of_handler hh]

theorem HandlerDeclaration.link_of_handler {d : HandlerDeclaration} {h : Handler}
    (hh : d.handler = .ok h) : h.link = none := by
  rw [eq_of_handler hh]

theorem RecordDeclaration.name_of_record {d : RecordDeclaration} {r : Record}
    (hr : d.record = .ok r) : r.name = d.name := by
  obtain ⟨fields, _, hr⟩ := bind_eq_ok.mp hr
  rw [← Except.ok.inj hr]

/-! ## Linking -/

/-- Linking goes through when each handler has its record. -/
theorem linkHandlers_eq_iff {records : List Record} {hs linked : List Handler} :
    linkHandlers records hs = (linked, none)
      ↔ List.Forall₂ (fun h l => h.linkedIn? records = some l) hs linked := by
  induction hs generalizing linked with
  | nil =>
    rw [linkHandlers, List.forall₂_nil_left_iff, Prod.mk.injEq]
    exact ⟨fun h => h.1.symm, fun h => ⟨h.symm, rfl⟩⟩
  | cons h rest ih =>
    rw [linkHandlers, List.forall₂_cons_left_iff]
    cases hlinked : h.linkedIn? records with
    | none =>
      exact iff_of_false (fun e => nomatch congrArg Prod.snd e)
        (fun ⟨_, _, e, _⟩ => nomatch e)
    | some l =>
      dsimp only
      rw [Prod.mk.injEq]
      constructor
      · rintro ⟨rfl, hnone⟩
        exact ⟨l, _, rfl, ih.mp (Prod.ext rfl hnone), rfl⟩
      · rintro ⟨l', rest', hl, hrest, rfl⟩
        rw [ih.mpr hrest, Option.some.inj hl]
        exact ⟨rfl, rfl⟩

/-- A handler is linked to the first record of the name it takes. -/
theorem Handler.linkedIn?_eq_some {records : List Record} {h l : Handler}
    (hl : h.linkedIn? records = some l) :
    l = { h with link := l.link }
      ∧ ∃ r, (records.find? fun r => r.name == h.record) = some r
          ∧ l.link.bind (records[·]?) = some r := by
  obtain ⟨i, hi, rfl⟩ := Option.map_eq_some_iff.mp hl
  have hfind : (records.find? fun r => r.name == h.record) = records[i]? := by
    rw [List.find?_eq_bind_findIdx?_getElem?, ← recordIndex?, hi]
    rfl
  have hlt : i < records.length :=
    (List.findIdx?_eq_some_iff_findIdx_eq.mp hi).1
  exact ⟨rfl, records[i], hfind.trans (List.getElem?_eq_getElem hlt),
    List.getElem?_eq_getElem hlt⟩

theorem Handler.exists_linkedIn?_iff {records : List Record} {h : Handler} :
    (∃ l, h.linkedIn? records = some l) ↔ ∃ r ∈ records, r.name = h.record := by
  rw [← Option.isSome_iff_exists, linkedIn?, Option.isSome_map, recordIndex?,
    List.findIdx?_isSome, List.any_eq_true]
  exact exists_congr (fun r => and_congr_right (fun _ => beq_iff_eq))

/-! ## Building -/

/-- **What an API consists of** when it is built: of its declarations the
handlers, linked, and the records. -/
theorem Api.ofDeclarations_eq_ok {moduleName : String} {decls : List Declaration}
    {api : Api} :
    Api.ofDeclarations moduleName decls = .ok api
      ↔ api.moduleName = moduleName
        ∧ List.Forall₂ (fun d r => d.record = .ok r) (recordsIn decls) api.records
        ∧ ∃ hs, List.Forall₂ (fun d h => d.handler = .ok h) (handlersIn decls) hs
          ∧ List.Forall₂ (fun h l => h.linkedIn? api.records = some l) hs
              api.handlers := by
  rw [ofDeclarations, bind_eq_ok]
  constructor
  · rintro ⟨parts, hparts, h⟩
    obtain ⟨hhandlers, hrecords⟩ :=
      exists_parts_iff.mp ⟨parts, mapM_eq_ok.mp hparts, rfl, rfl⟩
    dsimp only [link] at h
    split at h
    · next linked hlink =>
      obtain ⟨rfl, hnone⟩ := Prod.mk.inj hlink
      rw [← Except.ok.inj h]
      exact ⟨rfl, hrecords, _, hhandlers, linkHandlers_eq_iff.mp (Prod.ext rfl hnone)⟩
    · exact nomatch h
  · rintro ⟨rfl, hrecords, hs, hhandlers, hlinked⟩
    obtain ⟨parts, hparts, rfl, hrs⟩ := exists_parts_iff.mpr ⟨hhandlers, hrecords⟩
    refine ⟨parts, mapM_eq_ok.mpr hparts, ?_⟩
    dsimp only [link]
    rw [hrs, linkHandlers_eq_iff.mpr hlinked]
    rfl

/-- **An API is built** exactly when each declaration can be read and every
handler names a record that is declared. -/
theorem Api.exists_ofDeclarations_iff {moduleName : String}
    {decls : List Declaration} :
    (∃ api, Api.ofDeclarations moduleName decls = .ok api)
      ↔ (∀ d ∈ handlersIn decls, ∃ h, d.handler = .ok h)
        ∧ (∀ d ∈ recordsIn decls, ∃ r, d.record = .ok r)
        ∧ ∀ d ∈ handlersIn decls, ∃ rd ∈ recordsIn decls, rd.name = d.record := by
  constructor
  · rintro ⟨api, hapi⟩
    obtain ⟨-, hrecords, hs, hhandlers, hlinked⟩ := ofDeclarations_eq_ok.mp hapi
    refine ⟨exists_forall₂_iff.mp ⟨hs, hhandlers⟩,
      exists_forall₂_iff.mp ⟨api.records, hrecords⟩, fun d hd => ?_⟩
    obtain ⟨h, hmem, hh⟩ := exists_of_mem_forall₂ hhandlers hd
    obtain ⟨l, _, hl⟩ := exists_of_mem_forall₂ hlinked hmem
    obtain ⟨r, hr, hname⟩ := Handler.exists_linkedIn?_iff.mp ⟨l, hl⟩
    obtain ⟨rd, hrd, hread⟩ := exists_of_mem_forall₂ hrecords.flip hr
    exact ⟨rd, hrd, by rw [← RecordDeclaration.name_of_record hread, hname, HandlerDeclaration.record_of_handler hh]⟩
  · rintro ⟨hhandlers, hrecords, hdeclared⟩
    obtain ⟨hs, hhs⟩ := exists_forall₂_iff.mpr hhandlers
    obtain ⟨rs, hrs⟩ := exists_forall₂_iff.mpr hrecords
    obtain ⟨ls, hls⟩ : ∃ ls, List.Forall₂ (fun h l => h.linkedIn? rs = some l) hs ls := by
      refine exists_forall₂_iff.mpr (fun h hmem => Handler.exists_linkedIn?_iff.mpr ?_)
      obtain ⟨d, hd, hh⟩ := exists_of_mem_forall₂ hhs.flip hmem
      obtain ⟨rd, hrd, hname⟩ := hdeclared d hd
      obtain ⟨r, hr, hread⟩ := exists_of_mem_forall₂ hrs hrd
      exact ⟨r, hr, by rw [RecordDeclaration.name_of_record hread, hname, HandlerDeclaration.record_of_handler hh]⟩
    exact ⟨⟨moduleName, ls, rs⟩, ofDeclarations_eq_ok.mpr ⟨rfl, hrs, hs, hhs, hls⟩⟩

/-! ## Endpoints -/

/-- A handler without its link. -/
def Handler.unlinked (h : Handler) : Handler := { h with link := none }

/-- **The endpoint that a handler declaration means** among declarations: its
handler is read from it, its record from the first one of the name it takes.
The link is a position among the records, so it is left out. -/
structure HandlerDeclaration.Means (decls : List Declaration)
    (d : HandlerDeclaration) (e : Endpoint) : Prop where
  /-- The handler is read from the declaration. -/
  handler : d.handler = .ok e.handler.unlinked
  /-- The record is read from the first one of its name. -/
  record : ∃ rd, firstRecord? decls d.record = some rd ∧ rd.record = .ok e.record

/-- The first record of a name is read from the first declaration of it. -/
theorem exists_firstRecord? {decls : List Declaration} {rs : List Record}
    (h : List.Forall₂ (fun d r => d.record = .ok r) (recordsIn decls) rs)
    {name : String} {r : Record} (hr : (rs.find? fun r => r.name == name) = some r) :
    ∃ rd, firstRecord? decls name = some rd ∧ rd.record = .ok r := by
  have hnamed : List.Forall₂ (fun d r => d.record = .ok r)
      ((recordsIn decls).filter fun d => d.name == name)
      (rs.filter fun r => r.name == name) := by
    refine List.rel_filter (fun d r hd => ?_) h
    show d.name == name ↔ r.name == name
    rw [RecordDeclaration.name_of_record hd]
  rw [← List.head?_filter] at hr
  obtain ⟨rest, hcons⟩ := List.head?_eq_some_iff.mp hr
  rw [hcons] at hnamed
  obtain ⟨rd, rds, hrd, _, hfilter⟩ := List.forall₂_cons_right_iff.mp hnamed
  exact ⟨rd, by rw [firstRecord?, ← List.head?_filter, hfilter]; rfl, hrd⟩

/-- A linked handler has the endpoint that its declaration means. -/
theorem HandlerDeclaration.exists_endpoint {decls : List Declaration} {api : Api}
    (hrecords : List.Forall₂ (fun d r => d.record = .ok r) (recordsIn decls)
      api.records)
    {d : HandlerDeclaration} {h l : Handler} (hh : d.handler = .ok h)
    (hl : h.linkedIn? api.records = some l) :
    ∃ e, api.endpoint l = .ok e ∧ d.Means decls e := by
  obtain ⟨hlink, r, hfind, hget⟩ := Handler.linkedIn?_eq_some hl
  rw [record_of_handler hh] at hfind
  have hlinked : api.linkedRecord? l = some r := hget
  have hunlinked : l.unlinked = h := by
    rw [hlink, Handler.unlinked, ← link_of_handler hh]
  refine ⟨⟨l, r⟩, ?_, ?_, exists_firstRecord? hrecords hfind⟩
  · rw [Api.endpoint, hlinked]
  · rw [hunlinked, hh]

/-- **Each declared handler has the endpoint that it means**, and these are all
endpoints of the API, in the order of the declarations. -/
theorem Api.exists_endpoints {moduleName : String} {decls : List Declaration}
    {api : Api} (h : Api.ofDeclarations moduleName decls = .ok api) :
    ∃ es, List.Forall₂ (fun h e => api.endpoint h = .ok e) api.handlers es
      ∧ List.Forall₂ (HandlerDeclaration.Means decls) (handlersIn decls) es := by
  obtain ⟨-, hrecords, hs, hhandlers, hlinked⟩ := ofDeclarations_eq_ok.mp h
  generalize handlersIn decls = ds at hhandlers ⊢
  generalize api.handlers = ls at hlinked ⊢
  induction hhandlers generalizing ls with
  | nil =>
    rw [List.forall₂_nil_left_iff.mp hlinked]
    exact ⟨[], .nil, .nil⟩
  | cons hh _ ih =>
    obtain ⟨l, ls, hl, hls, rfl⟩ := List.forall₂_cons_left_iff.mp hlinked
    obtain ⟨e, he, hmeans⟩ := HandlerDeclaration.exists_endpoint hrecords hh hl
    obtain ⟨es, hes, hall⟩ := ih ls hls
    exact ⟨e :: es, .cons he hes, .cons hmeans hall⟩

end Switchboard
