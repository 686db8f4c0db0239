import Switchboard.Proofs.Api.Build

/-!
# The names in an API

A source declares things by identifiers, and these are the names that an API
consists of: of its receivers, its handlers and the records they take as they
are written, of the fields a form fills without the mark of a raw identifier.
None of them can hold a blank, a bracket or anything else that stands between
names in code (`IsName.notMem`).

The names are followed from the identifiers of the source to the declarations
(`isNamed_of_declarations`) and from there to the endpoints of the API
(`exists_endpoints_of_source`).
-/

namespace Switchboard

open Source (Word plainName unmarked)

/-! ## Names -/

/-- **A name as it is written**, with the mark of a raw identifier. -/
def IsName (s : String) : Prop := ∃ w : Word, w.text = s

/-- **A name without the mark** of a raw identifier. -/
def IsPlain (s : String) : Prop := ∃ w : Word, plainName w = s

theorem Source.eq_or_mem_unmarked {cs : List Char} {c : Char} (h : c ∈ cs) :
    c = 'r' ∨ c = '#' ∨ c ∈ unmarked cs := by
  unfold unmarked
  split
  · simpa using h
  · exact .inr (.inr h)

/-- **What stands between names is in none of them**, the mark of a raw
identifier aside. -/
theorem IsName.notMem {s : String} (h : IsName s) {c : Char}
    (hc : Text.isIdentContinue c = false) (hmark : c ≠ '#') : c ∉ s.toList := by
  obtain ⟨w, rfl⟩ := h
  intro hmem
  rcases Source.eq_or_mem_unmarked hmem with rfl | rfl | hmem
  · exact absurd hc (by decide +kernel)
  · exact hmark rfl
  · rw [w.isIdent c hmem] at hc
    exact Bool.noConfusion hc

theorem IsPlain.notMem {s : String} (h : IsPlain s) {c : Char}
    (hc : Text.isIdentContinue c = false) : c ∉ s.toList := by
  obtain ⟨w, rfl⟩ := h
  intro hmem
  rw [plainName, String.toList_ofList] at hmem
  rw [w.isIdent c hmem] at hc
  exact Bool.noConfusion hc

/-! ## Declarations -/

/-- **A handler declaration made of names.** -/
structure HandlerDeclaration.IsNamed (d : HandlerDeclaration) : Prop where
  /-- Its receiver. -/
  receiver : IsName d.receiver
  /-- Its own. -/
  name : IsName d.name

/-- **A record declaration made of names.** -/
structure RecordDeclaration.IsNamed (d : RecordDeclaration) : Prop where
  /-- Its own. -/
  name : IsName d.name
  /-- Those of its fields. -/
  fields : ∀ f ∈ d.fields, IsPlain f.name

/-- A declaration made of names. -/
def Declaration.IsNamed : Declaration → Prop
  | .handler d => d.IsNamed
  | .record d => d.IsNamed

namespace Source

theorem Ty.name?_eq_some_iff {t : Ty} {name : Word} :
    t.name? = some name ↔ ∃ text, t = .named text false name := by
  constructor
  · intro h
    unfold Ty.name? at h
    split at h
    · exact ⟨_, by rw [Option.some.inj h]⟩
    · exact nomatch h
  · rintro ⟨text, rfl⟩
    rfl

theorem Ty.isName_label {t : Ty} (h : ¬t.name?.isNone = true) : IsName t.label := by
  cases hname : t.name? with
  | none => exact absurd (congrArg Option.isNone hname) h
  | some w => exact ⟨w, by rw [Ty.label, hname]; rfl⟩

theorem orFault_eq_ok {α : Type} {fault : SignatureFault} {a? : Option α} {a : α} :
    orFault fault a? = .ok a ↔ a? = some a := by
  cases a? with
  | none => exact ⟨fun h => (nomatch h), fun h => (nomatch h)⟩
  | some b => exact ⟨fun h => congrArg some (Except.ok.inj h),
      fun h => congrArg Except.ok (Option.some.inj h)⟩

/-- **What is declared of a method** whose signature is that of a handler. -/
theorem exists_of_handlerDeclaration {file receiver : String} {m : Method}
    {d : HandlerDeclaration} (h : handlerDeclaration file receiver m = .ok d) :
    ∃ context argument name record result,
      splitParameters m.parameters = .ok (context, argument) ∧ argument.name = some name
        ∧ argument.type.stripped.1.name? = some record
        ∧ d = ⟨receiver, m.name.text, docText m.attributes, context, name.text,
          record.text, argument.type.stripped.2, result, m.pos.inFile file⟩ := by
  unfold handlerDeclaration at h
  obtain ⟨-, h⟩ := throw_if_eq_ok.mp h
  obtain ⟨-, h⟩ := throw_if_eq_ok.mp h
  obtain ⟨-, h⟩ := throw_if_eq_ok.mp h
  obtain ⟨⟨context, argument⟩, hsplit, h⟩ := bind_eq_ok.mp h
  obtain ⟨name, hname, h⟩ := bind_eq_ok.mp h
  obtain ⟨record, hrecord, h⟩ := bind_eq_ok.mp h
  obtain ⟨result, -, h⟩ := bind_eq_ok.mp h
  exact ⟨context, argument, name, record, _, hsplit, orFault_eq_ok.mp hname,
    orFault_eq_ok.mp hrecord, (Except.ok.inj h).symm⟩

theorem names_of_handlerDeclaration {file receiver : String} {m : Method}
    {d : HandlerDeclaration} (h : handlerDeclaration file receiver m = .ok d) :
    d.receiver = receiver ∧ d.name = m.name.text := by
  obtain ⟨_, _, _, _, _, -, -, -, rfl⟩ := exists_of_handlerDeclaration h
  exact ⟨rfl, rfl⟩

/-- A handler is declared in a block of a named type. -/
theorem isNamed_of_blockHandler {file : String} {b : ImplBlock} {m : Method}
    {d : HandlerDeclaration} (h : blockHandler file b m = .ok d) : d.IsNamed := by
  obtain ⟨-, h⟩ := throw_if_eq_ok.mp (mapError_eq_ok.mp h)
  obtain ⟨hself, h⟩ := throw_if_eq_ok.mp h
  obtain ⟨hreceiver, hname⟩ := names_of_handlerDeclaration h
  exact ⟨hreceiver ▸ Ty.isName_label hself, m.name, hname.symm⟩

theorem isPlain_of_fieldDeclaration {file record tag : String} {f : StructField}
    {d : FieldDeclaration} (h : fieldDeclaration file record f tag = .ok d) :
    IsPlain d.name := by
  rw [fieldDeclaration] at h
  split at h
  · rw [← Except.ok.inj h]
    exact ⟨f.name, rfl⟩
  · exact nomatch h

theorem isNamed_of_recordDeclaration? {file : String} {s : Struct}
    {d : RecordDeclaration} (h : recordDeclaration? file s = .ok (some d)) :
    d.IsNamed := by
  obtain ⟨declared, hdeclared, h⟩ := bind_eq_ok.mp h
  split at h
  · exact nomatch Except.ok.inj h
  · rw [← Option.some.inj (Except.ok.inj h)]
    refine ⟨⟨s.name, rfl⟩, fun f hf => ?_⟩
    obtain ⟨_, _, hread⟩ := exists_of_mem_forall₂ (mapM_eq_ok.mp hdeclared).flip hf
    exact isPlain_of_fieldDeclaration hread

theorem isNamed_of_itemDeclarations {file : String} {item : Item}
    {decls : List Declaration} (h : itemDeclarations file item = .ok decls) :
    ∀ d ∈ decls, d.IsNamed := by
  cases item with
  | impl b =>
    obtain ⟨ds, hds, h⟩ := bind_eq_ok.mp h
    rw [← Except.ok.inj h, List.forall_mem_map]
    intro d hd
    rw [handlerDeclarations] at hds
    split at hds
    · rw [← Except.ok.inj hds] at hd
      exact absurd hd List.not_mem_nil
    · obtain ⟨_, _, hread⟩ := exists_of_mem_forall₂ (mapM_eq_ok.mp hds).flip hd
      exact isNamed_of_blockHandler hread
  | struct s =>
    obtain ⟨d?, hd?, h⟩ := bind_eq_ok.mp h
    rw [← Except.ok.inj h]
    cases d? with
    | none => exact fun _ hd => absurd hd List.not_mem_nil
    | some r =>
      intro d hd
      rw [List.mem_singleton.mp hd]
      exact isNamed_of_recordDeclaration? hd?
  | other =>
    rw [← Except.ok.inj h]
    exact fun _ hd => absurd hd List.not_mem_nil

/-- **The declarations of a source file are made of names.** -/
theorem isNamed_of_declarations {source file : String} {decls : List Declaration}
    (h : declarations source file = .ok decls) : ∀ d ∈ decls, d.IsNamed := by
  obtain ⟨tokens, -, h⟩ := bind_eq_ok.mp h
  obtain ⟨items, -, h⟩ := bind_eq_ok.mp h
  obtain ⟨declss, hdeclss, h⟩ := bind_eq_ok.mp h
  rw [← Except.ok.inj h]
  intro d hd
  obtain ⟨ds, hds, hd⟩ := List.mem_flatten.mp hd
  obtain ⟨_, _, hread⟩ := exists_of_mem_forall₂ (mapM_eq_ok.mp hdeclss).flip hds
  exact isNamed_of_itemDeclarations hread d hd

end Source

/-! ## Endpoints -/

/-- **An endpoint made of names.** -/
structure Endpoint.IsNamed (e : Endpoint) : Prop where
  /-- That of its receiver. -/
  receiver : IsName e.handler.receiver
  /-- That of its handler. -/
  handler : IsName e.handler.name
  /-- That of its record. -/
  record : IsName e.record.name
  /-- Those of the fields of its record. -/
  fields : ∀ f ∈ e.record.fields, IsPlain f.name

theorem HandlerDeclaration.names_of_handler {d : HandlerDeclaration} {h : Handler}
    (hh : d.handler = .ok h) : h.receiver = d.receiver ∧ h.name = d.name := by
  rw [eq_of_handler hh]
  exact ⟨rfl, rfl⟩

theorem FieldDeclaration.name_of_field {record : String} {d : FieldDeclaration}
    {f : Field} (hf : d.field record = .ok f) : f.name = d.name := by
  obtain ⟨constraints, -, hf⟩ := bind_eq_ok.mp hf
  rw [← Except.ok.inj hf]

/-- The fields of a record have the names of those declared. -/
theorem RecordDeclaration.exists_name_of_mem {d : RecordDeclaration} {r : Record}
    (hr : d.record = .ok r) {f : Field} (hf : f ∈ r.fields) :
    ∃ fd ∈ d.fields, f.name = fd.name := by
  obtain ⟨fields, hfields, hr⟩ := bind_eq_ok.mp hr
  rw [← Except.ok.inj hr] at hf
  obtain ⟨fd, hmem, hread⟩ := exists_of_mem_forall₂ (mapM_eq_ok.mp hfields).flip hf
  exact ⟨fd, hmem, FieldDeclaration.name_of_field hread⟩

/-- **What declarations made of names mean is made of names.** -/
theorem HandlerDeclaration.Means.isNamed {decls : List Declaration}
    (hnamed : ∀ d ∈ decls, d.IsNamed) {d : HandlerDeclaration} {e : Endpoint}
    (hd : d ∈ handlersIn decls) (h : d.Means decls e) : e.IsNamed := by
  have hhandler : d.IsNamed := hnamed _ (mem_handlersIn.mp hd)
  obtain ⟨rd, hfirst, hread⟩ := h.record
  have hrecord : rd.IsNamed :=
    hnamed _ (mem_recordsIn.mp (List.mem_of_find?_eq_some hfirst))
  obtain ⟨hreceiver, hname⟩ := names_of_handler h.handler
  have hrname := RecordDeclaration.name_of_record hread
  refine ⟨hreceiver ▸ hhandler.receiver, hname ▸ hhandler.name,
    hrname ▸ hrecord.name, fun f hf => ?_⟩
  obtain ⟨fd, hfd, hfname⟩ := RecordDeclaration.exists_name_of_mem hread hf
  exact hfname ▸ hrecord.fields fd hfd

/-- **The endpoints of the API of a source are made of names.** -/
theorem Api.exists_endpoints_of_source {moduleName source file : String} {api : Api}
    (h : Api.ofSource moduleName source file = .ok api) :
    api.moduleName = moduleName
      ∧ ∃ es, List.Forall₂ (fun h e => api.endpoint h = .ok e) api.handlers es
        ∧ ∀ e ∈ es, e.IsNamed := by
  obtain ⟨decls, hdecls, h⟩ := bind_eq_ok.mp h
  obtain ⟨es, hes, hmeans⟩ := Api.exists_endpoints h
  refine ⟨(Api.ofDeclarations_eq_ok.mp h).1, es, hes, fun e he => ?_⟩
  obtain ⟨d, hd, hmeans⟩ := exists_of_mem_forall₂ hmeans.flip he
  exact hmeans.isNamed (Source.isNamed_of_declarations hdecls) hd

end Switchboard
