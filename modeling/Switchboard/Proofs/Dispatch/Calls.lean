import Switchboard.Proofs.Dispatch.Reading
import Switchboard.Proofs.Source.Items

/-!
# How a handler is called

Between the signature of a handler and the call of it stand three facts: whether it
takes the context of the request, how, and how it takes its record. Both parameters
are read the same way, as a path to a name with at most one reference around it, and
the call passes a reference exactly where the signature has one
(`calls_of_source`). Every other signature is refused.

The kind of the reference is not among those facts. A parameter that is a mutable
reference is read as any other, and its handler is called with a shared one, which it
does not take (`not_every_reference_is_shared`).
-/

namespace Switchboard

open Text (join)

namespace Source

/-! ## The parameters of a handler -/

/-- **A type that leads to a name**: a path whose last segment is the name and has no
arguments, as a value or behind one reference of either kind. -/
inductive Ty.LeadsTo : Ty → Bool → Word → Prop where
  /-- A value. -/
  | value (text : String) (name : Word) : LeadsTo (.named text false name) false name
  /-- A reference. -/
  | reference (text inner : String) (mutable : Bool) (name : Word) :
    LeadsTo (.reference text mutable (.named inner false name)) true name

/-- To lead to a name is to have it once a reference is taken away. -/
theorem Ty.leadsTo_iff {t : Ty} {byRef : Bool} {name : Word} :
    t.LeadsTo byRef name ↔ t.stripped.1.name? = some name ∧ t.stripped.2 = byRef := by
  constructor
  · intro h
    cases h <;> exact ⟨rfl, rfl⟩
  · rintro ⟨hname, rfl⟩
    obtain ⟨text, htext⟩ := Ty.name?_eq_some_iff.mp hname
    -- one reference is taken away at most, so below a reference the name must stand bare
    cases t with
    | reference outer mutable target =>
      obtain rfl : target = .named text false name := htext
      exact .reference outer text mutable name
    | named outer qualified other =>
      obtain ⟨-, rfl, rfl⟩ := Ty.named.inj htext
      exact .value outer other
    | applied => exact nomatch htext
    | other => exact nomatch htext

/-- How a value is passed that a parameter takes as it is or by reference. -/
def passed (name : String) (byRef : Bool) : String := if byRef then "&" ++ name else name

/-- **Parameters that are called with arguments**, and the record they take: a record
under a name of its own, before it perhaps the context, each by reference exactly
where its type is one. -/
inductive CalledWith : List Parameter → String → List String → Prop where
  /-- Only the record. -/
  | record {p : Parameter} {byRef : Bool} {record : Word} (named : p.name.isSome = true)
    (type : p.type.LeadsTo byRef record) :
    CalledWith [p] record.text [passed "params" byRef]
  /-- The context and the record. -/
  | context {c p : Parameter} {byRef byRef' : Bool} {context record : Word}
    (isContext : c.type.LeadsTo byRef context) (spelled : context.text = "Context")
    (named : p.name.isSome = true) (type : p.type.LeadsTo byRef' record) :
    CalledWith [c, p] record.text [passed "ctx" byRef, passed "params" byRef']

theorem CalledWith.parameters_ne_nil {parameters : List Parameter} {record : String}
    {arguments : List String} (h : CalledWith parameters record arguments) :
    parameters ≠ [] := by
  cases h <;> exact List.cons_ne_nil _ _

/-- The arguments of a handler that takes the context in some way. -/
def argumentList (context : Option ContextMode) (byRef : Bool) : List String :=
  (context.map fun mode => passed "ctx" (mode == .byRef)).toList ++ [passed "params" byRef]

theorem contextMode?_eq_some {c : Parameter} {mode : ContextMode}
    (h : contextMode? c = some mode) :
    ∃ name : Word, c.type.LeadsTo (mode == .byRef) name ∧ name.text = "Context" := by
  have hmode : contextMode? c
      = if c.type.stripped.1.name?.map Word.text = some "Context" then
          some (if c.type.stripped.2 then .byRef else .byValue) else none := rfl
  rw [hmode, Option.ite_none_right_eq_some] at h
  obtain ⟨hname, h⟩ := h
  obtain ⟨name, hname, htext⟩ := Option.map_eq_some_iff.mp hname
  refine ⟨name, Ty.leadsTo_iff.mpr ⟨hname, ?_⟩, htext⟩
  rw [← Option.some.inj h]
  cases c.type.stripped.2 <;> rfl

/-- **A declared handler is one that can be called** with the arguments it declares. -/
theorem calledWith_of_handlerDeclaration {file receiver : String} {m : Method}
    {d : HandlerDeclaration} (h : handlerDeclaration file receiver m = .ok d) :
    CalledWith m.parameters d.record (argumentList d.context d.byRef) := by
  obtain ⟨context, argument, name, record, result, hsplit, hname, hrecord, rfl⟩ :=
    exists_of_handlerDeclaration h
  have hnamed : argument.name.isSome = true := Option.isSome_iff_exists.mpr ⟨name, hname⟩
  have htype : argument.type.LeadsTo argument.type.stripped.2 record :=
    Ty.leadsTo_iff.mpr ⟨hrecord, rfl⟩
  unfold splitParameters at hsplit
  split at hsplit
  · next hparameters =>
    obtain ⟨rfl, rfl⟩ := Prod.mk.inj (Except.ok.inj hsplit)
    rw [hparameters]
    exact .record hnamed htype
  · next hparameters =>
    split at hsplit
    · next hmode =>
      obtain ⟨rfl, rfl⟩ := Prod.mk.inj (Except.ok.inj hsplit)
      obtain ⟨context, hcontext, hspelled⟩ := contextMode?_eq_some hmode
      rw [hparameters]
      exact .context hcontext hspelled hnamed htype
    · exact nomatch hsplit
  · exact nomatch hsplit

/-! ## The annotated methods of a source -/

theorem forall₂_handlersIn_of_itemDeclarations {file : String} {item : Item}
    {decls : List Declaration} (h : itemDeclarations file item = .ok decls) :
    List.Forall₂ (fun bm d => blockHandler file bm.1 bm.2 = .ok d) item.annotated
      (handlersIn decls) := by
  cases item with
  | impl b =>
    obtain ⟨ds, hds, h⟩ := bind_eq_ok.mp h
    have hhandlers : handlersIn (ds.map .handler) = ds := by
      rw [handlersIn, List.filterMap_map]
      exact List.filterMap_some
    rw [← Except.ok.inj h, hhandlers, Item.annotated, List.forall₂_map_left_iff]
    exact mapM_eq_ok.mp (handlerDeclarations_eq file b ▸ hds)
  | struct s =>
    obtain ⟨d?, -, h⟩ := bind_eq_ok.mp h
    rw [← Except.ok.inj h]
    cases d? <;> exact .nil
  | other =>
    rw [← Except.ok.inj h]
    exact .nil

/-- **The handlers of a source are its annotated methods**, in order. -/
theorem forall₂_handlersIn {file : String} {items : List Item} {decls : List Declaration}
    (h : declarationsIn file items = .ok decls) :
    List.Forall₂ (fun bm d => blockHandler file bm.1 bm.2 = .ok d)
      (items.flatMap Item.annotated) (handlersIn decls) := by
  obtain ⟨declss, hdeclss, rfl⟩ := map_eq_ok.mp h
  rw [handlersIn, List.filterMap_flatten, ← List.flatMap_def]
  exact List.rel_flatMap (mapM_eq_ok.mp hdeclss) fun _ _ => forall₂_handlersIn_of_itemDeclarations

/-! ## Methods that are refused -/

/-- What a block refuses is the signature of one of its methods. -/
theorem exists_fault_of_blockHandler {file : String} {b : ImplBlock} {m : Method}
    {e : GenerationError} (h : blockHandler file b m = .error e) :
    ∃ fault, e
      = .unsupportedSignature (m.pos.inFile file) b.self.label m.name.text fault := by
  obtain ⟨fault, -, rfl⟩ := mapError_eq_error.mp h
  exact ⟨fault, rfl⟩

theorem calledWith_of_blockHandler {file : String} {b : ImplBlock} {m : Method}
    {d : HandlerDeclaration} (h : blockHandler file b m = .ok d) :
    CalledWith m.parameters d.record (argumentList d.context d.byRef)
      ∧ d.receiver = b.self.label ∧ d.name = m.name.text := by
  obtain ⟨-, h⟩ := throw_if_eq_ok.mp (mapError_eq_ok.mp h)
  obtain ⟨-, h⟩ := throw_if_eq_ok.mp h
  exact ⟨calledWith_of_handlerDeclaration h, names_of_handlerDeclaration h⟩

/-- **A method that cannot be called is refused**, and the source with it; the refusal
is of its signature if nothing before it is refused. -/
theorem refused_of_not_calledWith (file : String) {source : String} {tokens : List Token}
    {before after : List Item} {b : ImplBlock} {earlier later : List Method} {m : Method}
    (htokens : fileTokens source = .ok tokens)
    (hitems : itemsOf tokens = .ok (before ++ .impl b :: after))
    (hmethods : b.annotated = earlier ++ m :: later)
    (hform : ∀ record arguments, ¬CalledWith m.parameters record arguments) :
    (∃ e, declarations source file = .error e)
      ∧ ((∀ item ∈ before, ∃ decls, itemDeclarations file item = .ok decls) →
        (∀ n ∈ earlier, ∃ d, blockHandler file b n = .ok d) →
        ∃ fault, declarations source file = .error
          (.unsupportedSignature (m.pos.inFile file) b.self.label m.name.text fault)) := by
  obtain ⟨e, he⟩ : ∃ e, blockHandler file b m = .error e := by
    cases hm : blockHandler file b m with
    | error e => exact ⟨e, rfl⟩
    | ok d => exact absurd (calledWith_of_blockHandler hm).1 (hform _ _)
  constructor
  · cases hdecls : declarations source file with
    | error e => exact ⟨e, rfl⟩
    | ok decls =>
      rw [declarations_eq htokens hitems] at hdecls
      obtain ⟨d, -, hd⟩ := exists_of_mem_forall₂ (forall₂_handlersIn hdecls)
        (a := (b, m)) (by simp [Item.annotated, hmethods])
      exact nomatch he.symm.trans hd
  · intro hbefore hearlier
    -- the first refusal counts, within the block and then among the items
    obtain ⟨fault, rfl⟩ := exists_fault_of_blockHandler he
    have hblock : itemDeclarations file (.impl b) = .error
        (.unsupportedSignature (m.pos.inFile file) b.self.label m.name.text fault) := by
      have hmapM := mapM_eq_error_iff.mpr ⟨earlier, m, later, hmethods, he, hearlier⟩
      rw [itemDeclarations, handlerDeclarations_eq, hmapM]
      rfl
    rw [declarations_eq htokens hitems]
    exact ⟨fault, declarationsIn_eq_error hbefore hblock⟩

end Source

namespace Dispatch

open Source

/-! ## Calls in code -/

/-- The arguments of the call of a method, if code is the block that takes the answer of
the call apart: what stands between the brackets. -/
def callIn? (name : String) : Code → Option (List Char)
  | .block opening _ _ => between? ("match self." ++ name ++ "(") ") \x7b" opening
  | _ => none

/-- **The calls of a method** in the body of another one, by their arguments. -/
def callsOf (name : String) : Code → List (List Char)
  | .block _ body _ => body.filterMap (callIn? name)
  | _ => []

theorem argumentsText_eq_join (h : Handler) :
    argumentsText h = join ", " (argumentList h.context h.byRef) := by
  unfold argumentsText
  rcases h.context with _ | ⟨⟨⟩⟩ <;> rcases h.byRef with _ | _ <;> decide +kernel

theorem callIn?_callCode (h : Handler) :
    callIn? h.name (callCode h) = some (argumentsText h).toList :=
  between?_eq_some_iff.mpr (by simp only [String.toList_append])

/-- A block that begins otherwise is no call. -/
theorem callIn?_of_head? {name opening closing : String} {inside : List Code}
    (h : opening.toList.head? ≠ some 'm') :
    callIn? name (.block opening inside closing) = none := by
  refine between?_of_head? ?_ ?_ <;> simp [String.toList_append, h]

/-- **The method that answers for an endpoint calls its handler once**, with the
arguments that its declaration asks for. -/
theorem callsOf_endpointCode (e : Endpoint) :
    callsOf e.handler.name (endpointCode e)
      = [(join ", " (argumentList e.handler.context e.handler.byRef)).toList] := by
  have hblank : callIn? e.handler.name .blank = none := rfl
  have htable (declaration : String) (entries : List String)
      (h : declaration.toList.head? = some 'c') :
      callIn? e.handler.name (tableCode declaration entries) = none :=
    callIn?_of_head? (by simp [String.toList_append, h])
  have hintake : intakeCode.filterMap (callIn? e.handler.name) = [] := by
    simp only [intakeCode, bindCode, List.filterMap_cons, List.filterMap_nil]
    rw [callIn?_of_head? (by decide), callIn?_of_head? (by decide),
      callIn?_of_head? (by decide)]
  have hrecord : callIn? e.handler.name (recordCode e.record) = none :=
    callIn?_of_head? (by simp [String.toList_append])
  have hcontext : (contextCode e.handler).filterMap (callIn? e.handler.name) = [] := by
    rw [contextCode]
    split_ifs <;> rfl
  rw [endpointCode, callsOf]
  simp only [List.filterMap_append, List.filterMap_cons, List.filterMap_nil, hblank,
    htable "const TEMPLATE: &[(&str, &str)]" _ (by decide),
    htable "const INPUTS: &[InputField]" _ (by decide), hintake, hrecord, hcontext,
    callIn?_callCode, argumentsText_eq_join, List.nil_append]

end Dispatch

/-! ## Calls of the handlers of a source -/

open Source Dispatch

/-- **A method of a block is called in a text**: the text has the code of an endpoint of
its receiver and its name, and there the method is called once, with the arguments
that its parameters ask for, the record being the one that the last of them names. -/
structure CallsMethod (text : String) (b : ImplBlock) (m : Method) (e : Endpoint) :
    Prop where
  /-- The endpoint belongs to the block's type. -/
  receiver : e.handler.receiver = b.self.label
  /-- The endpoint has the method's name. -/
  name : e.handler.name = m.name.text
  /-- The text has the code of the endpoint. -/
  written : (endpointCode e).chars 1 <:+: text.toList
  /-- The code calls the method as its parameters ask. -/
  called : ∃ arguments, CalledWith m.parameters e.record.name arguments
    ∧ callsOf e.handler.name (endpointCode e) = [(join ", " arguments).toList]

theorem callsMethod_of_means {file text : String} {decls : List Declaration}
    {b : ImplBlock} {m : Method} {d : HandlerDeclaration} {e : Endpoint}
    (hd : blockHandler file b m = .ok d) (he : d.Means decls e)
    (hwritten : (endpointCode e).chars 1 <:+: text.toList) : CallsMethod text b m e := by
  obtain ⟨hcalled, hreceiver, hname⟩ := calledWith_of_blockHandler hd
  have hhandler := HandlerDeclaration.eq_of_handler he.handler
  have hcontext : e.handler.context = d.context := congrArg Handler.context hhandler
  have hbyRef : e.handler.byRef = d.byRef := congrArg Handler.byRef hhandler
  obtain ⟨rd, hfirst, hread⟩ := he.record
  have hrecord : e.record.name = d.record := by
    rw [RecordDeclaration.name_of_record hread]
    have hsame := List.find?_some hfirst
    exact beq_iff_eq.mp hsame
  refine ⟨(congrArg Handler.receiver hhandler).trans hreceiver,
    (congrArg Handler.name hhandler).trans hname, hwritten, _, hrecord ▸ hcalled, ?_⟩
  rw [callsOf_endpointCode, hcontext, hbyRef]

/-- **Handlers are called as they are declared.** Of a source that is accepted, each
annotated method is called by the module with the arguments its parameters ask for, in
their order. A source with an annotated method whose parameters no call fits is
refused, for the signature of this method if nothing before it is refused. -/
theorem calls_of_source {moduleName source file : String} {tokens : List Token}
    {items : List Item} (htokens : fileTokens source = .ok tokens)
    (hitems : itemsOf tokens = .ok items) (label : String) :
    (∀ api, Api.ofSource moduleName source file = .ok api →
      ∃ text es, render api label = .ok text
        ∧ List.Forall₂ (fun h e => api.endpoint h = .ok e) api.handlers es
        ∧ List.Forall₂ (fun bm e => CallsMethod text bm.1 bm.2 e)
            (items.flatMap Item.annotated) es)
    ∧ ∀ before b after earlier m later, items = before ++ .impl b :: after →
      b.annotated = earlier ++ m :: later →
      (∀ record arguments, ¬CalledWith m.parameters record arguments) →
      (∃ e, Api.ofSource moduleName source file = .error e)
      ∧ ((∀ item ∈ before, ∃ decls, itemDeclarations file item = .ok decls) →
        (∀ n ∈ earlier, ∃ d, blockHandler file b n = .ok d) →
        ∃ fault, Api.ofSource moduleName source file = .error
          (.unsupportedSignature (m.pos.inFile file) b.self.label m.name.text fault)) := by
  constructor
  · intro api h
    obtain ⟨decls, hdecls, h⟩ := bind_eq_ok.mp h
    obtain ⟨es, hes, hmeans⟩ := Api.exists_endpoints h
    rw [declarations_eq htokens hitems] at hdecls
    refine ⟨_, es, render_eq_ok hes label, hes, ?_⟩
    refine forall₂_trans ?_ (forall₂_handlersIn hdecls) (forall₂_and_mem hmeans)
    rintro ⟨b, m⟩ d e hd ⟨he, hmem⟩
    exact callsMethod_of_means hd he (infix_moduleText_of_mem hmem)
  · rintro before b after earlier m later rfl hmethods hform
    obtain ⟨⟨e, he⟩, hfirst⟩ :=
      refused_of_not_calledWith file htokens hitems hmethods hform
    constructor
    · exact ⟨e, by rw [Api.ofSource, he]; rfl⟩
    · intro hbefore hearlier
      obtain ⟨fault, hfault⟩ := hfirst hbefore hearlier
      exact ⟨fault, by rw [Api.ofSource, hfault]; rfl⟩

/-- A source whose handler takes its record as a mutable reference. -/
def mutableSource : String := join "\n" [
  "struct P \x7b", "/// apivalidator:\"required\"", "t: String", "\x7d",
  "impl S \x7b", "/// apigen:api \x7b\"url\": \"/a\"\x7d",
  "fn f(&self, c: Context, p: &mut P) -> Result<P, E> \x7b\x7d", "\x7d"]

/-- A source whose handler takes no record. -/
def emptyHandedSource : String := join "\n" [
  "impl S \x7b", "/// apigen:api \x7b\"url\": \"/a\"\x7d",
  "fn f(&self) -> Result<P, E> \x7b\x7d", "\x7d"]

/-- Whether a type is a mutable reference. -/
def Source.Ty.isMutable : Ty → Bool
  | .reference _ mutable _ => mutable
  | _ => false

/-- How the annotated methods of a source take what they take: by reference, and by
mutable reference. -/
def Source.referencesIn (source : String) : Except Pos (List (List (Bool × Bool))) :=
  (fileTokens source >>= itemsOf).map fun items =>
    (items.flatMap Item.annotated).map fun bm =>
      bm.2.parameters.map fun p => (p.type.stripped.2, p.type.isMutable)

theorem referencesIn_mutableSource :
    referencesIn mutableSource = .ok [[(false, false), (true, true)]] := by
  rw [referencesIn, fileTokens, mutableSource, join, String.toList_intercalate]
  simp only [List.map_cons, List.map_nil]
  repeat rewrite [String.toList_ofList]
  decide +kernel

theorem exists_ofSource_mutableSource :
    ∃ api, Api.ofSource "s" mutableSource "s.rs" = .ok api := by
  have hlinks : (Api.ofSource "s" mutableSource "s.rs").map
      (fun api => api.handlers.map Handler.link) = .ok [some 0] := by
    rw [Api.ofSource, declarations, fileTokens, mutableSource, join,
      String.toList_intercalate]
    simp only [List.map_cons, List.map_nil]
    repeat rewrite [String.toList_ofList]
    decide +kernel
  obtain ⟨api, hapi, -⟩ := map_eq_ok.mp hlinks
  exact ⟨api, hapi⟩

/-- The methods of the blocks of a source that carry a directive, by the number of what
they take. -/
def Source.aritiesIn (source : String) : Except Pos (List (Option (List Nat))) :=
  (fileTokens source >>= itemsOf).map fun items => items.map fun
    | .impl b => some (b.annotated.map fun m => m.parameters.length)
    | _ => none

/-- The source with a handler that takes nothing is one block with one method. -/
theorem exists_items_emptyHandedSource :
    ∃ tokens b m, fileTokens emptyHandedSource = .ok tokens
      ∧ itemsOf tokens = .ok [.impl b] ∧ b.annotated = [m] ∧ m.parameters = [] := by
  have harities : aritiesIn emptyHandedSource = .ok [some [0]] := by
    rw [aritiesIn, fileTokens, emptyHandedSource, join, String.toList_intercalate]
    simp only [List.map_cons, List.map_nil]
    repeat rewrite [String.toList_ofList]
    decide +kernel
  obtain ⟨items, hitems, harities⟩ := map_eq_ok.mp harities
  obtain ⟨tokens, htokens, hitems⟩ := bind_eq_ok.mp hitems
  obtain ⟨item, rfl, hitem⟩ := List.map_eq_singleton_iff.mp harities
  cases item with
  | impl b =>
    obtain ⟨m, hmethods, hm⟩ := List.map_eq_singleton_iff.mp (Option.some.inj hitem)
    exact ⟨tokens, b, m, htokens, hitems, hmethods, List.length_eq_zero_iff.mp hm⟩
  | struct => cases hitem
  | other => cases hitem

/-- A handler that takes its record as a mutable reference is called with a shared
one, and a handler that takes nothing is refused. -/
theorem calls_of_source_with_mutable_reference :
    (∃ api text e, Api.ofSource "s" mutableSource "s.rs" = .ok api
      ∧ render api "s.rs" = .ok text ∧ (endpointCode e).chars 1 <:+: text.toList
      ∧ callsOf e.handler.name (endpointCode e) = ["ctx, &params".toList])
    ∧ ∃ location receiver name fault, Api.ofSource "s" emptyHandedSource "s.rs"
      = .error (.unsupportedSignature location receiver name fault) := by
  constructor
  · obtain ⟨items, hitems, hreferences⟩ := map_eq_ok.mp referencesIn_mutableSource
    obtain ⟨tokens, htokens, hitems⟩ := bind_eq_ok.mp hitems
    obtain ⟨api, hapi⟩ := exists_ofSource_mutableSource
    obtain ⟨text, es, hrender, -, hcalls⟩ :=
      (calls_of_source htokens hitems "s.rs").1 api hapi
    obtain ⟨⟨b, m⟩, hmethods, hm⟩ := List.map_eq_singleton_iff.mp hreferences
    rw [hmethods] at hcalls
    obtain ⟨e, _, hcall, -, rfl⟩ := List.forall₂_cons_left_iff.mp hcalls
    obtain ⟨arguments, hcalled, harguments⟩ := hcall.called
    refine ⟨api, text, e, hapi, hrender, hcall.written, ?_⟩
    rw [harguments]
    dsimp only at hcalled hm
    generalize m.parameters = parameters, e.record.name = record at hcalled hm
    cases hcalled with
    | record named type => exact absurd (congrArg List.length hm) (by simp)
    | context isContext spelled named type =>
      simp only [List.map_cons, List.map_nil, (Ty.leadsTo_iff.mp isContext).2,
        (Ty.leadsTo_iff.mp type).2, List.cons.injEq, Prod.mk.injEq] at hm
      rw [hm.1.1, hm.2.1.1]
      decide +kernel
  · obtain ⟨tokens, b, m, htokens, hitems, hmethods, hnone⟩ := exists_items_emptyHandedSource
    have hform : ∀ record arguments, ¬CalledWith m.parameters record arguments := by
      rintro record arguments h
      exact h.parameters_ne_nil hnone
    obtain ⟨-, hfirst⟩ := (calls_of_source htokens hitems "s.rs").2 [] b [] [] m [] rfl
      hmethods hform
    obtain ⟨fault, hfault⟩ := hfirst (fun _ h => absurd h List.not_mem_nil)
      (fun _ h => absurd h List.not_mem_nil)
    exact ⟨_, _, _, fault, hfault⟩

/-- **A reference need not be a shared one to be accepted**: a mutable one is as well,
though the call passes a shared one. -/
theorem not_every_reference_is_shared :
    ¬∀ (moduleName source file : String) (tokens : List Token) (items : List Item)
      (api : Api), fileTokens source = .ok tokens → itemsOf tokens = .ok items →
      Api.ofSource moduleName source file = .ok api →
      ∀ bm ∈ items.flatMap Item.annotated, ∀ p ∈ bm.2.parameters,
        p.type.isMutable = false := by
  intro hallshared
  obtain ⟨items, hitems, hreferences⟩ := map_eq_ok.mp referencesIn_mutableSource
  obtain ⟨tokens, htokens, hitems⟩ := bind_eq_ok.mp hitems
  obtain ⟨api, hapi⟩ := exists_ofSource_mutableSource
  obtain ⟨bm, hmethods, hm⟩ := List.map_eq_singleton_iff.mp hreferences
  obtain ⟨p, hp, hmutable⟩ : ∃ p ∈ bm.2.parameters,
      (p.type.stripped.2, p.type.isMutable) = (true, true) :=
    List.mem_map.mp (hm ▸ by simp)
  have hshared := hallshared "s" mutableSource "s.rs" tokens items api htokens hitems hapi bm
    (by rw [hmethods]; exact List.mem_singleton_self bm) p hp
  rw [(Prod.mk.inj hmutable).2] at hshared
  exact nomatch hshared

end Switchboard
