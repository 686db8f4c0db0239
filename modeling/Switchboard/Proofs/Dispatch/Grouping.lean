import Switchboard.Proofs.Dispatch.Reading

/-!
# The code of each receiver

Handlers are grouped by receiver once, and the module is written from the groups
twice: first a router for each of them, then the methods that answer for each of them.
What the module holds for a receiver is therefore a matter of the grouping alone. It
loses no handler and has none twice, it keeps the order of the receivers' first
handlers and, within a receiver, that of its handlers (`flatMap_groups_perm`,
`pairwise_keysOf`).

To say what was written, code is read back as the blocks it has for types, each by the
type and the names of its methods (`typeBlocks`). Read so, a module has one block with
the serving method for each receiver and one with the answering methods of its
handlers, in the order of the groups and of nothing else (`typeBlocks_moduleCode`). What is
read of the code stands in the text: code is written whole and behind what was there
before, so each block is a part of the text (`Output.holds_of_mem_writeAll`,
`groups_of_emit`).
-/

namespace Switchboard

variable {α : Type}

/-! ## A stable partition -/

/-- **Keys stand by first appearance**: of two of them, the one that comes first is the
one whose first member does. -/
theorem pairwise_keysOf (key : α → String) (as : List α) :
    (keysOf key as).Pairwise fun j k => (as.map key).idxOf j < (as.map key).idxOf k := by
  unfold keysOf
  generalize as.map key = ks
  -- a new key is one at the end, so the last key is taken off and not the first
  induction ks using List.reverseRecOn with
  | nil => exact .nil
  | append_singleton ks k ih =>
    have hold : ∀ j ∈ ks.eraseDups, (ks ++ [k]).idxOf j = ks.idxOf j := fun j hj =>
      List.idxOf_append_of_mem (List.mem_eraseDups.mp hj)
    rw [OrderedMap.eraseDups_concat, List.pairwise_append]
    refine ⟨ih.imp_of_mem fun hi hj h => by rwa [hold _ hi, hold _ hj], ?_, ?_⟩
    · split <;> simp
    · intro j hj l hl
      by_cases hk : k ∈ ks
      · rw [if_pos hk] at hl
        exact absurd hl List.not_mem_nil
      · rw [if_neg hk, List.mem_singleton] at hl
        rw [hl, hold j hj, List.idxOf_append_of_notMem hk]
        have hlt := List.idxOf_lt_length_iff.mpr (List.mem_eraseDups.mp hj)
        omega

/-- The members with one of several keys, key by key, are these members in another
order. -/
theorem flatMap_filter_perm (key : α → String) {ks : List String} (hnodup : ks.Nodup)
    (as : List α) :
    (ks.flatMap fun k => as.filter fun a => key a == k).Perm
      (as.filter fun a => decide (key a ∈ ks)) := by
  induction ks with
  | nil => simp
  | cons k ks ih =>
    rw [List.nodup_cons] at hnodup
    rw [List.flatMap_cons]
    refine ((ih hnodup.2).append_left _).trans ?_
    have hsplit := List.filter_append_perm (fun a => key a == k)
      (as.filter fun a => decide (key a ∈ k :: ks))
    rw [List.filter_filter, List.filter_filter] at hsplit
    refine List.Perm.trans (.of_eq ?_) hsplit
    congr 1
    · refine List.filter_congr fun a _ => ?_
      by_cases h : key a = k <;> simp [h]
    · refine List.filter_congr fun a _ => ?_
      by_cases h : key a = k
      · simp [h, hnodup.1]
      · simp [h]

/-- **The groups together are the members** in another order. -/
theorem flatMap_groups_perm (key : α → String) (as : List α) :
    ((keysOf key as).flatMap fun k => as.filter fun a => key a == k).Perm as := by
  have hnodup : (keysOf key as).Nodup :=
    (pairwise_keysOf key as).imp fun h e => absurd h (by rw [e]; exact Nat.lt_irrefl _)
  have hall : (as.filter fun a => decide (key a ∈ keysOf key as)) = as :=
    List.filter_eq_self.mpr fun a ha =>
      decide_eq_true (mem_keysOf.mpr ⟨a, ha, rfl⟩)
  have hperm := flatMap_filter_perm key hnodup as
  rwa [hall] at hperm

namespace Dispatch

/-! ## Blocks of types -/

/-- The name of a method that takes a request, if code is one. -/
def answering? : Code → Option String
  | .block opening _ _ =>
    ((between? "pub fn " answerSignature opening).or
      (between? "fn " answerSignature opening)).map String.ofList
  | _ => none

/-- A type and the names of its methods, if code is a block that gives a type
methods. -/
def typeBlock? : Code → Option (String × List String)
  | .block opening inside _ =>
    (between? "impl " " \x7b" opening).map fun receiver =>
      (String.ofList receiver, inside.filterMap answering?)
  | _ => none

/-- **The blocks that code has for types**, from the top, each by the type and the
names of the methods in it. -/
def typeBlocks (code : List Code) : List (String × List String) :=
  code.filterMap typeBlock?

theorem typeBlock?_methodsOf (receiver : String) (methods : List Code) :
    typeBlock? (methodsOf receiver methods)
      = some (receiver, methods.filterMap answering?) := by
  have hreceiver : between? "impl " " \x7b" ("impl " ++ receiver ++ " \x7b")
      = some receiver.toList := by
    rw [between?_eq_some_iff, String.toList_append, String.toList_append]
  rw [methodsOf, typeBlock?, hreceiver, Option.map_some, String.ofList_toList]

/-- **A router is a block with one method**, the one that serves requests. -/
theorem typeBlock?_routerCode (s : Service) :
    typeBlock? (routerCode s) = some (s.receiver, ["serve_http"]) := by
  have hserve : between? "pub fn " answerSignature ("pub fn serve_http" ++ answerSignature)
      = some "serve_http".toList := by
    rw [between?_eq_some_iff, String.toList_append]
    rfl
  rw [routerCode, typeBlock?_methodsOf, List.filterMap_cons, List.filterMap_cons,
    List.filterMap_nil]
  dsimp only [answering?]
  rw [hserve]
  rfl

theorem answering?_endpointCode (e : Endpoint) :
    answering? (endpointCode e) = some (methodName e.handler.name) := by
  have hpublic : between? "pub fn " answerSignature
      ("fn " ++ methodName e.handler.name ++ answerSignature) = none := by
    rw [between?, String.toList_append, String.toList_append, List.append_assoc]
    rfl
  have hname : between? "fn " answerSignature
      ("fn " ++ methodName e.handler.name ++ answerSignature)
        = some (methodName e.handler.name).toList := by
    rw [between?_eq_some_iff, String.toList_append, String.toList_append]
  rw [endpointCode, answering?, hpublic, hname, Option.none_or, Option.map_some,
    String.ofList_toList]

/-- Empty lines between pieces of code do not count where they say nothing. -/
theorem filterMap_spaced {β : Type} {f : Code → Option β} (hblank : f .blank = none)
    (cs : List Code) : (spaced cs).filterMap f = cs.filterMap f := by
  cases cs with
  | nil => rfl
  | cons c cs =>
    rw [spaced_cons, List.filterMap_cons, List.filterMap_cons, List.filterMap_flatMap]
    simp [hblank, List.filterMap_eq_flatMap_toList]

/-- **The methods that answer for a service are one block**, with a method for each of
its handlers. -/
theorem typeBlock?_endpointsCode (s : Service) :
    typeBlock? (endpointsCode s)
      = some (s.receiver, s.endpoints.map fun e => methodName e.handler.name) := by
  rw [endpointsCode, typeBlock?_methodsOf, filterMap_spaced rfl, List.filterMap_map]
  have hnames : answering? ∘ endpointCode = some ∘ fun e => methodName e.handler.name :=
    funext answering?_endpointCode
  rw [hnames, List.filterMap_eq_map]

theorem typeBlocks_append (cs ds : List Code) :
    typeBlocks (cs ++ ds) = typeBlocks cs ++ typeBlocks ds :=
  List.filterMap_append

/-- A loop over services that writes a block for each has their blocks in order. -/
theorem typeBlocks_flatMap {code : Service → Code} {view : Service → String × List String}
    (h : ∀ s, typeBlock? (code s) = some (view s)) (services : List Service) :
    typeBlocks (services.flatMap fun s => [.blank, code s]) = services.map view := by
  induction services with
  | nil => rfl
  | cons s rest ih =>
    rw [List.flatMap_cons, typeBlocks_append, ih, List.map_cons]
    unfold typeBlocks
    rw [List.filterMap_cons_none rfl, List.filterMap_cons_some (h s)]
    rfl

/-- **The blocks of a module**: those of the routers and then those of the answering
methods, both in the order of the services. -/
theorem typeBlocks_moduleCode (moduleName label : String) (services : List Service) :
    typeBlocks (moduleCode moduleName label services)
      = (services.map fun s => (s.receiver, ["serve_http"]))
        ++ services.map fun s =>
          (s.receiver, s.endpoints.map fun e => methodName e.handler.name) := by
  have hhead : typeBlocks ([.line (banner moduleName label), .blank] ++ importsCode) = [] :=
    rfl
  have hguards : typeBlocks ([.blank] ++ guardsCode) = [] := by decide
  unfold moduleCode servicesCode
  rw [List.append_assoc (_ ++ _), typeBlocks_append, hhead, List.nil_append,
    typeBlocks_append, typeBlocks_append, typeBlocks_flatMap typeBlock?_routerCode,
    typeBlocks_flatMap typeBlock?_endpointsCode, hguards, List.append_nil]

/-! ## Text that holds code -/

/-- **An output holds code** when the text of the code, at its depth, is a part of its own. -/
def Output.Holds (o : Output) (c : Code) : Prop := c.chars o.depth <:+: o.text.toList

/-- **What is written is held**, whatever is written with it. -/
theorem Output.holds_of_mem_writeAll {c : Code} {cs : List Code} (h : c ∈ cs) (o : Output) :
    (o.writeAll cs).Holds c := by
  rw [Holds, depth_writeAll, toList_writeAll]
  exact (Code.infix_charsAll h o.depth).trans (List.suffix_append _ _).isInfix

end Dispatch

open Dispatch

/-! ## What is emitted of an API -/

/-- **An API whose links lead to records has a service for each group**, with the
handlers of that group. -/
theorem Api.exists_services {api : Api} (h : ∀ g ∈ api.handlers, api.Resolves g) :
    ∃ services, api.services = .ok services
      ∧ services.map (fun s => (s.receiver, s.endpoints.map Endpoint.handler))
        = api.byReceiver.entries := by
  obtain ⟨es, hes⟩ := exists_endpoints_of_resolves h
  have hhandlers : es.map Endpoint.handler = api.handlers := by
    rw [eq_comm, ← List.forall₂_eq_eq_eq, List.forall₂_map_right_iff]
    exact hes.imp fun _ _ he => (handler_of_endpoint he).symm
  have hkeys : keysOf Endpoint.receiver es = keysOf Handler.receiver api.handlers := by
    rw [keysOf, keysOf, ← hhandlers, List.map_map]
    rfl
  refine ⟨_, services_eq_ok hes, ?_⟩
  rw [entries_byReceiver, servicesOf, List.map_map, hkeys]
  exact List.map_congr_left fun r _ =>
    congrArg (Prod.mk r) (handlers_of_servicesOf hhandlers r)

/-- An API with a link that leads nowhere has no services. -/
theorem Api.exists_services_eq_error {api : Api} {h : Handler} (hh : h ∈ api.handlers)
    (hdead : ¬api.Resolves h) : ∃ e, api.services = .error e := by
  have hsome : (api.handlersByReceiver.find? fun h => decide ¬api.Resolves h).isSome :=
    List.find?_isSome.mpr ⟨h, mem_handlersByReceiver.mpr hh, decide_eq_true hdead⟩
  obtain ⟨g, hg⟩ := Option.isSome_iff_exists.mp hsome
  exact ⟨g.unresolved, refusal?_eq_some_iff.mp (by rw [refusal?_services, hg]; rfl)⟩

/-- **Handlers are grouped by receiver, and the module follows the groups.** Each
receiver there is has one group, the groups stand by first appearance of their
receivers, and a group is its receiver's handlers as they stand, so the groups together
are the handlers in another order. An API with a link that leads nowhere is refused and
nothing is written of it. Of any other, a module is written that has one block with the
serving method for each group and then one block for each group with the methods that
answer for its handlers, in the order of the groups and of the handlers in them. The text
of the module stands behind what was written before, and holds each of these blocks. -/
theorem groups_of_emit (api : Api) :
    (∀ r, r ∈ api.byReceiver.keys ↔ ∃ h ∈ api.handlers, h.receiver = r)
    ∧ api.byReceiver.keys.Pairwise (fun r s =>
        (api.handlers.map Handler.receiver).idxOf r
          < (api.handlers.map Handler.receiver).idxOf s)
    ∧ (∀ g ∈ api.byReceiver.entries, g.2 ≠ []
        ∧ g.2 = api.handlers.filter fun h => h.receiver == g.1)
    ∧ api.byReceiver.values.flatten.Perm api.handlers
    ∧ ∀ (o : Output) (label : String),
        ((∃ h ∈ api.handlers, ¬api.Resolves h) ∧ ∃ e, o.emit api label = (o, some e))
        ∨ ((∀ h ∈ api.handlers, api.Resolves h) ∧ ∃ services code,
            api.services = .ok services
            ∧ services.map (fun s => (s.receiver, s.endpoints.map Endpoint.handler))
              = api.byReceiver.entries
            ∧ code = moduleCode api.moduleName label services
            ∧ o.emit api label = (o.writeAll code, none)
            ∧ typeBlocks code
              = (api.byReceiver.entries.map fun g => (g.1, ["serve_http"]))
                ++ api.byReceiver.entries.map (fun g =>
                  (g.1, g.2.map fun h => methodName h.name))
            ∧ (o.emit api label).1.text.toList
              = o.text.toList ++ Code.charsAll o.depth code
            ∧ ∀ b ∈ typeBlocks code, ∃ c ∈ code, typeBlock? c = some b
                ∧ (o.emit api label).1.Holds c) := by
  have hentries := api.entries_byReceiver
  have hkeys : api.byReceiver.keys = keysOf Handler.receiver api.handlers := by
    rw [OrderedMap.keys, hentries, List.map_map]
    exact List.map_id' _
  refine ⟨fun r => by rw [hkeys, mem_keysOf], ?_, ?_, ?_, fun o label => ?_⟩
  · rw [hkeys]
    exact pairwise_keysOf Handler.receiver api.handlers
  · rw [hentries, List.forall_mem_map]
    intro r hr
    obtain ⟨h, hh, rfl⟩ := mem_keysOf.mp hr
    exact ⟨List.ne_nil_of_mem (List.mem_filter.mpr ⟨hh, beq_self_eq_true _⟩), rfl⟩
  · rw [OrderedMap.values, hentries, List.map_map, ← List.flatMap_def]
    exact flatMap_groups_perm Handler.receiver api.handlers
  · by_cases hall : ∀ h ∈ api.handlers, api.Resolves h
    · obtain ⟨services, hservices, hmap⟩ := Api.exists_services hall
      obtain ⟨code, hcode⟩ : ∃ code, code = moduleCode api.moduleName label services :=
        ⟨_, rfl⟩
      have hemit : o.emit api label = (o.writeAll code, none) := by
        rw [Output.emit, hservices, hcode]
      refine .inr ⟨hall, services, code, hservices, hmap, hcode, hemit, ?_, ?_, ?_⟩
      · rw [hcode, typeBlocks_moduleCode, ← hmap, List.map_map, List.map_map]
        simp only [Function.comp_def, List.map_map]
      · rw [hemit, Output.toList_writeAll]
      · intro b hb
        obtain ⟨c, hc, hblock⟩ := List.mem_filterMap.mp hb
        rw [hemit]
        exact ⟨c, hc, hblock, Output.holds_of_mem_writeAll hc o⟩
    · rw [not_forall] at hall
      obtain ⟨h, hall⟩ := hall
      obtain ⟨hh, hdead⟩ := Classical.not_imp.mp hall
      obtain ⟨e, hservices⟩ := Api.exists_services_eq_error hh hdead
      exact .inl ⟨⟨h, hh, hdead⟩, e, by rw [Output.emit, hservices]⟩

/-- Of two receivers whose handlers stand mixed, each has its handlers together, in both
places of the module and so of its text. -/
theorem groups_of_emit_of_mixed_receivers :
    let handler (receiver name : String) : Handler :=
      ⟨receiver, name, "p", "P", false, none, "P", ⟨"/" ++ name, false, ""⟩, some 0,
        ⟨"n.rs", 7, 5⟩⟩
    let api : Api := ⟨"n", [handler "B" "one", handler "A" "two", handler "B" "three"],
      [⟨"P", [], true, ⟨"n.rs", 1, 8⟩⟩]⟩
    api.byReceiver.values.flatten.Perm api.handlers
      ∧ ∃ code, Output.empty.emit api "n.rs" = (Output.empty.writeAll code, none)
        ∧ typeBlocks code = [("B", ["serve_http"]), ("A", ["serve_http"]),
          ("B", ["handle_one", "handle_three"]), ("A", ["handle_two"])]
        ∧ ∃ c ∈ code, typeBlock? c = some ("A", ["handle_two"])
          ∧ (Output.empty.writeAll code).Holds c := by
  intro handler api
  obtain ⟨-, -, -, hperm, hemit⟩ := groups_of_emit api
  have hlinks : ∀ h ∈ api.handlers, api.Resolves h := by decide
  refine ⟨hperm, ?_⟩
  rcases hemit Output.empty "n.rs" with ⟨⟨h, hh, hdead⟩, -⟩
    | ⟨-, services, code, -, -, -, hcode, hblocks, -, hholds⟩
  · exact absurd (hlinks h hh) hdead
  · have hblocks : typeBlocks code = [("B", ["serve_http"]), ("A", ["serve_http"]),
        ("B", ["handle_one", "handle_three"]), ("A", ["handle_two"])] :=
      hblocks.trans (by decide)
    rw [hcode] at hholds
    exact ⟨code, hcode, hblocks, hholds _ (by rw [hblocks]; decide)⟩

end Switchboard
