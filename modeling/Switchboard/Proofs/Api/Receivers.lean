import Mathlib.Data.List.Forall2
import Mathlib.Data.List.Induction
import Switchboard.Dispatch.Service
import Switchboard.Proofs.OrderedMap
import Switchboard.Proofs.Success

/-!
# Handlers by receiver

Handlers are gathered by receiver one after the other, each at the end of its
receiver's. What comes of it can be said without going through them: every
receiver there is once, by first appearance, with the handlers that are its own
(`entries_gathered`).

The same holds of endpoints (`servicesOf`), and the services of an API are those
of its endpoints: giving each handler its record first and gathering afterwards
comes to the same (`services_eq_ok`).
-/

namespace Switchboard

variable {α : Type}

/-! ## Gathering -/

/-- The members of a list gathered by key, in order. -/
def gathered (key : α → String) (as : List α) : OrderedMap (List α) :=
  as.foldl (fun m a => m.upsert (key a) fun old => old.getD [] ++ [a]) .empty

/-- The keys of a list, each once, by first appearance. -/
def keysOf (key : α → String) (as : List α) : List String :=
  (as.map key).eraseDups

theorem mem_keysOf {key : α → String} {as : List α} {k : String} :
    k ∈ keysOf key as ↔ ∃ a ∈ as, key a = k := by
  rw [keysOf, List.mem_eraseDups, List.mem_map]

theorem keysOf_concat (key : α → String) (as : List α) (a : α) :
    keysOf key (as ++ [a])
      = keysOf key as ++ if key a ∈ keysOf key as then [] else [key a] := by
  rw [keysOf, List.map_append, List.map_singleton, OrderedMap.eraseDups_concat]
  simp only [keysOf, List.mem_eraseDups]

/-- A key that is there has its own value changed, and no other. -/
theorem upsertEntry_map_of_mem {key : String} {f : Option α → α} {g : String → α}
    {ks : List String} (hnodup : ks.Nodup) (h : key ∈ ks) :
    upsertEntry key f (ks.map fun k => (k, g k))
      = ks.map fun k => (k, if k = key then f (some (g k)) else g k) := by
  induction ks with
  | nil => exact absurd h List.not_mem_nil
  | cons k rest ih =>
    rw [List.nodup_cons] at hnodup
    rw [List.map_cons, List.map_cons, upsertEntry]
    by_cases hk : k = key
    · rw [if_pos hk, if_pos hk]
      refine congrArg _ (List.map_congr_left (fun j hj => ?_))
      rw [if_neg (fun e : j = key => hnodup.1 (hk.trans e.symm ▸ hj))]
    · have hrest : key ∈ rest :=
        (List.mem_cons.mp h).resolve_left (fun e => hk e.symm)
      rw [if_neg hk, if_neg hk, ih hnodup.2 hrest]

/-- A key that is not there goes last. -/
theorem upsertEntry_map_of_notMem {key : String} {f : Option α → α}
    {g : String → α} {ks : List String} (h : key ∉ ks) :
    upsertEntry key f (ks.map fun k => (k, g k))
      = (ks.map fun k => (k, g k)) ++ [(key, f none)] := by
  induction ks with
  | nil => rfl
  | cons k rest ih =>
    rw [List.mem_cons, not_or] at h
    rw [List.map_cons, upsertEntry, if_neg (fun e => h.1 e.symm), ih h.2,
      List.cons_append]

/-- **What is gathered**: each key once, by first appearance, with the members
that have it. -/
theorem entries_gathered (key : α → String) (as : List α) :
    (gathered key as).entries
      = (keysOf key as).map fun k => (k, as.filter fun a => key a == k) := by
  induction as using List.reverseRecOn with
  | nil => rfl
  | append_singleton as a ih =>
    have hnodup : (keysOf key as).Nodup := by
      have h := (gathered key as).nodup_keys
      rw [ih, List.map_map] at h
      simpa [Function.comp_def] using h
    have hstep : (gathered key (as ++ [a])).entries
        = upsertEntry (key a) (fun old => old.getD [] ++ [a])
            (gathered key as).entries := by
      rw [gathered, List.foldl_append]
      rfl
    rw [hstep, ih, keysOf_concat]
    by_cases h : key a ∈ keysOf key as
    · rw [if_pos h, List.append_nil, upsertEntry_map_of_mem hnodup h]
      refine List.map_congr_left (fun k _ => ?_)
      rw [List.filter_append]
      by_cases hk : k = key a
      · simp [hk]
      · simp [hk, Ne.symm hk]
    · rw [if_neg h, upsertEntry_map_of_notMem h, List.map_append]
      have hnone : as.filter (fun b => key b == key a) = [] := by
        rw [List.filter_eq_nil_iff]
        intro b hb hkey
        exact h (mem_keysOf.mpr ⟨b, hb, by simpa using hkey⟩)
      congr 1
      · refine List.map_congr_left (fun k hk => ?_)
        have hne : key a ≠ k := fun e => h (e ▸ hk)
        rw [List.filter_append]
        simp [hne]
      · rw [List.map_singleton, List.filter_append, hnone]
        simp

/-- **The handlers by receiver**: each receiver once, by first appearance, with
the handlers that are its own. -/
theorem Api.entries_byReceiver (api : Api) :
    api.byReceiver.entries
      = (keysOf Handler.receiver api.handlers).map fun r =>
          (r, api.handlers.filter fun h => h.receiver == r) :=
  entries_gathered Handler.receiver api.handlers

/-! ## Services -/

/-- The receiver of an endpoint. -/
def Endpoint.receiver (e : Endpoint) : String := e.handler.receiver

/-- **The services that endpoints make up**, by first appearance of their
receivers. -/
def servicesOf (es : List Endpoint) : List Service :=
  (keysOf Endpoint.receiver es).map fun r =>
    ⟨r, es.filter fun e => e.receiver == r⟩

theorem Api.handler_of_endpoint {api : Api} {h : Handler} {e : Endpoint}
    (he : api.endpoint h = .ok e) : e.handler = h := by
  rw [endpoint] at he
  split at he
  · rw [← Except.ok.inj he]
  · exact nomatch he

theorem Api.linkedRecord?_of_endpoint {api : Api} {h : Handler} {e : Endpoint}
    (he : api.endpoint h = .ok e) : api.linkedRecord? h = some e.record := by
  rw [endpoint] at he
  split at he
  · next hr => rw [hr, ← Except.ok.inj he]
  · exact nomatch he

/-- **The services of an API are those of its endpoints.** -/
theorem Api.services_eq_ok {api : Api} {es : List Endpoint}
    (h : List.Forall₂ (fun h e => api.endpoint h = .ok e) api.handlers es) :
    api.services = .ok (servicesOf es) := by
  have hkeys : keysOf Handler.receiver api.handlers = keysOf Endpoint.receiver es := by
    have hreceivers : api.handlers.map Handler.receiver
        = es.map Endpoint.receiver := by
      rw [← List.forall₂_eq_eq_eq, List.forall₂_map_left_iff,
        List.forall₂_map_right_iff]
      exact h.imp fun a e he => by rw [Endpoint.receiver, handler_of_endpoint he]
    rw [keysOf, hreceivers, keysOf]
  rw [services, mapM_eq_ok, entries_byReceiver, hkeys, servicesOf,
    List.forall₂_map_left_iff, List.forall₂_map_right_iff, List.forall₂_same]
  intro r _
  have hown : List.Forall₂ (fun h e => api.endpoint h = .ok e)
      (api.handlers.filter fun h => h.receiver == r)
      (es.filter fun e => e.receiver == r) := by
    refine List.rel_filter (fun a e he => ?_) h
    show a.receiver == r ↔ e.receiver == r
    rw [Endpoint.receiver, handler_of_endpoint he]
  exact bind_eq_ok.mpr ⟨_, mapM_eq_ok.mpr hown, rfl⟩

/-- Services of endpoints that are changed, but not in their receivers, are the
services with their endpoints changed. -/
theorem servicesOf_map {f : Endpoint → Endpoint}
    (hf : ∀ e, (f e).receiver = e.receiver) (es : List Endpoint) :
    servicesOf (es.map f)
      = (servicesOf es).map fun s => ⟨s.receiver, s.endpoints.map f⟩ := by
  have hcomp : Endpoint.receiver ∘ f = Endpoint.receiver := funext hf
  rw [servicesOf, servicesOf, keysOf, List.map_map, hcomp, ← keysOf, List.map_map]
  refine List.map_congr_left (fun r _ => congrArg (Service.mk r) ?_)
  rw [List.filter_map]
  refine congrArg _ (List.filter_congr (fun e _ => ?_))
  rw [Function.comp_apply, hf]

end Switchboard
