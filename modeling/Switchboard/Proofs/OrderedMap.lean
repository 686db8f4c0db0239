import Mathlib.Data.List.Induction
import Mathlib.Data.List.Nodup
import Switchboard.OrderedMap

/-!
# Looking keys up in an ordered map

The view of a map is what it answers for a key, and each operation has one law
about it: changing a key changes the answer for that key alone
(`get?_upsert_self`, `get?_upsert_of_ne`), and so does erasing one. Beside it
stands what an operation does to the entries as a list, where their order
counts: a new key goes last (`entries_insert_of_notMem`), and a list without
repeated keys is the entries of the map it is put into (`entries_ofList`). Of any
other list the map has the keys by first appearance (`keys_ofList`), each with its
last value (`get?_ofList_of_last`).
-/

namespace Switchboard.OrderedMap

variable {α : Type}

/-! ## What is there -/

/-- A key that is not there has no value. -/
theorem get?_eq_none_iff {m : OrderedMap α} {key : String} :
    m.get? key = none ↔ key ∉ m.keys := by
  rw [get?, Option.map_eq_none_iff, List.find?_eq_none, keys, List.mem_map]
  constructor
  · rintro h ⟨e, he, hk⟩
    exact h e he (by simpa using hk)
  · intro h e he hk
    exact h ⟨e, he, by simpa using hk⟩

theorem mem_keys_of_get? {m : OrderedMap α} {key : String} {v : α}
    (h : m.get? key = some v) : key ∈ m.keys := by
  by_contra hnot
  rw [get?_eq_none_iff.mpr hnot] at h
  exact nomatch h

theorem contains_iff {m : OrderedMap α} {key : String} :
    m.contains key = true ↔ key ∈ m.keys := by
  rw [contains, List.any_eq_true, keys, List.mem_map]
  exact exists_congr (fun e => and_congr_right (fun _ => beq_iff_eq))

/-- **The value of a key is the value of its one entry.** -/
theorem get?_eq_some_iff {m : OrderedMap α} {key : String} {v : α} :
    m.get? key = some v ↔ (key, v) ∈ m.entries := by
  have hnodup := m.nodup_keys
  rw [get?]
  generalize m.entries = es at hnodup
  induction es with
  | nil => simp
  | cons e es ih =>
    obtain ⟨k, w⟩ := e
    rw [List.map_cons, List.nodup_cons] at hnodup
    by_cases hk : k = key
    · have hfind : ((k, w) :: es).find? (fun e => e.1 == key) = some (k, w) :=
        List.find?_cons_of_pos (by simpa using hk)
      have hnotMem : (key, v) ∉ es := by
        intro h
        rw [hk] at hnodup
        exact hnodup.1 (List.mem_map.mpr ⟨(key, v), h, rfl⟩)
      rw [hfind, Option.map_some, List.mem_cons, Option.some.injEq, Prod.mk.injEq]
      exact ⟨fun h => .inl ⟨hk.symm, h.symm⟩,
        fun h => h.elim (fun h => h.2.symm) (fun h => absurd h hnotMem)⟩
    · have hfind : ((k, w) :: es).find? (fun e => e.1 == key)
          = es.find? (fun e => e.1 == key) :=
        List.find?_cons_of_neg (by simpa using hk)
      rw [hfind, List.mem_cons, Prod.mk.injEq]
      refine (ih hnodup.2).trans ?_
      exact ⟨.inr, fun h => h.elim (fun h => absurd h.1.symm hk) id⟩

/-! ## Changing -/

theorem find?_upsertEntry_self (key : String) (f : Option α → α)
    (es : List (String × α)) :
    ((upsertEntry key f es).find? fun e => e.1 == key)
      = some (key, f ((es.find? fun e => e.1 == key).map Prod.snd)) := by
  induction es with
  | nil => simp [upsertEntry]
  | cons e es ih =>
    obtain ⟨k, v⟩ := e
    by_cases hk : k = key <;> simp [upsertEntry, hk, ih]

theorem find?_upsertEntry_of_ne {key other : String} (h : other ≠ key)
    (f : Option α → α) (es : List (String × α)) :
    ((upsertEntry key f es).find? fun e => e.1 == other)
      = es.find? fun e => e.1 == other := by
  induction es with
  | nil => simp [upsertEntry, Ne.symm h]
  | cons e es ih =>
    obtain ⟨k, v⟩ := e
    by_cases hk : k = key
    · simp [upsertEntry, hk, Ne.symm h]
    · simp [upsertEntry, hk, List.find?_cons, ih]

/-- The changed key has the changed value. -/
theorem get?_upsert_self (m : OrderedMap α) (key : String) (f : Option α → α) :
    (m.upsert key f).get? key = some (f (m.get? key)) := by
  rw [get?, upsert, find?_upsertEntry_self]
  rfl

/-- **Other keys keep their values.** -/
theorem get?_upsert_of_ne {key other : String} (h : other ≠ key)
    (m : OrderedMap α) (f : Option α → α) :
    (m.upsert key f).get? other = m.get? other := by
  rw [get?, upsert, find?_upsertEntry_of_ne h]
  rfl

@[simp] theorem get?_insert_self (m : OrderedMap α) (key : String) (v : α) :
    (m.insert key v).get? key = some v :=
  get?_upsert_self m key _

theorem get?_insert_of_ne {key other : String} (h : other ≠ key)
    (m : OrderedMap α) (v : α) : (m.insert key v).get? other = m.get? other :=
  get?_upsert_of_ne h m _

/-- The keys behind a key that is put in. -/
theorem keys_insert (m : OrderedMap α) (key : String) (v : α) :
    (m.insert key v).keys = if key ∈ m.keys then m.keys else m.keys ++ [key] :=
  keys_upsertEntry key _ m.entries

theorem mem_keys_insert {m : OrderedMap α} {key k : String} {v : α} :
    k ∈ (m.insert key v).keys ↔ k = key ∨ k ∈ m.keys := by
  rw [keys_insert]
  split
  · next h => exact ⟨.inr, fun hk => hk.elim (fun e => e ▸ h) id⟩
  · rw [List.mem_append, List.mem_singleton, or_comm]

/-- **A new key goes last.** -/
theorem entries_insert_of_notMem {m : OrderedMap α} {key : String}
    (h : key ∉ m.keys) (v : α) :
    (m.insert key v).entries = m.entries ++ [(key, v)] := by
  show upsertEntry key (fun _ => v) m.entries = _
  rw [keys] at h
  generalize m.entries = es at h
  induction es with
  | nil => rfl
  | cons e es ih =>
    rw [List.map_cons, List.mem_cons, not_or] at h
    rw [upsertEntry, if_neg (fun he => h.1 he.symm), ih h.2, List.cons_append]

/-! ## Erasing -/

@[simp] theorem get?_erase_self (m : OrderedMap α) (key : String) :
    (m.erase key).get? key = none := by
  rw [get?_eq_none_iff, keys, erase, List.mem_map]
  rintro ⟨e, he, hk⟩
  have hne := (List.mem_filter.mp he).2
  rw [hk] at hne
  simp at hne

theorem get?_erase_of_ne {key other : String} (h : other ≠ key)
    (m : OrderedMap α) : (m.erase key).get? other = m.get? other := by
  have hpred : (fun e : String × α => decide ((e.1 != key) = true ∧ (e.1 == other) = true))
      = fun e => e.1 == other := by
    funext e
    by_cases he : e.1 = other
    · simp [he, h]
    · simp [he]
  rw [get?, erase, List.find?_filter, hpred, get?]

/-! ## Putting in a list -/

/-- One more text at the end is a new one, or none. -/
theorem eraseDups_concat (ks : List String) (k : String) :
    (ks ++ [k]).eraseDups = ks.eraseDups ++ if k ∈ ks then [] else [k] := by
  have hnew : ([k].removeAll ks).eraseDups = if k ∈ ks then [] else [k] := by
    rw [List.removeAll, List.filter_singleton]
    by_cases h : k ∈ ks
    · rw [if_pos h, List.elem_eq_contains, List.contains_iff_mem.mpr h]
      rfl
    · have hcontains : ks.contains k = false :=
        Bool.eq_false_iff.mpr (fun hc => h (List.contains_iff_mem.mp hc))
      rw [if_neg h, List.elem_eq_contains, hcontains]
      rfl
  rw [List.eraseDups_append, hnew]

/-- Pairs put in after the entries of a map, none of their keys being there. -/
theorem entries_foldl_insert {m : OrderedMap α} {pairs : List (String × α)}
    (hnodup : (pairs.map Prod.fst).Nodup)
    (hnew : ∀ k ∈ pairs.map Prod.fst, k ∉ m.keys) :
    (pairs.foldl (fun m e => m.insert e.1 e.2) m).entries
      = m.entries ++ pairs := by
  induction pairs generalizing m with
  | nil => rw [List.foldl_nil, List.append_nil]
  | cons e rest ih =>
    rw [List.map_cons, List.nodup_cons] at hnodup
    have hfirst : e.1 ∉ m.keys := hnew e.1 List.mem_cons_self
    have hrest : ∀ k ∈ rest.map Prod.fst, k ∉ (m.insert e.1 e.2).keys := by
      intro k hk hmem
      rcases mem_keys_insert.mp hmem with rfl | hmem
      · exact hnodup.1 hk
      · exact hnew k (List.mem_cons_of_mem _ hk) hmem
    rw [List.foldl_cons, ih hnodup.2 hrest, entries_insert_of_notMem hfirst,
      List.append_assoc, List.singleton_append]

/-- **A list without repeated keys is the entries of its map.** -/
theorem entries_ofList {pairs : List (String × α)}
    (h : (pairs.map Prod.fst).Nodup) : (ofList pairs).entries = pairs := by
  rw [ofList, entries_foldl_insert h (fun _ _ => List.not_mem_nil)]
  rfl

/-- **And only such a list is**, since a map has no key twice. -/
theorem entries_ofList_eq_iff {pairs : List (String × α)} :
    (ofList pairs).entries = pairs ↔ (pairs.map Prod.fst).Nodup :=
  ⟨fun h => h ▸ (ofList pairs).nodup_keys, entries_ofList⟩

theorem ofList_concat (pairs : List (String × α)) (e : String × α) :
    ofList (pairs ++ [e]) = (ofList pairs).insert e.1 e.2 := by
  rw [ofList, List.foldl_append]
  rfl

/-- **The keys of a list that is put in**, each once, by first appearance. -/
theorem keys_ofList (pairs : List (String × α)) :
    (ofList pairs).keys = (pairs.map Prod.fst).eraseDups := by
  -- a map grows at its end, so the last pair is taken off and not the first
  induction pairs using List.reverseRecOn with
  | nil => rfl
  | append_singleton pairs e ih =>
    have hmem : e.1 ∈ (ofList pairs).keys ↔ e.1 ∈ pairs.map Prod.fst := by
      rw [ih, List.mem_eraseDups]
    rw [ofList_concat, keys_insert, List.map_append, List.map_singleton,
      eraseDups_concat, ← ih]
    by_cases h : e.1 ∈ (ofList pairs).keys
    · rw [if_pos h, if_pos (hmem.mp h), List.append_nil]
    · rw [if_neg h, if_neg (fun h' => h (hmem.mpr h'))]

/-- **The last pair of a key counts.** -/
theorem get?_ofList_of_last {before after : List (String × α)} {key : String} {v : α}
    (h : ∀ e ∈ after, e.1 ≠ key) :
    (ofList (before ++ (key, v) :: after)).get? key = some v := by
  induction after using List.reverseRecOn with
  | nil => rw [ofList_concat, get?_insert_self]
  | append_singleton after e ih =>
    rw [List.forall_mem_append, List.forall_mem_singleton] at h
    rw [← List.cons_append, ← List.append_assoc, ofList_concat,
      get?_insert_of_ne (Ne.symm h.2), ih h.1]

end Switchboard.OrderedMap
