/-!
# Maps that keep insertion order

A map from texts to values that lists its entries in the order their keys were
first put in. Putting in a key that is there replaces its value and leaves the
entry where it stands; erasing closes the gap. No key occurs twice, and the
type says so.
-/

namespace Switchboard

/-- The entry list with the value of a key replaced, or the key appended when
it is new. -/
def upsertEntry {α : Type} (key : String) (f : Option α → α) :
    List (String × α) → List (String × α)
  | [] => [(key, f none)]
  | (k, v) :: rest =>
    if k = key then (k, f (some v)) :: rest else (k, v) :: upsertEntry key f rest

/-- **The keys after a change** are the keys before it, with a new key last. -/
theorem keys_upsertEntry {α : Type} (key : String) (f : Option α → α)
    (es : List (String × α)) :
    (upsertEntry key f es).map Prod.fst =
      if key ∈ es.map Prod.fst then es.map Prod.fst
      else es.map Prod.fst ++ [key] := by
  induction es with
  | nil => simp [upsertEntry]
  | cons e rest ih =>
    obtain ⟨k, v⟩ := e
    by_cases h : k = key
    · simp [upsertEntry, h]
    · have h' : ¬key = k := fun e => h e.symm
      by_cases hm : key ∈ rest.map Prod.fst
      · simp_all [upsertEntry]
      · simp_all [upsertEntry]

theorem nodup_upsertEntry {α : Type} (key : String) (f : Option α → α)
    {es : List (String × α)} (h : (es.map Prod.fst).Nodup) :
    ((upsertEntry key f es).map Prod.fst).Nodup := by
  rw [keys_upsertEntry]
  split
  · exact h
  · next hk =>
    rw [List.nodup_append]
    refine ⟨h, List.nodup_cons.mpr ⟨by simp, List.nodup_nil⟩, ?_⟩
    intro a ha b hb hab
    simp only [List.mem_singleton] at hb
    exact hk (hb ▸ hab ▸ ha)

theorem nodup_filter_keys {α : Type} (p : String × α → Bool)
    {es : List (String × α)} (h : (es.map Prod.fst).Nodup) :
    ((es.filter p).map Prod.fst).Nodup :=
  List.Nodup.sublist (List.filter_sublist.map Prod.fst) h

/-- **A map that keeps insertion order.** -/
structure OrderedMap (α : Type) where
  /-- The entries, in the order their keys were first put in. -/
  entries : List (String × α)
  /-- No key occurs twice. -/
  nodup_keys : (entries.map Prod.fst).Nodup

namespace OrderedMap

variable {α : Type}

/-- The map without entries. -/
def empty : OrderedMap α := ⟨[], List.nodup_nil⟩

instance : Inhabited (OrderedMap α) := ⟨empty⟩

/-- The keys, in order. -/
def keys (m : OrderedMap α) : List String := m.entries.map Prod.fst

/-- The values, in order of their keys. -/
def values (m : OrderedMap α) : List α := m.entries.map Prod.snd

/-- The number of entries. -/
def size (m : OrderedMap α) : Nat := m.entries.length

/-- The value of a key. -/
def get? (m : OrderedMap α) (key : String) : Option α :=
  (m.entries.find? fun e => e.1 == key).map Prod.snd

/-- Whether a key is there. -/
def contains (m : OrderedMap α) (key : String) : Bool :=
  m.entries.any fun e => e.1 == key

/-- **Changing the value of a key**: `f` gets the old value, if any. -/
def upsert (m : OrderedMap α) (key : String) (f : Option α → α) : OrderedMap α :=
  ⟨upsertEntry key f m.entries, nodup_upsertEntry key f m.nodup_keys⟩

/-- **Putting a key in**, or replacing its value in place. -/
def insert (m : OrderedMap α) (key : String) (value : α) : OrderedMap α :=
  m.upsert key fun _ => value

/-- **Taking a key out**; later entries move up. -/
def erase (m : OrderedMap α) (key : String) : OrderedMap α :=
  ⟨m.entries.filter fun e => e.1 != key, nodup_filter_keys _ m.nodup_keys⟩

/-- The pairs of a list put in one after the other. -/
def ofList (pairs : List (String × α)) : OrderedMap α :=
  pairs.foldl (fun m e => m.insert e.1 e.2) empty

end OrderedMap

end Switchboard
