import Switchboard.Doc.Constraints
import Switchboard.Proofs.Success
import Switchboard.Proofs.Text.Decimal
import Switchboard.Proofs.Text.Pieces

/-!
# What reading a tag guarantees

Clauses of an annotation are cut at commas and choices at vertical bars, so no
choice holds either; a bound is kept only if it fits 64 bits. Every clause that
is read has this property and taking it in keeps it, hence all constraints that
a tag states are **printable**: their rule can be written down and read back
(`isPrintable_of_constraints`).
-/

namespace Switchboard

open Text

/-- **Constraints whose rule reads back**: no choice holds a separator of
clauses or choices, and the bounds fit their width. -/
structure Constraints.IsPrintable (c : Constraints) : Prop where
  /-- No choice holds a comma. -/
  noComma : ∀ t ∈ c.choices, ',' ∉ t.toList
  /-- No choice holds a vertical bar. -/
  noBar : ∀ t ∈ c.choices, '|' ∉ t.toList
  /-- The least value fits. -/
  min : ∀ n ∈ c.min, fitsInt64 n = true
  /-- The greatest value fits. -/
  max : ∀ n ∈ c.max, fitsInt64 n = true

namespace Doc

/-- What a clause may hold for printable constraints to stay so. -/
def Clause.IsPrintable : Clause → Prop
  | choices values => ∀ t ∈ values, ',' ∉ t.toList ∧ '|' ∉ t.toList
  | min bound => fitsInt64 bound = true
  | max bound => fitsInt64 bound = true
  | _ => True

/-- A bound that is read fits. -/
theorem fitsInt64_of_readBound {key : String} {value : List Char} {n : Int}
    (h : readBound key value = .ok n) : fitsInt64 n = true := by
  rw [readBound] at h
  split at h
  · next m hm =>
    rw [← Except.ok.inj h]
    exact fitsInt64_of_int64? hm
  · exact nomatch h

/-- The keys that mean something. -/
def clauseKeys : List String := ["required", "paramname", "enum", "default", "min", "max"]

/-- **The clauses that there are to read**, each with its key and its value. -/
inductive Clause.IsRead : String → Option (List Char) → Clause → Prop where
  | required {value : Option (List Char)} : IsRead "required" value .required
  | key {value : List Char} : IsRead "paramname" (some value) (.key (String.ofList value))
  | choices {value : List Char} :
    IsRead "enum" (some value) (.choices ((pieces '|' value).map String.ofList))
  | fallback {value : List Char} :
    IsRead "default" (some value) (.fallback (String.ofList value))
  | min {value : List Char} {n : Int} :
    readBound "min" value = .ok n → IsRead "min" (some value) (.min n)
  | max {value : List Char} {n : Int} :
    readBound "max" value = .ok n → IsRead "max" (some value) (.max n)
  | unknown {key : String} {value : List Char} :
    key ∉ clauseKeys → IsRead key (some value) .unknown

/-- **No other clause is read.** -/
theorem Clause.isRead_of_read {key : String} {value : Option (List Char)} {clause : Clause}
    (h : Clause.read key value = .ok clause) : Clause.IsRead key value clause := by
  unfold Clause.read at h
  split at h
  · rw [← Except.ok.inj h]
    exact .required
  · exact nomatch h
  · rw [← Except.ok.inj h]
    exact .key
  · split at h
    · exact nomatch h
    · rw [← Except.ok.inj h]
      exact .choices
  · rw [← Except.ok.inj h]
    exact .fallback
  · obtain ⟨n, hn, rfl⟩ := map_eq_ok.mp h
    exact .min hn
  · obtain ⟨n, hn, rfl⟩ := map_eq_ok.mp h
    exact .max hn
  · next hrequired hkey henum hdefault hmin hmax =>
    rw [← Except.ok.inj h]
    refine .unknown ?_
    simp only [clauseKeys, List.mem_cons, List.not_mem_nil, or_false, not_or]
    exact ⟨hrequired, hkey, henum, hdefault, hmin, hmax⟩

/-- **A clause read from a text without commas is printable.** -/
theorem Clause.isPrintable_of_read {key : String} {value : Option (List Char)}
    {clause : Clause} (hvalue : ∀ v ∈ value, ',' ∉ v)
    (h : Clause.read key value = .ok clause) : clause.IsPrintable := by
  cases Clause.isRead_of_read h with
  | required => trivial
  | key => trivial
  | @choices v =>
    intro t ht
    obtain ⟨p, hp, rfl⟩ := List.mem_map.mp ht
    rw [String.toList_ofList]
    exact ⟨fun hc => hvalue v rfl (mem_of_mem_pieces hp hc), notMem_of_mem_pieces hp⟩
  | fallback => trivial
  | min hn => exact fitsInt64_of_readBound hn
  | max hn => exact fitsInt64_of_readBound hn
  | unknown _ => trivial

/-- **Taking in a printable clause keeps constraints printable.** -/
theorem Clause.isPrintable_apply {c : Constraints} (hc : c.IsPrintable)
    {clause : Clause} (h : clause.IsPrintable) :
    (clause.apply c).IsPrintable := by
  cases clause with
  | required => exact ⟨hc.noComma, hc.noBar, hc.min, hc.max⟩
  | key name => exact ⟨hc.noComma, hc.noBar, hc.min, hc.max⟩
  | choices values =>
    exact ⟨fun t ht => (h t ht).1, fun t ht => (h t ht).2, hc.min, hc.max⟩
  | fallback value => exact ⟨hc.noComma, hc.noBar, hc.min, hc.max⟩
  | min bound =>
    exact ⟨hc.noComma, hc.noBar, fun n hn => Option.some.inj hn ▸ h, hc.max⟩
  | max bound =>
    exact ⟨hc.noComma, hc.noBar, hc.min, fun n hn => Option.some.inj hn ▸ h⟩
  | unknown => exact hc

/-- The text of a clause holds no comma. -/
theorem noComma_of_mem_clauseTexts {body t : List Char}
    (h : t ∈ clauseTexts body) : ',' ∉ t := by
  obtain ⟨p, hp, rfl⟩ := List.mem_map.mp (List.mem_filter.mp h).1
  exact fun hc => notMem_of_mem_pieces hp (mem_of_mem_trim hc)

/-- The value of a clause is a part of its text. -/
theorem noComma_of_splitClause {t v : List Char} (ht : ',' ∉ t)
    (h : v ∈ (splitClause t).2) : ',' ∉ v := by
  rw [splitClause] at h
  split at h
  · next key value hcut =>
    rw [← Option.some.inj h]
    rw [eq_append_of_cut? hcut] at ht
    exact fun hc => ht (List.mem_append_right _ (List.mem_cons_of_mem _ hc))
  · exact nomatch h

/-- Taking in the clause of a text without commas keeps constraints
printable. -/
theorem isPrintable_takeClause {c c' : Constraints} (hc : c.IsPrintable)
    {t : List Char} (ht : ',' ∉ t) (h : takeClause c t = .ok c') :
    c'.IsPrintable := by
  obtain ⟨clause, hread, happly⟩ := bind_eq_ok.mp h
  rw [← Except.ok.inj happly]
  exact Clause.isPrintable_apply hc
    (Clause.isPrintable_of_read (fun v => noComma_of_splitClause ht) hread)

theorem isPrintable_none : Constraints.none.IsPrintable :=
  ⟨fun _ h => (nomatch h), fun _ h => (nomatch h), fun _ h => (nomatch h),
    fun _ h => (nomatch h)⟩

/-- Checking the bounds changes nothing but the mark. -/
theorem eq_of_checkBounds {c c' : Constraints} (h : checkBounds c = .ok c') :
    c' = { c with declared := true } := by
  unfold checkBounds at h
  split at h
  · split at h
    · exact nomatch h
    · exact (Except.ok.inj h).symm
  · exact (Except.ok.inj h).symm

/-- **The constraints that a tag states are printable.** -/
theorem isPrintable_of_constraints {tag : String} {c : Constraints}
    (h : constraints tag = .ok c) : c.IsPrintable := by
  rw [constraints] at h
  split at h
  · rw [← Except.ok.inj h]
    exact isPrintable_none
  · next body _ =>
    obtain ⟨taken, htaken, hchecked⟩ := bind_eq_ok.mp h
    have hp : taken.IsPrintable :=
      foldlM_invariant Constraints.IsPrintable
        (fun t ht b b' hb => isPrintable_takeClause hb
          (noComma_of_mem_clauseTexts ht)) isPrintable_none htaken
    rw [eq_of_checkBounds hchecked]
    exact ⟨hp.noComma, hp.noBar, hp.min, hp.max⟩

end Doc

end Switchboard
