import Mathlib.Data.List.Forall2
import Mathlib.Data.Option.Basic

/-!
# Computations that succeed

A computation that may fail succeeds as a whole exactly when each of its steps
does. These are the lemmas by which later modules take such a computation apart
without opening the monad, and the invariant and the failures of a fold whose
steps may fail.
-/

namespace Switchboard

variable {ε ε' α β : Type}

/-- A sequence succeeds when both of its steps do. -/
theorem bind_eq_ok {x : Except ε α} {f : α → Except ε β} {b : β} :
    (x >>= f) = .ok b ↔ ∃ a, x = .ok a ∧ f a = .ok b := by
  cases x with
  | error e => exact ⟨fun h => (nomatch h), fun ⟨_, h, _⟩ => (nomatch h)⟩
  | ok a =>
    refine ⟨fun h => ⟨a, rfl, h⟩, fun ⟨a', ha, h⟩ => ?_⟩
    rw [← Except.ok.inj ha] at h
    exact h

/-- A mapped computation succeeds when the computation does. -/
theorem map_eq_ok {x : Except ε α} {f : α → β} {b : β} :
    x.map f = .ok b ↔ ∃ a, x = .ok a ∧ f a = b := by
  cases x with
  | error e => exact ⟨fun h => (nomatch h), fun ⟨_, h, _⟩ => (nomatch h)⟩
  | ok a =>
    refine ⟨fun h => ⟨a, rfl, Except.ok.inj h⟩, fun ⟨a', ha, h⟩ => ?_⟩
    rw [← h, ← Except.ok.inj ha]
    rfl

/-- Changing the errors does not change success. -/
theorem mapError_eq_ok {x : Except ε α} {f : ε → ε'} {a : α} :
    x.mapError f = .ok a ↔ x = .ok a := by
  cases x with
  | error e => exact ⟨fun h => (nomatch h), fun h => (nomatch h)⟩
  | ok b => exact ⟨fun h => congrArg _ (Except.ok.inj h),
      fun h => congrArg _ (Except.ok.inj h)⟩

theorem mapError_eq_error {x : Except ε α} {f : ε → ε'} {e' : ε'} :
    x.mapError f = .error e' ↔ ∃ e, x = .error e ∧ f e = e' := by
  cases x with
  | error e =>
    refine ⟨fun h => ⟨e, rfl, Except.error.inj h⟩, fun ⟨_, he, h⟩ => ?_⟩
    rw [← h, ← Except.error.inj he]
    rfl
  | ok a => exact ⟨fun h => (nomatch h), fun ⟨_, h, _⟩ => (nomatch h)⟩

/-- What stands behind a refusal is done when there is no reason for it. -/
theorem throw_if_eq_ok {p : Prop} [Decidable p] {e : ε} {f : PUnit → Except ε β}
    {b : β} :
    (if p then throw e >>= f else f ⟨⟩) = .ok b ↔ ¬p ∧ f ⟨⟩ = .ok b := by
  split_ifs with h
  · exact iff_of_false (fun h => nomatch h) (fun h' => h'.1 h)
  · exact (and_iff_right h).symm

/-- A sequence is mapped when the last of its steps is. -/
theorem bind_eq_map {γ : Type} {f : β → γ} {x : Except ε α} {k : α → Except ε β}
    {k' : α → Except ε γ} (h : ∀ a, k' a = (k a).map f) : (x >>= k') = (x >>= k).map f := by
  cases x with
  | error e => rfl
  | ok a => exact h a

/-- What stands behind a refusal is mapped, and the refusal stays. -/
theorem throw_if_eq_map {f : α → β} {p : Prop} [Decidable p] {e : ε} {k : PUnit → Except ε α}
    {k' : PUnit → Except ε β} (h : k' ⟨⟩ = (k ⟨⟩).map f) :
    (if p then throw e >>= k' else k' ⟨⟩)
      = (if p then throw e >>= k else k ⟨⟩).map f := by
  split_ifs
  · rfl
  · exact h

/-- **A list goes through when each of its members does.** -/
theorem mapM_eq_ok {f : α → Except ε β} {as : List α} {bs : List β} :
    as.mapM f = .ok bs ↔ List.Forall₂ (fun a b => f a = .ok b) as bs := by
  induction as generalizing bs with
  | nil =>
    rw [List.mapM_nil, List.forall₂_nil_left_iff]
    exact ⟨fun h => (Except.ok.inj h).symm, fun h => congrArg _ h.symm⟩
  | cons a rest ih =>
    rw [List.mapM_cons, bind_eq_ok, List.forall₂_cons_left_iff]
    constructor
    · rintro ⟨b, hb, h⟩
      obtain ⟨cs, hcs, h⟩ := bind_eq_ok.mp h
      exact ⟨b, cs, hb, ih.mp hcs, (Except.ok.inj h).symm⟩
    · rintro ⟨b, cs, hb, hcs, rfl⟩
      exact ⟨b, hb, bind_eq_ok.mpr ⟨cs, ih.mpr hcs, rfl⟩⟩

/-- A list whose members are each related to something is related to a list. -/
theorem exists_forall₂_iff {R : α → β → Prop} {as : List α} :
    (∃ bs, List.Forall₂ R as bs) ↔ ∀ a ∈ as, ∃ b, R a b := by
  induction as with
  | nil => exact iff_of_true ⟨[], .nil⟩ (fun _ h => absurd h List.not_mem_nil)
  | cons a rest ih =>
    rw [List.forall_mem_cons, ← ih]
    constructor
    · rintro ⟨_, h⟩
      obtain ⟨b, bs, hb, hbs, rfl⟩ := List.forall₂_cons_left_iff.mp h
      exact ⟨⟨b, hb⟩, bs, hbs⟩
    · rintro ⟨⟨b, hb⟩, bs, hbs⟩
      exact ⟨b :: bs, .cons hb hbs⟩

theorem forall₂_trans {γ : Type} {R : α → β → Prop} {S : β → γ → Prop}
    {T : α → γ → Prop} (h : ∀ a b c, R a b → S b c → T a c) {as : List α} {bs : List β}
    {cs : List γ} (hR : List.Forall₂ R as bs) (hS : List.Forall₂ S bs cs) :
    List.Forall₂ T as cs := by
  induction hR generalizing cs with
  | nil =>
    rw [List.forall₂_nil_left_iff.mp hS]
    exact .nil
  | cons hab _ ih =>
    obtain ⟨c, cs, hbc, hrest, rfl⟩ := List.forall₂_cons_left_iff.mp hS
    exact .cons (h _ _ _ hab hbc) (ih hrest)

/-- A list related in two steps is related through a list between. -/
theorem exists_forall₂_of_comp {γ : Type} {R : α → γ → Prop} {S : α → β → Prop}
    {T : β → γ → Prop} (h : ∀ a c, R a c → ∃ b, S a b ∧ T b c) {as : List α} {cs : List γ}
    (hR : List.Forall₂ R as cs) : ∃ bs, List.Forall₂ S as bs ∧ List.Forall₂ T bs cs := by
  induction hR with
  | nil => exact ⟨[], .nil, .nil⟩
  | cons hac _ ih =>
    obtain ⟨b, hS, hT⟩ := h _ _ hac
    obtain ⟨bs, hSs, hTs⟩ := ih
    exact ⟨b :: bs, .cons hS hSs, .cons hT hTs⟩

theorem forall₂_and_mem {R : α → β → Prop} {as : List α} {bs : List β}
    (h : List.Forall₂ R as bs) : List.Forall₂ (fun a b => R a b ∧ b ∈ bs) as bs := by
  induction h with
  | nil => exact .nil
  | cons hab _ ih =>
    exact .cons ⟨hab, List.mem_cons_self⟩
      (ih.imp fun _ _ h => ⟨h.1, List.mem_cons_of_mem _ h.2⟩)

theorem exists_of_mem_forall₂ {R : α → β → Prop} {as : List α} {bs : List β}
    (h : List.Forall₂ R as bs) {a : α} (ha : a ∈ as) : ∃ b ∈ bs, R a b := by
  induction h with
  | nil => exact absurd ha List.not_mem_nil
  | cons hb _ ih =>
    rcases List.mem_cons.mp ha with rfl | ha
    · exact ⟨_, List.mem_cons_self, hb⟩
    · obtain ⟨b, hmem, hr⟩ := ih ha
      exact ⟨b, List.mem_cons_of_mem _ hmem, hr⟩

/-- At a position where one of two related lists has a member, the other has one too. -/
theorem exists_getElem?_of_forall₂ {R : α → β → Prop} {as : List α} {bs : List β}
    (h : List.Forall₂ R as bs) {i : Nat} {b : β} (hb : bs[i]? = some b) :
    ∃ a, as[i]? = some a ∧ R a b := by
  induction h generalizing i with
  | nil => exact nomatch hb
  | cons hab _ ih =>
    cases i with
    | zero => exact ⟨_, rfl, Option.some.inj hb ▸ hab⟩
    | succ i => exact ih hb

/-- **What each step of a fold keeps, the fold keeps.** -/
theorem foldlM_invariant {step : β → α → Except ε β} (P : β → Prop) {as : List α}
    (hstep : ∀ a ∈ as, ∀ b b', P b → step b a = .ok b' → P b') {b b' : β}
    (hb : P b) (h : as.foldlM step b = .ok b') : P b' := by
  induction as generalizing b with
  | nil =>
    rw [← Except.ok.inj h]
    exact hb
  | cons a rest ih =>
    rw [List.foldlM_cons] at h
    obtain ⟨mid, hmid, hrest⟩ := bind_eq_ok.mp h
    exact ih (fun x hx => hstep x (List.mem_cons_of_mem a hx))
      (hstep a List.mem_cons_self b mid hb hmid) hrest

/-- Every step of a fold that succeeds is one that succeeds. -/
theorem exists_step_of_foldlM {step : β → α → Except ε β} {as : List α} {b b' : β}
    (h : as.foldlM step b = .ok b') {a : α} (ha : a ∈ as) :
    ∃ mid mid', step mid a = .ok mid' := by
  induction as generalizing b with
  | nil => exact absurd ha List.not_mem_nil
  | cons x rest ih =>
    rw [List.foldlM_cons] at h
    obtain ⟨mid, hmid, hrest⟩ := bind_eq_ok.mp h
    rcases List.mem_cons.mp ha with rfl | ha
    · exact ⟨b, mid, hmid⟩
    · exact ih hrest ha

/-- A fold fails exactly where one of its steps does, after others that do
not. -/
theorem foldlM_eq_error_iff {step : β → α → Except ε β} {as : List α} {b : β}
    {e : ε} : as.foldlM step b = .error e
      ↔ ∃ before a after mid, as = before ++ a :: after
          ∧ before.foldlM step b = .ok mid ∧ step mid a = .error e := by
  constructor
  · intro h
    induction as generalizing b with
    | nil => exact nomatch h
    | cons a rest ih =>
      rw [List.foldlM_cons] at h
      cases hstep : step b a with
      | error e' =>
        rw [hstep] at h
        exact ⟨[], a, rest, b, rfl, rfl, hstep.trans h⟩
      | ok b' =>
        rw [hstep] at h
        obtain ⟨before, x, after, mid, rfl, hbefore, hx⟩ := ih h
        refine ⟨a :: before, x, after, mid, rfl, ?_, hx⟩
        rw [List.foldlM_cons, hstep]
        exact hbefore
  · rintro ⟨before, a, after, mid, rfl, hbefore, ha⟩
    rw [List.foldlM_append, hbefore]
    show (a :: after).foldlM step mid = _
    rw [List.foldlM_cons, ha]
    rfl

/-! ## Refusals -/

/-- **What a computation fails with**, if it does. -/
def refusal? : Except ε α → Option ε
  | .error e => some e
  | .ok _ => none

theorem refusal?_eq_some_iff {x : Except ε α} {e : ε} :
    refusal? x = some e ↔ x = .error e := by
  cases x with
  | error e' => exact ⟨fun h => congrArg _ (Option.some.inj h),
      fun h => congrArg some (Except.error.inj h)⟩
  | ok a => exact ⟨fun h => (nomatch h), fun h => (nomatch h)⟩

/-- What is done with a value that is there refuses nothing. -/
theorem refusal?_bind_pure (x : Except ε α) (f : α → β) :
    refusal? (x >>= fun a => pure (f a)) = refusal? x := by
  cases x <;> rfl

/-- **A list fails with the first failure among its members.** -/
theorem refusal?_mapM (f : α → Except ε β) (as : List α) :
    refusal? (as.mapM f) = as.findSome? fun a => refusal? (f a) := by
  induction as with
  | nil => rfl
  | cons a rest ih =>
    rw [List.mapM_cons, List.findSome?_cons]
    cases f a with
    | error e => rfl
    | ok b =>
      show refusal? (rest.mapM f >>= fun bs => pure (b :: bs)) = _
      rw [refusal?_bind_pure, ih]
      rfl

/-- A list fails exactly where one of its members does, after others that do not. -/
theorem mapM_eq_error_iff {f : α → Except ε β} {as : List α} {e : ε} :
    as.mapM f = .error e
      ↔ ∃ before a after, as = before ++ a :: after ∧ f a = .error e
          ∧ ∀ x ∈ before, ∃ b, f x = .ok b := by
  have hok (x : α) : refusal? (f x) = none ↔ ∃ b, f x = .ok b := by
    cases f x <;> simp [refusal?]
  rw [← refusal?_eq_some_iff, refusal?_mapM, List.findSome?_eq_some_iff]
  simp only [refusal?_eq_some_iff, hok]

end Switchboard
