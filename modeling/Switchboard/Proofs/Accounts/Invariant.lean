import Mathlib.Algebra.Group.Nat.Defs
import Switchboard.Proofs.Accounts.Forms
import Switchboard.Proofs.Accounts.Steps

/-!
# The accounts there can be

Accounts are numbered in the order they are created and never dropped, so their
numbers, in the order of the store, are 42, 43, and so on up to the next number
(`Store.IsSound`). Creating keeps this as long as the next number does not wrap
around, and nothing else changes the store; along a run the replies that report
a creation carry the numbers from the next one on (`isSound_run`).
-/

namespace Switchboard.Accounts

/-- **A sound store.** -/
structure Store.IsSound (s : Store) : Prop where
  /-- The numbers are counted up from 42. -/
  ids : s.users.values.map (fun u => u.id.toNat) = List.range' 42 s.users.size
  /-- The next number is the one after the last. -/
  nextId : s.nextId.toNat = 42 + s.users.size
  /-- Accounts are stored by login. -/
  login : ∀ e ∈ s.users.entries, e.1 = e.2.login
  /-- All accounts but the first are sound. -/
  users : ∀ u ∈ s.users.values, u = seed ∨ u.IsSound

namespace Store.IsSound

variable {s : Store}

/-- No two accounts have one number. -/
theorem nodup_ids (hs : s.IsSound) : (s.users.values.map User.id).Nodup := by
  have h : ((s.users.values.map User.id).map UInt64.toNat).Nodup := by
    rw [List.map_map]
    exact hs.ids ▸ List.nodup_range'
  exact h.of_map _

/-- **The numbers there are** are those from 42 up to the next one. -/
theorem exists_id_iff (hs : s.IsSound) (n : Nat) :
    (∃ u ∈ s.users.values, u.id.toNat = n) ↔ 42 ≤ n ∧ n < s.nextId.toNat := by
  rw [hs.nextId, ← List.mem_range'_1, ← hs.ids, List.mem_map]

end Store.IsSound

theorem isSound_initial : Store.initial.IsSound where
  ids := by decide
  nextId := by decide
  login := by decide
  users u hu := .inl (List.mem_singleton.mp hu)

section Add

variable {s : Store} {r : Http.Request} {u : User}

/-- A created account has the next number. -/
theorem Creates.id_eq (h : Creates s r u) : u.id = s.nextId := by
  obtain ⟨inputs, _, rfl⟩ := h.account
  rfl

/-- A created account is sound. -/
theorem Creates.isSound (h : Creates s r u) : u.IsSound := by
  obtain ⟨inputs, hinputs, rfl⟩ := h.account
  obtain ⟨form, _, hform⟩ := inputsOfRequest_eq_ok.mp hinputs
  exact isSound_newUser hform s.nextId

/-- A created account goes last. -/
theorem Creates.entries_add (h : Creates s r u) :
    (s.add u).users.entries = s.users.entries ++ [(u.login, u)] :=
  OrderedMap.entries_insert_of_notMem h.fresh u

theorem Creates.size_add (h : Creates s r u) :
    (s.add u).users.size = s.users.size + 1 := by
  rw [OrderedMap.size, h.entries_add, List.length_append]
  rfl

/-- **Creating an account keeps a store sound**, as long as its number is not
the greatest there is. -/
theorem Store.IsSound.add (hs : s.IsSound) (h : Creates s r u)
    (hroom : s.nextId.toNat + 1 < 2 ^ 64) : (s.add u).IsSound where
  ids := by
    have hvalues : (s.add u).users.values = s.users.values ++ [u] := by
      rw [OrderedMap.values, h.entries_add, List.map_append]
      rfl
    rw [hvalues, List.map_append, hs.ids, h.size_add, List.range'_concat,
      List.map_singleton, h.id_eq, hs.nextId, Nat.one_mul]
  nextId := by
    show (s.nextId + 1).toNat = _
    rw [UInt64.toNat_add, h.size_add, ← Nat.add_assoc, ← hs.nextId]
    exact Nat.mod_eq_of_lt hroom
  login e he := by
    rw [h.entries_add] at he
    rcases List.mem_append.mp he with he | he
    · exact hs.login e he
    · rw [List.mem_singleton.mp he]
  users v hv := by
    obtain ⟨e, he, rfl⟩ := List.mem_map.mp hv
    rw [h.entries_add] at he
    rcases List.mem_append.mp he with he | he
    · exact hs.users e.2 (List.mem_map_of_mem he)
    · rw [List.mem_singleton.mp he]
      exact .inr h.isSound

end Add

/-! ## Runs -/

/-- **The replies that report a creation**, in order. -/
def creationReplies (qs : List (Service × Http.Request)) (replies : List Reply) :
    List Reply :=
  ((qs.zip replies).filter fun a => reportsCreation a.1 a.2).map Prod.snd

theorem creationReplies_cons (q : Service × Http.Request)
    (qs : List (Service × Http.Request)) (reply : Reply) (replies : List Reply) :
    creationReplies (q :: qs) (reply :: replies)
      = (if reportsCreation q reply then [reply] else [])
        ++ creationReplies qs replies := by
  rw [creationReplies, List.zip_cons_cons, List.filter_cons]
  split <;> rfl

/-- The reply that reports a number. -/
def numberReply (n : Nat) : Reply := .success (.object [("id", .int n)])

/-- **A run keeps a store sound** as long as its creations do not use up the
numbers, and the replies that report them carry the numbers in order. -/
theorem isSound_run {s : Store} (hs : s.IsSound)
    (qs : List (Service × Http.Request))
    (hroom : s.nextId.toNat + (creationReplies qs (run s qs).2).length < 2 ^ 64) :
    (run s qs).1.IsSound
      ∧ creationReplies qs (run s qs).2
        = (List.range' s.nextId.toNat
            (creationReplies qs (run s qs).2).length).map numberReply := by
  induction qs generalizing s with
  | nil => exact ⟨hs, rfl⟩
  | cons q rest ih =>
    -- a creation uses up one number and reports it; nothing else does either
    rw [run_cons, creationReplies_cons] at hroom ⊢
    rcases step_cases s q with ⟨hservice, u, hcreates, hstep⟩ | ⟨hstate, hnone⟩
    · have hreports : reportsCreation q u.createdReply = true :=
        reportsCreation_iff.mpr ⟨hservice, hcreates.path, rfl⟩
      rw [hstep] at hroom ⊢
      dsimp only at hroom ⊢
      rw [hreports, if_pos rfl, List.singleton_append, List.length_cons] at hroom ⊢
      have hadd := hs.add hcreates (by omega)
      have hnext : (s.add u).nextId.toNat = s.nextId.toNat + 1 := by
        rw [hadd.nextId, hcreates.size_add, ← Nat.add_assoc, ← hs.nextId]
      have hrest : (s.add u).nextId.toNat
          + (creationReplies rest (run (s.add u) rest).2).length < 2 ^ 64 := by
        omega
      obtain ⟨hsound, hreplies⟩ := ih hadd hrest
      refine ⟨hsound, ?_⟩
      rw [List.range'_succ, List.map_cons, ← hnext, ← hreplies]
      refine congrArg (· :: _) ?_
      rw [User.createdReply, hcreates.id_eq, numberReply]
    · rw [hstate] at hroom ⊢
      rw [hnone] at hroom ⊢
      exact ih hs hroom

/-- **The accounts there can be.** Whatever requests the two services get, as
long as the creations do not use up the numbers: the next number is 42 more
than there are accounts; the numbers of the accounts are those from 42 up to
the next one, each once; every account is stored by its login; all but the
first have a login of at least ten characters, an age from 0 to 128 and one of
three statuses; and the replies that report creations carry 43, 44 and so
on. -/
theorem accounts_of_run (qs : List (Service × Http.Request))
    (hroom : (creationReplies qs (run Store.initial qs).2).length < 2 ^ 64 - 43) :
    let s := (run Store.initial qs).1
    s.nextId.toNat = 42 + s.users.size
    ∧ (s.users.values.map User.id).Nodup
    ∧ (∀ n : Nat, (∃ u ∈ s.users.values, u.id.toNat = n)
        ↔ 42 ≤ n ∧ n < s.nextId.toNat)
    ∧ (∀ e ∈ s.users.entries, e.1 = e.2.login)
    ∧ (∀ u ∈ s.users.values, u ≠ seed →
        10 ≤ u.login.length ∧ 0 ≤ u.age ∧ u.age ≤ 128
          ∧ u.status ∈ ["user", "moderator", "admin"])
    ∧ ∀ (n : Nat) (reply : Reply),
        (creationReplies qs (run Store.initial qs).2)[n]? = some reply →
          reply = .success (.object [("id", .int (42 + (n + 1)))]) := by
  intro s
  obtain ⟨hsound, hreplies⟩ := isSound_run isSound_initial qs
    (show 43 + _ < 2 ^ 64 by omega)
  refine ⟨hsound.nextId, hsound.nodup_ids, hsound.exists_id_iff, hsound.login,
    ?_, ?_⟩
  · intro u hu hne
    have hu : u.IsSound := (hsound.users u hu).resolve_left hne
    exact ⟨hu.login, hu.age_nonneg, hu.age_le, hu.status⟩
  · intro n reply hreply
    rw [hreplies, List.getElem?_map] at hreply
    obtain ⟨k, hk, rfl⟩ := Option.map_eq_some_iff.mp hreply
    obtain ⟨_, rfl⟩ := List.getElem?_eq_some_iff.mp hk
    rw [List.getElem_range', Nat.one_mul]
    have hnumber : (((43 : UInt64).toNat + n : Nat) : Int) = 42 + (n + 1) := by
      rw [show (43 : UInt64).toNat = 43 from rfl]
      omega
    exact congrArg (fun k => Reply.success (.object [("id", .int k)])) hnumber

/-- A login that is taken is numbered once, and characters not at all. -/
theorem accounts_of_run_creation :
    let r : Http.Request := ⟨"POST", ⟨"/user/create", some "login=long_enough"⟩,
      [⟨"x-auth", Text.utf8 "100500"⟩], []⟩
    let qs := [(Service.characters, r), (Service.accounts, r),
      (Service.accounts, r)]
    (creationReplies qs (run Store.initial qs).2).length < 2 ^ 64 - 43
    ∧ (run Store.initial qs).1.nextId.toNat
      = 42 + (run Store.initial qs).1.users.size
    ∧ (creationReplies qs (run Store.initial qs).2)[0]?
      = some (.success (.object [("id", .int 43)])) := by
  intro r qs
  have hroom : (creationReplies qs (run Store.initial qs).2).length
      < 2 ^ 64 - 43 := by
    decide +kernel
  obtain ⟨hnext, _, _, _, _, hreplies⟩ := accounts_of_run qs hroom
  refine ⟨hroom, hnext, ?_⟩
  obtain ⟨reply, hreply⟩ : ∃ reply,
      (creationReplies qs (run Store.initial qs).2)[0]? = some reply :=
    Option.isSome_iff_exists.mp (by decide +kernel)
  rw [hreply, hreplies 0 reply hreply]
  rfl

end Switchboard.Accounts
