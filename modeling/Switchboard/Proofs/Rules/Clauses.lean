import Switchboard.Proofs.Text.Pieces
import Switchboard.Validation

/-!
# Clauses read back from a rule

A rule is split at the commas outside of parentheses, and how deep in
parentheses a comma stands depends on everything before it in the rule. What
keeps clauses apart is therefore a condition on each clause alone: scanned from
depth zero it meets no comma at depth zero and is back at depth zero at its end
(`IsClause`). A comma behind it then ends a piece (`clausePieces_append_comma`).

A clause with an argument closes its one parenthesis at its end. A closing
parenthesis inside the argument does no harm, since the depth never falls below
zero (`depthAfter_le`); an opening one would (`isClause_clause`).
-/

namespace Switchboard

open Text

/-! ## Depth in parentheses -/

/-- The depth after one more character; it never falls below zero. -/
def depthStep (depth : Nat) (c : Char) : Nat :=
  if c = '(' then depth + 1 else if c = ')' then depth - 1 else depth

/-- **The depth after a text** that begins at a depth. -/
def depthAfter (depth : Nat) (cs : List Char) : Nat := cs.foldl depthStep depth

/-- **No comma stands at depth zero** in a text that begins at a depth. -/
def NoOuterComma (depth : Nat) : List Char → Prop
  | [] => True
  | c :: rest => ¬(c = ',' ∧ depth = 0) ∧ NoOuterComma (depthStep depth c) rest

instance decidableNoOuterComma :
    (depth : Nat) → (cs : List Char) → Decidable (NoOuterComma depth cs)
  | _, [] => inferInstanceAs (Decidable True)
  | depth, c :: rest =>
    have := decidableNoOuterComma (depthStep depth c) rest
    inferInstanceAs (Decidable (¬(c = ',' ∧ depth = 0) ∧ NoOuterComma (depthStep depth c) rest))

@[simp] theorem depthAfter_nil (depth : Nat) : depthAfter depth [] = depth := rfl

@[simp] theorem depthAfter_cons (depth : Nat) (c : Char) (rest : List Char) :
    depthAfter depth (c :: rest) = depthAfter (depthStep depth c) rest := rfl

@[simp] theorem depthAfter_append (depth : Nat) (a b : List Char) :
    depthAfter depth (a ++ b) = depthAfter (depthAfter depth a) b :=
  List.foldl_append

/-- **Without an opening parenthesis the depth does not grow.** -/
theorem depthAfter_le {cs : List Char} (h : '(' ∉ cs) (depth : Nat) :
    depthAfter depth cs ≤ depth := by
  induction cs generalizing depth with
  | nil => exact Nat.le_refl depth
  | cons c rest ih =>
    rw [List.mem_cons, not_or] at h
    have hstep : depthStep depth c ≤ depth := by
      rw [depthStep, if_neg (fun e => h.1 e.symm)]
      split
      · exact Nat.sub_le depth 1
      · exact Nat.le_refl depth
    exact Nat.le_trans (ih h.2 _) hstep

/-- Without parentheses the depth stays. -/
theorem depthAfter_eq {cs : List Char} (hopen : '(' ∉ cs) (hclose : ')' ∉ cs)
    (depth : Nat) : depthAfter depth cs = depth := by
  induction cs generalizing depth with
  | nil => rfl
  | cons c rest ih =>
    rw [List.mem_cons, not_or] at hopen hclose
    rw [depthAfter_cons, depthStep, if_neg (fun e => hopen.1 e.symm),
      if_neg (fun e => hclose.1 e.symm), ih hopen.2 hclose.2]

/-- A text without commas has none at depth zero. -/
theorem noOuterComma_of_notMem {cs : List Char} (h : ',' ∉ cs) (depth : Nat) :
    NoOuterComma depth cs := by
  induction cs generalizing depth with
  | nil => exact trivial
  | cons c rest ih =>
    rw [List.mem_cons, not_or] at h
    exact ⟨fun hc => h.1 hc.1.symm, ih h.2 _⟩

/-- No comma stands at depth zero in a text that is put together from two when none
does in either, the second beginning at the depth behind the first. -/
theorem noOuterComma_append {depth : Nat} {a b : List Char} :
    NoOuterComma depth (a ++ b)
      ↔ NoOuterComma depth a ∧ NoOuterComma (depthAfter depth a) b := by
  induction a generalizing depth with
  | nil => exact (and_iff_right trivial).symm
  | cons c rest ih => exact (and_congr_right fun _ => ih).trans and_assoc.symm

/-! ## Splitting -/

/-- There is always a piece. -/
theorem clausePieces_ne_nil (depth : Nat) (cs : List Char) :
    clausePieces depth cs ≠ [] := by
  cases cs with
  | nil => exact List.cons_ne_nil _ _
  | cons c rest =>
    rw [clausePieces]
    split
    · exact List.cons_ne_nil _ _
    · dsimp only
      split <;> exact List.cons_ne_nil _ _

/-- A character that ends no piece goes to the first piece of the rest. -/
theorem clausePieces_cons {depth : Nat} {c : Char}
    (h : ¬(c = ',' ∧ depth = 0)) (rest : List Char) :
    clausePieces depth (c :: rest)
      = (clausePieces (depthStep depth c) rest).modifyHead (c :: ·) := by
  obtain ⟨p, ps, hp⟩ :=
    List.exists_cons_of_ne_nil (clausePieces_ne_nil (depthStep depth c) rest)
  rw [clausePieces, if_neg h, hp]
  unfold depthStep at hp
  dsimp only
  rw [hp]
  rfl

/-- **Up to its first comma at depth zero, a rule is one piece**: what stands
before goes to the first piece of the rest. -/
theorem clausePieces_append {depth : Nat} {a : List Char}
    (h : NoOuterComma depth a) (rest : List Char) :
    clausePieces depth (a ++ rest)
      = (clausePieces (depthAfter depth a) rest).modifyHead (a ++ ·) := by
  -- the depth changes along the text, so the induction is for every depth
  induction a generalizing depth with
  | nil =>
    show clausePieces depth rest = (clausePieces depth rest).modifyHead id
    rw [List.modifyHead_id, id]
  | cons c a ih =>
    rw [List.cons_append, clausePieces_cons h.1, ih h.2, depthAfter_cons,
      List.modifyHead_modifyHead]
    rfl

/-- A text without a comma at depth zero is one piece. -/
theorem clausePieces_of_noOuterComma {depth : Nat} {a : List Char}
    (h : NoOuterComma depth a) : clausePieces depth a = [a] := by
  have hp := clausePieces_append h []
  rw [List.append_nil] at hp
  rw [hp, clausePieces, List.modifyHead_cons, List.append_nil]

/-- **A comma at depth zero ends a piece.** -/
theorem clausePieces_append_comma {depth : Nat} {a : List Char}
    (h : NoOuterComma depth a) (hclosed : depthAfter depth a = 0)
    (rest : List Char) :
    clausePieces depth (a ++ ',' :: rest) = a :: clausePieces 0 rest := by
  rw [clausePieces_append h, hclosed, clausePieces, if_pos ⟨rfl, rfl⟩,
    List.modifyHead_cons, List.append_nil]

/-- **A text that stays a clause of its own between commas.** -/
structure IsClause (t : String) : Prop where
  /-- It is not empty. -/
  ne_empty : t.toList ≠ []
  /-- No blank stands at its ends. -/
  trimmed : trim t.toList = t.toList
  /-- It holds no comma outside of parentheses. -/
  noOuterComma : NoOuterComma 0 t.toList
  /-- It leaves no parenthesis open. -/
  closed : depthAfter 0 t.toList = 0

instance (t : String) : Decidable (IsClause t) :=
  decidable_of_iff
    (t.toList ≠ [] ∧ trim t.toList = t.toList ∧ NoOuterComma 0 t.toList
      ∧ depthAfter 0 t.toList = 0)
    ⟨fun h => ⟨h.1, h.2.1, h.2.2.1, h.2.2.2⟩,
      fun h => ⟨h.ne_empty, h.trimmed, h.noOuterComma, h.closed⟩⟩

/-- **A text that stays a clause of its own behind a comma**, with nothing behind it:
it may leave a parenthesis open. -/
structure IsLastClause (t : String) : Prop where
  /-- It is not empty. -/
  ne_empty : t.toList ≠ []
  /-- No blank stands at its ends. -/
  trimmed : trim t.toList = t.toList
  /-- It holds no comma outside of parentheses. -/
  noOuterComma : NoOuterComma 0 t.toList

theorem IsClause.isLastClause {t : String} (h : IsClause t) : IsLastClause t :=
  ⟨h.ne_empty, h.trimmed, h.noOuterComma⟩

/-! ## Clauses with an argument -/

/-- **The name of a clause**: neither empty nor with a blank, a comma or a
parenthesis in it. -/
structure IsClauseName (name : String) : Prop where
  /-- It is not empty. -/
  ne_empty : name.toList ≠ []
  /-- It begins with no blank. -/
  notBlank : name.toList.head?.any isBlank = false
  /-- It holds no comma. -/
  noComma : ',' ∉ name.toList
  /-- It opens no parenthesis. -/
  noOpen : '(' ∉ name.toList
  /-- It closes no parenthesis. -/
  noClose : ')' ∉ name.toList

instance (name : String) : Decidable (IsClauseName name) :=
  decidable_of_iff
    (name.toList ≠ [] ∧ name.toList.head?.any isBlank = false
      ∧ ',' ∉ name.toList ∧ '(' ∉ name.toList ∧ ')' ∉ name.toList)
    ⟨fun h => ⟨h.1, h.2.1, h.2.2.1, h.2.2.2.1, h.2.2.2.2⟩,
      fun h => ⟨h.ne_empty, h.notBlank, h.noComma, h.noOpen, h.noClose⟩⟩

theorem toList_clause (name argument : String) :
    (clause name argument).toList
      = name.toList ++ '(' :: (argument.toList ++ [')']) := by
  simp [clause]

/-- A clause with an argument ends with its closing parenthesis. -/
theorem getLast?_clause (name argument : String) :
    (clause name argument).toList.getLast? = some ')' := by
  rw [toList_clause, ← List.cons_append, ← List.append_assoc,
    List.getLast?_concat]

theorem clause_ne_required (name argument : String) :
    clause name argument ≠ "required" := by
  intro e
  have hlast := getLast?_clause name argument
  rw [e] at hlast
  exact absurd hlast (by decide)

/-- A clause begins and ends with no blank, whatever its argument. -/
theorem trim_clause {name : String} (hname : IsClauseName name) (argument : String) :
    trim (clause name argument).toList = (clause name argument).toList := by
  refine trim_of_ends ?_ ?_
  · rw [toList_clause]
    cases hn : name.toList with
    | nil => exact absurd hn hname.ne_empty
    | cons c cs =>
      have hc := hname.notBlank
      rw [hn] at hc
      rintro _ ⟨⟩
      exact hc
  · rw [getLast?_clause]
    rintro c ⟨⟩
    decide

theorem toList_clause_ne_nil {name : String} (hname : IsClauseName name)
    (argument : String) : (clause name argument).toList ≠ [] := by
  rw [toList_clause]
  exact List.append_ne_nil_of_left_ne_nil hname.ne_empty _

/-- **The depth behind a clause** is one less than that behind its argument. -/
theorem depthAfter_clause {name : String} (hname : IsClauseName name)
    (argument : String) (depth : Nat) :
    depthAfter depth (clause name argument).toList
      = depthAfter (depth + 1) argument.toList - 1 := by
  rw [toList_clause, depthAfter_append, depthAfter_eq hname.noOpen hname.noClose,
    depthAfter_cons, depthAfter_append]
  rfl

/-- An argument without commas makes a last clause. -/
theorem isLastClause_clause {name argument : String} (hname : IsClauseName name)
    (hcomma : ',' ∉ argument.toList) : IsLastClause (clause name argument) where
  ne_empty := toList_clause_ne_nil hname argument
  trimmed := trim_clause hname argument
  noOuterComma := by
    refine noOuterComma_of_notMem ?_ 0
    rw [toList_clause]
    simp [hname.noComma, hcomma]

/-- **An argument makes a clause** when it holds no comma and leaves no parenthesis
open but the clause's own. -/
theorem isClause_clause_of_depth {name argument : String} (hname : IsClauseName name)
    (hcomma : ',' ∉ argument.toList) (hdepth : depthAfter 1 argument.toList ≤ 1) :
    IsClause (clause name argument) where
  ne_empty := (isLastClause_clause hname hcomma).ne_empty
  trimmed := (isLastClause_clause hname hcomma).trimmed
  noOuterComma := (isLastClause_clause hname hcomma).noOuterComma
  closed := by
    rw [depthAfter_clause hname]
    exact Nat.sub_eq_zero_of_le hdepth

/-- **An argument without commas and opening parentheses makes a clause.**
Closing parentheses in it are harmless: the depth they undo is only the
clause's own. -/
theorem isClause_clause {name argument : String} (hname : IsClauseName name)
    (hcomma : ',' ∉ argument.toList) (hopen : '(' ∉ argument.toList) :
    IsClause (clause name argument) :=
  isClause_clause_of_depth hname hcomma (depthAfter_le hopen 1)

/-- **A clause with an argument reads as its name says.** -/
theorem Rule.read_clause {name : String} (hname : IsClauseName name)
    (argument : String) :
    Rule.read (clause name argument) = ruleOf name argument.toList := by
  have hcut : cut? '(' (clause name argument).toList.dropLast
      = some (name.toList, argument.toList) := by
    rw [toList_clause, ← List.cons_append, ← List.append_assoc,
      List.dropLast_concat, cut?_append hname.noOpen]
  rw [Rule.read, if_neg (clause_ne_required name argument)]
  dsimp only
  rw [if_pos (getLast?_clause name argument), hcut]
  dsimp only
  rw [String.ofList_toList]

end Switchboard
