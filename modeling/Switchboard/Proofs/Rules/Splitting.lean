import Switchboard.Proofs.Rules.Clauses
import Switchboard.Proofs.Text.Utf8

/-!
# What a rule is split into

Between the commas outside of parentheses stand the pieces of a rule, and they are told by
two conditions: joined they are the rule, and scanned one by one, each from depth zero, none
meets a comma at depth zero and all but the last are back at depth zero at their ends
(`ArePieces`). A piece is blank, or a clause with blanks around it (`IsLaidOut`). So what a
rule is split into can be said without splitting it, for every text whatever
(`splitClauses_eq_iff`): a closing parenthesis too many is harmless, and an opening one
leaves all that follows to the last piece.

A scan by bytes keeps where the present piece begins and cuts it out where it ends. It could
cut a character apart, or lose what stands behind the last comma. It does neither
(`slicedClauses?_eq`): what it has passed since the last comma at depth zero is always a
text of its own, and a comma is one byte.
-/

namespace Switchboard

open Text

/-! ## Pieces -/

/-- **The pieces between the commas outside of parentheses**, of a text that begins at a
depth. -/
def ArePieces (depth : Nat) : List (List Char) → Prop
  | [] => False
  | [p] => NoOuterComma depth p
  | p :: q :: ps => NoOuterComma depth p ∧ depthAfter depth p = 0 ∧ ArePieces 0 (q :: ps)

theorem arePieces_cons {depth : Nat} {p : List Char} {ps : List (List Char)} (h : ps ≠ []) :
    ArePieces depth (p :: ps)
      ↔ NoOuterComma depth p ∧ depthAfter depth p = 0 ∧ ArePieces 0 ps := by
  obtain ⟨q, ps, rfl⟩ := List.exists_cons_of_ne_nil h
  rfl

/-- Texts that are closed and one that may be open at its end are pieces. -/
theorem arePieces_concat {ps : List (List Char)} {p : List Char}
    (hps : ∀ q ∈ ps, NoOuterComma 0 q ∧ depthAfter 0 q = 0) (hp : NoOuterComma 0 p) :
    ArePieces 0 (ps ++ [p]) := by
  induction ps with
  | nil => exact hp
  | cons q ps ih =>
    rw [List.forall_mem_cons] at hps
    rw [List.cons_append, arePieces_cons (by simp)]
    exact ⟨hps.1.1, hps.1.2, ih hps.2⟩

/-- A character that ends no piece goes to the first piece of the rest. -/
theorem arePieces_modifyHead {depth : Nat} {c : Char} (h : ¬(c = ',' ∧ depth = 0))
    {ps : List (List Char)} (hps : ArePieces (depthStep depth c) ps) :
    ArePieces depth (ps.modifyHead (c :: ·)) := by
  match ps, hps with
  | [p], hp => exact ⟨h, hp⟩
  | p :: q :: ps, ⟨hp, hclosed, hps⟩ => exact ⟨⟨h, hp⟩, hclosed, hps⟩

theorem arePieces_clausePieces (depth : Nat) (cs : List Char) :
    ArePieces depth (clausePieces depth cs) := by
  induction cs generalizing depth with
  | nil => exact trivial
  | cons c cs ih =>
    by_cases h : c = ',' ∧ depth = 0
    · rw [clausePieces, if_pos h, arePieces_cons (clausePieces_ne_nil 0 cs)]
      exact ⟨trivial, h.2, ih 0⟩
    · rw [clausePieces_cons h]
      exact arePieces_modifyHead h (ih _)

/-- **Joining the pieces gives the text back.** -/
theorem intercalate_clausePieces (depth : Nat) (cs : List Char) :
    [','].intercalate (clausePieces depth cs) = cs := by
  induction cs generalizing depth with
  | nil => rfl
  | cons c cs ih =>
    by_cases h : c = ',' ∧ depth = 0
    · rw [clausePieces, if_pos h, h.1,
        List.intercalate_cons_of_ne_nil (clausePieces_ne_nil 0 cs), ih]
      rfl
    · have hrest := ih (depthStep depth c)
      rw [clausePieces_cons h]
      cases hpieces : clausePieces (depthStep depth c) cs with
      | nil => exact absurd hpieces (clausePieces_ne_nil _ cs)
      | cons p ps =>
        rw [hpieces] at hrest
        rw [List.modifyHead_cons]
        cases ps with
        | nil =>
          rw [List.intercalate_singleton] at hrest ⊢
          rw [hrest]
        | cons q ps =>
          rw [List.intercalate_cons_cons] at hrest ⊢
          rw [← hrest]
          rfl

/-- **The pieces of a text are the only ones** that joined are the text. -/
theorem clausePieces_eq_iff {depth : Nat} {cs : List Char} {ps : List (List Char)} :
    clausePieces depth cs = ps ↔ ArePieces depth ps ∧ [','].intercalate ps = cs := by
  constructor
  · rintro rfl
    exact ⟨arePieces_clausePieces depth cs, intercalate_clausePieces depth cs⟩
  · rintro ⟨hps, rfl⟩
    induction ps generalizing depth with
    | nil => exact hps.elim
    | cons p ps ih =>
      by_cases hne : ps = []
      · rw [hne] at hps ⊢
        rw [List.intercalate_singleton]
        exact clausePieces_of_noOuterComma hps
      · obtain ⟨hp, hclosed, hrest⟩ := (arePieces_cons hne).mp hps
        rw [List.intercalate_cons_of_ne_nil hne, List.append_assoc, List.singleton_append,
          clausePieces_append_comma hp hclosed, ih hrest]

/-! ## How clauses are laid out -/

/-- **Clauses laid out as pieces**: each with blanks around it, and blank pieces anywhere. -/
inductive IsLaidOut : List String → List String → Prop where
  | nil : IsLaidOut [] []
  | blank {p : String} {ts ps : List String} : isBlankText p = true → IsLaidOut ts ps →
    IsLaidOut ts (p :: ps)
  | clause {before t after : String} {ts ps : List String} : isBlankText before = true →
    isBlankText after = true → IsLaidOut ts ps →
    IsLaidOut (t :: ts) ((before ++ t ++ after) :: ps)

/-- **Texts that occur one behind the other** in a text. -/
inductive OccurInTurn : List String → List Char → Prop where
  | nil {cs : List Char} : OccurInTurn [] cs
  | cons {t : String} {ts : List String} {before after : List Char} : OccurInTurn ts after →
    OccurInTurn (t :: ts) (before ++ (t.toList ++ after))

/-- **A text that is left of another when that is trimmed**, and not empty. -/
def IsTrimmed (t : String) : Prop := t.toList ≠ [] ∧ trim t.toList = t.toList

theorem IsLastClause.isTrimmed {t : String} (h : IsLastClause t) : IsTrimmed t :=
  ⟨h.ne_empty, h.trimmed⟩

theorem isBlankText_iff_forall {p : String} :
    isBlankText p = true ↔ ∀ c ∈ p.toList, isBlank c = true := by
  rw [isBlankText, List.all_eq_true]

/-- **What is left of pieces**: the trimmed texts of those that are not blank. -/
def clausesOf (ps : List String) : List String :=
  ((ps.map fun p => trim p.toList).filter fun p => !p.isEmpty).map String.ofList

theorem splitClauses_eq (rule : String) :
    splitClauses rule = clausesOf ((clausePieces 0 rule.toList).map String.ofList) := by
  unfold splitClauses clausesOf
  simp [Function.comp_def]

theorem clausesOf_cons_blank {p : String} (h : isBlankText p = true) (ps : List String) :
    clausesOf (p :: ps) = clausesOf ps := by
  unfold clausesOf
  simp [trim_eq_nil_iff.mpr (isBlankText_iff_forall.mp h)]

theorem clausesOf_cons {p : String} (h : trim p.toList ≠ []) (ps : List String) :
    clausesOf (p :: ps) = String.ofList (trim p.toList) :: clausesOf ps := by
  unfold clausesOf
  simp [h]

/-- Pieces are laid out from what is left of them. -/
theorem isLaidOut_clausesOf (ps : List String) : IsLaidOut (clausesOf ps) ps := by
  induction ps with
  | nil => exact .nil
  | cons p ps ih =>
    by_cases h : trim p.toList = []
    · have hblank := isBlankText_iff_forall.mpr (trim_eq_nil_iff.mp h)
      rw [clausesOf_cons_blank hblank]
      exact .blank hblank ih
    · obtain ⟨before, after, hbefore, hafter, hp⟩ := exists_eq_append_trim p.toList
      have hpiece : p = String.ofList before ++ String.ofList (trim p.toList)
          ++ String.ofList after := by
        rw [← String.ofList_append, ← String.ofList_append, ← hp, String.ofList_toList]
      rw [clausesOf_cons h]
      conv => rhs; rw [hpiece]
      exact .clause (by simpa [isBlankText_iff_forall] using hbefore)
        (by simpa [isBlankText_iff_forall] using hafter) ih

/-- **Of clauses laid out as pieces the clauses are left.** -/
theorem IsLaidOut.clausesOf_eq {ts ps : List String} (h : IsLaidOut ts ps)
    (htrimmed : ∀ t ∈ ts, IsTrimmed t) : clausesOf ps = ts := by
  induction h with
  | nil => rfl
  | blank hp _ ih => rw [clausesOf_cons_blank hp, ih htrimmed]
  | @clause before t after ts ps hbefore hafter _ ih =>
    rw [List.forall_mem_cons] at htrimmed
    have htrim : trim (before ++ t ++ after).toList = t.toList := by
      rw [String.toList_append, String.toList_append,
        trim_append_right (isBlankText_iff_forall.mp hafter),
        trim_append_left (isBlankText_iff_forall.mp hbefore), htrimmed.1.2]
    rw [clausesOf_cons (by rw [htrim]; exact htrimmed.1.1), htrim, String.ofList_toList,
      ih htrimmed.2]

theorem isTrimmed_of_mem_clausesOf {ps : List String} {t : String} (h : t ∈ clausesOf ps) :
    IsTrimmed t := by
  obtain ⟨cs, hcs, rfl⟩ := List.mem_map.mp h
  obtain ⟨hmem, hne⟩ := List.mem_filter.mp hcs
  obtain ⟨p, -, rfl⟩ := List.mem_map.mp hmem
  unfold IsTrimmed
  rw [String.toList_ofList]
  exact ⟨by simpa using hne, trim_trim p.toList⟩

theorem OccurInTurn.append_left {ts : List String} {cs : List Char} (h : OccurInTurn ts cs)
    (before : List Char) : OccurInTurn ts (before ++ cs) := by
  cases h with
  | nil => exact .nil
  | cons h =>
    rw [← List.append_assoc]
    exact .cons h

/-- **Clauses occur in the order in which they are laid out.** -/
theorem IsLaidOut.occurInTurn {ts ps : List String} (h : IsLaidOut ts ps) :
    OccurInTurn ts (join "," ps).toList := by
  -- what stands behind a piece begins with a comma, or is not there
  have hcons : ∀ (p : String) (ps : List String), ∃ comma,
      (join "," (p :: ps)).toList = p.toList ++ (comma ++ (join "," ps).toList) := by
    intro p ps
    by_cases hps : ps = []
    · exact ⟨[], by rw [hps, join_singleton]; simp [join]⟩
    · exact ⟨[','], by rw [join_cons _ _ hps]; simp⟩
  induction h with
  | nil => exact .nil
  | @blank p ts ps _ _ ih =>
    obtain ⟨comma, hjoin⟩ := hcons p ps
    rw [hjoin]
    exact (ih.append_left comma).append_left p.toList
  | @clause before t after ts ps _ _ _ ih =>
    obtain ⟨comma, hjoin⟩ := hcons (before ++ t ++ after) ps
    rw [hjoin, String.toList_append, String.toList_append, List.append_assoc, List.append_assoc]
    exact .cons ((ih.append_left comma).append_left after.toList)

theorem toList_join (ps : List String) :
    (join "," ps).toList = [','].intercalate (ps.map String.toList) :=
  String.toList_intercalate

/-- **What a rule is split into**, told without splitting it: texts without blanks at their
ends, laid out as the pieces of the rule. -/
theorem splitClauses_eq_iff {rule : String} {ts : List String} :
    splitClauses rule = ts
      ↔ (∀ t ∈ ts, IsTrimmed t) ∧ ∃ ps, rule = join "," ps
          ∧ ArePieces 0 (ps.map String.toList) ∧ IsLaidOut ts ps := by
  rw [splitClauses_eq]
  constructor
  · rintro rfl
    have hpieces : ((clausePieces 0 rule.toList).map String.ofList).map String.toList
        = clausePieces 0 rule.toList := by
      simp [Function.comp_def]
    refine ⟨fun t => isTrimmed_of_mem_clausesOf, _, ?_, ?_, isLaidOut_clausesOf _⟩
    · rw [← String.toList_inj, toList_join, hpieces, intercalate_clausePieces]
    · rw [hpieces]
      exact arePieces_clausePieces 0 rule.toList
  · rintro ⟨htrimmed, ps, rfl, hps, hlaid⟩
    have hpieces : (clausePieces 0 (join "," ps).toList).map String.ofList = ps := by
      rw [clausePieces_eq_iff.mpr ⟨hps, (toList_join ps).symm⟩]
      simp [Function.comp_def]
    rw [hpieces, hlaid.clausesOf_eq htrimmed]

/-- Blanks are no part of what keeps clauses apart. -/
theorem noOuterComma_of_isBlankText {p : String} (h : isBlankText p = true) :
    NoOuterComma 0 p.toList ∧ depthAfter 0 p.toList = 0 := by
  have hnot : ∀ d, isBlank d = false → d ∉ p.toList := fun d hd hmem =>
    Bool.noConfusion ((isBlankText_iff_forall.mp h d hmem).symm.trans hd)
  exact ⟨noOuterComma_of_notMem (hnot ',' rfl) 0, depthAfter_eq (hnot '(' rfl) (hnot ')' rfl) 0⟩

/-- **Clauses are laid out as pieces** of what is joined from these. -/
theorem IsLaidOut.arePieces {ts ps : List String} (h : IsLaidOut ts ps)
    (hclause : ∀ t ∈ ts, IsClause t) (hne : ps ≠ []) : ArePieces 0 (ps.map String.toList) := by
  have hall : ∀ p ∈ ps, NoOuterComma 0 p.toList ∧ depthAfter 0 p.toList = 0 := by
    clear hne
    induction h with
    | nil => exact fun p hp => absurd hp List.not_mem_nil
    | blank hp _ ih => exact List.forall_mem_cons.mpr ⟨noOuterComma_of_isBlankText hp, ih hclause⟩
    | clause hbefore hafter _ ih =>
      rw [List.forall_mem_cons] at hclause
      refine List.forall_mem_cons.mpr ⟨?_, ih hclause.2⟩
      obtain ⟨hbefore, hlevel⟩ := noOuterComma_of_isBlankText hbefore
      obtain ⟨hafter, hend⟩ := noOuterComma_of_isBlankText hafter
      rw [String.toList_append, String.toList_append, noOuterComma_append, noOuterComma_append]
      simp only [depthAfter_append, hlevel, hclause.1.closed]
      exact ⟨⟨⟨hbefore, hclause.1.noOuterComma⟩, hafter⟩, hend⟩
  obtain ⟨init, p, rfl⟩ := (List.eq_nil_or_concat' ps).resolve_left hne
  rw [List.forall_mem_append, List.forall_mem_singleton] at hall
  rw [List.map_append]
  exact arePieces_concat (List.forall_mem_map.mpr hall.1) hall.2.1

/-- Clauses without anything around them are laid out as themselves. -/
theorem isLaidOut_self (ts : List String) : IsLaidOut ts ts := by
  induction ts with
  | nil => exact .nil
  | cons t ts ih =>
    have hclause : IsLaidOut (t :: ts) (("" ++ t ++ "") :: ts) := .clause rfl rfl ih
    rwa [String.empty_append, String.append_empty] at hclause

/-- **Splitting undoes joining** clauses, whatever the last one leaves open. -/
theorem splitClauses_join_concat {ts : List String} {t : String}
    (h : ∀ u ∈ ts, IsClause u) (ht : IsLastClause t) :
    splitClauses (join "," (ts ++ [t])) = ts ++ [t] := by
  have htrimmed : ∀ u ∈ ts ++ [t], IsTrimmed u := by
    rw [List.forall_mem_append, List.forall_mem_singleton]
    exact ⟨fun u hu => (h u hu).isLastClause.isTrimmed, ht.isTrimmed⟩
  have hpieces : ArePieces 0 ((ts ++ [t]).map String.toList) := by
    rw [List.map_append]
    exact arePieces_concat
      (List.forall_mem_map.mpr fun u hu => ⟨(h u hu).noOuterComma, (h u hu).closed⟩)
      ht.noOuterComma
  exact splitClauses_eq_iff.mpr ⟨htrimmed, ts ++ [t], rfl, hpieces, isLaidOut_self _⟩

/-- **Splitting undoes joining** clauses. -/
theorem splitClauses_join {ts : List String} (h : ∀ t ∈ ts, IsClause t) :
    splitClauses (join "," ts) = ts := by
  rcases List.eq_nil_or_concat' ts with rfl | ⟨init, t, rfl⟩
  · rfl
  · rw [List.forall_mem_append, List.forall_mem_singleton] at h
    exact splitClauses_join_concat h.1 h.2.isLastClause

/-! ## Splitting by bytes -/

/-- The characters of a text, each with the place in bytes where it begins. -/
def charPlaces (place : Nat) : List Char → List (Nat × Char)
  | [] => []
  | c :: rest => (place, c) :: charPlaces (place + c.utf8Size) rest

/-- **How far a scan of a rule has come.** -/
structure ClauseScan where
  /-- The pieces that have ended. -/
  ended : List String
  /-- How deep in parentheses it is. -/
  depth : Nat
  /-- The place where the present piece begins. -/
  start : Nat

/-- **A scan goes on by a character.** It fails where a piece cannot be cut out. -/
def ClauseScan.step (rule : String) (scan : ClauseScan) : Nat × Char → Option ClauseScan
  | (place, c) =>
    if c = ',' ∧ scan.depth = 0 then
      (slice? rule scan.start place).map fun piece => ⟨scan.ended ++ [piece], 0, place + 1⟩
    else some { scan with depth := depthStep scan.depth c }

/-- The pieces of a scan that has come to the end of its rule. -/
def ClauseScan.finish? (rule : String) (scan : ClauseScan) : Option (List String) :=
  (slice? rule scan.start (utf8 rule).length).map fun piece => scan.ended ++ [piece]

/-- **The clauses of a rule cut out of its bytes**, if every piece can be. -/
def slicedClauses? (rule : String) : Option (List String) :=
  (((charPlaces 0 rule.toList).foldlM (ClauseScan.step rule) ⟨[], 0, 0⟩).bind
    (ClauseScan.finish? rule)).map clausesOf

/-- **What a scan comes to from anywhere in a rule.** Behind what it has passed, the pieces are
those that have ended and those of the rest, with what was passed of the present one before
the first of these. -/
theorem foldlM_step {rule : String} {past present rest : List Char}
    (h : rule.toList = past ++ (present ++ rest)) (ended : List String) (depth : Nat) :
    ((charPlaces (byteCount (past ++ present)) rest).foldlM (ClauseScan.step rule)
        ⟨ended, depth, byteCount past⟩).bind (ClauseScan.finish? rule)
      = some (ended ++ ((clausePieces depth rest).modifyHead (present ++ ·)).map
          String.ofList) := by
  induction rest generalizing past present ended depth with
  | nil =>
    have hlast : slice? rule (byteCount past) (utf8 rule).length
        = some (String.ofList present) := by
      rw [length_utf8, h, List.append_nil]
      exact slice?_append past present [] h
    show ClauseScan.finish? rule ⟨ended, depth, byteCount past⟩ = _
    rw [ClauseScan.finish?, hlast, clausePieces, List.modifyHead_cons, List.append_nil]
    rfl
  | cons c rest ih =>
    rw [charPlaces, List.foldlM_cons]
    by_cases hc : c = ',' ∧ depth = 0
    · -- the present piece ends, and the next one begins one byte behind it
      obtain ⟨rfl, rfl⟩ := hc
      have hrest : rule.toList = (past ++ present ++ [',']) ++ ([] ++ rest) := by
        rw [h]
        simp
      have hstep : ClauseScan.step rule ⟨ended, 0, byteCount past⟩
          (byteCount (past ++ present), ',')
          = some ⟨ended ++ [String.ofList present], 0, byteCount (past ++ present ++ [','])⟩ := by
        rw [ClauseScan.step, if_pos ⟨rfl, rfl⟩, slice?_append past present (',' :: rest) h,
          byteCount_concat]
        rfl
      have hplace : byteCount (past ++ present) + ','.utf8Size
          = byteCount (past ++ present ++ [','] ++ []) := by
        rw [List.append_nil, byteCount_concat]
      rw [hstep, hplace]
      refine (ih hrest _ 0).trans ?_
      show some (_ ++ ((clausePieces 0 rest).modifyHead id).map String.ofList) = _
      rw [List.modifyHead_id, id, clausePieces, if_pos ⟨rfl, rfl⟩, List.modifyHead_cons,
        List.append_nil, List.append_assoc]
      rfl
    · have hrest : rule.toList = past ++ ((present ++ [c]) ++ rest) := by
        rw [h]
        simp
      have hstep : ClauseScan.step rule ⟨ended, depth, byteCount past⟩
          (byteCount (past ++ present), c)
          = some ⟨ended, depthStep depth c, byteCount past⟩ := by
        rw [ClauseScan.step, if_neg hc]
      have hplace : byteCount (past ++ present) + c.utf8Size
          = byteCount (past ++ (present ++ [c])) := by
        rw [← List.append_assoc, byteCount_concat]
      rw [hstep, hplace]
      refine (ih hrest ended _).trans ?_
      rw [clausePieces_cons hc, List.modifyHead_modifyHead]
      simp [Function.comp_def]

/-- **Cut out of its bytes, a rule is split the same way**, and every piece can be cut out. -/
theorem slicedClauses?_eq (rule : String) : slicedClauses? rule = some (splitClauses rule) := by
  have hscan := foldlM_step (show rule.toList = [] ++ ([] ++ rule.toList) from rfl) [] 0
  have hpieces : (clausePieces 0 rule.toList).modifyHead ([] ++ ·)
      = clausePieces 0 rule.toList := by
    show (clausePieces 0 rule.toList).modifyHead id = _
    rw [List.modifyHead_id, id]
  rw [hpieces] at hscan
  rw [splitClauses_eq]
  exact congrArg (Option.map clausesOf) hscan

/-! ## Splitting and joining -/

/-- **Splitting undoes joining**, and nothing else is lost. Clauses laid out between commas in
any way, with blanks around them and blank pieces among them, are split into these clauses.
Of any rule whatever the clauses are neither empty nor blank at their ends, and they occur in
it one behind the other; they are told by the pieces that joined are the rule. The places in
bytes at which a rule is cut are never inside a character. -/
theorem clauses_of_layout :
    (∀ ts ps, (∀ t ∈ ts, IsClause t) → IsLaidOut ts ps → splitClauses (join "," ps) = ts)
    ∧ (∀ rule, (∀ t ∈ splitClauses rule, IsTrimmed t)
      ∧ OccurInTurn (splitClauses rule) rule.toList)
    ∧ (∀ rule ts, splitClauses rule = ts
      ↔ (∀ t ∈ ts, IsTrimmed t) ∧ ∃ ps, rule = join "," ps
          ∧ ArePieces 0 (ps.map String.toList) ∧ IsLaidOut ts ps)
    ∧ ∀ rule, slicedClauses? rule = some (splitClauses rule) := by
  refine ⟨fun ts ps hclause hlaid => ?_, fun rule => ?_, fun _ _ => splitClauses_eq_iff,
    slicedClauses?_eq⟩
  · by_cases hps : ps = []
    · subst hps
      cases hlaid
      rfl
    · exact splitClauses_eq_iff.mpr ⟨fun t ht => (hclause t ht).isLastClause.isTrimmed, ps, rfl,
        hlaid.arePieces hclause hps, hlaid⟩
  · obtain ⟨htrimmed, ps, hrule, -, hlaid⟩ := splitClauses_eq_iff.mp (Eq.refl (splitClauses rule))
    refine ⟨htrimmed, ?_⟩
    conv => rhs; rw [hrule]
    exact hlaid.occurInTurn

/-- Clauses with a closing parenthesis too many and with a comma in parentheses, next to wide
characters, between blanks of several kinds and blank pieces. -/
theorem clauses_of_layout_with_wide_characters :
    let ts := ["é)", "in(ß,€)", "required"]
    let ps := ["", " " ++ "é)" ++ "\t", "\u2003", "" ++ "in(ß,€)" ++ "",
      "\u3000" ++ "required" ++ "\n", " "]
    (∀ t ∈ ts, IsClause t) ∧ IsLaidOut ts ps ∧ splitClauses (join "," ps) = ts
      ∧ slicedClauses? (join "," ps) = some ts := by
  intro ts ps
  have hclause : ∀ t ∈ ts, IsClause t := by decide
  have hlaid : IsLaidOut ts ps :=
    .blank rfl (.clause rfl rfl (.blank rfl (.clause rfl rfl (.clause rfl rfl
      (.blank rfl .nil)))))
  obtain ⟨hsplit, -, -, hsliced⟩ := clauses_of_layout
  have hts := hsplit ts ps hclause hlaid
  exact ⟨hclause, hlaid, hts, (hsliced _).trans (congrArg some hts)⟩

end Switchboard
