import Mathlib.Data.List.Basic
import Mathlib.Data.List.Infix
import Switchboard.Dispatch.Code

/-!
# The text of code

What code is written as depends on nothing but the depth it is written at
(`toList_writeAll`), so the text can be spoken of without an output: a line is its
blanks, its text and a line break, and a block stands between two lines.

When can such a text be taken apart again? A way of writing is **legible** when a
text that starts with what something was written as starts so in one way only:
what was written can be told, and so can where it ends (`Legible`). What is
legible may be put in a row, as long as the row can be seen to end
(`Legible.flatMap`, `Legible.spaced`); the lines of a block are indented, so they
end where the block closes (`replicate_append_ne`).
-/

namespace Switchboard.Dispatch

/-! ## Characters of code -/

/-- The characters of a line at a depth. -/
def lineChars (depth : Nat) (text : String) : List Char :=
  List.replicate (4 * depth) ' ' ++ text.toList ++ ['\n']

namespace Code

mutual

/-- **The characters of code** at a depth. -/
def chars (depth : Nat) : Code → List Char
  | .line text => lineChars depth text
  | .blank => ['\n']
  | .block opening inside closing =>
    lineChars depth opening ++ charsAll (depth + 1) inside ++ lineChars depth closing

/-- The characters of pieces of code one after the other. -/
def charsAll (depth : Nat) : List Code → List Char
  | [] => []
  | c :: rest => c.chars depth ++ charsAll depth rest

end

@[simp]
theorem charsAll_append (depth : Nat) (cs ds : List Code) :
    charsAll depth (cs ++ ds) = charsAll depth cs ++ charsAll depth ds := by
  induction cs with
  | nil => rfl
  | cons c cs ih => rw [List.cons_append, charsAll, ih, charsAll, List.append_assoc]

/-- Pieces of code made from the members of a list are written one by one. -/
theorem charsAll_map {α : Type} (depth : Nat) (f : α → Code) (as : List α) :
    charsAll depth (as.map f) = as.flatMap fun a => (f a).chars depth := by
  induction as with
  | nil => rfl
  | cons a as ih => rw [List.map_cons, charsAll, ih, List.flatMap_cons]

theorem charsAll_flatMap {α : Type} (depth : Nat) (f : α → List Code) (as : List α) :
    charsAll depth (as.flatMap f) = as.flatMap fun a => charsAll depth (f a) := by
  induction as with
  | nil => rfl
  | cons a as ih =>
    rw [List.flatMap_cons, charsAll_append, ih, List.flatMap_cons]

end Code

namespace Output

theorem toList_line (o : Output) (text : String) :
    (o.line text).text.toList = o.text.toList ++ lineChars o.depth text := by
  simp [line, indentation, lineChars]

mutual

/-- **Code is written behind what has been written**, at the depth it is written
at. -/
theorem toList_write (o : Output) (c : Code) :
    (o.write c).text.toList = o.text.toList ++ c.chars o.depth := by
  cases c with
  | line text => rw [write, toList_line, Code.chars]
  | blank => simp [write, blank, Code.chars]
  | block opening inside closing =>
    have hinside := toList_writeAll (o.line opening).deeper inside
    have hdepth : ((o.line opening).deeper.writeAll inside).higher.depth = o.depth := by
      simp [higher, deeper, line]
    rw [write, toList_line, hdepth]
    show ((o.line opening).deeper.writeAll inside).text.toList ++ _ = _
    rw [hinside, Code.chars]
    show (o.line opening).text.toList ++ _ ++ _ = _
    rw [toList_line]
    simp [deeper, line]

theorem toList_writeAll (o : Output) (cs : List Code) :
    (o.writeAll cs).text.toList = o.text.toList ++ Code.charsAll o.depth cs := by
  cases cs with
  | nil => simp [writeAll, Code.charsAll]
  | cons c rest =>
    rw [writeAll, toList_writeAll, toList_write, depth_write, Code.charsAll,
      List.append_assoc]

end

end Output

/-! ## Texts next to each other -/

/-- A text up to the first of a character can be told. -/
theorem append_cons_inj {c : Char} {p q r s : List Char} (hp : c ∉ p) (hq : c ∉ q)
    (h : p ++ c :: r = q ++ c :: s) : p = q ∧ r = s := by
  induction p generalizing q with
  | nil =>
    cases q with
    | nil => exact ⟨rfl, (List.cons.inj h).2⟩
    | cons d q => exact absurd ((List.cons.inj h).1 ▸ List.mem_cons_self) hq
  | cons d p ih =>
    cases q with
    | nil => exact absurd ((List.cons.inj h).1 ▸ List.mem_cons_self) hp
    | cons e q =>
      obtain ⟨rfl, htail⟩ := List.cons.inj h
      obtain ⟨rfl, hrest⟩ := ih (fun hc => hp (List.mem_cons_of_mem d hc))
        (fun hc => hq (List.mem_cons_of_mem d hc)) htail
      exact ⟨rfl, hrest⟩

/-- **What stands before a fixed text** can be told when it does not hold the first
character of that. -/
theorem append_fixed_inj {c : Char} {p q w r s : List Char} (hw : w.head? = some c)
    (hp : c ∉ p) (hq : c ∉ q) (h : p ++ (w ++ r) = q ++ (w ++ s)) : p = q ∧ r = s := by
  obtain ⟨w, rfl⟩ := List.head?_eq_some_iff.mp hw
  obtain ⟨hpq, hrest⟩ := append_cons_inj hp hq h
  exact ⟨hpq, List.append_cancel_left hrest⟩

/-- Texts that differ before either ends differ whatever follows them. -/
theorem append_ne_append {p q : List Char} (h : ¬p <+: q ∧ ¬q <+: p)
    (r s : List Char) : p ++ r ≠ q ++ s := by
  intro heq
  have hp : p <+: q ++ s := heq ▸ List.prefix_append p r
  rcases List.prefix_or_prefix_of_prefix hp (List.prefix_append q s) with hpq | hqp
  · exact h.1 hpq
  · exact h.2 hqp

/-- A text that starts with a character is not one with the first of it behind
another. -/
theorem append_cons_ne {c d : Char} (hcd : d ≠ c) {p : List Char} (hp : c ∉ p)
    (x y : List Char) : p ++ d :: x ≠ c :: y := by
  cases p with
  | nil => exact fun h => hcd (List.cons.inj h).1
  | cons e p => exact fun h => hp ((List.cons.inj h).1 ▸ List.mem_cons_self)

/-- A deeper line is not one that starts with something else than a blank. -/
theorem replicate_append_ne {m n : Nat} (h : n < m) {q : List Char}
    (hq : q.head?.any (· != ' ') = true) (x y : List Char) :
    List.replicate m ' ' ++ x ≠ List.replicate n ' ' ++ (q ++ y) := by
  intro heq
  obtain ⟨k, rfl⟩ : ∃ k, m = n + (k + 1) := ⟨m - n - 1, by omega⟩
  rw [List.replicate_add, List.append_assoc] at heq
  cases q with
  | nil => exact Bool.noConfusion hq
  | cons c q =>
    have hc : ' ' = c := (List.cons.inj (List.append_cancel_left heq)).1
    rw [← hc] at hq
    exact Bool.noConfusion hq

/-! ## Legible writing -/

variable {α β γ δ : Type}

/-- **Legible writing** of what has a property: of a text that starts with what
something was written as, a view of that and the rest can be told. -/
def Legible (P : α → Prop) (write : α → List Char) (view : α → β) : Prop :=
  ∀ ⦃a b⦄, P a → P b → ∀ ⦃r s⦄, write a ++ r = write b ++ s → view a = view b ∧ r = s

/-- **A text that a row ends before**: it starts with nothing of what is written. -/
def Ends (P : α → Prop) (write : α → List Char) (r : List Char) : Prop :=
  ∀ a, P a → ∀ t, write a ++ t ≠ r

/-- **What is legible may be put in a row** that can be seen to end. -/
theorem Legible.flatMap {P : α → Prop} {write : α → List Char} {view : α → β}
    (h : Legible P write view) {as bs : List α} (has : ∀ a ∈ as, P a)
    (hbs : ∀ b ∈ bs, P b) {r s : List Char} (hr : Ends P write r)
    (hs : Ends P write s) (heq : as.flatMap write ++ r = bs.flatMap write ++ s) :
    as.map view = bs.map view ∧ r = s := by
  induction as generalizing bs with
  | nil =>
    cases bs with
    | nil => exact ⟨rfl, heq⟩
    | cons b bs =>
      rw [List.flatMap_nil, List.nil_append, List.flatMap_cons,
        List.append_assoc] at heq
      exact absurd heq.symm (hr b (hbs b List.mem_cons_self) _)
  | cons a as ih =>
    rw [List.flatMap_cons, List.append_assoc] at heq
    cases bs with
    | nil => exact absurd heq (hs a (has a List.mem_cons_self) _)
    | cons b bs =>
      rw [List.forall_mem_cons] at has hbs
      rw [List.flatMap_cons, List.append_assoc] at heq
      obtain ⟨hview, heq⟩ := h has.1 hbs.1 heq
      obtain ⟨hviews, hrest⟩ := ih has.2 hbs.2 heq
      exact ⟨by rw [List.map_cons, List.map_cons, hview, hviews], hrest⟩

/-- **Finitely many texts can be told apart** when none of them starts another. -/
theorem Legible.of_apart {write : α → List Char} {view : α → β} (text : β → List Char)
    (hwrite : ∀ a, write a = text (view a))
    (htext : ∀ x y, x ≠ y → ¬text x <+: text y) :
    Legible (fun _ => True) write view := by
  intro a b _ _ r s h
  rw [hwrite, hwrite] at h
  by_cases hab : view a = view b
  · rw [hab] at h
    exact ⟨hab, List.append_cancel_left h⟩
  · exact absurd h (append_ne_append ⟨htext _ _ hab, htext _ _ (Ne.symm hab)⟩ r s)

/-- The characters of pieces of code with an empty line between them. -/
theorem charsAll_spaced_cons (depth : Nat) (f : α → Code) (a : α) (as : List α) :
    Code.charsAll depth (spaced ((a :: as).map f))
      = (f a).chars depth ++ as.flatMap fun a => '\n' :: (f a).chars depth := by
  induction as generalizing a with
  | nil => rfl
  | cons b as ih =>
    have hspaced : spaced ((a :: b :: as).map f)
        = f a :: .blank :: spaced ((b :: as).map f) := rfl
    rw [hspaced, Code.charsAll, Code.charsAll, ih, List.flatMap_cons, Code.chars]
    rfl

/-- **What is legible may be put in a row with an empty line between**, when the
row can be seen to end. -/
theorem Legible.spaced {P : α → Prop} {f : α → Code} {view : α → β} {depth : Nat}
    (h : Legible P (fun a => (f a).chars depth) view) {as bs : List α}
    (has : ∀ a ∈ as, P a) (hbs : ∀ b ∈ bs, P b) {r s : List Char}
    (hr : Ends P (fun a => (f a).chars depth) r) (hrblank : r.head? ≠ some '\n')
    (hs : Ends P (fun a => (f a).chars depth) s) (hsblank : s.head? ≠ some '\n')
    (heq : Code.charsAll depth (Dispatch.spaced (as.map f)) ++ r
      = Code.charsAll depth (Dispatch.spaced (bs.map f)) ++ s) :
    as.map view = bs.map view ∧ r = s := by
  have hnext : Legible P (fun a => '\n' :: (f a).chars depth) view :=
    fun a b ha hb r s heq => h ha hb (List.cons.inj heq).2
  have hends : ∀ {t : List Char}, t.head? ≠ some '\n' →
      Ends P (fun a => '\n' :: (f a).chars depth) t := by
    rintro t ht a _ x rfl
    exact ht rfl
  cases as with
  | nil =>
    cases bs with
    | nil => exact ⟨rfl, heq⟩
    | cons b bs =>
      rw [charsAll_spaced_cons, List.append_assoc] at heq
      exact absurd heq.symm (hr b (hbs b List.mem_cons_self) _)
  | cons a as =>
    rw [charsAll_spaced_cons, List.append_assoc] at heq
    cases bs with
    | nil => exact absurd heq (hs a (has a List.mem_cons_self) _)
    | cons b bs =>
      rw [List.forall_mem_cons] at has hbs
      rw [charsAll_spaced_cons, List.append_assoc] at heq
      obtain ⟨hview, heq⟩ := h has.1 hbs.1 heq
      obtain ⟨hviews, hrest⟩ :=
        hnext.flatMap has.2 hbs.2 (hends hrblank) (hends hsblank) heq
      exact ⟨by rw [List.map_cons, List.map_cons, hview, hviews], hrest⟩

/-- What two views show of lists shows what a view that depends on both does. -/
theorem map_eq_map_of_views {f : α → β} {g : α → γ} {v : α → δ} {as bs : List α}
    (hv : ∀ a b, f a = f b → g a = g b → v a = v b) (hf : as.map f = bs.map f)
    (hg : as.map g = bs.map g) : as.map v = bs.map v := by
  induction as generalizing bs with
  | nil =>
    rw [List.map_eq_nil_iff.mp hf.symm]
  | cons a as ih =>
    cases bs with
    | nil => exact nomatch hf
    | cons b bs =>
      obtain ⟨hfa, hf⟩ := List.cons.inj hf
      obtain ⟨hga, hg⟩ := List.cons.inj hg
      rw [List.map_cons, List.map_cons, hv a b hfa hga, ih hf hg]

end Switchboard.Dispatch
