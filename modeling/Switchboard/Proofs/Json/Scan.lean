import Switchboard.Json.Scan
import Switchboard.Proofs.Success
import Switchboard.Proofs.Text.Decimal

/-!
# Reading the leaves of a JSON text back

A string is read unit by unit: behind each unit it goes on with what the unit stands
for (`readString_unit`).

The end of a number is seen by what follows it, so a number is read back where
nothing follows that it could go on with (`Ends`). It is an integer as long as it
fits 64 bits (`readNumber_toDigits`, `readNumber_minus_toDigits`).
-/

namespace Switchboard.Json

/-! ## Strings -/

theorem isHighSurrogate_iff {n : Nat} : isHighSurrogate n = true ↔ 0xd800 ≤ n ∧ n ≤ 0xdbff := by
  rw [isHighSurrogate, Bool.and_eq_true, decide_eq_true_iff, decide_eq_true_iff]

theorem isLowSurrogate_iff {n : Nat} : isLowSurrogate n = true ↔ 0xdc00 ≤ n ∧ n ≤ 0xdfff := by
  rw [isLowSurrogate, Bool.and_eq_true, decide_eq_true_iff, decide_eq_true_iff]

/-- A character that needs no escape is a unit of its own. -/
theorem stringUnit_of_plain (full : Bool) {c : Char} (hquote : c ≠ '"')
    (hbackslash : c ≠ '\\') (hcontrol : ¬c.toNat < 32) (rest : List Char) :
    stringUnit full (c :: rest) = .ok (.text 1 [c]) := by
  rw [stringUnit, if_neg hcontrol]
  · exact hquote
  · exact fun h _ => hbackslash h
  · exact fun _ h _ => hbackslash h
  · exact fun _ _ h _ => hbackslash h

/-- The characters of a unit that has been read are passed over. -/
theorem readString_skip (full : Bool) (text cs rest : List Char) :
    readString full cs.length text (cs ++ rest) = readString full 0 text rest := by
  induction cs with
  | nil => rfl
  | cons c cs ih => rw [List.length_cons, List.cons_append, readString, ih]

/-- **A string goes on behind each unit** with what the unit stands for. -/
theorem readString_unit {full : Bool} {unit t rest : List Char} (hne : unit ≠ [])
    (hunit : stringUnit full (unit ++ rest) = .ok (.text unit.length t)) (text : List Char) :
    readString full 0 text (unit ++ rest) = readString full 0 (t.reverse ++ text) rest := by
  cases unit with
  | nil => exact absurd rfl hne
  | cons c cs =>
    rw [List.cons_append] at hunit ⊢
    rw [readString, hunit]
    dsimp only
    rw [List.length_cons, Nat.add_sub_cancel, readString_skip]

/-! ## Numbers -/

/-- **A text that no number can go on with**: it starts neither with a digit, nor
with a point or an exponent. -/
def Ends (rest : List Char) : Prop :=
  ∀ c ∈ rest.head?, c.isDigit = false ∧ c ≠ '.' ∧ c ≠ 'e' ∧ c ≠ 'E'

/-- Digits are read up to what is no digit. -/
theorem spanDigits_append {digits rest : List Char}
    (hdigits : ∀ c ∈ digits, c.isDigit = true)
    (hrest : ∀ c ∈ rest.head?, c.isDigit = false) :
    spanDigits (digits ++ rest) = (digits, rest) := by
  have hstop : rest.takeWhile Char.isDigit = [] ∧ rest.dropWhile Char.isDigit = rest := by
    cases rest with
    | nil => exact ⟨rfl, rfl⟩
    | cons c cs =>
      have hc : c.isDigit = false := hrest c rfl
      exact ⟨List.takeWhile_cons_of_neg (by simp [hc]),
        List.dropWhile_cons_of_neg (by simp [hc])⟩
  rw [spanDigits, List.takeWhile_append_of_pos hdigits,
    List.dropWhile_append_of_pos hdigits, hstop.1, hstop.2, List.append_nil]

/-- A number other than zero starts with another digit than zero. -/
theorem head?_toDigits_ne_zero {n : Nat} (h : 0 < n) :
    (Nat.toDigits 10 n).head? ≠ some '0' := by
  induction n using Nat.strongRecOn with
  | ind n ih =>
    by_cases hn : n < 10
    · have hsmall : ∀ k < 10, 0 < k → [Nat.digitChar k].head? ≠ some '0' := by decide
      rw [Nat.toDigits_of_lt_base hn]
      exact hsmall n hn h
    · rw [Nat.toDigits_of_base_le (by decide) (by omega),
        List.head?_append_of_ne_nil _ Nat.toDigits_ne_nil]
      exact ih (n / 10) (by omega) (by omega)

/-- Digits, at least one. -/
def IsDigits (cs : List Char) : Prop := cs ≠ [] ∧ ∀ c ∈ cs, c.isDigit = true

/-- **The integer part of a numeral**: a zero alone, or digits that begin with another
one. -/
def IsWhole (cs : List Char) : Prop := cs = ['0'] ∨ IsDigits cs ∧ cs.head? ≠ some '0'

/-- An integer part is read up to what is no digit. -/
theorem readWhole_append (cut : Cause) {cs rest : List Char} (h : IsWhole cs)
    (hrest : ∀ c ∈ rest.head?, c.isDigit = false) :
    readWhole cut (cs ++ rest) = .ok (cs, rest) := by
  rcases h with rfl | ⟨⟨hne, hdigits⟩, hzero⟩
  · have hstop : rest.head?.any Char.isDigit = false := by
      rw [Option.any_eq_false]
      exact fun c hc => by simp [hrest c hc]
    rw [List.singleton_append, readWhole, hstop]
    rfl
  · have hspan := spanDigits_append hdigits hrest
    obtain ⟨d, ds, rfl⟩ := List.exists_cons_of_ne_nil hne
    rw [List.cons_append] at hspan ⊢
    rw [readWhole, if_pos (hdigits d List.mem_cons_self), hspan]
    exact fun e => hzero (congrArg some e)

/-- The digits of a number are an integer part. -/
theorem isWhole_toDigits (n : Nat) : IsWhole (Nat.toDigits 10 n) := by
  rcases Nat.eq_zero_or_pos n with rfl | hn
  · exact .inl (Nat.toDigits_zero 10)
  · exact .inr ⟨⟨Nat.toDigits_ne_nil, fun c => Text.isDigit_of_mem_toDigits⟩,
      head?_toDigits_ne_zero hn⟩

/-- **A number's digits are a numeral** without fraction and exponent. -/
theorem readNumeral_toDigits (cut : Cause) (n : Nat) {rest : List Char}
    (hrest : Ends rest) :
    readNumeral cut (Nat.toDigits 10 n ++ rest)
      = .ok (⟨Nat.toDigits 10 n, none, none⟩, rest) := by
  rw [readNumeral, bind_eq_ok]
  refine ⟨_, readWhole_append cut (isWhole_toDigits n) fun c hc => (hrest c hc).1, ?_⟩
  cases rest with
  | nil => rfl
  | cons c rest =>
    obtain ⟨-, hpoint, he, hE⟩ := hrest c rfl
    dsimp only
    split
    · next h => exact absurd (List.cons.inj h).1 hpoint
    · dsimp only [Bind.bind, Except.bind, pure, Except.pure]
      split
      · next h => exact absurd (List.cons.inj h).1 he
      · next h => exact absurd (List.cons.inj h).1 hE
      · rfl

/-- Reading digits on makes no number smaller. -/
theorem le_ofDigitChars (ds : List Char) (n : Nat) :
    n ≤ Nat.ofDigitChars 10 ds n := by
  induction ds generalizing n with
  | nil => exact Nat.le_of_eq Nat.ofDigitChars_nil.symm
  | cons d ds ih =>
    rw [Nat.ofDigitChars_cons]
    exact Nat.le_trans (by omega) (ih _)

/-- Digits are taken whole while the number they denote fits 64 bits. -/
theorem significandFrom_eq {ds : List Char} {n : Nat}
    (h : Nat.ofDigitChars 10 ds n < 18446744073709551616) :
    significandFrom n ds = (Nat.ofDigitChars 10 ds n, []) := by
  induction ds generalizing n with
  | nil => rw [significandFrom, Nat.ofDigitChars_nil]
  | cons d ds ih =>
    rw [Nat.ofDigitChars_cons, Nat.mul_comm 10 n] at h ⊢
    rw [significandFrom, if_pos (Nat.lt_of_le_of_lt (le_ofDigitChars ds _) h), ih h]

/-- The value of a number's digits is the number, where it fits. -/
theorem value_toDigits (negative : Bool) {n : Nat} (h : n < 18446744073709551616) :
    Numeral.value negative ⟨Nat.toDigits 10 n, none, none⟩
      = match integerValue negative n with
        | some v => .ok v
        | none => .error 0 := by
  have hsignificand : significandFrom 0 (Nat.toDigits 10 n) = (n, []) := by
    have hn := Nat.ofDigitChars_ten_toDigits (n := n)
    rw [significandFrom_eq (by rw [hn]; exact h), hn]
  rw [Numeral.value, hsignificand]
  rfl

/-- **A number without a sign is read back** where it fits. -/
theorem readNumber_toDigits {n : Nat} (h : n < 18446744073709551616)
    {rest : List Char} (hrest : Ends rest) :
    readNumber false (Nat.toDigits 10 n ++ rest) = .ok (.int n, rest) := by
  rw [readNumber, bind_eq_ok]
  refine ⟨_, readNumeral_toDigits _ n hrest, ?_⟩
  dsimp only
  rw [value_toDigits false h]
  rfl

/-- **A number after a minus sign is read back** where it fits. -/
theorem readNumber_minus_toDigits {n : Nat} (hpos : 0 < n)
    (h : n ≤ 9223372036854775808) {rest : List Char} (hrest : Ends rest) :
    readNumber true (Nat.toDigits 10 n ++ rest) = .ok (.int (-n), rest) := by
  rw [readNumber, bind_eq_ok]
  refine ⟨_, readNumeral_toDigits _ n hrest, ?_⟩
  have hvalue : integerValue true n = some (.int (-n)) := by
    rw [integerValue]
    simp [hpos, h]
  dsimp only
  rw [value_toDigits true (by omega), hvalue]
  rfl

end Switchboard.Json
