import Mathlib.Data.List.Basic
import Switchboard.Text.Decimal

/-!
# Reading a decimal back

The decimal text of an integer reads back as that integer whenever it fits the
width it is read at: with a sign (`int64?_decimal`) and without one
(`uint64?_decimal`). A negative integer is no unsigned one
(`uint64?_decimal_of_neg`). A decimal text holds digits and a leading minus sign
only, so it is never empty and never holds a separator (`mem_decimal`).

What is read at all is more than what is written: a plus sign and leading zeros
are read as well (`IsDecimal`), and nothing else is (`int64?_eq_some_iff`).
-/

namespace Switchboard.Text

/-! ## Digits -/

/-- The value of a digit, as the library counts it. -/
theorem digit?_of_isDigit {c : Char} (h : c.isDigit = true) :
    digit? c = some (c.toNat - '0'.toNat) := by
  have hc : '0' ≤ c ∧ c ≤ '9' := by
    rw [Char.isDigit, Bool.and_eq_true, decide_eq_true_eq, decide_eq_true_eq] at h
    exact ⟨h.1, h.2⟩
  rw [digit?, if_pos hc]

/-- **Digits are read from the left**, as the library reads them. -/
theorem digitsFrom_eq {cs : List Char} (h : ∀ c ∈ cs, c.isDigit = true)
    (acc : Nat) : digitsFrom acc cs = some (Nat.ofDigitChars 10 cs acc) := by
  induction cs generalizing acc with
  | nil => rw [digitsFrom, Nat.ofDigitChars_nil]
  | cons c rest ih =>
    rw [digitsFrom, digit?_of_isDigit (h c List.mem_cons_self),
      Nat.ofDigitChars_cons, Nat.mul_comm 10 acc]
    exact ih (fun d hd => h d (List.mem_cons_of_mem c hd)) _

theorem isDigit_of_mem_toDigits {n : Nat} {c : Char}
    (h : c ∈ Nat.toDigits 10 n) : c.isDigit = true :=
  Nat.isDigit_of_mem_toDigits (by decide) (by decide) h

/-- **The digits of a number denote it.** -/
theorem digits?_toDigits (n : Nat) : digits? (Nat.toDigits 10 n) = some n := by
  have hread := digitsFrom_eq (fun c => isDigit_of_mem_toDigits (n := n) (c := c)) 0
  rw [Nat.ofDigitChars_ten_toDigits] at hread
  cases hd : Nat.toDigits 10 n with
  | nil => exact absurd hd Nat.toDigits_ne_nil
  | cons c rest => rw [digits?, ← hd, hread]; exact fun e => nomatch e

/-- A row of digits starts with no sign. -/
theorem toDigits_ne_cons {n : Nat} {c : Char} (hc : c.isDigit = false)
    (rest : List Char) : Nat.toDigits 10 n ≠ c :: rest := by
  intro h
  have hmem : c ∈ Nat.toDigits 10 n := by rw [h]; exact List.mem_cons_self
  rw [isDigit_of_mem_toDigits hmem] at hc
  exact Bool.noConfusion hc

/-- A hexadecimal digit is read back. -/
theorem hexDigit?_digitChar {n : Nat} (h : n < 16) :
    hexDigit? (Nat.digitChar n) = some n := by
  revert n
  decide

/-! ## Decimals -/

theorem toList_decimal_ofNat (n : Nat) :
    (decimal n).toList = Nat.toDigits 10 n := by
  show (String.ofList (Nat.toDigits 10 n)).toList = _
  rw [String.toList_ofList]

theorem toList_decimal_negSucc (n : Nat) :
    (decimal (.negSucc n)).toList = '-' :: Nat.toDigits 10 (n + 1) := by
  show (String.ofList ('-' :: Nat.toDigits 10 (n + 1))).toList = _
  rw [String.toList_ofList]

/-- **A decimal holds digits and minus signs only.** -/
theorem mem_decimal {n : Int} {c : Char} (h : c ∈ (decimal n).toList) :
    c = '-' ∨ c.isDigit = true := by
  cases n with
  | ofNat n =>
    rw [Int.ofNat_eq_natCast, toList_decimal_ofNat] at h
    exact .inr (isDigit_of_mem_toDigits h)
  | negSucc n =>
    rw [toList_decimal_negSucc] at h
    rcases List.mem_cons.mp h with rfl | hd
    · exact .inl rfl
    · exact .inr (isDigit_of_mem_toDigits hd)

theorem notMem_decimal {c : Char} (hminus : c ≠ '-') (hdigit : c.isDigit = false)
    (n : Int) : c ∉ (decimal n).toList := by
  intro h
  rcases mem_decimal h with rfl | hc
  · exact hminus rfl
  · rw [hdigit] at hc
    exact Bool.noConfusion hc

/-- A decimal is never empty. -/
theorem toList_decimal_ne_nil (n : Int) : (decimal n).toList ≠ [] := by
  cases n with
  | ofNat n =>
    rw [Int.ofNat_eq_natCast, toList_decimal_ofNat]
    exact Nat.toDigits_ne_nil
  | negSucc n =>
    rw [toList_decimal_negSucc]
    exact List.cons_ne_nil _ _

/-- A row of digits without a sign is read as it stands. -/
theorem int64?_toDigits (n : Nat) :
    int64? (Nat.toDigits 10 n) = (some (n : Int)).filter fitsInt64 := by
  have hminus := toDigits_ne_cons (n := n) (c := '-') rfl
  have hplus := toDigits_ne_cons (n := n) (c := '+') rfl
  rw [int64?, digits?_toDigits]
  · rfl
  · exact hminus
  · exact hplus

/-- Digits after a minus sign are read and negated. -/
theorem int64?_minus_toDigits (n : Nat) :
    int64? ('-' :: Nat.toDigits 10 n) = (some (-(n : Int))).filter fitsInt64 := by
  rw [int64?, digits?_toDigits]
  rfl

/-- **A decimal reads back as a signed integer** when it fits. -/
theorem int64?_decimal {n : Int} (h : fitsInt64 n = true) :
    int64? (decimal n).toList = some n := by
  cases n with
  | ofNat n =>
    rw [Int.ofNat_eq_natCast] at h ⊢
    rw [toList_decimal_ofNat, int64?_toDigits, Option.filter_some, if_pos h]
  | negSucc n =>
    rw [toList_decimal_negSucc, int64?_minus_toDigits,
      show -((n + 1 : Nat) : Int) = .negSucc n from rfl, Option.filter_some,
      if_pos h]

/-- **A decimal reads back as an unsigned integer** when it fits. -/
theorem uint64?_decimal {n : Nat} (h : n < 18446744073709551616) :
    uint64? (decimal n).toList = some n := by
  have hplus := toDigits_ne_cons (n := n) (c := '+') rfl
  rw [toList_decimal_ofNat, uint64?, digits?_toDigits, Option.filter_some,
    if_pos (by simpa using h)]
  exact hplus

/-- What fits a signed width and is not negative fits the unsigned one. -/
theorem uint64?_decimal_of_nonneg {n : Int} (h : fitsInt64 n = true) (h0 : 0 ≤ n) :
    uint64? (decimal n).toList = some n.toNat := by
  have hle : n ≤ int64Max := by
    rw [fitsInt64, Bool.and_eq_true, decide_eq_true_eq, decide_eq_true_eq] at h
    exact h.2
  lift n to Nat using h0
  rw [int64Max] at hle
  exact uint64?_decimal (by omega)

/-- A minus sign makes no unsigned integer. -/
theorem uint64?_decimal_of_neg {n : Int} (h : n < 0) :
    uint64? (decimal n).toList = none := by
  obtain ⟨k, rfl⟩ := Int.eq_negSucc_of_lt_zero h
  rw [toList_decimal_negSucc]
  rfl

/-- What reads as a signed integer fits its width. -/
theorem fitsInt64_of_int64? {cs : List Char} {n : Int} (h : int64? cs = some n) :
    fitsInt64 n = true :=
  (Option.filter_eq_some_iff.mp h).2

/-! ## What is read at all -/

/-- A digit is told by its value. -/
theorem isDigit_of_digit? {c : Char} {d : Nat} (h : digit? c = some d) :
    c.isDigit = true := by
  rw [digit?] at h
  split at h
  · next hc =>
    rw [Char.isDigit, Bool.and_eq_true, decide_eq_true_eq, decide_eq_true_eq]
    exact ⟨hc.1, hc.2⟩
  · exact nomatch h

theorem isDigit_of_digitsFrom {cs : List Char} {acc n : Nat}
    (h : digitsFrom acc cs = some n) : ∀ c ∈ cs, c.isDigit = true := by
  induction cs generalizing acc with
  | nil => exact fun c hc => absurd hc List.not_mem_nil
  | cons c rest ih =>
    rw [digitsFrom] at h
    obtain ⟨d, hd, hrest⟩ := Option.bind_eq_some_iff.mp h
    exact List.forall_mem_cons.mpr ⟨isDigit_of_digit? hd, ih hrest⟩

/-- **A number is read from one digit or more**, and from nothing else. -/
theorem digits?_eq_some_iff {cs : List Char} {n : Nat} :
    digits? cs = some n
      ↔ cs ≠ [] ∧ (∀ c ∈ cs, c.isDigit = true) ∧ n = Nat.ofDigitChars 10 cs 0 := by
  cases cs with
  | nil => exact iff_of_false (fun h => nomatch h) (fun h => h.1 rfl)
  | cons c rest =>
    have hread : digits? (c :: rest) = digitsFrom 0 (c :: rest) := rfl
    rw [hread]
    constructor
    · intro h
      have hdigits := isDigit_of_digitsFrom h
      rw [digitsFrom_eq hdigits] at h
      exact ⟨List.cons_ne_nil c rest, hdigits, (Option.some.inj h).symm⟩
    · rintro ⟨-, hdigits, rfl⟩
      exact digitsFrom_eq hdigits 0

/-- **What it is for a text to be an integer in decimal**: an optional sign,
then one digit or more. -/
def IsDecimal (cs : List Char) (n : Int) : Prop :=
  ∃ sign digits : List Char, (sign = [] ∨ sign = ['+'] ∨ sign = ['-'])
    ∧ digits ≠ [] ∧ (∀ d ∈ digits, d.isDigit = true) ∧ cs = sign ++ digits
    ∧ n = if sign = ['-'] then -(Nat.ofDigitChars 10 digits 0 : Int)
        else Nat.ofDigitChars 10 digits 0

theorem int64?_minus (digits : List Char) :
    int64? ('-' :: digits)
      = ((digits? digits).map fun k : Nat => -(k : Int)).filter fitsInt64 := by
  rw [int64?]
  cases digits? digits <;> rfl

theorem int64?_plus (digits : List Char) :
    int64? ('+' :: digits)
      = ((digits? digits).map fun k : Nat => (k : Int)).filter fitsInt64 := by
  rw [int64?]
  cases digits? digits <;> rfl

theorem int64?_of_unsigned {cs : List Char} (hminus : ∀ rest, cs ≠ '-' :: rest)
    (hplus : ∀ rest, cs ≠ '+' :: rest) :
    int64? cs = ((digits? cs).map fun k : Nat => (k : Int)).filter fitsInt64 := by
  rw [int64?]
  · cases digits? cs <;> rfl
  · exact hminus
  · exact hplus

/-- What is read after a sign is digits in range. -/
theorem filter_map_digits?_eq_some_iff {f : Nat → Int} {cs : List Char} {n : Int} :
    ((digits? cs).map f).filter fitsInt64 = some n
      ↔ (cs ≠ [] ∧ (∀ c ∈ cs, c.isDigit = true)
          ∧ n = f (Nat.ofDigitChars 10 cs 0))
        ∧ int64Min ≤ n ∧ n ≤ int64Max := by
  rw [Option.filter_eq_some_iff, Option.map_eq_some_iff, fitsInt64,
    Bool.and_eq_true, decide_eq_true_eq, decide_eq_true_eq]
  refine and_congr_left (fun _ => ?_)
  constructor
  · rintro ⟨k, hk, rfl⟩
    obtain ⟨hne, hdigits, rfl⟩ := digits?_eq_some_iff.mp hk
    exact ⟨hne, hdigits, rfl⟩
  · rintro ⟨hne, hdigits, rfl⟩
    exact ⟨_, digits?_eq_some_iff.mpr ⟨hne, hdigits, rfl⟩, rfl⟩

/-- **A signed integer is read from a decimal in range**, and from nothing
else. -/
theorem int64?_eq_some_iff {cs : List Char} {n : Int} :
    int64? cs = some n ↔ IsDecimal cs n ∧ int64Min ≤ n ∧ n ≤ int64Max := by
  constructor
  · intro h
    by_cases hminus : ∃ rest, cs = '-' :: rest
    · obtain ⟨rest, rfl⟩ := hminus
      rw [int64?_minus, filter_map_digits?_eq_some_iff] at h
      obtain ⟨⟨hne, hdigits, he⟩, hrange⟩ := h
      exact ⟨⟨['-'], rest, .inr (.inr rfl), hne, hdigits, rfl, he⟩, hrange⟩
    · by_cases hplus : ∃ rest, cs = '+' :: rest
      · obtain ⟨rest, rfl⟩ := hplus
        rw [int64?_plus, filter_map_digits?_eq_some_iff] at h
        obtain ⟨⟨hne, hdigits, he⟩, hrange⟩ := h
        exact ⟨⟨['+'], rest, .inr (.inl rfl), hne, hdigits, rfl, he⟩, hrange⟩
      · rw [int64?_of_unsigned (not_exists.mp hminus) (not_exists.mp hplus),
          filter_map_digits?_eq_some_iff] at h
        obtain ⟨⟨hne, hdigits, he⟩, hrange⟩ := h
        exact ⟨⟨[], cs, .inl rfl, hne, hdigits, rfl, he⟩, hrange⟩
  · rintro ⟨⟨sign, digits, hsign, hne, hdigits, rfl, he⟩, hrange⟩
    rcases hsign with rfl | rfl | rfl
    · -- a digit is neither of the signs
      have hsignless : ∀ c rest, c.isDigit = false → [] ++ digits ≠ c :: rest := by
        rintro c rest hc rfl
        exact absurd (hdigits c List.mem_cons_self) (by simp [hc])
      rw [int64?_of_unsigned (fun rest => hsignless '-' rest rfl)
        (fun rest => hsignless '+' rest rfl), filter_map_digits?_eq_some_iff]
      exact ⟨⟨hne, hdigits, he⟩, hrange⟩
    · show int64? ('+' :: digits) = some n
      rw [int64?_plus, filter_map_digits?_eq_some_iff]
      exact ⟨⟨hne, hdigits, he⟩, hrange⟩
    · show int64? ('-' :: digits) = some n
      rw [int64?_minus, filter_map_digits?_eq_some_iff]
      exact ⟨⟨hne, hdigits, he⟩, hrange⟩

end Switchboard.Text
