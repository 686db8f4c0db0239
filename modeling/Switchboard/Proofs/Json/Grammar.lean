import Mathlib.Data.List.DropRight
import Switchboard.Json.Reader
import Switchboard.Proofs.Json.Scan

/-!
# The grammar of JSON texts

A JSON text may be laid out and its strings may be spelled in many ways. The grammar of
RFC 8259 says which, without a reader: a string is units one after the other, each a
character as itself or an escape (`Spells`), a number has digits in certain places
(`IsNumber`), and values, with blanks around them, make up lists and objects
(`IsValue`, `IsElement`, `IsElements`, `IsMembers`).

The grammar asks for the form of a string only, so that an escaped surrogate needs no
partner; what a string says is a matter of what its units stand for. Both are read off the
front of a text up to the closing quote (`readString_of_isStringBody`,
`readString_of_spells`), and a value that nobody asks for is skipped as a whole
(`skipValue_stepBound`).
-/

namespace Switchboard.Json

/-! ## Strings -/

/-- **Four hexadecimal digits** and the number they denote. -/
def IsHexNumber (digits : List Char) (n : Nat) : Prop :=
  ∃ a b c d, digits.map Text.hexDigit? = [some a, some b, some c, some d]
    ∧ n = ((a * 16 + b) * 16 + c) * 16 + d

/-- The letters of short escapes, each with the character it stands for. -/
def escapeLetters : List (Char × Char) :=
  [('"', '"'), ('\\', '\\'), ('/', '/'), ('b', '\x08'), ('f', '\x0c'), ('n', '\n'),
   ('r', '\r'), ('t', '\t')]

/-- **A unit of a string by its form.** -/
inductive IsUnit : List Char → Prop where
  /-- A character as itself. -/
  | plain {c : Char} : 32 ≤ c.toNat → c ≠ '"' → c ≠ '\\' → IsUnit [c]
  /-- A short escape. -/
  | letter {l c : Char} : (l, c) ∈ escapeLetters → IsUnit ['\\', l]
  /-- An escape by number. -/
  | number {digits : List Char} {n : Nat} : IsHexNumber digits n → IsUnit ('\\' :: 'u' :: digits)

/-- **What stands between the quotes of a string**, by its form. -/
inductive IsStringBody : List Char → Prop where
  | nil : IsStringBody []
  | cons {unit raw : List Char} : IsUnit unit → IsStringBody raw → IsStringBody (unit ++ raw)

/-- **A way to write a character in a string.** -/
inductive SpellsChar : List Char → Char → Prop where
  /-- As itself. -/
  | plain {c : Char} : 32 ≤ c.toNat → c ≠ '"' → c ≠ '\\' → SpellsChar [c] c
  /-- By a short escape. -/
  | letter {l c : Char} : (l, c) ∈ escapeLetters → SpellsChar ['\\', l] c
  /-- By its number. -/
  | number {digits : List Char} {c : Char} :
    IsHexNumber digits c.toNat → SpellsChar ('\\' :: 'u' :: digits) c
  /-- By a pair of surrogates, each by its number. -/
  | pair {high low : List Char} {c : Char} {h l : Nat} :
    h < 0x400 → l < 0x400 → c.toNat = 0x10000 + h * 0x400 + l →
    IsHexNumber high (0xd800 + h) → IsHexNumber low (0xdc00 + l) →
    SpellsChar ('\\' :: 'u' :: (high ++ '\\' :: 'u' :: low)) c

/-- **A way to write a text between the quotes of a string.** -/
inductive Spells : List Char → List Char → Prop where
  | nil : Spells [] []
  | cons {unit raw : List Char} {c : Char} {text : List Char} :
    SpellsChar unit c → Spells raw text → Spells (unit ++ raw) (c :: text)

/-- The digits of an escape are read as the number they denote. -/
theorem hexEscape_append {digits : List Char} {n : Nat} (h : IsHexNumber digits n)
    (rest : List Char) : hexEscape (digits ++ rest) = .ok n := by
  obtain ⟨a, b, c, d, hdigits, rfl⟩ := h
  simp only [List.map_eq_cons_iff, List.map_eq_nil_iff] at hdigits
  obtain ⟨a', _, rfl, ha, b', _, rfl, hb, c', _, rfl, hc, d', _, rfl, hd, rfl⟩ := hdigits
  simp [hexEscape, ha, hb, hc, hd]

theorem IsHexNumber.length_eq {digits : List Char} {n : Nat} (h : IsHexNumber digits n) :
    digits.length = 4 := by
  obtain ⟨a, b, c, d, hdigits, -⟩ := h
  rw [← List.length_map Text.hexDigit?, hdigits]
  rfl

/-- A short escape is read as one unit. -/
theorem stringUnit_letter (full : Bool) {l c : Char} (h : (l, c) ∈ escapeLetters)
    (rest : List Char) : stringUnit full ('\\' :: l :: rest) = .ok (.text 2 [c]) := by
  simp only [escapeLetters, List.mem_cons, Prod.mk.injEq, List.not_mem_nil, or_false] at h
  rcases h with ⟨rfl, rfl⟩ | ⟨rfl, rfl⟩ | ⟨rfl, rfl⟩ | ⟨rfl, rfl⟩ | ⟨rfl, rfl⟩ | ⟨rfl, rfl⟩ |
    ⟨rfl, rfl⟩ | ⟨rfl, rfl⟩ <;> rfl

theorem IsUnit.ne_nil {unit : List Char} (h : IsUnit unit) : unit ≠ [] := by
  cases h <;> exact List.cons_ne_nil _ _

theorem SpellsChar.ne_nil {unit : List Char} {c : Char} (h : SpellsChar unit c) : unit ≠ [] := by
  cases h <;> exact List.cons_ne_nil _ _

/-- **A unit is read for its form.** -/
theorem stringUnit_of_isUnit {unit : List Char} (h : IsUnit unit) (rest : List Char) :
    ∃ t, stringUnit false (unit ++ rest) = .ok (.text unit.length t) := by
  cases h with
  | plain hcontrol hquote hbackslash =>
    exact ⟨_, stringUnit_of_plain false hquote hbackslash (Nat.not_lt.mpr hcontrol) rest⟩
  | letter hletter => exact ⟨_, stringUnit_letter false hletter rest⟩
  | @number digits n hdigits =>
    refine ⟨[], ?_⟩
    rw [List.length_cons, List.length_cons, hdigits.length_eq]
    exact bind_eq_ok.mpr ⟨n, hexEscape_append hdigits rest, rfl⟩

/-- **A unit is read as the character it was written for.** -/
theorem stringUnit_of_spellsChar {unit : List Char} {c : Char} (h : SpellsChar unit c)
    (rest : List Char) : stringUnit true (unit ++ rest) = .ok (.text unit.length [c]) := by
  cases h with
  | plain hcontrol hquote hbackslash =>
    exact stringUnit_of_plain true hquote hbackslash (Nat.not_lt.mpr hcontrol) rest
  | letter hletter => exact stringUnit_letter true hletter rest
  | @number digits _ hdigits =>
    rw [List.length_cons, List.length_cons, hdigits.length_eq]
    refine bind_eq_ok.mpr ⟨c.toNat, hexEscape_append hdigits rest, ?_⟩
    -- a character is no surrogate, neither the first of a pair nor the second
    have hvalid : c.toNat < 0xd800 ∨ 0xdfff < c.toNat := by
      rcases c.valid with h | h
      · exact .inl h
      · exact .inr h.1
    have hlow : isLowSurrogate c.toNat = false := by
      rw [← Bool.not_eq_true, isLowSurrogate_iff]
      omega
    have hhigh : isHighSurrogate c.toNat = false := by
      rw [← Bool.not_eq_true, isHighSurrogate_iff]
      omega
    rw [hlow, hhigh, Char.ofNat_toNat]
    rfl
  | @pair high low _ h l hh hl hc hhigh hlow =>
    have hfirst : isHighSurrogate (0xd800 + h) = true := isHighSurrogate_iff.mpr (by omega)
    have hnotLow : isLowSurrogate (0xd800 + h) = false := by
      rw [← Bool.not_eq_true, isLowSurrogate_iff]
      omega
    have hsecond : isLowSurrogate (0xdc00 + l) = true := isLowSurrogate_iff.mpr (by omega)
    have hpartner : readLowSurrogate ('\\' :: 'u' :: (low ++ rest)) = .ok (0xdc00 + l) :=
      bind_eq_ok.mpr ⟨_, hexEscape_append hlow rest, by rw [hsecond]; rfl⟩
    have hcode : (0xd800 + h - 0xd800) * 0x400 + (0xdc00 + l - 0xdc00) + 0x10000 = c.toNat := by
      omega
    have hlength : ('\\' :: 'u' :: (high ++ '\\' :: 'u' :: low)).length = 12 := by
      simp [hhigh.length_eq, hlow.length_eq]
    rw [hlength, List.cons_append, List.cons_append, List.append_assoc]
    refine bind_eq_ok.mpr ⟨_, hexEscape_append hhigh _, ?_⟩
    rw [hnotLow, hfirst, List.drop_left' hhigh.length_eq]
    refine bind_eq_ok.mpr ⟨_, hpartner, ?_⟩
    rw [hcode, Char.ofNat_toNat]
    rfl

/-- **A text without quotes, backslashes and controls spells itself.** -/
theorem spells_self {text : List Char}
    (h : ∀ c ∈ text, 32 ≤ c.toNat ∧ c ≠ '"' ∧ c ≠ '\\') : Spells text text := by
  induction text with
  | nil => exact .nil
  | cons c text ih =>
    obtain ⟨hcontrol, hquote, hbackslash⟩ := h c List.mem_cons_self
    exact .cons (.plain hcontrol hquote hbackslash) (ih fun d hd => h d (List.mem_cons_of_mem c hd))

/-- **The form of a string is read** up to its closing quote. -/
theorem readString_of_isStringBody {raw : List Char} (h : IsStringBody raw)
    (text rest : List Char) : ∃ s, readString false 0 text (raw ++ '"' :: rest) = .ok (s, rest) := by
  induction h generalizing text with
  | nil => exact ⟨_, rfl⟩
  | cons hunit _ ih =>
    rw [List.append_assoc]
    obtain ⟨t, ht⟩ := stringUnit_of_isUnit hunit _
    rw [readString_unit hunit.ne_nil ht]
    exact ih _

/-- **A string is read as the text it spells**, up to its closing quote. -/
theorem readString_of_spells {raw s : List Char} (h : Spells raw s) (text rest : List Char) :
    readString true 0 text (raw ++ '"' :: rest)
      = .ok (String.ofList (text.reverse ++ s), rest) := by
  induction h generalizing text with
  | nil =>
    rw [List.append_nil]
    rfl
  | cons hunit _ ih =>
    rw [List.append_assoc, readString_unit hunit.ne_nil (stringUnit_of_spellsChar hunit _), ih]
    simp

/-! ## Numbers -/

/-- **The fraction of a numeral**, which may be missing. -/
inductive IsFraction : List Char → Prop where
  | none : IsFraction []
  | digits {ds : List Char} : IsDigits ds → IsFraction ('.' :: ds)

/-- **The exponent of a numeral**, which may be missing. -/
inductive IsExponent : List Char → Prop where
  | none : IsExponent []
  | digits {e : Char} {sign ds : List Char} : e = 'e' ∨ e = 'E' →
    sign ∈ [[], ['+'], ['-']] → IsDigits ds → IsExponent (e :: (sign ++ ds))

/-- **A number without its sign.** -/
def IsNumeral (cs : List Char) : Prop :=
  ∃ whole fraction exponent, IsWhole whole ∧ IsFraction fraction ∧ IsExponent exponent
    ∧ cs = whole ++ (fraction ++ exponent)

/-- **A number**: a numeral, or one after a minus sign. -/
def IsNumber (cs : List Char) : Prop :=
  IsNumeral cs ∨ ∃ numeral, IsNumeral numeral ∧ cs = '-' :: numeral

/-- Digits are read up to what ends a number. -/
theorem readFraction_append (cut : Cause) {ds rest : List Char} (h : IsDigits ds)
    (hrest : ∀ c ∈ rest.head?, c.isDigit = false) :
    readFraction cut (ds ++ rest) = .ok (ds, rest) := by
  obtain ⟨d, ds, rfl⟩ := List.exists_cons_of_ne_nil h.1
  rw [readFraction, spanDigits_append h.2 hrest]

theorem readExponent_append (cut : Cause) {sign ds rest : List Char}
    (hsign : sign ∈ [[], ['+'], ['-']]) (h : IsDigits ds)
    (hrest : ∀ c ∈ rest.head?, c.isDigit = false) :
    ∃ negative, readExponent cut (sign ++ (ds ++ rest)) = .ok ((negative, ds), rest) := by
  obtain ⟨d, ds, rfl⟩ := List.exists_cons_of_ne_nil h.1
  have hspan : spanDigits (d :: (ds ++ rest)) = (d :: ds, rest) := spanDigits_append h.2 hrest
  have hd := h.2 d List.mem_cons_self
  have hminus : d ≠ '-' := fun e => absurd (e ▸ hd) (by decide)
  have hplus : d ≠ '+' := fun e => absurd (e ▸ hd) (by decide)
  simp only [List.mem_cons, List.not_mem_nil, or_false] at hsign
  unfold readExponent
  rcases hsign with rfl | rfl | rfl
  · exact ⟨false, by simp [hminus, hplus, hspan]⟩
  · exact ⟨false, by simp [hspan]⟩
  · exact ⟨true, by simp [hspan]⟩

/-- The end of a numeral, from where its exponent may stand. -/
def readTail (cut : Cause) (whole : List Char) (fraction : Option (List Char)) :
    List Char → Except Fault (Numeral × List Char)
  | 'e' :: rest | 'E' :: rest => do
    let (exponent, rest) ← readExponent cut rest
    return (⟨whole, fraction, some exponent⟩, rest)
  | rest => return (⟨whole, fraction, none⟩, rest)

/-- A numeral is read part by part. -/
theorem readNumeral_eq (cut : Cause) (cs : List Char) :
    readNumeral cut cs = readWhole cut cs >>= fun p =>
      match p.2 with
      | '.' :: rest => readFraction cut rest >>= fun q => readTail cut p.1 (some q.1) q.2
      | rest => readTail cut p.1 none rest := rfl

theorem readTail_append (cut : Cause) (whole : List Char) (fraction : Option (List Char))
    {exponent rest : List Char} (h : IsExponent exponent) (hrest : Ends rest) :
    ∃ numeral, readTail cut whole fraction (exponent ++ rest) = .ok (numeral, rest) := by
  cases h with
  | none =>
    rw [List.nil_append]
    unfold readTail
    split
    · exact absurd rfl (hrest 'e' rfl).2.2.1
    · exact absurd rfl (hrest 'E' rfl).2.2.2
    · exact ⟨_, rfl⟩
  | digits he hsign hds =>
    obtain ⟨negative, hread⟩ := readExponent_append cut hsign hds fun c hc => (hrest c hc).1
    rw [List.cons_append, List.append_assoc]
    rcases he with rfl | rfl
    · exact ⟨_, bind_eq_ok.mpr ⟨_, hread, rfl⟩⟩
    · exact ⟨_, bind_eq_ok.mpr ⟨_, hread, rfl⟩⟩

/-- **A numeral is read** up to what ends it. -/
theorem readNumeral_append (cut : Cause) {cs rest : List Char} (h : IsNumeral cs)
    (hrest : Ends rest) : ∃ numeral, readNumeral cut (cs ++ rest) = .ok (numeral, rest) := by
  obtain ⟨whole, fraction, exponent, hwhole, hfraction, hexponent, rfl⟩ := h
  -- neither the digits before the point nor those after it go on with what follows them
  have hstop : ∀ c ∈ (exponent ++ rest).head?, c.isDigit = false ∧ c ≠ '.' := by
    cases hexponent with
    | none => exact fun c hc => ⟨(hrest c hc).1, (hrest c hc).2.1⟩
    | digits he _ _ =>
      intro c hc
      obtain rfl : _ = c := Option.some.inj hc
      rcases he with rfl | rfl <;> decide
  rw [List.append_assoc, List.append_assoc, readNumeral_eq]
  cases hfraction with
  | none =>
    rw [List.nil_append]
    obtain ⟨numeral, htail⟩ := readTail_append cut whole none hexponent hrest
    refine ⟨numeral, bind_eq_ok.mpr ⟨_, readWhole_append cut hwhole fun c hc => (hstop c hc).1, ?_⟩⟩
    dsimp only
    split
    · next rest' he => exact absurd rfl (hstop '.' (he ▸ rfl)).2
    · exact htail
  | @digits ds hds =>
    obtain ⟨numeral, htail⟩ := readTail_append cut whole (some ds) hexponent hrest
    have hpoint : ∀ c ∈ ('.' :: ds ++ (exponent ++ rest)).head?, c.isDigit = false := by
      intro c hc
      obtain rfl : '.' = c := Option.some.inj hc
      decide
    exact ⟨numeral, bind_eq_ok.mpr ⟨_, readWhole_append cut hwhole hpoint,
      bind_eq_ok.mpr ⟨_, readFraction_append cut hds fun c hc => (hstop c hc).1, htail⟩⟩⟩

/-! ## Values -/

/-- Blanks and nothing else. -/
def AreBlanks (cs : List Char) : Prop := ∀ c ∈ cs, isJsonBlank c = true

mutual

/-- **A value**, without blanks around it. -/
inductive IsValue : List Char → Prop where
  | null : IsValue "null".toList
  | true : IsValue "true".toList
  | false : IsValue "false".toList
  | string {raw : List Char} : IsStringBody raw → IsValue ('"' :: (raw ++ ['"']))
  | number {cs : List Char} : IsNumber cs → IsValue cs
  | emptyArray {ws : List Char} : AreBlanks ws → IsValue ('[' :: (ws ++ [']']))
  | array {cs : List Char} : IsElements cs → IsValue ('[' :: (cs ++ [']']))
  | emptyObject {ws : List Char} : AreBlanks ws → IsValue ('\x7b' :: (ws ++ ['\x7d']))
  | object {cs : List Char} : IsMembers cs → IsValue ('\x7b' :: (cs ++ ['\x7d']))

/-- **A value with blanks around it.** -/
inductive IsElement : List Char → Prop where
  | mk {before v after : List Char} : AreBlanks before → IsValue v → AreBlanks after →
    IsElement (before ++ (v ++ after))

/-- **The items of a list**, between its brackets. -/
inductive IsElements : List Char → Prop where
  | one {cs : List Char} : IsElement cs → IsElements cs
  | more {cs items : List Char} : IsElement cs → IsElements items →
    IsElements (cs ++ ',' :: items)

/-- **A member of an object**: its name, a colon and its value. -/
inductive IsMember : List Char → Prop where
  | mk {before raw middle cs : List Char} : AreBlanks before → IsStringBody raw →
    AreBlanks middle → IsElement cs →
    IsMember (before ++ '"' :: (raw ++ '"' :: (middle ++ ':' :: cs)))

/-- **The members of an object**, between its braces. -/
inductive IsMembers : List Char → Prop where
  | one {cs : List Char} : IsMember cs → IsMembers cs
  | more {cs members : List Char} : IsMember cs → IsMembers members →
    IsMembers (cs ++ ',' :: members)

end

/-! ## How values begin and end -/

/-- A character that no blank and no closing bracket is. -/
def Begins (cs : List Char) : Prop :=
  ∃ c rest, cs = c :: rest ∧ isJsonBlank c = false ∧ c ≠ ']'

theorem begins_cons {c : Char} (hblank : isJsonBlank c = false) (hclose : c ≠ ']')
    (rest : List Char) : Begins (c :: rest) := ⟨c, rest, rfl, hblank, hclose⟩

theorem skipBlanks_cons {c : Char} (h : isJsonBlank c = false) (rest : List Char) :
    skipBlanks (c :: rest) = c :: rest := List.dropWhile_cons_of_neg (by simp [h])

/-- Blanks are skipped before a value, of which there are none. -/
theorem skipBlanks_of_begins {cs : List Char} (h : Begins cs) (rest : List Char) :
    skipBlanks (cs ++ rest) = cs ++ rest := by
  obtain ⟨c, cs, rfl, hblank, _⟩ := h
  exact skipBlanks_cons hblank (cs ++ rest)

theorem isJsonBlank_of_isDigit {c : Char} (h : c.isDigit = true) :
    isJsonBlank c = false := by
  rw [← Bool.not_eq_true]
  intro hblank
  simp only [isJsonBlank, Bool.or_eq_true, beq_iff_eq] at hblank
  rcases hblank with ((rfl | rfl) | rfl) | rfl <;> exact absurd h (by decide)

theorem ends_cons {c : Char} (h : c.isDigit = false ∧ c ≠ '.' ∧ c ≠ 'e' ∧ c ≠ 'E')
    (rest : List Char) : Ends (c :: rest) := by
  intro d hd
  obtain rfl : c = d := Option.some.inj hd
  exact h

theorem ends_nil : Ends [] := fun _ h => nomatch h

theorem readWord_append (word rest : List Char) :
    readWord (word ++ rest) word = .ok rest := by
  induction word with
  | nil => cases rest <;> rfl
  | cons c word ih => rw [List.cons_append, readWord, if_pos rfl, ih]

theorem skipBlanks_append {ws : List Char} (h : AreBlanks ws) (rest : List Char) :
    skipBlanks (ws ++ rest) = skipBlanks rest :=
  List.dropWhile_append_of_pos h

theorem skipBlanks_skipBlanks (cs : List Char) : skipBlanks (skipBlanks cs) = skipBlanks cs :=
  List.dropWhile_idempotent _ _

/-- Blanks do not go on a number. -/
theorem ends_append {ws rest : List Char} (h : AreBlanks ws) (hrest : Ends rest) :
    Ends (ws ++ rest) := by
  cases ws with
  | nil => exact hrest
  | cons c ws =>
    refine ends_cons ?_ _
    have hc := h c List.mem_cons_self
    simp only [isJsonBlank, Bool.or_eq_true, beq_iff_eq] at hc
    rcases hc with ((rfl | rfl) | rfl) | rfl <;> decide

/-- A numeral begins with a digit. -/
theorem exists_digit_of_isNumeral {cs : List Char} (h : IsNumeral cs) :
    ∃ d rest, cs = d :: rest ∧ d.isDigit = true := by
  obtain ⟨whole, fraction, exponent, hwhole, -, -, rfl⟩ := h
  rcases hwhole with rfl | ⟨⟨hne, hdigits⟩, -⟩
  · exact ⟨'0', _, rfl, rfl⟩
  · obtain ⟨d, ds, rfl⟩ := List.exists_cons_of_ne_nil hne
    exact ⟨d, _, rfl, hdigits d List.mem_cons_self⟩

theorem begins_of_isValue {cs : List Char} (h : IsValue cs) : Begins cs := by
  cases h with
  | null => exact begins_cons (by decide) (by decide) _
  | true => exact begins_cons (by decide) (by decide) _
  | false => exact begins_cons (by decide) (by decide) _
  | string _ => exact begins_cons (by decide) (by decide) _
  | number hnumber =>
    rcases hnumber with hnumeral | ⟨numeral, -, rfl⟩
    · obtain ⟨d, rest, rfl, hd⟩ := exists_digit_of_isNumeral hnumeral
      exact begins_cons (isJsonBlank_of_isDigit hd) (fun e => absurd (e ▸ hd) (by decide)) rest
    · exact begins_cons (by decide) (by decide) _
  | emptyArray _ => exact begins_cons (by decide) (by decide) _
  | array _ => exact begins_cons (by decide) (by decide) _
  | emptyObject _ => exact begins_cons (by decide) (by decide) _
  | object _ => exact begins_cons (by decide) (by decide) _

theorem exists_skipBlanks_element {cs : List Char} (h : IsElement cs) (rest : List Char) :
    ∃ c more, skipBlanks (cs ++ rest) = c :: more ∧ c ≠ ']' := by
  obtain ⟨hbefore, hvalue, _⟩ := h
  have hbegins := begins_of_isValue hvalue
  rw [List.append_assoc, List.append_assoc, skipBlanks_append hbefore,
    skipBlanks_of_begins hbegins]
  obtain ⟨c, more, rfl, -, hclose⟩ := hbegins
  exact ⟨c, _, rfl, hclose⟩

theorem exists_skipBlanks_member {cs : List Char} (h : IsMember cs) (rest : List Char) :
    ∃ more, skipBlanks (cs ++ rest) = '"' :: more := by
  obtain ⟨hbefore, _, _, _⟩ := h
  rw [List.append_assoc, skipBlanks_append hbefore]
  exact ⟨_, rfl⟩

theorem exists_skipBlanks_elements {cs : List Char} (h : IsElements cs) (rest : List Char) :
    ∃ c more, skipBlanks (cs ++ rest) = c :: more ∧ c ≠ ']' := by
  cases h with
  | one h => exact exists_skipBlanks_element h rest
  | more h _ =>
    rw [List.append_assoc]
    exact exists_skipBlanks_element h _

theorem exists_skipBlanks_members {cs : List Char} (h : IsMembers cs) (rest : List Char) :
    ∃ more, skipBlanks (cs ++ rest) = '"' :: more := by
  cases h with
  | one h => exact exists_skipBlanks_member h rest
  | more h _ =>
    rw [List.append_assoc]
    exact exists_skipBlanks_member h _

/-! ## Skipping values -/

theorem skipValue_skipBlanks (n : Nat) (cs : List Char) :
    skipValue n (skipBlanks cs) = skipValue n cs := by
  cases n with
  | zero => rfl
  | succ n => rw [skipValue, skipValue, skipBlanks_skipBlanks]

theorem skipItems_skipBlanks (n : Nat) (cs : List Char) :
    skipItems n (skipBlanks cs) = skipItems n cs := by
  cases n with
  | zero => rfl
  | succ n => rw [skipItems, skipItems, skipValue_skipBlanks]

theorem skipMembers_skipBlanks (n : Nat) (cs : List Char) :
    skipMembers n (skipBlanks cs) = skipMembers n cs := by
  cases n with
  | zero => rfl
  | succ n => rw [skipMembers, skipMembers, skipBlanks_skipBlanks]

/-- What begins with a digit is skipped as a number. -/
theorem skipValue_of_isDigit {c : Char} (h : c.isDigit = true) (n : Nat) (rest : List Char) :
    skipValue (n + 1) (c :: rest) = (readNumeral .badNumber (c :: rest)).map Prod.snd := by
  have hne : ∀ d : Char, d.isDigit = false → c ≠ d := by
    rintro d hd rfl
    exact Bool.noConfusion (h.symm.trans hd)
  rw [skipValue, skipBlanks_cons (isJsonBlank_of_isDigit h)]
  simp [hne, h]

/-- Values whose texts are not too long for a number of steps are skipped. -/
def SkipsValues (n : Nat) : Prop :=
  ∀ {cs : List Char}, IsValue cs → 2 * cs.length ≤ n → ∀ {rest}, Ends rest →
    skipValue n (cs ++ rest) = .ok rest

/-- Items of such values are skipped up to the closing bracket. -/
def SkipsItems (n : Nat) : Prop :=
  ∀ {cs : List Char}, IsElements cs → 2 * cs.length + 1 ≤ n → ∀ rest,
    skipItems n (cs ++ ']' :: rest) = .ok rest

/-- Members of such values are skipped up to the closing brace. -/
def SkipsMembers (n : Nat) : Prop :=
  ∀ {cs : List Char}, IsMembers cs → 2 * cs.length + 1 ≤ n → ∀ rest,
    skipMembers n (cs ++ '\x7d' :: rest) = .ok rest

section Step

variable {n : Nat}

/-- An element is skipped up to the blanks after its value. -/
theorem skipValue_of_isElement (hvalues : SkipsValues n) {cs rest : List Char}
    (h : IsElement cs) (hn : 2 * cs.length ≤ n) (hrest : Ends rest) :
    ∃ ws, AreBlanks ws ∧ skipValue n (cs ++ rest) = .ok (ws ++ rest) := by
  obtain @⟨before, v, after, hbefore, hvalue, hafter⟩ := h
  rw [List.length_append, List.length_append] at hn
  refine ⟨after, hafter, ?_⟩
  rw [List.append_assoc, List.append_assoc, ← skipValue_skipBlanks, skipBlanks_append hbefore,
    skipValue_skipBlanks]
  exact hvalues hvalue (by omega) (ends_append hafter hrest)

theorem skipItems_of_isElement (hvalues : SkipsValues n) {cs rest : List Char}
    (h : IsElement cs) (hn : 2 * cs.length ≤ n) (hrest : Ends rest) :
    skipItems (n + 1) (cs ++ rest) = match skipBlanks rest with
      | ',' :: rest => skipItems n rest
      | ']' :: rest => .ok rest
      | [] => .error ⟨.endInList, 0⟩
      | rest => .error (.inside .listGoesOn rest) := by
  obtain ⟨ws, hws, hskip⟩ := skipValue_of_isElement hvalues h hn hrest
  rw [← skipBlanks_append hws, skipItems, hskip]
  rfl

/-- Items take one step more than the first of them and than the others. -/
theorem skipsItems_succ (hvalues : SkipsValues n) (hitems : SkipsItems n) :
    SkipsItems (n + 1) := by
  intro cs h hn rest
  cases h with
  | one h => exact skipItems_of_isElement hvalues h (by omega) (ends_cons (by decide) _)
  | @more cs items h hmore =>
    rw [List.length_append, List.length_cons] at hn
    rw [List.append_assoc, List.cons_append,
      skipItems_of_isElement hvalues h (by omega) (ends_cons (by decide) _)]
    exact hitems hmore (by omega) rest

theorem skipMembers_of_isMember (hvalues : SkipsValues n) {cs rest : List Char}
    (h : IsMember cs) (hn : 2 * cs.length ≤ n) (hrest : Ends rest) :
    skipMembers (n + 1) (cs ++ rest) = match skipBlanks rest with
      | ',' :: rest => skipMembers n rest
      | '\x7d' :: rest => .ok rest
      | [] => .error ⟨.endInObject, 0⟩
      | rest => .error (.inside .objectGoesOn rest) := by
  obtain @⟨before, raw, middle, cs, hbefore, hraw, hmiddle, helement⟩ := h
  simp only [List.length_append, List.length_cons] at hn
  obtain ⟨ws, hws, hskip⟩ := skipValue_of_isElement hvalues helement (by omega) hrest
  obtain ⟨name, hname⟩ := readString_of_isStringBody hraw [] (middle ++ ':' :: (cs ++ rest))
  have hquote : ∀ more, skipBlanks ('"' :: more) = '"' :: more := fun _ => rfl
  have hcolon : ∀ more, skipBlanks (':' :: more) = ':' :: more := fun _ => rfl
  rw [← skipBlanks_append hws, skipMembers, List.append_assoc, skipBlanks_append hbefore,
    List.cons_append, hquote]
  simp only [List.append_assoc, List.cons_append, hname, Except.bind, bind]
  rw [skipBlanks_append hmiddle, hcolon]
  simp only [hskip]
  rfl

/-- Members take one step more than the value of the first of them and than the others. -/
theorem skipsMembers_succ (hvalues : SkipsValues n) (hmembers : SkipsMembers n) :
    SkipsMembers (n + 1) := by
  intro cs h hn rest
  cases h with
  | one h => exact skipMembers_of_isMember hvalues h (by omega) (ends_cons (by decide) _)
  | @more cs members h hmore =>
    rw [List.length_append, List.length_cons] at hn
    rw [List.append_assoc, List.cons_append,
      skipMembers_of_isMember hvalues h (by omega) (ends_cons (by decide) _)]
    exact hmembers hmore (by omega) rest

/-- A bracket that is not closed at once opens a list of items. -/
theorem skipValue_bracket (n : Nat) {cs : List Char} (h : IsElements cs) (rest : List Char) :
    skipValue (n + 1) ('[' :: (cs ++ rest)) = skipItems n (cs ++ rest) := by
  obtain ⟨c, more, hfirst, hclose⟩ := exists_skipBlanks_elements h rest
  have hopening : skipBlanks ('[' :: (cs ++ rest)) = '[' :: (cs ++ rest) := rfl
  rw [← skipItems_skipBlanks n (cs ++ rest)]
  simp only [skipValue, hopening, hfirst]
  split
  · next he => exact absurd (List.cons.inj he).1 hclose
  · next he => exact absurd he (List.cons_ne_nil _ _)
  · rfl

/-- A brace that is not closed at once opens a list of members. -/
theorem skipValue_brace (n : Nat) {cs : List Char} (h : IsMembers cs) (rest : List Char) :
    skipValue (n + 1) ('\x7b' :: (cs ++ rest)) = skipMembers n (cs ++ rest) := by
  obtain ⟨more, hfirst⟩ := exists_skipBlanks_members h rest
  have hopening : skipBlanks ('\x7b' :: (cs ++ rest)) = '\x7b' :: (cs ++ rest) := rfl
  rw [← skipMembers_skipBlanks n (cs ++ rest)]
  simp only [skipValue, hopening, hfirst]
  rfl

/-- A value takes one step more than what it consists of. -/
theorem skipsValues_succ (hitems : SkipsItems n) (hmembers : SkipsMembers n) :
    SkipsValues (n + 1) := by
  intro cs h hn rest hrest
  cases h with
  | null => exact readWord_append ['u', 'l', 'l'] rest
  | true => exact readWord_append ['r', 'u', 'e'] rest
  | false => exact readWord_append ['a', 'l', 's', 'e'] rest
  | string hraw =>
    obtain ⟨s, hread⟩ := readString_of_isStringBody hraw [] rest
    rw [List.cons_append, List.append_assoc]
    exact map_eq_ok.mpr ⟨_, hread, rfl⟩
  | number hnumber =>
    rcases hnumber with hnumeral | ⟨numeral, hnumeral, rfl⟩
    · obtain ⟨d, digits, rfl, hd⟩ := exists_digit_of_isNumeral hnumeral
      obtain ⟨_, hread⟩ := readNumeral_append .badNumber hnumeral hrest
      rw [List.cons_append, skipValue_of_isDigit hd]
      exact map_eq_ok.mpr ⟨_, hread, rfl⟩
    · obtain ⟨_, hread⟩ := readNumeral_append .badNumber hnumeral hrest
      exact map_eq_ok.mpr ⟨_, hread, rfl⟩
  | @emptyArray ws hws =>
    have hclose : skipBlanks (ws ++ ']' :: rest) = ']' :: rest := skipBlanks_append hws _
    have hopening : skipBlanks ('[' :: (ws ++ ']' :: rest)) = '[' :: (ws ++ ']' :: rest) := rfl
    rw [List.cons_append, List.append_assoc, List.singleton_append]
    simp only [skipValue, hopening, hclose]
  | array helements =>
    rw [List.length_cons, List.length_append, List.length_singleton] at hn
    rw [List.cons_append, List.append_assoc, List.singleton_append, skipValue_bracket n helements]
    exact hitems helements (by omega) rest
  | @emptyObject ws hws =>
    have hclose : skipBlanks (ws ++ '\x7d' :: rest) = '\x7d' :: rest := skipBlanks_append hws _
    have hopening : skipBlanks ('\x7b' :: (ws ++ '\x7d' :: rest))
      = '\x7b' :: (ws ++ '\x7d' :: rest) := rfl
    rw [List.cons_append, List.append_assoc, List.singleton_append]
    simp only [skipValue, hopening, hclose]
  | object h =>
    rw [List.length_cons, List.length_append, List.length_singleton] at hn
    rw [List.cons_append, List.append_assoc, List.singleton_append, skipValue_brace n h]
    exact hmembers h (by omega) rest

end Step

/-- **Values, items and members are skipped** with as many steps as their texts call
for. -/
theorem skips (n : Nat) : SkipsValues n ∧ SkipsItems n ∧ SkipsMembers n := by
  induction n with
  | zero =>
    refine ⟨fun h hn => ?_, fun h hn => by omega, fun h hn => by omega⟩
    obtain ⟨c, cs, rfl, -⟩ := begins_of_isValue h
    rw [List.length_cons] at hn
    omega
  | succ n ih =>
    obtain ⟨hvalues, hitems, hmembers⟩ := ih
    exact ⟨skipsValues_succ hitems hmembers, skipsItems_succ hvalues hitems,
      skipsMembers_succ hvalues hmembers⟩

/-- **A value with blanks around it is skipped**, whatever follows it, up to the blanks
after it. -/
theorem skipValue_stepBound {cs rest : List Char} (h : IsElement cs) (hrest : Ends rest) :
    ∃ ws, AreBlanks ws ∧ skipValue (stepBound (cs ++ rest)) (cs ++ rest) = .ok (ws ++ rest) := by
  refine skipValue_of_isElement (skips _).1 h ?_ hrest
  rw [stepBound, List.length_append]
  omega

end Switchboard.Json
