import Mathlib.Data.List.Basic
import Switchboard.Proofs.Text.Decimal
import Switchboard.Text.Quoted

/-!
# Reading a string literal back

A character is written as one unit of a literal, and that unit is read as the
character (`literalUnit?_escapeChar`). So a text as a literal is read back up to
the closing quote, whatever follows it (`readLiteral_escapeChar`): no character
of the text can end the literal before its end.

Two things follow for what stands around literals: the text of a literal is known
from it (`unquote?_quote`), and so is where it ends (`quote_append_inj`). To see the
end one need not read the escapes, only tell which quotes are escaped
(`closingQuote?_flatMap_escapeChar`), and the literal stays on its line, since all its
characters have glyphs (`isPrintable_of_mem_quote`).
-/

namespace Switchboard.Text

/-! ## Escapes by code point -/

/-- A further digit of a code point is read. -/
theorem readCodePoint_digitChar {d : Nat} (hd : d < 16) {value digits count : Nat}
    (hdigits : digits < 6) (rest : List Char) :
    readCodePoint value digits count (Nat.digitChar d :: rest)
      = readCodePoint (value * 16 + d) (digits + 1) (count + 1) rest := by
  have hplain : Nat.digitChar d ≠ '\x7d' ∧ Nat.digitChar d ≠ '_' := by
    revert d
    decide
  rw [readCodePoint, if_neg hplain.1, if_neg hplain.2, hexDigit?_digitChar hd]
  exact if_neg (Nat.ne_of_lt hdigits)

/-- **The digits of a code point are read** as the number they stand for. -/
theorem readCodePoint_toDigits {n : Nat} (h : (Nat.toDigits 16 n).length ≤ 6)
    (rest : List Char) :
    readCodePoint 0 0 0 (Nat.toDigits 16 n ++ rest)
      = readCodePoint n (Nat.toDigits 16 n).length (Nat.toDigits 16 n).length
          rest := by
  -- the digits are read from the left, but the last one is what they end with
  induction n using Nat.strongRecOn generalizing rest with
  | ind n ih =>
    by_cases hn : n < 16
    · rw [Nat.toDigits_of_lt_base hn, List.singleton_append,
        readCodePoint_digitChar hn (by decide), Nat.zero_mul, Nat.zero_add]
      rfl
    · rw [Nat.toDigits_of_base_le (by decide) (by omega)] at h ⊢
      rw [List.length_append, List.length_singleton] at h ⊢
      rw [List.append_assoc, ih (n / 16) (by omega) (by omega),
        List.singleton_append,
        readCodePoint_digitChar (Nat.mod_lt _ (by decide)) (by omega),
        Nat.div_add_mod']

/-- The code point of a character has no more than six digits. -/
theorem length_toDigits_toNat (c : Char) : (Nat.toDigits 16 c.toNat).length ≤ 6 := by
  rw [Nat.length_toDigits_le_iff (by decide) (by decide)]
  have hvalid : c.toNat.isValidChar := c.valid
  rw [Nat.isValidChar] at hvalid
  omega

/-- **The escape by code point is read** as the character. -/
theorem literalUnit?_escapeCodePoint (c : Char) (rest : List Char) :
    literalUnit? (escapeCodePoint c ++ rest)
      = some (.text (escapeCodePoint c).length [c]) := by
  have hchar : charOfNat? c.toNat = some c := by
    rw [charOfNat?, if_pos (show c.toNat.isValidChar from c.valid), Char.ofNat_toNat]
  have hread : readCodePoint 0 0 0 (Nat.toDigits 16 c.toNat ++ '\x7d' :: rest)
      = some (c, (Nat.toDigits 16 c.toNat).length + 1) := by
    rw [readCodePoint_toDigits (length_toDigits_toNat c), readCodePoint, if_pos rfl,
      if_neg (Nat.ne_of_gt Nat.length_toDigits_pos), hchar]
    rfl
  have hescape : escapeCodePoint c ++ rest
      = '\\' :: 'u' :: '\x7b' :: (Nat.toDigits 16 c.toNat ++ '\x7d' :: rest) := by
    simp [escapeCodePoint]
  have hlength : (escapeCodePoint c).length
      = (Nat.toDigits 16 c.toNat).length + 1 + 3 := by
    simp [escapeCodePoint]
  rw [hescape, literalUnit?, hread, hlength]
  rfl

/-! ## Units -/

/-- A character that needs no escape is a unit of its own. -/
theorem literalUnit?_of_plain {c : Char} (hquote : c ≠ '"') (hbackslash : c ≠ '\\')
    (hreturn : c ≠ '\r') (rest : List Char) :
    literalUnit? (c :: rest) = some (.text 1 [c]) := by
  rw [literalUnit?]
  all_goals simp_all

/-- **What a character is written as is read as one unit.** -/
theorem literalUnit?_escapeChar (c : Char) (rest : List Char) :
    literalUnit? (escapeChar c ++ rest)
      = some (.text (escapeChar c).length [c]) := by
  -- one case for each letter that escapes, then glyphs, then code points
  unfold escapeChar
  split
  · next h => rw [h]; rfl
  split
  · next h => rw [h]; rfl
  split
  · next h => rw [h]; rfl
  split
  · next h => rw [h]; rfl
  split
  · next h => rw [h]; rfl
  split
  · next h => rw [h]; rfl
  split
  · next hquote hbackslash _ hreturn _ _ _ =>
    exact literalUnit?_of_plain hquote hbackslash hreturn rest
  · exact literalUnit?_escapeCodePoint c rest

theorem escapeChar_ne_nil (c : Char) : escapeChar c ≠ [] := by
  unfold escapeChar escapeCodePoint
  split_ifs <;> exact List.cons_ne_nil _ _

/-! ## Literals -/

/-- The characters of a unit that has been read are passed over. -/
theorem readUnits_skip (unit? : List Char → Option LiteralUnit) (count : Nat)
    (text cs rest : List Char) :
    readUnits unit? cs.length count text (cs ++ rest)
      = readUnits unit? 0 (count + cs.length) text rest := by
  induction cs generalizing count with
  | nil => rfl
  | cons c cs ih =>
    rw [List.length_cons, List.cons_append, readUnits, ih, Nat.add_right_comm,
      Nat.add_assoc]

/-- A literal that has been read in part is read on up to its closing quote. -/
theorem readUnits_escapeChar (count : Nat) (text s rest : List Char) :
    readUnits literalUnit? 0 count text (s.flatMap escapeChar ++ '"' :: rest)
      = some (count + (s.flatMap escapeChar).length + 1,
          String.ofList (text.reverse ++ s)) := by
  induction s generalizing count text with
  | nil =>
    rw [List.append_nil]
    rfl
  | cons c s ih =>
    rw [List.flatMap_cons, List.append_assoc]
    have hunit := literalUnit?_escapeChar c (s.flatMap escapeChar ++ '"' :: rest)
    cases hc : escapeChar c with
    | nil => exact absurd hc (escapeChar_ne_nil c)
    | cons d ds =>
      rw [hc, List.cons_append] at hunit
      rw [List.cons_append, readUnits, hunit]
      dsimp only
      rw [List.length_cons, Nat.add_sub_cancel, readUnits_skip, ih]
      simp
      omega

/-- **A literal is read back** up to its closing quote. -/
theorem readLiteral_escapeChar (s rest : List Char) :
    readLiteral (s.flatMap escapeChar ++ '"' :: rest)
      = some ((s.flatMap escapeChar).length + 1, String.ofList s) := by
  rw [readLiteral, readUnits_escapeChar, Nat.zero_add]
  rfl

theorem toList_quote (s : String) :
    (quote s).toList = '"' :: s.toList.flatMap escapeChar ++ ['"'] := by
  rw [quote, String.toList_ofList]

/-- **A text as a literal is read as that text.** -/
theorem unquote?_quote (s : String) : unquote? (quote s).toList = some s := by
  have hread := readLiteral_escapeChar s.toList []
  rw [toList_quote, List.cons_append, unquote?, hread]
  simp

/-- **Where a literal ends can be told**: with what follows it, it is no other
literal with something else behind it. -/
theorem quote_append_inj {s t : String} {x y : List Char}
    (h : (quote s).toList ++ x = (quote t).toList ++ y) : s = t ∧ x = y := by
  have hrest : s.toList.flatMap escapeChar ++ '"' :: x
      = t.toList.flatMap escapeChar ++ '"' :: y := by
    simpa [toList_quote] using h
  have hread := congrArg readLiteral hrest
  rw [readLiteral_escapeChar, readLiteral_escapeChar, String.ofList_toList,
    String.ofList_toList] at hread
  have hst : s = t := congrArg Prod.snd (Option.some.inj hread)
  subst hst
  exact ⟨rfl, List.cons.inj (List.append_cancel_left hrest) |>.2⟩

/-! ## The characters of a literal -/

theorem exists_digitChar_of_mem_toDigits {n : Nat} {c : Char} (h : c ∈ Nat.toDigits 16 n) :
    ∃ d < 16, c = Nat.digitChar d := by
  induction n using Nat.strongRecOn with
  | ind n ih =>
    by_cases hn : n < 16
    · rw [Nat.toDigits_of_lt_base hn, List.mem_singleton] at h
      exact ⟨n, hn, h⟩
    · rw [Nat.toDigits_of_base_le (by decide) (by omega), List.mem_append,
        List.mem_singleton] at h
      rcases h with h | h
      · exact ih (n / 16) (by omega) h
      · exact ⟨n % 16, Nat.mod_lt _ (by decide), h⟩

/-- **A character is written as itself or as an escape**: a backslash, a character that it
escapes, and perhaps others that need no escape. All of them have glyphs. -/
theorem escapeChar_cases (c : Char) :
    (escapeChar c = [c] ∧ isPrintable c = true ∧ c ≠ '"' ∧ c ≠ '\\')
      ∨ ∃ d ds, escapeChar c = '\\' :: d :: ds ∧ isPrintable d = true
        ∧ ∀ x ∈ ds, isPrintable x = true ∧ x ≠ '"' ∧ x ≠ '\\' := by
  have letter {d : Char} (h : isPrintable d = true) :
      ∃ d' ds, ['\\', d] = '\\' :: d' :: ds ∧ isPrintable d' = true
        ∧ ∀ x ∈ ds, isPrintable x = true ∧ x ≠ '"' ∧ x ≠ '\\' :=
    ⟨d, [], rfl, h, fun _ hx => absurd hx List.not_mem_nil⟩
  unfold escapeChar
  -- six characters are escaped by a letter or by themselves
  iterate 6
    split
    · exact .inr (letter (by decide))
  split
  · next hquote hbackslash _ _ _ _ hprintable =>
    exact .inl ⟨rfl, hprintable, hquote, hbackslash⟩
  · refine .inr ⟨'u', '\x7b' :: Nat.toDigits 16 c.toNat ++ ['\x7d'], rfl,
      by decide, fun x hx => ?_⟩
    have hdigits : ∀ d < 16, isPrintable (Nat.digitChar d) = true
        ∧ Nat.digitChar d ≠ '"' ∧ Nat.digitChar d ≠ '\\' := by decide
    rcases List.mem_append.mp hx with hx | hx
    · rcases List.mem_cons.mp hx with rfl | hx
      · decide
      · obtain ⟨d, hd, rfl⟩ := exists_digitChar_of_mem_toDigits hx
        exact hdigits d hd
    · rw [List.mem_singleton.mp hx]
      decide

/-- **A literal is made of characters with glyphs**, whatever its text is made of. -/
theorem isPrintable_of_mem_quote {s : String} {c : Char} (h : c ∈ (quote s).toList) :
    isPrintable c = true := by
  have hquote : isPrintable '"' = true := by decide
  rw [toList_quote, List.cons_append, List.mem_cons, List.mem_append, List.mem_flatMap,
    List.mem_singleton] at h
  rcases h with rfl | ⟨d, -, hd⟩ | rfl
  · exact hquote
  · rcases escapeChar_cases d with ⟨hself, hprintable, -⟩ | ⟨e, es, hescape, he, hes⟩
    · rw [hself, List.mem_singleton] at hd
      exact hd ▸ hprintable
    · rw [hescape, List.mem_cons, List.mem_cons] at hd
      rcases hd with rfl | rfl | hd
      · decide
      · exact he
      · exact (hes c hd).1
  · exact hquote

/-- The characters that end a line. -/
def lineBreaks : List Char :=
  ['\n', '\x0b', '\x0c', '\r', '\u0085', '\u2028', '\u2029']

/-- **No literal is broken over lines.** -/
theorem notMem_quote_of_mem_lineBreaks (s : String) {c : Char} (h : c ∈ lineBreaks) :
    c ∉ (quote s).toList := by
  have hglyphless : (lineBreaks.all fun c => !isPrintable c) = true := by decide +kernel
  intro hc
  have hglyph := List.all_eq_true.mp hglyphless c h
  rw [isPrintable_of_mem_quote hc] at hglyph
  exact nomatch hglyph

/-- **Where the first quote stands that is not escaped**, a backslash escaping the character
behind it unless it is escaped itself. -/
def closingQuote? : List Char → Option Nat
  | [] => none
  | '"' :: _ => some 0
  | '\\' :: _ :: rest => (closingQuote? rest).map (· + 2)
  | _ :: rest => (closingQuote? rest).map (· + 1)

theorem closingQuote?_append {cs : List Char} (h : ∀ c ∈ cs, c ≠ '"' ∧ c ≠ '\\')
    (rest : List Char) :
    closingQuote? (cs ++ rest) = (closingQuote? rest).map (· + cs.length) := by
  induction cs with
  | nil => exact Option.map_id'.symm
  | cons c cs ih =>
    rw [List.forall_mem_cons] at h
    have hstep : closingQuote? (c :: (cs ++ rest))
        = (closingQuote? (cs ++ rest)).map (· + 1) := by
      rw [closingQuote?]
      · exact h.1.1
      · exact fun _ _ hc _ => h.1.2 hc
    rw [List.cons_append, hstep, ih h.2, Option.map_map]
    rfl

theorem closingQuote?_escapeChar (c : Char) (rest : List Char) :
    closingQuote? (escapeChar c ++ rest)
      = (closingQuote? rest).map (· + (escapeChar c).length) := by
  rcases escapeChar_cases c with ⟨hself, -, hplain⟩ | ⟨d, ds, hescape, -, hds⟩
  · rw [hself]
    exact closingQuote?_append (by simpa using hplain) rest
  · rw [hescape]
    show (closingQuote? (ds ++ rest)).map _ = _
    rw [closingQuote?_append (fun x hx => (hds x hx).2), Option.map_map]
    rfl

/-- **A literal has no quote before its end that is not escaped**, and the one at its end
is not. -/
theorem closingQuote?_flatMap_escapeChar (s rest : List Char) :
    closingQuote? (s.flatMap escapeChar ++ '"' :: rest)
      = some (s.flatMap escapeChar).length := by
  induction s with
  | nil => rfl
  | cons c s ih =>
    rw [List.flatMap_cons, List.append_assoc, closingQuote?_escapeChar, ih, List.length_append,
      Option.map_some, Nat.add_comm]

end Switchboard.Text
