import Switchboard.Proofs.Success
import Switchboard.Text.Utf8

/-!
# The bytes that are a text

A reading in UTF-8 goes byte by byte, and what it takes for a character is a sequence
within certain bounds (`IsSequence`). Bounds of this kind are easily a little too wide:
a sequence longer than its character needs, half of a surrogate pair, a number that is
no character at all. These are not: the sequences within the bounds are exactly those
that characters are written as (`isSequence_iff`). So bytes are read without a fault
exactly when they are the bytes of a text, and then as that text
(`decodeUtf8_eq_ok_iff`).

A part of a text can be named by the places in bytes where it begins and ends, and is
there only if no character stands across either (`slice?_append`).
-/

namespace Switchboard.Text

/-! ## Sequences -/

/-- **The byte sequences that are taken for a character**, by their length. -/
inductive IsSequence : List UInt8 → Char → Prop where
  /-- One byte. -/
  | one {a : UInt8} (first : a < 0x80) : IsSequence [a] (Char.ofNat a.toNat)
  /-- Two bytes. -/
  | two {a b : UInt8} (first : 0xc2 ≤ a ∧ a ≤ 0xdf) (second : isContinuation b = true) :
    IsSequence [a, b] (Char.ofNat (a.toNat % 0x20 * 0x40 + lowBits b))
  /-- Three bytes. -/
  | three {a b c : UInt8} (first : 0xe0 ≤ a ∧ a ≤ 0xef)
    (second : secondAllowed a b = true) (third : isContinuation c = true) :
    IsSequence [a, b, c]
      (Char.ofNat ((a.toNat % 0x10 * 0x40 + lowBits b) * 0x40 + lowBits c))
  /-- Four bytes. -/
  | four {a b c d : UInt8} (first : 0xf0 ≤ a ∧ a ≤ 0xf4)
    (second : secondAllowed a b = true) (third : isContinuation c = true)
    (fourth : isContinuation d = true) :
    IsSequence [a, b, c, d]
      (Char.ofNat (((a.toNat % 0x8 * 0x40 + lowBits b) * 0x40 + lowBits c) * 0x40
        + lowBits d))

/-- What a step takes for a character is a sequence. -/
theorem isSequence_of_utf8Step {a : UInt8} {rest : List UInt8} {ch : Char} {more : Nat}
    (h : utf8Step a rest = .char ch more) :
    ∃ tail after, rest = tail ++ after ∧ more = tail.length ∧ IsSequence (a :: tail) ch := by
  revert h
  -- the cases that are no character are those without a sequence to give
  fun_cases utf8Step a rest
  all_goals
    intro h
    cases h
  case case1 first => exact ⟨[], rest, rfl, rfl, .one first⟩
  case case3 first b after second => exact ⟨[b], after, rfl, rfl, .two first second⟩
  case case7 first b second c after third =>
    exact ⟨[b, c], after, rfl, rfl, .three first second third⟩
  case case13 first b second c third d after fourth =>
    exact ⟨[b, c, d], after, rfl, rfl, .four first second third fourth⟩

/-- A sequence is taken for its character, whatever follows it. -/
theorem IsSequence.utf8Step {bytes : List UInt8} {ch : Char} (h : IsSequence bytes ch)
    (after : List UInt8) :
    ∃ a tail, bytes = a :: tail
      ∧ Text.utf8Step a (tail ++ after) = .char ch tail.length := by
  cases h with
  | @one a first => exact ⟨a, [], rfl, if_pos first⟩
  | @two a b first second =>
    have hone : ¬a < 0x80 := by grind
    exact ⟨a, [b], rfl, by simp [Text.utf8Step, hone, first, second]⟩
  | @three a b c first second third =>
    have hone : ¬a < 0x80 := by grind
    have htwo : ¬(0xc2 ≤ a ∧ a ≤ 0xdf) := by grind
    exact ⟨a, [b, c], rfl, by simp [Text.utf8Step, hone, htwo, first, second, third]⟩
  | @four a b c d first second third fourth =>
    have hone : ¬a < 0x80 := by grind
    have htwo : ¬(0xc2 ≤ a ∧ a ≤ 0xdf) := by grind
    have hthree : ¬(0xe0 ≤ a ∧ a ≤ 0xef) := by grind
    exact ⟨a, [b, c, d], rfl,
      by simp [Text.utf8Step, hone, htwo, hthree, first, second, third, fourth]⟩

theorem isContinuation_iff {b : UInt8} :
    isContinuation b = true ↔ 0x80 ≤ b.toNat ∧ b.toNat ≤ 0xbf := by
  simp [isContinuation, UInt8.le_iff_toNat_le]

/-- The second byte of a longer sequence goes on with it, within bounds that depend on
the first byte. -/
theorem secondAllowed_iff {a b : UInt8} :
    secondAllowed a b = true
      ↔ 0x80 ≤ b.toNat ∧ b.toNat ≤ 0xbf
        ∧ (a.toNat = 0xe0 → 0xa0 ≤ b.toNat) ∧ (a.toNat = 0xed → b.toNat ≤ 0x9f)
        ∧ (a.toNat = 0xf0 → 0x90 ≤ b.toNat) ∧ (a.toNat = 0xf4 → b.toNat ≤ 0x8f) := by
  unfold secondAllowed isContinuation
  simp only [← UInt8.toNat_inj, UInt8.le_iff_toNat_le, UInt8.toNat_ofNat, Nat.reducePow,
    Nat.reduceMod]
  split_ifs <;> simp only [Bool.and_eq_true, decide_eq_true_eq] <;> omega

/-! ## Characters as bytes -/

theorem toNat_ofNat_of_isValidChar {n : Nat} (h : n.isValidChar) :
    (Char.ofNat n).toNat = n := by
  rw [Char.ofNat, dif_pos h]
  rfl

theorem utf8EncodeChar_eq (ch : Char) :
    String.utf8EncodeChar ch
      = if ch.toNat ≤ 0x7f then [UInt8.ofNat ch.toNat]
        else if ch.toNat ≤ 0x7ff then
          [UInt8.ofNat (ch.toNat / 64 % 0x20 + 0xc0), UInt8.ofNat (ch.toNat % 0x40 + 0x80)]
        else if ch.toNat ≤ 0xffff then
          [UInt8.ofNat (ch.toNat / 4096 % 0x10 + 0xe0),
            UInt8.ofNat (ch.toNat / 64 % 0x40 + 0x80), UInt8.ofNat (ch.toNat % 0x40 + 0x80)]
        else
          [UInt8.ofNat (ch.toNat / 262144 % 0x08 + 0xf0),
            UInt8.ofNat (ch.toNat / 4096 % 0x40 + 0x80),
            UInt8.ofNat (ch.toNat / 64 % 0x40 + 0x80), UInt8.ofNat (ch.toNat % 0x40 + 0x80)] :=
  rfl

/-- A sequence is what its character is written as. -/
theorem IsSequence.eq_utf8EncodeChar {bytes : List UInt8} {ch : Char}
    (h : IsSequence bytes ch) : bytes = String.utf8EncodeChar ch := by
  cases h with
  | @one a first =>
    have ha : a.toNat < 0x80 := first
    rw [utf8EncodeChar_eq, toNat_ofNat_of_isValidChar (.inl (by omega)),
      if_pos (by omega), UInt8.ofNat_toNat]
  | @two a b first second =>
    have ha : 0xc2 ≤ a.toNat ∧ a.toNat ≤ 0xdf := first
    rw [isContinuation_iff] at second
    rw [utf8EncodeChar_eq, lowBits, toNat_ofNat_of_isValidChar (.inl (by omega)),
      if_neg (by omega), if_pos (by omega)]
    simp only [List.cons.injEq, ← UInt8.toNat_inj, UInt8.toNat_ofNat', and_true]
    omega
  | @three a b c first second third =>
    have ha : 0xe0 ≤ a.toNat ∧ a.toNat ≤ 0xef := first
    rw [secondAllowed_iff] at second
    rw [isContinuation_iff] at third
    rw [utf8EncodeChar_eq, lowBits, lowBits,
      toNat_ofNat_of_isValidChar (by unfold Nat.isValidChar; omega),
      if_neg (by omega), if_neg (by omega), if_pos (by omega)]
    simp only [List.cons.injEq, ← UInt8.toNat_inj, UInt8.toNat_ofNat', and_true]
    omega
  | @four a b c d first second third fourth =>
    have ha : 0xf0 ≤ a.toNat ∧ a.toNat ≤ 0xf4 := first
    rw [secondAllowed_iff] at second
    rw [isContinuation_iff] at third fourth
    rw [utf8EncodeChar_eq, lowBits, lowBits, lowBits,
      toNat_ofNat_of_isValidChar (by unfold Nat.isValidChar; omega),
      if_neg (by omega), if_neg (by omega), if_neg (by omega)]
    simp only [List.cons.injEq, ← UInt8.toNat_inj, UInt8.toNat_ofNat', and_true]
    omega

/-- What a character is written as is a sequence. -/
theorem isSequence_utf8EncodeChar (ch : Char) :
    IsSequence (String.utf8EncodeChar ch) ch := by
  have hvalid : ch.toNat < 0xd800 ∨ 0xdfff < ch.toNat ∧ ch.toNat < 0x110000 := ch.valid
  have hch : Char.ofNat ch.toNat = ch := Char.ofNat_toNat ch
  rw [utf8EncodeChar_eq]
  generalize ch.toNat = n at hvalid hch
  split_ifs with hone htwo hthree
  · have hseq := IsSequence.one (a := UInt8.ofNat n)
      (show (UInt8.ofNat n).toNat < 0x80 by rw [UInt8.toNat_ofNat']; omega)
    have hvalue : (UInt8.ofNat n).toNat = n := by
      rw [UInt8.toNat_ofNat']
      omega
    rwa [hvalue, hch] at hseq
  · have hseq := IsSequence.two (a := UInt8.ofNat (n / 64 % 0x20 + 0xc0))
      (b := UInt8.ofNat (n % 0x40 + 0x80))
      (show 0xc2 ≤ (UInt8.ofNat _).toNat ∧ (UInt8.ofNat _).toNat ≤ 0xdf by
        rw [UInt8.toNat_ofNat']; omega)
      (by simp only [isContinuation_iff, UInt8.toNat_ofNat']; omega)
    have hvalue : (UInt8.ofNat (n / 64 % 0x20 + 0xc0)).toNat % 0x20 * 0x40
        + lowBits (UInt8.ofNat (n % 0x40 + 0x80)) = n := by
      simp only [lowBits, UInt8.toNat_ofNat']
      omega
    rwa [hvalue, hch] at hseq
  · have hseq := IsSequence.three (a := UInt8.ofNat (n / 4096 % 0x10 + 0xe0))
      (b := UInt8.ofNat (n / 64 % 0x40 + 0x80)) (c := UInt8.ofNat (n % 0x40 + 0x80))
      (show 0xe0 ≤ (UInt8.ofNat _).toNat ∧ (UInt8.ofNat _).toNat ≤ 0xef by
        rw [UInt8.toNat_ofNat']; omega)
      (by simp only [secondAllowed_iff, UInt8.toNat_ofNat']; omega)
      (by simp only [isContinuation_iff, UInt8.toNat_ofNat']; omega)
    have hvalue : ((UInt8.ofNat (n / 4096 % 0x10 + 0xe0)).toNat % 0x10 * 0x40
        + lowBits (UInt8.ofNat (n / 64 % 0x40 + 0x80))) * 0x40
        + lowBits (UInt8.ofNat (n % 0x40 + 0x80)) = n := by
      simp only [lowBits, UInt8.toNat_ofNat']
      omega
    rwa [hvalue, hch] at hseq
  · have hseq := IsSequence.four (a := UInt8.ofNat (n / 262144 % 0x08 + 0xf0))
      (b := UInt8.ofNat (n / 4096 % 0x40 + 0x80)) (c := UInt8.ofNat (n / 64 % 0x40 + 0x80))
      (d := UInt8.ofNat (n % 0x40 + 0x80))
      (show 0xf0 ≤ (UInt8.ofNat _).toNat ∧ (UInt8.ofNat _).toNat ≤ 0xf4 by
        rw [UInt8.toNat_ofNat']; omega)
      (by simp only [secondAllowed_iff, UInt8.toNat_ofNat']; omega)
      (by simp only [isContinuation_iff, UInt8.toNat_ofNat']; omega)
      (by simp only [isContinuation_iff, UInt8.toNat_ofNat']; omega)
    have hvalue : (((UInt8.ofNat (n / 262144 % 0x08 + 0xf0)).toNat % 0x8 * 0x40
        + lowBits (UInt8.ofNat (n / 4096 % 0x40 + 0x80))) * 0x40
        + lowBits (UInt8.ofNat (n / 64 % 0x40 + 0x80))) * 0x40
        + lowBits (UInt8.ofNat (n % 0x40 + 0x80)) = n := by
      simp only [lowBits, UInt8.toNat_ofNat']
      omega
    rwa [hvalue, hch] at hseq

/-- **The sequences are what characters are written as.** -/
theorem isSequence_iff {bytes : List UInt8} {ch : Char} :
    IsSequence bytes ch ↔ bytes = String.utf8EncodeChar ch :=
  ⟨IsSequence.eq_utf8EncodeChar, fun h => h ▸ isSequence_utf8EncodeChar ch⟩

/-! ## Texts -/

theorem utf8_ofList (cs : List Char) :
    utf8 (String.ofList cs) = cs.flatMap String.utf8EncodeChar := by
  show (String.ofList cs).toByteArray.data.toList = _
  rw [String.toByteArray_ofList, List.utf8Encode]
  simp

/-- **Bytes are read as a text exactly when they are its bytes.** -/
theorem decodeUtf8_eq_ok_iff {index : Nat} {bytes : List UInt8} {cs : List Char} :
    decodeUtf8 index bytes = .ok cs ↔ bytes = utf8 (String.ofList cs) := by
  rw [utf8_ofList]
  constructor
  · intro h
    fun_induction decodeUtf8 index bytes generalizing cs with
    | case1 => rw [← Except.ok.inj h, List.flatMap_nil]
    | case2 index a rest ch more hstep ih =>
      obtain ⟨cs', hrest, rfl⟩ := map_eq_ok.mp h
      obtain ⟨tail, after, rfl, rfl, hseq⟩ := isSequence_of_utf8Step hstep
      rw [List.drop_left] at ih hrest
      rw [List.flatMap_cons, ← isSequence_iff.mp hseq, ← ih hrest, List.cons_append]
    | case3 => exact nomatch h
    | case4 => exact nomatch h
  · rintro rfl
    induction cs generalizing index with
    | nil => rw [List.flatMap_nil, decodeUtf8]
    | cons ch cs ih =>
      obtain ⟨a, tail, hbytes, hstep⟩ :=
        (isSequence_utf8EncodeChar ch).utf8Step (cs.flatMap String.utf8EncodeChar)
      rw [List.flatMap_cons, hbytes, List.cons_append, decodeUtf8, hstep]
      dsimp only
      rw [List.drop_left, ih]
      rfl

/-! ## Slices -/

/-- **A place where a text may be cut**, counted in bytes: its end, or before a byte that goes on
with no sequence. -/
def isBoundary (bytes : List UInt8) (place : Nat) : Bool :=
  match bytes[place]? with
  | none => place = bytes.length
  | some b => !isContinuation b

/-- **The text between two places**, where it may be cut at both. -/
def slice? (s : String) (first last : Nat) : Option String :=
  let bytes := utf8 s
  if first ≤ last ∧ isBoundary bytes first ∧ isBoundary bytes last then
    textOfUtf8? ((bytes.take last).drop first)
  else none

/-- How many bytes characters are written as. -/
def byteCount (cs : List Char) : Nat := (cs.flatMap String.utf8EncodeChar).length

@[simp] theorem byteCount_append (a b : List Char) :
    byteCount (a ++ b) = byteCount a + byteCount b := by
  simp [byteCount]

theorem byteCount_concat (cs : List Char) (c : Char) :
    byteCount (cs ++ [c]) = byteCount cs + c.utf8Size := by
  simp [byteCount]

theorem length_utf8 (s : String) : (utf8 s).length = byteCount s.toList := by
  rw [byteCount, ← utf8_ofList, String.ofList_toList]

/-- A sequence begins with a byte that goes on with none. -/
theorem IsSequence.exists_cons {bytes : List UInt8} {ch : Char} (h : IsSequence bytes ch) :
    ∃ first tail, bytes = first :: tail ∧ isContinuation first = false := by
  have hout : ∀ {b : UInt8}, b < 0x80 ∨ 0xc2 ≤ b → isContinuation b = false := by
    intro b hb
    rw [← Bool.not_eq_true, isContinuation_iff]
    rcases hb with hb | hb
    · exact fun h => absurd (show b.toNat < 0x80 from hb) (by omega)
    · exact fun h => absurd (show 0xc2 ≤ b.toNat from hb) (by omega)
  cases h with
  | one first => exact ⟨_, _, rfl, hout (.inl first)⟩
  | two first _ => exact ⟨_, _, rfl, hout (.inr first.1)⟩
  | three first _ _ => exact ⟨_, _, rfl, hout (.inr (by grind))⟩
  | four first _ _ _ => exact ⟨_, _, rfl, hout (.inr (by grind))⟩

/-- **A text may be cut between any two of its characters.** -/
theorem isBoundary_byteCount (a b : List Char) :
    isBoundary ((a ++ b).flatMap String.utf8EncodeChar) (byteCount a) = true := by
  unfold isBoundary byteCount
  rw [List.flatMap_append, List.getElem?_append_right (Nat.le_refl _), Nat.sub_self]
  cases b with
  | nil => simp
  | cons c b =>
    obtain ⟨first, tail, hbytes, hfirst⟩ := (isSequence_utf8EncodeChar c).exists_cons
    simp [hbytes, hfirst]

/-- **A part of a text is cut out at its places.** -/
theorem slice?_append (a b c : List Char) {s : String} (h : s.toList = a ++ (b ++ c)) :
    slice? s (byteCount a) (byteCount (a ++ b)) = some (String.ofList b) := by
  have hbytes : utf8 s = (a ++ (b ++ c)).flatMap String.utf8EncodeChar := by
    rw [← h, ← utf8_ofList, String.ofList_toList]
  have hpart : ((utf8 s).take (byteCount (a ++ b))).drop (byteCount a)
      = utf8 (String.ofList b) := by
    have htake (x y : List Char) : ((x ++ y).flatMap String.utf8EncodeChar).take (byteCount x)
        = x.flatMap String.utf8EncodeChar := by
      rw [List.flatMap_append]
      exact List.take_left
    have hdrop (x y : List Char) : ((x ++ y).flatMap String.utf8EncodeChar).drop (byteCount x)
        = y.flatMap String.utf8EncodeChar := by
      rw [List.flatMap_append]
      exact List.drop_left
    rw [hbytes, ← List.append_assoc, htake, hdrop, utf8_ofList]
  have hfirst : isBoundary (utf8 s) (byteCount a) = true := hbytes ▸ isBoundary_byteCount a _
  have hlast : isBoundary (utf8 s) (byteCount (a ++ b)) = true := by
    rw [hbytes, ← List.append_assoc]
    exact isBoundary_byteCount (a ++ b) c
  have hle : byteCount a ≤ byteCount (a ++ b) := by simp
  unfold slice?
  rw [if_pos ⟨hle, hfirst, hlast⟩, hpart, textOfUtf8?, decodeUtf8_eq_ok_iff.mpr rfl]

end Switchboard.Text
