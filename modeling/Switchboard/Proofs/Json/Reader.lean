import Switchboard.Proofs.Json.Grammar

/-!
# What JSON texts mean

The grammar says which texts are values; here it says of which value each is the text
(`Denotes`). A string denotes what its units spell, an integer is written in decimal without
needless zeros, and of an object the members count in order, each name once. Numbers with a
fraction or an exponent, and those that need more than 64 bits, are left out: which double they
are is a matter of how they are read.

A text that denotes a value is read as this value (`read_of_encodes`), so no text denotes two.
What is written compactly denotes the value it was written for and nothing else
(`encodes_compact_iff`). This takes values whose integers fit 64 bits, without doubles, and
without two members of one name in an object (`IsExact`).
-/

namespace Switchboard.Json

open Text

/-! ## Texts of values -/

mutual

/-- **A text that denotes a value**, without blanks around it. -/
inductive Denotes : List Char → Json → Prop where
  | null : Denotes "null".toList .null
  | true : Denotes "true".toList (.bool Bool.true)
  | false : Denotes "false".toList (.bool Bool.false)
  | int {n : Int} : int64Min ≤ n → n < 18446744073709551616 →
    Denotes (decimal n).toList (.int n)
  | string {raw s : List Char} : Spells raw s →
    Denotes ('"' :: (raw ++ ['"'])) (.string (String.ofList s))
  | emptyArray {ws : List Char} : AreBlanks ws → Denotes ('[' :: (ws ++ [']'])) (.array [])
  | array {cs : List Char} {items : List Json} : DenoteItems cs items →
    Denotes ('[' :: (cs ++ [']'])) (.array items)
  | emptyObject {ws : List Char} : AreBlanks ws →
    Denotes ('\x7b' :: (ws ++ ['\x7d'])) (.object [])
  | object {cs : List Char} {members : List (String × Json)} : DenoteMembers cs members →
    (members.map Prod.fst).Nodup → Denotes ('\x7b' :: (cs ++ ['\x7d'])) (.object members)

/-- **A text that denotes a value**, with blanks around it. -/
inductive ElementDenotes : List Char → Json → Prop where
  | mk {before cs after : List Char} {v : Json} : AreBlanks before → Denotes cs v →
    AreBlanks after → ElementDenotes (before ++ (cs ++ after)) v

/-- **The items of a list** and the values they denote. -/
inductive DenoteItems : List Char → List Json → Prop where
  | one {cs : List Char} {v : Json} : ElementDenotes cs v → DenoteItems cs [v]
  | more {cs rest : List Char} {v : Json} {items : List Json} : ElementDenotes cs v →
    DenoteItems rest items → DenoteItems (cs ++ ',' :: rest) (v :: items)

/-- **A member of an object** with its name and the value it denotes. -/
inductive MemberDenotes : List Char → String × Json → Prop where
  | mk {before raw name middle cs : List Char} {v : Json} : AreBlanks before → Spells raw name →
    AreBlanks middle → ElementDenotes cs v →
    MemberDenotes (before ++ '"' :: (raw ++ '"' :: (middle ++ ':' :: cs))) (String.ofList name, v)

/-- **The members of an object** with their names and the values they denote. -/
inductive DenoteMembers : List Char → List (String × Json) → Prop where
  | one {cs : List Char} {m : String × Json} : MemberDenotes cs m → DenoteMembers cs [m]
  | more {cs rest : List Char} {m : String × Json} {members : List (String × Json)} :
    MemberDenotes cs m → DenoteMembers rest members →
    DenoteMembers (cs ++ ',' :: rest) (m :: members)

end

/-- **A text that encodes a value**, as a whole and with blanks around it. -/
def Encodes (text : String) (v : Json) : Prop := ElementDenotes text.toList v

/-! ## Meaning and form -/

/-- What spells a text has the form of a string. -/
theorem Spells.isStringBody {raw s : List Char} (h : Spells raw s) : IsStringBody raw := by
  induction h with
  | nil => exact .nil
  | @cons unit raw c s hunit _ ih =>
    cases hunit with
    | plain hcontrol hquote hbackslash => exact .cons (.plain hcontrol hquote hbackslash) ih
    | letter hletter => exact .cons (.letter hletter) ih
    | number hdigits => exact .cons (.number hdigits) ih
    | @pair high low _ _ _ _ _ _ hhigh hlow =>
      -- each half of a pair has the form of a unit of its own
      have hhalves := IsStringBody.cons (.number hhigh) (.cons (.number hlow) ih)
      simpa using hhalves

theorem isNumber_decimal (n : Int) : IsNumber (decimal n).toList := by
  have hnumeral (k : Nat) : IsNumeral (Nat.toDigits 10 k) :=
    ⟨_, _, _, isWhole_toDigits k, .none, .none, by simp⟩
  cases n with
  | ofNat k =>
    rw [Int.ofNat_eq_natCast, toList_decimal_ofNat]
    exact .inl (hnumeral k)
  | negSucc k =>
    rw [toList_decimal_negSucc]
    exact .inr ⟨_, hnumeral (k + 1), rfl⟩

mutual

/-- **What denotes a value has the form of one.** -/
theorem Denotes.isValue {cs : List Char} {v : Json} : Denotes cs v → IsValue cs
  | .null => .null
  | .true => .true
  | .false => .false
  | .int _ _ => .number (isNumber_decimal _)
  | .string hraw => .string hraw.isStringBody
  | .emptyArray hws => .emptyArray hws
  | .array hitems => .array hitems.isElements
  | .emptyObject hws => .emptyObject hws
  | .object hmembers _ => .object hmembers.isMembers

theorem ElementDenotes.isElement {cs : List Char} {v : Json} : ElementDenotes cs v → IsElement cs
  | .mk hbefore hvalue hafter => .mk hbefore hvalue.isValue hafter

theorem DenoteItems.isElements {cs : List Char} {items : List Json} :
    DenoteItems cs items → IsElements cs
  | .one h => .one h.isElement
  | .more h hrest => .more h.isElement hrest.isElements

theorem MemberDenotes.isMember {cs : List Char} {m : String × Json} :
    MemberDenotes cs m → IsMember cs
  | .mk hbefore hname hmiddle h => .mk hbefore hname.isStringBody hmiddle h.isElement

theorem DenoteMembers.isMembers {cs : List Char} {members : List (String × Json)} :
    DenoteMembers cs members → IsMembers cs
  | .one h => .one h.isMember
  | .more h hrest => .more h.isMember hrest.isMembers

end

/-! ## Reading -/

theorem readValue_skipBlanks (n : Nat) (cs : List Char) :
    readValue n (skipBlanks cs) = readValue n cs := by
  cases n with
  | zero => rfl
  | succ n => rw [readValue, readValue, skipBlanks_skipBlanks]

theorem readItems_skipBlanks (n : Nat) (cs : List Char) :
    readItems n (skipBlanks cs) = readItems n cs := by
  cases n with
  | zero => rfl
  | succ n => rw [readItems, readItems, readValue_skipBlanks]

theorem readMembers_skipBlanks (n : Nat) (before : List (String × Json)) (cs : List Char) :
    readMembers n before (skipBlanks cs) = readMembers n before cs := by
  cases n with
  | zero => rfl
  | succ n => rw [readMembers, readMembers, skipBlanks_skipBlanks]

/-- What begins with a digit is read as a number. -/
theorem readValue_of_isDigit {c : Char} (h : c.isDigit = true) (n : Nat)
    (rest : List Char) :
    readValue (n + 1) (c :: rest) = readNumber false (c :: rest) := by
  have hne : ∀ d : Char, d.isDigit = false → c ≠ d := by
    rintro d hd rfl
    exact Bool.noConfusion (h.symm.trans hd)
  rw [readValue, skipBlanks_cons (isJsonBlank_of_isDigit h)]
  -- none of the characters that begin other values is a digit
  simp [hne, h]

/-- **An integer is read back** where it fits. -/
theorem readValue_decimal {k : Int} (hmin : int64Min ≤ k)
    (hmax : k < 18446744073709551616) (n : Nat) {rest : List Char}
    (hrest : Ends rest) :
    readValue (n + 1) ((decimal k).toList ++ rest) = .ok (.int k, rest) := by
  cases k with
  | ofNat k =>
    rw [Int.ofNat_eq_natCast] at hmax ⊢
    have hread := readNumber_toDigits (n := k) (by omega) hrest
    have hdigit : ∀ c ∈ Nat.toDigits 10 k, c.isDigit = true :=
      fun c => isDigit_of_mem_toDigits
    rw [toList_decimal_ofNat]
    cases hd : Nat.toDigits 10 k with
    | nil => exact absurd hd Nat.toDigits_ne_nil
    | cons d ds =>
      rw [hd] at hread hdigit
      rw [List.cons_append, readValue_of_isDigit (hdigit d List.mem_cons_self)]
      exact hread
  | negSucc k =>
    rw [toList_decimal_negSucc, List.cons_append]
    rw [int64Min] at hmin
    have hread := readNumber_minus_toDigits (n := k + 1) (by omega) (by omega) hrest
    exact hread

/-- A member of a new name goes last. -/
theorem setMember_of_notMem {name : String} {members : List (String × Json)}
    (h : name ∉ members.map Prod.fst) (v : Json) :
    setMember name v members = members ++ [(name, v)] := by
  induction members with
  | nil => rfl
  | cons m members ih =>
    rw [List.map_cons, List.mem_cons, not_or] at h
    rw [setMember, if_neg (fun e => h.1 e.symm), ih h.2, List.cons_append]

/-- A bracket that is not closed at once opens a list of items. -/
theorem readValue_bracket {n : Nat} {cs rest after : List Char} {items : List Json}
    (h : IsElements cs) (hitems : readItems n (cs ++ rest) = .ok (items, after)) :
    readValue (n + 1) ('[' :: (cs ++ rest)) = .ok (.array items, after) := by
  obtain ⟨c, more, hfirst, hclose⟩ := exists_skipBlanks_elements h rest
  have hopening : skipBlanks ('[' :: (cs ++ rest)) = '[' :: (cs ++ rest) := rfl
  rw [← readItems_skipBlanks, hfirst] at hitems
  simp only [readValue, hopening, hfirst]
  split
  · next he => exact absurd (List.cons.inj he).1 hclose
  · exact bind_eq_ok.mpr ⟨_, hitems, rfl⟩

/-- A brace that is not closed at once opens an object with members. -/
theorem readValue_brace {n : Nat} {cs rest after : List Char} {members : List (String × Json)}
    (h : IsMembers cs) (hmembers : readMembers n [] (cs ++ rest) = .ok (members, after)) :
    readValue (n + 1) ('\x7b' :: (cs ++ rest)) = .ok (.object members, after) := by
  obtain ⟨more, hfirst⟩ := exists_skipBlanks_members h rest
  have hopening : skipBlanks ('\x7b' :: (cs ++ rest)) = '\x7b' :: (cs ++ rest) := rfl
  rw [← readMembers_skipBlanks, hfirst] at hmembers
  simp only [readValue, hopening, hfirst]
  exact bind_eq_ok.mpr ⟨_, hmembers, rfl⟩

/-- Texts that are not too long for a number of steps are read as the values they denote. -/
def ReadsValues (n : Nat) : Prop :=
  ∀ {cs : List Char} {v : Json}, Denotes cs v → 2 * cs.length ≤ n → ∀ {rest}, Ends rest →
    readValue n (cs ++ rest) = .ok (v, rest)

/-- Items of such texts are read up to the closing bracket. -/
def ReadsItems (n : Nat) : Prop :=
  ∀ {cs : List Char} {items : List Json}, DenoteItems cs items → 2 * cs.length + 1 ≤ n →
    ∀ rest, readItems n (cs ++ ']' :: rest) = .ok (items, rest)

/-- Members of such texts are read up to the closing brace, behind the members read before. -/
def ReadsMembers (n : Nat) : Prop :=
  ∀ {cs : List Char} {members : List (String × Json)}, DenoteMembers cs members →
    2 * cs.length + 1 ≤ n → ∀ before rest, ((before ++ members).map Prod.fst).Nodup →
    readMembers n before (cs ++ '\x7d' :: rest) = .ok (before ++ members, rest)

section Step

variable {n : Nat}

/-- An element is read up to the blanks after its value. -/
theorem readValue_of_elementDenotes (hvalues : ReadsValues n) {cs rest : List Char} {v : Json}
    (h : ElementDenotes cs v) (hn : 2 * cs.length ≤ n) (hrest : Ends rest) :
    ∃ ws, AreBlanks ws ∧ readValue n (cs ++ rest) = .ok (v, ws ++ rest) := by
  obtain @⟨before, cs, after, v, hbefore, hvalue, hafter⟩ := h
  rw [List.length_append, List.length_append] at hn
  refine ⟨after, hafter, ?_⟩
  rw [List.append_assoc, List.append_assoc, ← readValue_skipBlanks, skipBlanks_append hbefore,
    readValue_skipBlanks]
  exact hvalues hvalue (by omega) (ends_append hafter hrest)

theorem readItems_of_elementDenotes (hvalues : ReadsValues n) {cs rest : List Char} {v : Json}
    (h : ElementDenotes cs v) (hn : 2 * cs.length ≤ n) (hrest : Ends rest) :
    readItems (n + 1) (cs ++ rest) = match skipBlanks rest with
      | ',' :: rest => readItems n rest >>= fun p => .ok (v :: p.1, p.2)
      | ']' :: rest => .ok ([v], rest)
      | [] => .error ⟨.endInList, 0⟩
      | rest => .error (.inside .listGoesOn rest) := by
  obtain ⟨ws, hws, hread⟩ := readValue_of_elementDenotes hvalues h hn hrest
  rw [← skipBlanks_append hws, readItems, hread]
  rfl

/-- Items take one step more than the first of them and than the others. -/
theorem readsItems_succ (hvalues : ReadsValues n) (hitems : ReadsItems n) :
    ReadsItems (n + 1) := by
  intro cs items h hn rest
  cases h with
  | one h => exact readItems_of_elementDenotes hvalues h (by omega) (ends_cons (by decide) _)
  | @more cs more v items h hmore =>
    rw [List.length_append, List.length_cons] at hn
    rw [List.append_assoc, List.cons_append,
      readItems_of_elementDenotes hvalues h (by omega) (ends_cons (by decide) _)]
    exact bind_eq_ok.mpr ⟨_, hitems hmore (by omega) rest, rfl⟩

theorem readMembers_of_memberDenotes (hvalues : ReadsValues n) {cs rest : List Char}
    {m : String × Json} (h : MemberDenotes cs m) (hn : 2 * cs.length ≤ n) (hrest : Ends rest)
    (before : List (String × Json)) :
    readMembers (n + 1) before (cs ++ rest) = match skipBlanks rest with
      | ',' :: rest => readMembers n (setMember m.1 m.2 before) rest
      | '\x7d' :: rest => .ok (setMember m.1 m.2 before, rest)
      | [] => .error ⟨.endInObject, 0⟩
      | rest => .error (.inside .objectGoesOn rest) := by
  obtain @⟨blanks, raw, name, middle, cs, v, hblanks, hname, hmiddle, hvalue⟩ := h
  simp only [List.length_append, List.length_cons] at hn
  obtain ⟨ws, hws, hread⟩ := readValue_of_elementDenotes hvalues hvalue (by omega) hrest
  have hstring := readString_of_spells hname [] (middle ++ ':' :: (cs ++ rest))
  have hquote : ∀ more, skipBlanks ('"' :: more) = '"' :: more := fun _ => rfl
  have hcolon : ∀ more, skipBlanks (':' :: more) = ':' :: more := fun _ => rfl
  rw [← skipBlanks_append hws, readMembers, List.append_assoc, skipBlanks_append hblanks,
    List.cons_append, hquote]
  simp only [List.append_assoc, List.cons_append, hstring, Except.bind, bind]
  rw [skipBlanks_append hmiddle, hcolon]
  simp only [hread]
  rfl

/-- Members take one step more than the value of the first of them and than the others. -/
theorem readsMembers_succ (hvalues : ReadsValues n) (hmembers : ReadsMembers n) :
    ReadsMembers (n + 1) := by
  intro cs members h hn before rest hnodup
  -- the name of the first member is none of the names read before
  have hnew : ∀ {m : String × Json} {after : List (String × Json)},
      ((before ++ m :: after).map Prod.fst).Nodup → m.1 ∉ before.map Prod.fst := by
    intro m after hnodup hmem
    rw [List.map_append, List.nodup_append] at hnodup
    exact hnodup.2.2 m.1 hmem m.1 (by simp) rfl
  cases h with
  | one h =>
    rw [readMembers_of_memberDenotes hvalues h (by omega) (ends_cons (by decide) _),
      setMember_of_notMem (hnew hnodup)]
    rfl
  | @more cs more m members h hmore =>
    rw [List.length_append, List.length_cons] at hn
    rw [List.append_assoc, List.cons_append,
      readMembers_of_memberDenotes hvalues h (by omega) (ends_cons (by decide) _),
      setMember_of_notMem (hnew hnodup)]
    rw [List.append_cons] at hnodup
    exact (hmembers hmore (by omega) (before ++ [m]) rest hnodup).trans (by
      rw [List.append_assoc, List.singleton_append])

/-- A value takes one step more than what it consists of. -/
theorem readsValues_succ (hitems : ReadsItems n) (hmembers : ReadsMembers n) :
    ReadsValues (n + 1) := by
  intro cs v h hn rest hrest
  cases h with
  | null => exact bind_eq_ok.mpr ⟨rest, readWord_append ['u', 'l', 'l'] rest, rfl⟩
  | true => exact bind_eq_ok.mpr ⟨rest, readWord_append ['r', 'u', 'e'] rest, rfl⟩
  | false => exact bind_eq_ok.mpr ⟨rest, readWord_append ['a', 'l', 's', 'e'] rest, rfl⟩
  | int hmin hmax => exact readValue_decimal hmin hmax n hrest
  | string hraw =>
    rw [List.cons_append, List.append_assoc]
    exact bind_eq_ok.mpr ⟨_, readString_of_spells hraw [] rest, rfl⟩
  | @emptyArray ws hws =>
    have hclose : skipBlanks (ws ++ ']' :: rest) = ']' :: rest := skipBlanks_append hws _
    have hopening : skipBlanks ('[' :: (ws ++ ']' :: rest)) = '[' :: (ws ++ ']' :: rest) := rfl
    rw [List.cons_append, List.append_assoc, List.singleton_append]
    simp only [readValue, hopening, hclose]
  | array h =>
    rw [List.length_cons, List.length_append, List.length_singleton] at hn
    rw [List.cons_append, List.append_assoc, List.singleton_append]
    exact readValue_bracket h.isElements (hitems h (by omega) rest)
  | @emptyObject ws hws =>
    have hclose : skipBlanks (ws ++ '\x7d' :: rest) = '\x7d' :: rest := skipBlanks_append hws _
    have hopening : skipBlanks ('\x7b' :: (ws ++ '\x7d' :: rest))
      = '\x7b' :: (ws ++ '\x7d' :: rest) := rfl
    rw [List.cons_append, List.append_assoc, List.singleton_append]
    simp only [readValue, hopening, hclose]
  | object h hnodup =>
    rw [List.length_cons, List.length_append, List.length_singleton] at hn
    rw [List.cons_append, List.append_assoc, List.singleton_append]
    exact readValue_brace h.isMembers (hmembers h (by omega) [] rest hnodup)

end Step

/-- **Values, items and members are read** with as many steps as their texts call for. -/
theorem readsBack (n : Nat) : ReadsValues n ∧ ReadsItems n ∧ ReadsMembers n := by
  induction n with
  | zero =>
    refine ⟨fun h hn => ?_, fun h hn => by omega, fun h hn => by omega⟩
    obtain ⟨c, cs, rfl, -⟩ := begins_of_isValue h.isValue
    rw [List.length_cons] at hn
    omega
  | succ n ih =>
    obtain ⟨hvalues, hitems, hmembers⟩ := ih
    exact ⟨readsValues_succ hitems hmembers, readsItems_succ hvalues hitems,
      readsMembers_succ hvalues hmembers⟩

/-- **A text is read as the value it encodes.** -/
theorem read_of_encodes {text : String} {v : Json} (h : Encodes text v) : read text = .ok v := by
  have hbound : 2 * text.toList.length ≤ stepBound text.toList := by
    rw [stepBound]
    omega
  obtain ⟨ws, hws, hread⟩ := readValue_of_elementDenotes (readsBack _).1 h hbound ends_nil
  have hnothing : skipBlanks (ws ++ []) = [] := skipBlanks_append hws []
  rw [List.append_nil] at hread
  refine bind_eq_ok.mpr ⟨_, hread, ?_⟩
  dsimp only
  rw [hnothing]
  rfl

/-! ## Writing -/

mutual

/-- **A value that its text tells apart from all others.** -/
def IsExact : Json → Prop
  | .null | .bool _ | .string _ => True
  | .int n => int64Min ≤ n ∧ n < 18446744073709551616
  | .double _ => False
  | .array items => ItemsAreExact items
  | .object members => (members.map Prod.fst).Nodup ∧ MembersAreExact members

/-- All items of a list are exact. -/
def ItemsAreExact : List Json → Prop
  | [] => True
  | v :: rest => IsExact v ∧ ItemsAreExact rest

/-- All members of an object are exact. -/
def MembersAreExact : List (String × Json) → Prop
  | [] => True
  | (_, v) :: rest => IsExact v ∧ MembersAreExact rest

end

theorem toList_stringText (s : String) :
    (stringText s).toList = '"' :: (s.toList.flatMap escapeChar ++ ['"']) :=
  String.toList_ofList

/-- The text of a member. -/
def memberText (name : String) (v : Json) : String :=
  stringText name ++ ":" ++ compact v

/-- The texts of items or members, as a list of characters. -/
def joined (texts : List String) : List Char := (join "," texts).toList

@[simp] theorem joined_singleton (t : String) : joined [t] = t.toList := by
  rw [joined, join, String.intercalate_singleton]

@[simp] theorem joined_cons_cons (t u : String) (texts : List String) :
    joined (t :: u :: texts) = t.toList ++ ',' :: joined (u :: texts) := by
  rw [joined, join, String.intercalate_cons_cons, String.toList_append,
    String.toList_append, List.append_assoc]
  rfl

theorem toList_compact_array (items : List Json) :
    (compact (.array items)).toList = '[' :: (joined (compactItems items) ++ [']']) := by
  rw [compact, String.toList_append, String.toList_append]
  rfl

theorem toList_compact_object (members : List (String × Json)) :
    (compact (.object members)).toList
      = '\x7b' :: (joined (compactMembers members) ++ ['\x7d']) := by
  rw [compact, String.toList_append, String.toList_append]
  rfl

theorem toList_memberText (name : String) (v : Json) :
    (memberText name v).toList
      = '"' :: (name.toList.flatMap escapeChar ++ '"' :: ':' :: (compact v).toList) := by
  rw [memberText, String.toList_append, String.toList_append, toList_stringText]
  simp

/-- A control character is written by its number, in four digits. -/
theorem isHexNumber_digitChar {high low : Nat} (hhigh : high < 2) (hlow : low < 16) :
    IsHexNumber ['0', '0', Nat.digitChar high, Nat.digitChar low] (high * 16 + low) := by
  have hzero : hexDigit? '0' = some 0 := by decide
  refine ⟨0, 0, high, low, ?_, by omega⟩
  simp [hzero, hexDigit?_digitChar hlow, hexDigit?_digitChar (Nat.lt_trans hhigh (by decide))]

/-- **Each character is spelled by what it is written as.** -/
theorem spellsChar_escapeChar (c : Char) : SpellsChar (escapeChar c) c := by
  have hletter : ∀ {l d : Char}, c = d → (l, d) ∈ escapeLetters → SpellsChar ['\\', l] c := by
    rintro l d rfl h
    exact .letter h
  -- one case for each letter that escapes, then controls, then all others
  unfold escapeChar
  split_ifs with hquote hbackslash hline hreturn htab hback hfeed hlow hcontrol
  · exact hletter hquote (by decide)
  · exact hletter hbackslash (by decide)
  · exact hletter hline (by decide)
  · exact hletter hreturn (by decide)
  · exact hletter htab (by decide)
  · exact hletter hback (by decide)
  · exact hletter hfeed (by decide)
  · have hnumber := isHexNumber_digitChar (by decide : 0 < 2) hlow
    exact .number (by rwa [Nat.zero_mul, Nat.zero_add] at hnumber)
  · have hnumber := isHexNumber_digitChar (by decide : 1 < 2)
      (show c.toNat - 16 < 16 by omega)
    exact .number (by rwa [show 1 * 16 + (c.toNat - 16) = c.toNat by omega] at hnumber)
  · exact .plain (Nat.not_lt.mp hcontrol) hquote hbackslash

theorem spells_escapeChar (text : List Char) : Spells (text.flatMap escapeChar) text := by
  induction text with
  | nil => exact .nil
  | cons c text ih => exact .cons (spellsChar_escapeChar c) ih

theorem noBlanks : AreBlanks [] := fun _ h => nomatch h

/-- Blanks are not needed around a value. -/
theorem Denotes.element {cs : List Char} {v : Json} (h : Denotes cs v) : ElementDenotes cs v := by
  simpa using ElementDenotes.mk noBlanks h noBlanks

theorem denotes_stringText (s : String) : Denotes (stringText s).toList (.string s) := by
  have h := Denotes.string (spells_escapeChar s.toList)
  rwa [String.ofList_toList, ← toList_stringText] at h

theorem memberDenotes_memberText (name : String) {v : Json}
    (h : Denotes (compact v).toList v) : MemberDenotes (memberText name v).toList (name, v) := by
  have hmember := MemberDenotes.mk noBlanks (spells_escapeChar name.toList) noBlanks h.element
  rwa [String.ofList_toList, List.nil_append, List.nil_append, ← toList_memberText] at hmember

mutual

/-- **A compact text denotes the value it was written for.** -/
theorem denotes_compact : ∀ {v : Json}, v.IsExact → Denotes (compact v).toList v
  | .null, _ => .null
  | .bool true, _ => .true
  | .bool false, _ => .false
  | .int _, h => .int h.1 h.2
  | .double _, h => h.elim
  | .string s, _ => denotes_stringText s
  | .array [], _ => .emptyArray noBlanks
  | .array (v :: items), h => by
    rw [toList_compact_array]
    exact .array (denoteItems_compactItems (List.cons_ne_nil v items) h)
  | .object [], _ => .emptyObject noBlanks
  | .object (m :: members), h => by
    rw [toList_compact_object]
    exact .object (denoteMembers_compactMembers (List.cons_ne_nil m members) h.2) h.1

theorem denoteItems_compactItems : ∀ {items : List Json}, items ≠ [] → ItemsAreExact items →
    DenoteItems (joined (compactItems items)) items
  | [v], _, h => by
    rw [compactItems, compactItems, joined_singleton]
    exact .one (denotes_compact h.1).element
  | v :: w :: items, _, h => by
    rw [compactItems, compactItems, joined_cons_cons, ← compactItems]
    exact .more (denotes_compact h.1).element
      (denoteItems_compactItems (List.cons_ne_nil w items) h.2)

theorem denoteMembers_compactMembers : ∀ {members : List (String × Json)}, members ≠ [] →
    MembersAreExact members → DenoteMembers (joined (compactMembers members)) members
  | [(name, v)], _, h => by
    rw [compactMembers, compactMembers, ← memberText, joined_singleton]
    exact .one (memberDenotes_memberText name (denotes_compact h.1))
  | (name, v) :: m :: members, _, h => by
    obtain ⟨other, w⟩ := m
    rw [compactMembers, compactMembers, ← memberText, joined_cons_cons, ← compactMembers]
    exact .more (memberDenotes_memberText name (denotes_compact h.1))
      (denoteMembers_compactMembers (List.cons_ne_nil _ members) h.2)

end

/-- **A compact text encodes the value it was written for.** -/
theorem encodes_compact {v : Json} (h : v.IsExact) : Encodes (compact v) v :=
  (denotes_compact h).element

/-- **A value is read back from its text.** -/
theorem read_compact {v : Json} (h : v.IsExact) : read (compact v) = .ok v :=
  read_of_encodes (encodes_compact h)

/-- **No text encodes two values.** -/
theorem encodes_unique {text : String} {v w : Json} (hv : Encodes text v) (hw : Encodes text w) :
    v = w :=
  Except.ok.inj ((read_of_encodes hv).symm.trans (read_of_encodes hw))

/-- **A compact text encodes the value it was written for and nothing else.** -/
theorem encodes_compact_iff {v : Json} (h : v.IsExact) {w : Json} :
    Encodes (compact v) w ↔ w = v := by
  constructor
  · intro hw
    exact encodes_unique hw (encodes_compact h)
  · rintro rfl
    exact encodes_compact h

end Switchboard.Json
