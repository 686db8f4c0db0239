/-!
# Text in UTF-8

A text in UTF-8 is a row of sequences of one to four bytes. Where a sequence is
broken off by a byte that cannot go on with it, the bytes before that one are
at fault, at least one and at most three; where the text ends inside a
sequence, all of its bytes are.

A strict reading names the first fault. A lenient one puts the replacement
character in the place of each.
-/

namespace Switchboard.Text

/-- **What the front of a byte row is.** Counts leave out the first byte. -/
inductive Utf8Step where
  /-- A character, with `more` bytes after its first. -/
  | char (c : Char) (more : Nat)
  /-- A broken sequence, with `more` bytes after its first. -/
  | broken (more : Nat)
  /-- A sequence that the end of the text cuts off. -/
  | cut
deriving DecidableEq, Repr

/-- Whether a byte goes on with a sequence. -/
def isContinuation (b : UInt8) : Bool := 0x80 ≤ b && b ≤ 0xbf

/-- The last six bits of a byte. -/
def lowBits (b : UInt8) : Nat := b.toNat % 0x40

/-- The bytes that may come second after the first byte of a sequence of three
or four bytes. -/
def secondAllowed (first second : UInt8) : Bool :=
  if first = 0xe0 then 0xa0 ≤ second && second ≤ 0xbf
  else if first = 0xed then 0x80 ≤ second && second ≤ 0x9f
  else if first = 0xf0 then 0x90 ≤ second && second ≤ 0xbf
  else if first = 0xf4 then 0x80 ≤ second && second ≤ 0x8f
  else isContinuation second

/-- **The step at a byte**, given the bytes after it. -/
def utf8Step (first : UInt8) (rest : List UInt8) : Utf8Step :=
  if first < 0x80 then .char (Char.ofNat first.toNat) 0
  else if 0xc2 ≤ first ∧ first ≤ 0xdf then
    match rest with
    | [] => .cut
    | b :: _ =>
      if isContinuation b then
        .char (Char.ofNat (first.toNat % 0x20 * 0x40 + lowBits b)) 1
      else .broken 0
  else if 0xe0 ≤ first ∧ first ≤ 0xef then
    match rest with
    | [] => .cut
    | b :: rest =>
      if secondAllowed first b then
        match rest with
        | [] => .cut
        | c :: _ =>
          if isContinuation c then
            .char (Char.ofNat
              ((first.toNat % 0x10 * 0x40 + lowBits b) * 0x40 + lowBits c)) 2
          else .broken 1
      else .broken 0
  else if 0xf0 ≤ first ∧ first ≤ 0xf4 then
    match rest with
    | [] => .cut
    | b :: rest =>
      if secondAllowed first b then
        match rest with
        | [] => .cut
        | c :: rest =>
          if isContinuation c then
            match rest with
            | [] => .cut
            | d :: _ =>
              if isContinuation d then
                .char (Char.ofNat
                  (((first.toNat % 0x8 * 0x40 + lowBits b) * 0x40 + lowBits c)
                    * 0x40 + lowBits d)) 3
              else .broken 2
          else .broken 1
      else .broken 0
  else .broken 0

/-- **A fault of a strict reading.** -/
inductive Utf8Fault where
  /-- A broken sequence of `count` bytes. -/
  | broken (count index : Nat)
  /-- A sequence cut off by the end. -/
  | cut (index : Nat)
deriving DecidableEq, Repr

/-- The wording of a fault. -/
def Utf8Fault.message : Utf8Fault → String
  | broken count index =>
    "invalid utf-8 sequence of " ++ toString count ++ " bytes from index "
      ++ toString index
  | cut index => "incomplete utf-8 byte sequence from index " ++ toString index

/-- **The characters of a byte row** up to its first fault, which is given by
the bytes after which it begins. -/
def decodeUtf8 (index : Nat) : List UInt8 → Except Utf8Fault (List Char)
  | [] => .ok []
  | b :: rest =>
    match utf8Step b rest with
    | .char c more =>
      (decodeUtf8 (index + more + 1) (rest.drop more)).map (c :: ·)
    | .broken more => .error (.broken (more + 1) index)
    | .cut => .error (.cut index)
termination_by bytes => bytes.length
decreasing_by simp only [List.length_drop, List.length_cons]; omega

/-- What stands for a fault. -/
def replacement : Char := '\ufffd'

/-- **The characters of a byte row**, a replacement for each fault. -/
def decodeUtf8Lossy : List UInt8 → List Char
  | [] => []
  | b :: rest =>
    match utf8Step b rest with
    | .char c more => c :: decodeUtf8Lossy (rest.drop more)
    | .broken more => replacement :: decodeUtf8Lossy (rest.drop more)
    | .cut => [replacement]
termination_by bytes => bytes.length
decreasing_by all_goals simp only [List.length_drop, List.length_cons]; omega

/-- The text of a byte row, if it has no fault. -/
def textOfUtf8? (bytes : List UInt8) : Option String :=
  match decodeUtf8 0 bytes with
  | .ok cs => some (String.ofList cs)
  | .error _ => none

/-- The bytes of a text. -/
def utf8 (s : String) : List UInt8 := s.toUTF8.data.toList

end Switchboard.Text
