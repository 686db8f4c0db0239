import Switchboard.Text.Blank

/-!
# Field tags

A tag is a list of pairs `key:"value"`. A key is a run of characters without
blanks, colons and quotes. A value ends at the first quote that no backslash
stands before, and a backslash stands before any character but a line feed.

A text need not be a tag throughout to be searched: the pairs of a text are
those found from left to right, and what belongs to no pair is passed over. A
line is a tag line when nothing but blanks lies between its pairs, and at
least one pair is there.
-/

namespace Switchboard.Doc

open Text

/-- **A pair of a tag**, its value as written between the quotes. -/
structure TagPair where
  /-- The key. -/
  key : List Char
  /-- The value, still escaped. -/
  value : List Char
deriving DecidableEq, Repr

/-- Whether a character may stand in a key. -/
def isKeyChar (c : Char) : Bool := !isBlank c && c != ':' && c != '"'

/-- **A value read after its opening quote**, and what follows its closing
quote. -/
def readTagValue? : List Char → Option (List Char × List Char)
  | [] => none
  | '"' :: rest => some ([], rest)
  | '\\' :: [] => none
  | '\\' :: c :: rest =>
    if c = '\n' then none
    else (readTagValue? rest).map fun (v, after) => ('\\' :: c :: v, after)
  | c :: rest => (readTagValue? rest).map fun (v, after) => (c :: v, after)

/-- What follows a value is shorter than what it was read from. -/
theorem readTagValue?_length {cs v after : List Char}
    (h : readTagValue? cs = some (v, after)) : after.length < cs.length := by
  fun_induction readTagValue? cs generalizing v after with
  | case1 => simp at h
  | case2 rest => simp_all
  | case3 => simp at h
  | case4 => simp at h
  | case5 c rest hc ih =>
    obtain ⟨p, hp, he⟩ := Option.map_eq_some_iff.1 h
    have := ih hp
    simp_all
    omega
  | case6 c rest _ _ _ ih =>
    obtain ⟨p, hp, he⟩ := Option.map_eq_some_iff.1 h
    have := ih hp
    simp_all
    omega

/-- **The pair at the front of a text**, and what follows it. -/
def readPair? (cs : List Char) : Option (TagPair × List Char) :=
  match cs.takeWhile isKeyChar, cs.dropWhile isKeyChar with
  | c :: key, ':' :: '"' :: rest =>
    (readTagValue? rest).map fun (v, after) => (⟨c :: key, v⟩, after)
  | _, _ => none

/-- What follows a pair is shorter than what it was read from. -/
theorem readPair?_length {cs : List Char} {p : TagPair} {after : List Char}
    (h : readPair? cs = some (p, after)) : after.length < cs.length := by
  unfold readPair? at h
  split at h
  · next c key rest hk hr =>
    obtain ⟨q, hq, he⟩ := Option.map_eq_some_iff.1 h
    have hlen := readTagValue?_length hq
    have hd := (List.dropWhile_suffix (l := cs) isKeyChar).length_le
    rw [hr] at hd
    simp only [List.length_cons] at hd
    rw [show q.2 = after from (Prod.mk.inj he).2] at hlen
    omega
  · simp at h

/-- **The pairs of a text**, from left to right. A run of key characters that
begins no pair is passed over as a whole. -/
def tagPairs (cs : List Char) : List TagPair :=
  match cs with
  | [] => []
  | c :: rest =>
    if isKeyChar c then
      match _ : readPair? (c :: rest) with
      | some (p, after) => p :: tagPairs after
      | none => tagPairs (rest.dropWhile isKeyChar)
    else tagPairs rest
termination_by cs.length
decreasing_by
  · exact readPair?_length ‹_›
  · have := (List.dropWhile_suffix (l := rest) isKeyChar).length_le
    simp only [List.length_cons]
    omega
  · simp

/-- The pairs of a text made of nothing else, with blanks after each. -/
def onlyPairs? (cs : List Char) : Option (List TagPair) :=
  match _ : readPair? cs with
  | none => none
  | some (p, after) =>
    match _ : trimStart after with
    | [] => some [p]
    | c :: rest => (onlyPairs? (c :: rest)).map (p :: ·)
termination_by cs.length
decreasing_by
  have h1 := readPair?_length (by assumption)
  have h2 := (List.dropWhile_suffix (l := after) isBlank).length_le
  rw [show after.dropWhile isBlank = c :: rest from ‹_›] at h2
  omega

/-- **Whether a line is made of pairs**, with nothing but blanks around
them. -/
def isTagLine (line : String) : Bool :=
  (onlyPairs? (trimStart line.toList)).isSome

/-- **A value without its escapes**: an escaped `n` or `t` is a line feed or a
tab, any other escaped character itself. -/
def unescape : List Char → List Char
  | [] => []
  | '\\' :: 'n' :: rest => '\n' :: unescape rest
  | '\\' :: 't' :: rest => '\t' :: unescape rest
  | '\\' :: c :: rest => c :: unescape rest
  | '\\' :: [] => ['\\']
  | c :: rest => c :: unescape rest

/-- **The value of a key in a tag**: that of its first pair. -/
def lookup (tag key : String) : Option String :=
  ((tagPairs tag.toList).find? fun p => p.key == key.toList).map fun p =>
    String.ofList (unescape p.value)

/-- Whether a tag says how a field is serialized: by a `json` pair with a value
or by any `serde` pair. -/
def hasSerializationTag (tag : String) : Bool :=
  (lookup tag "json").any (· != "") || (lookup tag "serde").isSome

end Switchboard.Doc
