import Mathlib.Data.List.DropRight
import Mathlib.Data.List.TakeWhile
import Switchboard.Doc.Tag
import Switchboard.Source.Declarations

/-!
# Tags in pieces

A line of pairs is a row of pieces, each a blank or a pair, and what a piece begins
with says which of the two it is. A key ends at its colon and a value at the first quote
that no backslash stands before, so where a piece ends can be told as well
(`readPair?_eq_some_iff`). A line is therefore such a row in one way only
(`IsSplit.unique`), and it is accepted exactly when it is one with a pair
(`isTagLine_iff`).

Looking a key up goes from left to right, piece by piece, and passes over a value as a
whole. So it finds the pairs of the row and no others: what stands in a value cannot be
taken for a pair, whatever it looks like (`tagPairs_piecesText`). A value that is written
with a backslash before its quotes and backslashes is found as it was
(`lookup_of_pieces`).
-/

namespace Switchboard.Doc

open Text
open Source (escapeQuotes)

/-! ## Values and pairs -/

/-- **A value as it may stand between quotes**: characters other than quotes and
backslashes, and backslashes with the character behind them, which is no line feed. -/
inductive IsRawValue : List Char → Prop where
  /-- Nothing. -/
  | nil : IsRawValue []
  /-- A character that stands for itself. -/
  | plain {c : Char} {v : List Char} (quote : c ≠ '"') (backslash : c ≠ '\\')
    (rest : IsRawValue v) : IsRawValue (c :: v)
  /-- A character behind a backslash. -/
  | escaped {c : Char} {v : List Char} (lineFeed : c ≠ '\n') (rest : IsRawValue v) :
    IsRawValue ('\\' :: c :: v)

theorem readTagValue?_append {v : List Char} (h : IsRawValue v) (after : List Char) :
    readTagValue? (v ++ '"' :: after) = some (v, after) := by
  induction h with
  | nil => rfl
  | plain quote backslash _ ih =>
    rw [List.cons_append, readTagValue?, ih]
    · rfl
    · exact quote
    · exact fun h _ => backslash h
    · exact fun _ _ h _ => backslash h
  | escaped lineFeed _ ih =>
    rw [List.cons_append, List.cons_append, readTagValue?, if_neg lineFeed, ih]
    rfl

/-- **A value is read up to the first quote that ends it.** -/
theorem readTagValue?_eq_some_iff {cs v after : List Char} :
    readTagValue? cs = some (v, after) ↔ IsRawValue v ∧ cs = v ++ '"' :: after := by
  constructor
  · intro h
    fun_induction readTagValue? cs generalizing v with
    | case1 => cases h
    | case2 rest =>
      obtain ⟨rfl, rfl⟩ := Prod.mk.inj (Option.some.inj h)
      exact ⟨.nil, rfl⟩
    | case3 => cases h
    | case4 => cases h
    | case5 c rest hc ih =>
      obtain ⟨⟨w, tail⟩, hread, heq⟩ := Option.map_eq_some_iff.mp h
      obtain ⟨rfl, rfl⟩ := Prod.mk.inj heq
      obtain ⟨hw, rfl⟩ := ih hread
      exact ⟨.escaped hc hw, rfl⟩
    | case6 c rest hquote hlast hescape ih =>
      obtain ⟨⟨w, tail⟩, hread, heq⟩ := Option.map_eq_some_iff.mp h
      obtain ⟨rfl, rfl⟩ := Prod.mk.inj heq
      obtain ⟨hw, rfl⟩ := ih hread
      have hbackslash : c ≠ '\\' := by
        rintro rfl
        cases h : w ++ '"' :: tail with
        | nil => exact hlast rfl h
        | cons d ds => exact hescape d ds rfl h
      exact ⟨.plain hquote hbackslash hw, rfl⟩
  · rintro ⟨hv, rfl⟩
    exact readTagValue?_append hv after

/-- **A pair as it may be written**: a key of key characters, and a value that may
stand between quotes. -/
structure TagPair.IsWellFormed (p : TagPair) : Prop where
  /-- The key is not empty. -/
  key_ne_nil : p.key ≠ []
  /-- The key is made of key characters. -/
  key : ∀ c ∈ p.key, isKeyChar c = true
  /-- The value may stand between quotes. -/
  value : IsRawValue p.value

/-- A pair as it is written. -/
def TagPair.text (p : TagPair) : List Char := p.key ++ ':' :: '"' :: (p.value ++ ['"'])

theorem TagPair.text_append (p : TagPair) (after : List Char) :
    p.text ++ after = p.key ++ ':' :: '"' :: (p.value ++ '"' :: after) := by
  simp [text]

/-- What a pair begins with is no blank. -/
theorem TagPair.IsWellFormed.exists_text_eq_cons {p : TagPair} (h : p.IsWellFormed) :
    ∃ c cs, p.text = c :: cs ∧ isKeyChar c = true := by
  obtain ⟨c, key, hkey⟩ := List.exists_cons_of_ne_nil h.key_ne_nil
  exact ⟨c, _, by rw [text, hkey]; rfl, h.key c (hkey ▸ List.mem_cons_self)⟩

/-- A pair has no blanks before it. -/
theorem TagPair.IsWellFormed.trimStart_append {p : TagPair} (h : p.IsWellFormed)
    (rest : List Char) : trimStart (p.text ++ rest) = p.text ++ rest := by
  obtain ⟨c, cs, htext, hc⟩ := h.exists_text_eq_cons
  have hblank : isBlank c = false := by
    unfold isKeyChar at hc
    simp_all
  rw [htext, List.cons_append, trimStart, List.dropWhile_cons_of_neg (by rw [hblank]; simp)]

/-- **A pair is read up to the quote that ends its value.** -/
theorem readPair?_eq_some_iff {cs after : List Char} {p : TagPair} :
    readPair? cs = some (p, after) ↔ p.IsWellFormed ∧ cs = p.text ++ after := by
  rw [TagPair.text_append]
  constructor
  · intro h
    unfold readPair? at h
    split at h
    · next c key rest hkey hrest =>
      obtain ⟨⟨v, tail⟩, hread, heq⟩ := Option.map_eq_some_iff.mp h
      obtain ⟨rfl, rfl⟩ := Prod.mk.inj heq
      obtain ⟨hv, rfl⟩ := readTagValue?_eq_some_iff.mp hread
      have hsplit := List.takeWhile_append_dropWhile (p := isKeyChar) (l := cs)
      rw [hkey, hrest] at hsplit
      refine ⟨⟨List.cons_ne_nil _ _, fun d hd => ?_, hv⟩, hsplit.symm⟩
      exact List.mem_takeWhile_imp (hkey ▸ hd)
    · cases h
  · rintro ⟨hp, rfl⟩
    obtain ⟨c, key, hkey⟩ := List.exists_cons_of_ne_nil hp.key_ne_nil
    unfold readPair?
    rw [List.takeWhile_append_of_pos hp.key, List.dropWhile_append_of_pos hp.key, hkey]
    have hread := readTagValue?_append hp.value after
    -- the colon ends the key
    have htake : List.takeWhile isKeyChar (':' :: '"' :: (p.value ++ '"' :: after)) = [] :=
      rfl
    have hdrop : List.dropWhile isKeyChar (':' :: '"' :: (p.value ++ '"' :: after))
        = ':' :: '"' :: (p.value ++ '"' :: after) := rfl
    rw [htake, hdrop, List.append_nil]
    show (readTagValue? (p.value ++ '"' :: after)).map
      (fun q => ((⟨c :: key, q.1⟩ : TagPair), q.2)) = _
    rw [hread, ← hkey]
    rfl

/-! ## Pieces -/

/-- **A piece of a tag.** -/
inductive TagPiece where
  /-- A blank. -/
  | blank (c : Char)
  /-- A pair. -/
  | pair (p : TagPair)
deriving DecidableEq, Repr

namespace TagPiece

/-- A piece as it is written. -/
def text : TagPiece → List Char
  | blank c => [c]
  | pair p => p.text

/-- The pair that a piece is, if it is one. -/
def pair? : TagPiece → Option TagPair
  | blank _ => none
  | pair p => some p

/-- **A piece that may stand in a tag.** -/
def IsWellFormed : TagPiece → Prop
  | blank c => isBlank c = true
  | pair p => p.IsWellFormed

theorem text_ne_nil (p : TagPiece) : p.text ≠ [] := by
  cases p with
  | blank c => exact List.cons_ne_nil _ _
  | pair p => simp [text, TagPair.text]

/-- A blank is no character of a key. -/
theorem isKeyChar_of_isBlank {c : Char} (h : isBlank c = true) : isKeyChar c = false := by
  unfold isKeyChar
  rw [h]
  rfl

/-- A blank is not what a pair begins with. -/
theorem cons_ne_text_append {c : Char} (hc : isBlank c = true) {p : TagPair}
    (hp : p.IsWellFormed) (cs rest : List Char) : c :: cs ≠ p.text ++ rest := by
  obtain ⟨d, ds, htext, hd⟩ := hp.exists_text_eq_cons
  rw [htext, List.cons_append]
  intro h
  rw [← (List.cons.inj h).1, isKeyChar_of_isBlank hc] at hd
  exact Bool.false_ne_true hd

/-- **What a text begins with says which piece it begins with**, and where that ends. -/
theorem text_append_inj {p q : TagPiece} (hp : p.IsWellFormed) (hq : q.IsWellFormed)
    {cs ds : List Char} (h : p.text ++ cs = q.text ++ ds) : p = q ∧ cs = ds := by
  cases p with
  | blank c =>
    cases q with
    | blank d =>
      obtain ⟨rfl, hrest⟩ := List.cons.inj h
      exact ⟨rfl, hrest⟩
    | pair q => exact absurd h (cons_ne_text_append hp hq _ _)
  | pair p =>
    cases q with
    | blank d => exact absurd h.symm (cons_ne_text_append hq hp _ _)
    | pair q =>
      have hread := (readPair?_eq_some_iff.mpr ⟨hp, h.symm⟩).symm.trans
        (readPair?_eq_some_iff.mpr ⟨hq, rfl⟩)
      obtain ⟨rfl, rfl⟩ := Prod.mk.inj (Option.some.inj hread)
      exact ⟨rfl, rfl⟩

end TagPiece

/-- Pieces as they are written, one after the other. -/
def piecesText (ps : List TagPiece) : List Char := ps.flatMap TagPiece.text

/-- The pairs among pieces, in order. -/
def pairsOf (ps : List TagPiece) : List TagPair := ps.filterMap TagPiece.pair?

/-- **A text taken apart into the pieces of a tag.** -/
structure IsSplit (cs : List Char) (ps : List TagPiece) : Prop where
  /-- The pieces make up the text. -/
  text : piecesText ps = cs
  /-- Each of them may stand in a tag. -/
  wellFormed : ∀ p ∈ ps, p.IsWellFormed

theorem IsSplit.cons_iff {cs : List Char} {p : TagPiece} {ps : List TagPiece} :
    IsSplit cs (p :: ps)
      ↔ p.IsWellFormed ∧ ∃ rest, cs = p.text ++ rest ∧ IsSplit rest ps := by
  constructor
  · rintro ⟨rfl, h⟩
    rw [List.forall_mem_cons] at h
    exact ⟨h.1, piecesText ps, rfl, rfl, h.2⟩
  · rintro ⟨hp, rest, rfl, rfl, hps⟩
    exact ⟨rfl, List.forall_mem_cons.mpr ⟨hp, hps⟩⟩

theorem IsSplit.append {cs ds : List Char} {ps qs : List TagPiece} (hps : IsSplit cs ps)
    (hqs : IsSplit ds qs) : IsSplit (cs ++ ds) (ps ++ qs) :=
  ⟨by rw [piecesText, List.flatMap_append, ← hps.text, ← hqs.text]; rfl,
    List.forall_mem_append.mpr ⟨hps.wellFormed, hqs.wellFormed⟩⟩

/-- **A text is taken apart in one way at most.** -/
theorem IsSplit.unique {cs : List Char} {ps qs : List TagPiece} (hps : IsSplit cs ps)
    (hqs : IsSplit cs qs) : ps = qs := by
  induction ps generalizing cs qs with
  | nil =>
    cases qs with
    | nil => rfl
    | cons q qs =>
      obtain ⟨hq, rest, htext, -⟩ := IsSplit.cons_iff.mp hqs
      have hempty : q.text ++ rest = [] := htext.symm.trans hps.text.symm
      exact absurd (List.append_eq_nil_iff.mp hempty).1 q.text_ne_nil
  | cons p ps ih =>
    obtain ⟨hp, rest, rfl, hrest⟩ := IsSplit.cons_iff.mp hps
    cases qs with
    | nil =>
      have hempty : p.text ++ rest = [] := hqs.text.symm
      exact absurd (List.append_eq_nil_iff.mp hempty).1 p.text_ne_nil
    | cons q qs =>
      obtain ⟨hq, rest', htext, hrest'⟩ := IsSplit.cons_iff.mp hqs
      obtain ⟨rfl, rfl⟩ := TagPiece.text_append_inj hp hq htext
      rw [ih hrest hrest']

/-! ## Reading pieces -/

theorem tagPairs_of_isBlank {c : Char} (h : isBlank c = true) (rest : List Char) :
    tagPairs (c :: rest) = tagPairs rest := by
  rw [tagPairs, TagPiece.isKeyChar_of_isBlank h]
  rfl

theorem tagPairs_pair {p : TagPair} (hp : p.IsWellFormed) (rest : List Char) :
    tagPairs (p.text ++ rest) = p :: tagPairs rest := by
  have hread := readPair?_eq_some_iff.mpr ⟨hp, rfl (a := p.text ++ rest)⟩
  obtain ⟨c, cs, htext, hc⟩ := hp.exists_text_eq_cons
  rw [htext, List.cons_append] at hread ⊢
  rw [tagPairs, if_pos hc]
  split
  · next q after hq =>
    rw [hread] at hq
    obtain ⟨rfl, rfl⟩ := Prod.mk.inj (Option.some.inj hq)
    rfl
  · next hq => exact absurd (hread.symm.trans hq) (Option.some_ne_none _)

/-- **The pairs of a text that begins with pieces** are those of the pieces and then
those of the rest. -/
theorem tagPairs_piecesText {cs : List Char} {ps : List TagPiece} (h : IsSplit cs ps)
    (rest : List Char) : tagPairs (cs ++ rest) = pairsOf ps ++ tagPairs rest := by
  induction ps generalizing cs with
  | nil =>
    rw [← h.text]
    rfl
  | cons p ps ih =>
    obtain ⟨hp, after, rfl, hps⟩ := IsSplit.cons_iff.mp h
    rw [List.append_assoc]
    cases p with
    | blank c => exact (tagPairs_of_isBlank hp _).trans (ih hps)
    | pair p => exact (tagPairs_pair hp _).trans (congrArg _ (ih hps))

theorem tagPairs_of_isSplit {cs : List Char} {ps : List TagPiece} (h : IsSplit cs ps) :
    tagPairs cs = pairsOf ps := by
  have hpairs := tagPairs_piecesText h []
  rw [tagPairs, List.append_nil, List.append_nil] at hpairs
  exact hpairs

/-- **Only the pairs among the pieces are looked up.** -/
theorem lookup_of_isSplit {line : String} {ps : List TagPiece} (h : IsSplit line.toList ps)
    (key : String) :
    lookup line key
      = ((pairsOf ps).find? fun p => p.key == key.toList).map fun p =>
          String.ofList (unescape p.value) := by
  rw [lookup, tagPairs_of_isSplit h]

/-! ## Lines of pairs -/

/-- Blanks are pieces. -/
theorem isSplit_blanks {cs : List Char} (h : ∀ c ∈ cs, isBlank c = true) :
    IsSplit cs (cs.map .blank) := by
  refine ⟨?_, List.forall_mem_map.mpr h⟩
  rw [piecesText, List.flatMap_map]
  exact List.flatMap_singleton' cs

theorem pairsOf_blanks (cs : List Char) : pairsOf (cs.map .blank) = [] := by
  rw [pairsOf, List.filterMap_map]
  exact List.filterMap_eq_nil_iff.mpr fun _ _ => rfl

theorem pairsOf_append (ps qs : List TagPiece) :
    pairsOf (ps ++ qs) = pairsOf ps ++ pairsOf qs :=
  List.filterMap_append

/-- A text is its leading blanks and what follows them. -/
theorem takeWhile_append_trimStart (cs : List Char) :
    cs.takeWhile isBlank ++ trimStart cs = cs :=
  List.takeWhile_append_dropWhile

/-- A text that is taken apart behind its leading blanks is taken apart. -/
theorem IsSplit.of_trimStart {cs : List Char} {ps : List TagPiece}
    (h : IsSplit (trimStart cs) ps) :
    ∃ qs, IsSplit cs qs ∧ pairsOf qs = pairsOf ps := by
  have hblanks : IsSplit (cs.takeWhile isBlank) ((cs.takeWhile isBlank).map .blank) :=
    isSplit_blanks fun c hc => List.mem_takeWhile_imp hc
  have hsplit := hblanks.append h
  rw [takeWhile_append_trimStart] at hsplit
  exact ⟨_, hsplit, by rw [pairsOf_append, pairsOf_blanks, List.nil_append]⟩

/-- A pair and what is taken apart behind the blanks that follow it. -/
theorem IsSplit.pair_cons {p : TagPair} (hp : p.IsWellFormed) {cs : List Char}
    {ps : List TagPiece} (h : IsSplit (trimStart cs) ps) :
    ∃ qs, IsSplit (p.text ++ cs) qs ∧ pairsOf qs = p :: pairsOf ps := by
  obtain ⟨qs, hqs, hpairs⟩ := h.of_trimStart
  exact ⟨.pair p :: qs, cons_iff.mpr ⟨hp, cs, rfl, hqs⟩, congrArg (p :: ·) hpairs⟩

/-- What is read as a line of pairs is a row of pieces with these pairs. -/
theorem exists_isSplit_of_onlyPairs? {cs : List Char} {pairs : List TagPair}
    (h : onlyPairs? cs = some pairs) :
    pairs ≠ [] ∧ ∃ ps, IsSplit cs ps ∧ pairsOf ps = pairs := by
  fun_induction onlyPairs? cs generalizing pairs with
  | case1 => cases h
  | case2 cs p after hread hblank =>
    obtain ⟨hp, rfl⟩ := readPair?_eq_some_iff.mp hread
    obtain rfl := Option.some.inj h
    have hnone : IsSplit (trimStart after) [] := ⟨hblank.symm, List.forall_mem_nil _⟩
    exact ⟨List.cons_ne_nil _ _, hnone.pair_cons hp⟩
  | case3 cs p after hread c rest htrim ih =>
    obtain ⟨hp, rfl⟩ := readPair?_eq_some_iff.mp hread
    obtain ⟨others, hothers, rfl⟩ := Option.map_eq_some_iff.mp h
    obtain ⟨-, ps, hps, rfl⟩ := ih hothers
    rw [← htrim] at hps
    exact ⟨List.cons_ne_nil _ _, hps.pair_cons hp⟩

theorem trimStart_of_no_pairs {cs : List Char} {ps : List TagPiece} (h : IsSplit cs ps)
    (hnone : pairsOf ps = []) : trimStart cs = [] := by
  induction ps generalizing cs with
  | nil =>
    rw [← h.text]
    rfl
  | cons p ps ih =>
    obtain ⟨hp, rest, rfl, hrest⟩ := IsSplit.cons_iff.mp h
    cases p with
    | blank c => exact (List.dropWhile_cons_of_pos hp).trans (ih hrest hnone)
    | pair p => exact absurd hnone (List.cons_ne_nil _ _)

theorem onlyPairs?_of_readPair? {cs after : List Char} {p : TagPair}
    (h : readPair? cs = some (p, after)) :
    onlyPairs? cs = if trimStart after = [] then some [p]
      else (onlyPairs? (trimStart after)).map (p :: ·) := by
  rw [onlyPairs?]
  split
  · next hnone => exact absurd (h.symm.trans hnone) (Option.some_ne_none _)
  · next q tail hread =>
    obtain ⟨rfl, rfl⟩ := Prod.mk.inj (Option.some.inj (h.symm.trans hread))
    split
    · next hblank => rw [if_pos hblank]
    · next c rest hmore => rw [hmore, if_neg (List.cons_ne_nil c rest)]

/-- **A row of pieces with a pair is read as a line of its pairs.** -/
theorem onlyPairs?_of_isSplit {cs : List Char} {ps : List TagPiece} (h : IsSplit cs ps)
    (hne : pairsOf ps ≠ []) : onlyPairs? (trimStart cs) = some (pairsOf ps) := by
  induction ps generalizing cs with
  | nil => exact absurd rfl hne
  | cons p ps ih =>
    obtain ⟨hp, rest, rfl, hrest⟩ := IsSplit.cons_iff.mp h
    cases p with
    | blank c =>
      have htrim : trimStart (c :: rest) = trimStart rest := List.dropWhile_cons_of_pos hp
      exact (congrArg onlyPairs? htrim).trans (ih hrest hne)
    | pair p =>
      have hread : readPair? (p.text ++ rest) = some (p, rest) :=
        readPair?_eq_some_iff.mpr ⟨hp, rfl⟩
      show onlyPairs? (trimStart (p.text ++ rest)) = some (p :: pairsOf ps)
      rw [hp.trimStart_append, onlyPairs?_of_readPair? hread]
      by_cases hlast : pairsOf ps = []
      · rw [if_pos (trimStart_of_no_pairs hrest hlast), hlast]
      · have hothers := ih hrest hlast
        have hmore : trimStart rest ≠ [] := by
          intro h
          rw [h, onlyPairs?] at hothers
          cases hothers
        rw [if_neg hmore, hothers, Option.map_some]

/-- **A line is accepted exactly when it is a row of pieces with a pair.** -/
theorem isTagLine_iff {line : String} :
    isTagLine line = true ↔ ∃ ps, IsSplit line.toList ps ∧ pairsOf ps ≠ [] := by
  rw [isTagLine, Option.isSome_iff_exists]
  constructor
  · rintro ⟨pairs, h⟩
    obtain ⟨hne, ps, hps, rfl⟩ := exists_isSplit_of_onlyPairs? h
    obtain ⟨qs, hqs, hpairs⟩ := hps.of_trimStart
    exact ⟨qs, hqs, hpairs ▸ hne⟩
  · rintro ⟨ps, hps, hne⟩
    exact ⟨_, onlyPairs?_of_isSplit hps hne⟩

/-! ## Blanks at the ends -/

theorem IsSplit.append_iff {cs : List Char} {ps qs : List TagPiece} :
    IsSplit cs (ps ++ qs)
      ↔ ∃ front back, cs = front ++ back ∧ IsSplit front ps ∧ IsSplit back qs := by
  constructor
  · rintro ⟨rfl, h⟩
    rw [List.forall_mem_append] at h
    refine ⟨piecesText ps, piecesText qs, ?_, ⟨rfl, h.1⟩, ⟨rfl, h.2⟩⟩
    exact List.flatMap_append
  · rintro ⟨front, back, rfl, hfront, hback⟩
    exact hfront.append hback

theorem IsSplit.trimStart {cs : List Char} {ps : List TagPiece} (h : IsSplit cs ps) :
    ∃ qs, IsSplit (Text.trimStart cs) qs ∧ pairsOf qs = pairsOf ps := by
  induction ps generalizing cs with
  | nil =>
    obtain rfl : [] = cs := h.text
    exact ⟨[], h, rfl⟩
  | cons p ps ih =>
    obtain ⟨hp, rest, rfl, hrest⟩ := cons_iff.mp h
    cases p with
    | blank c =>
      have htrim : Text.trimStart (c :: rest) = Text.trimStart rest :=
        List.dropWhile_cons_of_pos hp
      obtain ⟨qs, hqs, hpairs⟩ := ih hrest
      exact ⟨qs, htrim.symm ▸ hqs, hpairs⟩
    | pair p =>
      have htrim : Text.trimStart (p.text ++ rest) = p.text ++ rest :=
        TagPair.IsWellFormed.trimStart_append hp rest
      exact ⟨.pair p :: ps, htrim.symm ▸ h, rfl⟩

theorem IsSplit.trimEnd {cs : List Char} {ps : List TagPiece} (h : IsSplit cs ps) :
    ∃ qs, IsSplit (Text.trimEnd cs) qs ∧ pairsOf qs = pairsOf ps := by
  -- blanks are taken off at the end, so the last piece is looked at first
  induction ps using List.reverseRecOn generalizing cs with
  | nil =>
    obtain rfl : [] = cs := h.text
    exact ⟨[], h, rfl⟩
  | append_singleton ps p ih =>
    obtain ⟨front, back, rfl, hfront, hback⟩ := append_iff.mp h
    obtain ⟨hp, rest, rfl, hrest⟩ := cons_iff.mp hback
    obtain rfl : [] = rest := hrest.text
    rw [List.append_nil]
    cases p with
    | blank c =>
      have htrim : Text.trimEnd (front ++ [c]) = Text.trimEnd front :=
        List.rdropWhile_concat_pos isBlank front c hp
      obtain ⟨qs, hqs, hpairs⟩ := ih hfront
      refine ⟨qs, htrim.symm ▸ hqs, hpairs.trans ?_⟩
      rw [pairsOf_append]
      exact (List.append_nil _).symm
    | pair p =>
      have hquote : front ++ p.text
          = (front ++ p.key ++ ':' :: '"' :: p.value) ++ ['"'] := by
        simp [TagPair.text]
      have htrim : Text.trimEnd (front ++ p.text) = front ++ p.text := by
        rw [hquote]
        exact List.rdropWhile_concat_neg isBlank _ '"' (by decide)
      rw [List.append_nil] at h
      exact ⟨ps ++ [.pair p], htrim.symm ▸ h, rfl⟩

/-- **A line of pieces without the blanks around it** has the same pairs. -/
theorem IsSplit.trim {cs : List Char} {ps : List TagPiece} (h : IsSplit cs ps) :
    ∃ qs, IsSplit (Text.trim cs) qs ∧ pairsOf qs = pairsOf ps := by
  obtain ⟨qs, hqs, hpairs⟩ := h.trimStart
  obtain ⟨rs, hrs, hpairs'⟩ := hqs.trimEnd
  exact ⟨rs, hrs, hpairs'.trans hpairs⟩

/-! ## Values that are written -/

theorem toList_escapeQuotes (text : String) :
    (escapeQuotes text).toList
      = text.toList.flatMap fun c => if c = '\\' || c = '"' then ['\\', c] else [c] := by
  rw [escapeQuotes, String.toList_ofList]

/-- **A value written with backslashes before its quotes and backslashes** may stand
between quotes. -/
theorem isRawValue_escapeQuotes (value : String) :
    IsRawValue (escapeQuotes value).toList := by
  rw [toList_escapeQuotes]
  induction value.toList with
  | nil => exact .nil
  | cons c cs ih =>
    rw [List.flatMap_cons]
    split_ifs with h
    · refine .escaped ?_ ih
      rintro rfl
      exact absurd h (by decide)
    · rw [Bool.or_eq_true, decide_eq_true_iff, decide_eq_true_iff, not_or] at h
      exact .plain h.2 h.1 ih

/-- **And means what it was.** -/
theorem unescape_escapeQuotes (value : String) :
    unescape (escapeQuotes value).toList = value.toList := by
  rw [toList_escapeQuotes]
  induction value.toList with
  | nil => rfl
  | cons c cs ih =>
    rw [List.flatMap_cons]
    split_ifs with h
    · rw [Bool.or_eq_true, decide_eq_true_iff, decide_eq_true_iff] at h
      rcases h with rfl | rfl
      · exact congrArg _ ih
      · exact congrArg _ ih
    · rw [Bool.or_eq_true, decide_eq_true_iff, decide_eq_true_iff, not_or] at h
      rw [List.singleton_append, unescape, ih]
      all_goals simp_all

/-- **A pair to be written**, by its key, the value it means and the blanks behind
it. -/
structure SpacedPair where
  /-- The key. -/
  key : String
  /-- What its value means. -/
  value : String
  /-- The blanks behind it. -/
  blanks : String
deriving DecidableEq, Repr

namespace SpacedPair

/-- **A pair that can be written**: its key is made of key characters. -/
structure IsWritable (i : SpacedPair) : Prop where
  /-- The key is not empty. -/
  key_ne_empty : i.key ≠ ""
  /-- The key is made of key characters. -/
  key : ∀ c ∈ i.key.toList, isKeyChar c = true
  /-- What stands behind the pair is blank. -/
  blanks : isBlankText i.blanks = true

/-- A pair as it is written. -/
def text (i : SpacedPair) : String :=
  i.key ++ ":\"" ++ escapeQuotes i.value ++ "\"" ++ i.blanks

/-- The pair that is read. -/
def pair (i : SpacedPair) : TagPair := ⟨i.key.toList, (escapeQuotes i.value).toList⟩

/-- The pieces that are read. -/
def pieces (i : SpacedPair) : List TagPiece :=
  .pair i.pair :: i.blanks.toList.map .blank

theorem IsWritable.isSplit {i : SpacedPair} (h : i.IsWritable) :
    IsSplit i.text.toList i.pieces := by
  have hblanks : IsSplit i.blanks.toList (i.blanks.toList.map .blank) :=
    isSplit_blanks (List.all_eq_true.mp h.blanks)
  have hkey : i.pair.key ≠ [] := fun hnil => h.key_ne_empty (String.toList_eq_nil_iff.mp hnil)
  have hvalue : IsRawValue i.pair.value := by
    dsimp only [pair]
    exact isRawValue_escapeQuotes i.value
  have htext : i.text.toList = i.pair.text ++ i.blanks.toList := by
    simp [text, pair, TagPair.text]
  rw [pieces, IsSplit.cons_iff]
  exact ⟨⟨hkey, h.key, hvalue⟩, _, htext, hblanks⟩

theorem pairsOf_pieces (i : SpacedPair) : pairsOf i.pieces = [i.pair] :=
  congrArg (i.pair :: ·) (pairsOf_blanks i.blanks.toList)

/-- **The first pair of a key**, among pairs as they are read, means what it was written
for. -/
theorem find?_map_pair (items : List SpacedPair) (key : String) :
    (((items.map pair).find? fun p => p.key == key.toList).map fun p =>
        String.ofList (unescape p.value))
      = (items.find? fun i => i.key == key).map value := by
  have hkey : ((fun p : TagPair => p.key == key.toList) ∘ pair) = fun i => i.key == key := by
    funext i
    rw [Bool.eq_iff_iff, beq_iff_eq, ← String.toList_inj]
    exact beq_iff_eq
  have hvalue : ((fun p : TagPair => String.ofList (unescape p.value)) ∘ pair) = value := by
    funext i
    rw [Function.comp_apply, pair, unescape_escapeQuotes, String.ofList_toList]
  rw [List.find?_map, hkey, Option.map_map, hvalue]

end SpacedPair

/-- Pairs written one after the other, in pieces. -/
theorem isSplit_join {items : List SpacedPair} (h : ∀ i ∈ items, i.IsWritable) :
    IsSplit (String.join (items.map SpacedPair.text)).toList
      (items.flatMap SpacedPair.pieces) := by
  induction items with
  | nil => exact ⟨rfl, List.forall_mem_nil _⟩
  | cons i items ih =>
    rw [List.forall_mem_cons] at h
    rw [List.map_cons, String.join_cons, String.toList_append, List.flatMap_cons]
    exact h.1.isSplit.append (ih h.2)

theorem pairsOf_flatMap_pieces (items : List SpacedPair) :
    pairsOf (items.flatMap SpacedPair.pieces) = items.map SpacedPair.pair := by
  induction items with
  | nil => rfl
  | cons i items ih =>
    rw [List.flatMap_cons, pairsOf_append, SpacedPair.pairsOf_pieces, ih]
    rfl

/-- **Tags are read as they are written.** Pairs that are written one after the other,
with any blanks or none around them and a backslash before each quote and backslash of
their values, make a line that is accepted, and each key is found with the value of its
first pair. A line is accepted exactly when it is a row of pieces with a pair. It is
one row of pieces only, and a key is found with the value of the first pair among these
that has it, so nothing inside a value is found. -/
theorem lookup_of_pieces :
    (∀ (before : String) (items : List SpacedPair), isBlankText before = true →
      items ≠ [] → (∀ i ∈ items, i.IsWritable) →
      let line := before ++ String.join (items.map SpacedPair.text)
      isTagLine line = true
        ∧ ∀ key, lookup line key
          = (items.find? fun i => i.key == key).map SpacedPair.value)
    ∧ ∀ line : String,
        (isTagLine line = true ↔ ∃ ps, IsSplit line.toList ps ∧ pairsOf ps ≠ [])
        ∧ ∀ ps, IsSplit line.toList ps →
            (∀ qs, IsSplit line.toList qs → qs = ps)
            ∧ ∀ key, lookup line key
              = ((pairsOf ps).find? fun p => p.key == key.toList).map fun p =>
                  String.ofList (unescape p.value) := by
  constructor
  · intro before items hbefore hne hitems line
    have hsplit : IsSplit line.toList
        (before.toList.map .blank ++ items.flatMap SpacedPair.pieces) := by
      rw [String.toList_append]
      exact (isSplit_blanks (List.all_eq_true.mp hbefore)).append (isSplit_join hitems)
    have hpairs : pairsOf (before.toList.map .blank ++ items.flatMap SpacedPair.pieces)
        = items.map SpacedPair.pair := by
      rw [pairsOf_append, pairsOf_blanks, List.nil_append, pairsOf_flatMap_pieces]
    refine ⟨isTagLine_iff.mpr ⟨_, hsplit, ?_⟩, fun key => ?_⟩
    · rw [hpairs]
      exact fun hnil => hne (List.map_eq_nil_iff.mp hnil)
    · rw [lookup_of_isSplit hsplit, hpairs, SpacedPair.find?_map_pair]
  · intro line
    exact ⟨isTagLine_iff, fun ps hps =>
      ⟨fun qs hqs => hqs.unique hps, lookup_of_isSplit hps⟩⟩

/-- A value that looks like a pair of another key hides nothing of it, and a backslash
before the closing quote does not keep it open. -/
theorem lookup_of_pieces_with_pair_in_value :
    let line := "a:\"b:\\\"x\\\"\"b:\"\\\\\" "
    isTagLine line = true ∧ lookup line "a" = some "b:\"x\"" ∧ lookup line "b" = some "\\" := by
  intro line
  let items : List SpacedPair := [⟨"a", "b:\"x\"", ""⟩, ⟨"b", "\\", " "⟩]
  have hwritable : ∀ i ∈ items, i.IsWritable := by
    intro i hi
    rcases List.mem_cons.mp hi with rfl | hi
    · exact ⟨by decide, List.all_eq_true.mp rfl, rfl⟩
    · rw [List.mem_singleton.mp hi]
      exact ⟨by decide, List.all_eq_true.mp rfl, rfl⟩
  have hline : "" ++ String.join (items.map SpacedPair.text) = line := by decide +kernel
  obtain ⟨htag, hvalues⟩ :=
    lookup_of_pieces.1 "" items (by decide) (List.cons_ne_nil _ _) hwritable
  rw [hline] at htag hvalues
  exact ⟨htag, hvalues "a", hvalues "b"⟩

end Switchboard.Doc

