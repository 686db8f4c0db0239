import Switchboard.Proofs.Doc.Tag
import Switchboard.Proofs.Text.Pieces

/-!
# What the annotations of a field say

The annotations of a field are one text, made of the lines of its documentation that
are tags throughout and of its serialization options, folded into one more tag. Keys
are looked up in that text and not in the parts, so it has to be seen that the parts do
not run into each other.

They do not. A line that is a tag is a row of pieces, the tag of the options is one
whatever they hold, and rows with a blank between them are a row again
(`Doc.lookup_join`). So a key is found where the first of the parts has it, and the
options answer for the key `serde` alone (`findSome?_serdeTag`): a text among them that
looks like a tag is part of a value (`lookup_tagText`).
-/

namespace Switchboard

open Text (join isBlankText)

namespace Doc

/-! ## Tags next to each other -/

/-- **A text that is a row of pieces.** -/
def IsTag (text : String) : Prop := ∃ ps, IsSplit text.toList ps

theorem IsTag.tagPairs_append {text : String} (h : IsTag text) (rest : List Char) :
    tagPairs (text.toList ++ rest) = tagPairs text.toList ++ tagPairs rest := by
  obtain ⟨ps, hps⟩ := h
  rw [tagPairs_piecesText hps, tagPairs_of_isSplit hps]

/-- The pairs of tags with a blank between them are those of each, in order. -/
theorem tagPairs_join {texts : List String} (h : ∀ t ∈ texts, IsTag t) :
    tagPairs (join " " texts).toList = texts.flatMap fun t => tagPairs t.toList := by
  induction texts with
  | nil => simp [join, tagPairs]
  | cons t ts ih =>
    rw [List.forall_mem_cons] at h
    rw [List.flatMap_cons]
    by_cases hts : ts = []
    · rw [hts, Text.join_singleton, List.flatMap_nil, List.append_nil]
    · rw [Text.join_cons _ _ hts, String.toList_append, String.toList_append,
        List.append_assoc, h.1.tagPairs_append, ← ih h.2]
      exact congrArg _ (tagPairs_of_isBlank (by decide) _)

/-- **A key of tags next to each other** is found in the first of them that has it. -/
theorem lookup_join {texts : List String} (h : ∀ t ∈ texts, IsTag t) (key : String) :
    lookup (join " " texts) key = texts.findSome? fun t => lookup t key := by
  unfold lookup
  rw [tagPairs_join h, List.find?_flatMap, List.map_findSome?]
  rfl

theorem isTag_of_isTagLine {line : String} (h : isTagLine line = true) : IsTag line := by
  obtain ⟨ps, hps, -⟩ := isTagLine_iff.mp h
  exact ⟨ps, hps⟩

/-- A tag without the blanks around it is a tag, and says the same. -/
theorem IsTag.trimmed {line : String} (h : IsTag line) :
    IsTag (Source.trimmed line)
      ∧ ∀ key, lookup (Source.trimmed line) key = lookup line key := by
  obtain ⟨ps, hps⟩ := h
  obtain ⟨qs, hqs, hpairs⟩ := hps.trim
  have htrim : (Source.trimmed line).toList = Text.trim line.toList := String.toList_ofList
  rw [← htrim] at hqs
  refine ⟨⟨qs, hqs⟩, fun key => ?_⟩
  rw [lookup_of_isSplit hqs, lookup_of_isSplit hps, hpairs]

/-- A pair that is written alone has its key and no other. -/
theorem SpacedPair.IsWritable.lookup {i : SpacedPair} (h : i.IsWritable) (key : String) :
    Doc.lookup i.text key = if key = i.key then some i.value else none := by
  have hfind : Doc.lookup i.text key = ([i].find? fun j => j.key == key).map value := by
    rw [lookup_of_isSplit h.isSplit, pairsOf_pieces, ← find?_map_pair, List.map_singleton]
  rw [hfind, List.find?_singleton]
  by_cases hkey : i.key = key
  · rw [if_pos (beq_iff_eq.mpr hkey), if_pos hkey.symm, Option.map_some]
  · rw [if_neg (mt beq_iff_eq.mp hkey), if_neg (Ne.symm hkey), Option.map_none]

end Doc

namespace Source

open Doc

/-! ## Serialization options -/

/-- The tag that options are folded into. -/
def optionsTag (options : List String) : SpacedPair := ⟨"serde", join ", " options, ""⟩

theorem isWritable_optionsTag (options : List String) : (optionsTag options).IsWritable where
  key_ne_empty := show "serde" ≠ "" by decide
  key := List.all_eq_true.mp (rfl : "serde".toList.all isKeyChar = true)
  blanks := rfl

/-- Options are written as a pair of the key `serde`, and no options as nothing. -/
theorem serdeTag_eq (options : List String) :
    serdeTag options = if options = [] then [] else [(optionsTag options).text] := by
  cases options with
  | nil => rfl
  | cons o os =>
    rw [if_neg (List.cons_ne_nil o os), SpacedPair.text]
    simp [serdeTag, optionsTag, String.append_assoc]

/-- **Options answer for one key**, whatever they hold. -/
theorem findSome?_serdeTag (options : List String) (key : String) :
    ((serdeTag options).findSome? fun t => lookup t key)
      = if options = [] ∨ key ≠ "serde" then none else some (join ", " options) := by
  rw [serdeTag_eq]
  by_cases hnone : options = []
  · rw [if_pos hnone, if_pos (.inl hnone), List.findSome?_nil]
  · rw [if_neg hnone, List.findSome?_singleton, (isWritable_optionsTag options).lookup]
    show (if key = "serde" then some (join ", " options) else none) = _
    by_cases hkey : key = "serde"
    · rw [if_pos hkey, if_neg (not_or.mpr ⟨hnone, not_not_intro hkey⟩)]
    · rw [if_neg hkey, if_pos (.inr hkey)]

/-! ## All annotations -/

/-- **The lines of the documentation that are tags throughout.** -/
def tagLines (attributes : List Attribute) : List String :=
  (docLines attributes).filter isTagLine

/-- **The value that the documentation gives a key**: that of the first tag line with
it. -/
def docValue? (attributes : List Attribute) (key : String) : Option String :=
  (tagLines attributes).findSome? fun line => lookup line key

/-- **A key of the annotations** is that of the documentation, or else that of the
options. -/
theorem lookup_tagText_eq_or (attributes : List Attribute) (key : String) :
    lookup (tagText attributes) key
      = (docValue? attributes key).or
          ((serdeTag (serdeOptions attributes)).findSome? fun t => lookup t key) := by
  have hlines : ∀ line ∈ tagLines attributes, IsTag line := fun line hline =>
    isTag_of_isTagLine (List.mem_filter.mp hline).2
  have hoptions : ∀ t ∈ serdeTag (serdeOptions attributes), IsTag t := by
    rw [serdeTag_eq]
    split_ifs
    · exact List.forall_mem_nil _
    · rw [List.forall_mem_singleton]
      exact ⟨_, (isWritable_optionsTag _).isSplit⟩
  have hparts : ∀ t ∈ (tagLines attributes).map trimmed
      ++ serdeTag (serdeOptions attributes), IsTag t :=
    List.forall_mem_append.mpr
      ⟨List.forall_mem_map.mpr fun line hline => (hlines line hline).trimmed.1, hoptions⟩
  -- blanks around a line do not count
  have htrimmed : (tagLines attributes).findSome? (fun line => lookup (trimmed line) key)
      = docValue? attributes key := by
    rw [docValue?, ← List.head?_filterMap, ← List.head?_filterMap]
    exact congrArg List.head? (List.filterMap_congr fun line hline =>
      (hlines line hline).trimmed.2 key)
  show lookup (join " " ((tagLines attributes).map trimmed
    ++ serdeTag (serdeOptions attributes))) key = _
  rw [lookup_join hparts, List.findSome?_append, List.findSome?_map, ← htrimmed]
  rfl

theorem lookup_tagText_of_ne (attributes : List Attribute) {key : String}
    (h : key ≠ "serde") :
    lookup (tagText attributes) key = docValue? attributes key := by
  rw [lookup_tagText_eq_or, findSome?_serdeTag, if_pos (.inr h), Option.or_none]

theorem lookup_tagText_serde (attributes : List Attribute) :
    lookup (tagText attributes) "serde"
      = (docValue? attributes "serde").or
          (if serdeOptions attributes = [] then none
            else some (join ", " (serdeOptions attributes))) := by
  rw [lookup_tagText_eq_or, findSome?_serdeTag]
  simp only [ne_eq, not_true_eq_false, or_false]

theorem isSome_lookup_tagText_serde (attributes : List Attribute) :
    (lookup (tagText attributes) "serde").isSome = true
      ↔ (∃ line ∈ tagLines attributes, (lookup line "serde").isSome = true)
        ∨ serdeOptions attributes ≠ [] := by
  rw [lookup_tagText_serde, Option.isSome_or, Bool.or_eq_true, docValue?,
    List.findSome?_isSome_iff]
  refine or_congr_right ?_
  split_ifs with h
  · exact iff_of_false Bool.false_ne_true (not_not_intro h)
  · exact iff_of_true rfl h

theorem isAnnotated_iff (tag : String) :
    isAnnotated tag = true
      ↔ (∃ value, lookup tag "apivalidator" = some value ∧ isBlankText value = false)
        ∨ (∃ value, lookup tag "json" = some value ∧ value ≠ "")
        ∨ (lookup tag "serde").isSome = true := by
  rw [isAnnotated, hasSerializationTag, Bool.or_eq_true, Bool.or_eq_true]
  refine or_congr ?_ (or_congr_left ?_)
  · cases lookup tag "apivalidator" with
    | none => simp
    | some value => simp
  · cases lookup tag "json" with
    | none => simp
    | some value => simp

/-- **Options are taken for no line, and hide none.** Whatever they hold, each key but
`serde` has the value that the documentation gives it. The key `serde` has that value
too if there is one, and else stands for the options, exactly as they are. So a field
is annotated exactly when the documentation gives it constraints that are not blank or
a name that is not empty, or when a line of it has the key `serde` or there are
options. -/
theorem lookup_tagText (attributes : List Attribute) :
    (∀ key, key ≠ "serde" →
        lookup (tagText attributes) key = docValue? attributes key)
    ∧ lookup (tagText attributes) "serde"
        = (docValue? attributes "serde").or
            (if serdeOptions attributes = [] then none
              else some (join ", " (serdeOptions attributes)))
    ∧ (isAnnotated (tagText attributes) = true
        ↔ (∃ value, docValue? attributes "apivalidator" = some value
              ∧ isBlankText value = false)
          ∨ (∃ value, docValue? attributes "json" = some value ∧ value ≠ "")
          ∨ (∃ line ∈ tagLines attributes, (lookup line "serde").isSome = true)
          ∨ serdeOptions attributes ≠ []) := by
  refine ⟨fun key => lookup_tagText_of_ne attributes, lookup_tagText_serde attributes, ?_⟩
  rw [isAnnotated_iff, isSome_lookup_tagText_serde,
    lookup_tagText_of_ne attributes (by decide : "apivalidator" ≠ "serde"),
    lookup_tagText_of_ne attributes (by decide : "json" ≠ "serde")]

/-- Constraints that are written in options are options, and prose that names a key
gives it no value. -/
theorem lookup_tagText_with_constraints_in_options :
    let options := "rename = \"\\\\\" apivalidator:\"x\""
    let attributes : List Attribute :=
      [.doc " Written json:\"x\" in prose.", .doc " apivalidator:\"required\"",
        .serde options, .serde "default"]
    lookup (tagText attributes) "apivalidator" = some "required"
      ∧ lookup (tagText attributes) "json" = none
      ∧ lookup (tagText attributes) "serde" = some (options ++ ", default")
      ∧ isAnnotated (tagText attributes) = true := by
  intro options attributes
  obtain ⟨hother, hserde, hannotated⟩ := lookup_tagText attributes
  have hlines : tagLines attributes = [" apivalidator:\"required\""] := by decide +kernel
  refine ⟨(hother _ (by decide)).trans ?_, (hother _ (by decide)).trans ?_,
    hserde.trans ?_, hannotated.mpr (.inr (.inr (.inr ?_)))⟩
  · rw [docValue?, hlines]; decide +kernel
  · rw [docValue?, hlines]; decide +kernel
  · rw [docValue?, hlines]; decide +kernel
  · decide

end Source

end Switchboard
