import Switchboard.Proofs.Dispatch.Legible
import Switchboard.Proofs.Dispatch.Reading
import Switchboard.Proofs.Source.Fields

/-!
# How a record is filled

The method that answers for a handler fills the record that the handler takes: it
writes the structure out, field by field, and where the structure has fields that no
form fills it takes these from the default. This is accepted as code only if each field
is named or the default stands for it, and the default may stand there only at the end.

Read back from the code (`recordLiteral?`), the fields named are those of the record
(`literalsOf_endpointCode`), so by the way of the declarations they are the annotated
fields of the structure, each once and in their order, and the default stands there
exactly when there are others (`literal_of_struct`). A keyword names a field only with the
mark of a raw name, and has it where it does (`nameWritten?_fieldName`).
-/

namespace Switchboard

namespace Dispatch

open Source (unmarked plainName)
open Text (cut? cut?_append isIdentContinue quote)

/-! ## Structures written out -/

/-- **A structure written out**: which one, the fields that are named, in order, and
whether the default stands for all others. -/
structure RecordLiteral where
  /-- The structure. -/
  record : String
  /-- The fields, by the names that the words before the colons stand for. -/
  fields : List String
  /-- Whether others are taken from the default. -/
  defaults : Bool
deriving DecidableEq, Repr

/-- **The name that a word stands for** where a field is named. Behind the mark of a raw
name any word may stand. Without it a word stands for itself, but only if it is a name by
itself, which no keyword is. -/
def nameWritten? (word : List Char) : Option String :=
  let name := unmarked word
  if name.all isIdentContinue ∧ (name ≠ word ∨ isPlainName (String.ofList name)) then
    some (String.ofList name)
  else none

/-- The field that a line gives a value, by the word before its first colon. -/
def fieldNamed? (line : String) : Option String := do
  let (word, _) ← cut? ':' line.toList
  nameWritten? word

/-- The fields that are named, and whether the default stands behind them. -/
def readFields : List Code → Option (List String × Bool)
  | [] => some ([], false)
  | .line text :: rest =>
    match fieldNamed? text with
    | some name => (readFields rest).map fun (names, defaults) => (name :: names, defaults)
    | none => if text = "..Default::default()" ∧ rest.isEmpty then some ([], true) else none
  | _ => none

/-- The structure that code writes out, if it is the block that fills a record. -/
def recordLiteral? : Code → Option RecordLiteral
  | .block opening inside _ => do
    let record ← between? "let params = " " \x7b" opening
    let (fields, defaults) ← readFields inside
    return ⟨String.ofList record, fields, defaults⟩
  | _ => none

/-- **The structures written out** in the body of a method. -/
def literalsOf : Code → List RecordLiteral
  | .block _ body _ => body.filterMap recordLiteral?
  | _ => []

/-- A name without the mark of a raw one has none to take off. -/
theorem unmarked_of_isPlain {name : String} (h : IsPlain name) :
    unmarked name.toList = name.toList := by
  have hmark := h.notMem (c := '#') (by decide)
  unfold unmarked
  split
  · next hcs => exact absurd (by simp [hcs]) hmark
  · rfl

/-- **A field is named by a word that stands for its name**: by the name where it is one by
itself, and by the raw name where it is not. -/
theorem nameWritten?_fieldName {name : String} (h : IsPlain name) :
    nameWritten? (fieldName name).toList = some name := by
  have hname : name.toList.all isIdentContinue = true := by
    rw [List.all_eq_true]
    intro c hc
    by_contra hnot
    exact h.notMem (Bool.eq_false_iff.mpr hnot) hc
  by_cases hplain : isPlainName name
  · rw [fieldName, if_pos hplain, nameWritten?, unmarked_of_isPlain h, String.ofList_toList]
    exact if_pos ⟨hname, .inr hplain⟩
  · have hraw : unmarked ("r#" ++ name).toList = name.toList := by
      rw [String.toList_append]
      rfl
    rw [fieldName, if_neg hplain, nameWritten?, hraw, String.ofList_toList]
    refine if_pos ⟨hname, .inl fun heq => ?_⟩
    rw [String.toList_append] at heq
    exact absurd (List.self_eq_append_left.mp heq) (by decide)

/-- A keyword is named with the mark of a raw name, and the bare word names no field. -/
example : (fieldNamed? "r#type: x,", fieldNamed? "type: x,") = (some "type", none) := by
  decide +kernel

theorem fieldNamed?_fieldCode {f : Field} (h : IsPlain f.name) :
    fieldNamed? (fieldName f.name ++ ": inputs." ++ accessorName f.kind ++ "("
      ++ quote f.externalKey ++ "),") = some f.name := by
  have hcolon : ':' ∉ (fieldName f.name).toList :=
    notMem_fieldName h (by decide) (by decide)
  simp only [fieldNamed?, String.toList_append, List.append_assoc]
  rw [show ": inputs.".toList = ':' :: " inputs.".toList from rfl, List.cons_append,
    cut?_append hcolon]
  exact nameWritten?_fieldName h

theorem readFields_append {fields : List Field} (h : ∀ f ∈ fields, IsPlain f.name)
    (code : List Code) :
    readFields (fields.map fieldCode ++ code)
      = (readFields code).map fun (names, defaults) =>
          (fields.map Field.name ++ names, defaults) := by
  induction fields with
  | nil => exact Option.map_id'.symm
  | cons f fields ih =>
    rw [List.forall_mem_cons] at h
    rw [List.map_cons, List.cons_append, fieldCode, readFields, fieldNamed?_fieldCode h.1, ih h.2]
    exact Option.map_map _ _ _

/-- **A record is filled field by field**, and from the default where it has others. -/
theorem recordLiteral?_recordCode {r : Record} (h : ∀ f ∈ r.fields, IsPlain f.name) :
    recordLiteral? (recordCode r)
      = some ⟨r.name, r.fields.map Field.name, r.hasOtherFields⟩ := by
  have hname : between? "let params = " " \x7b" ("let params = " ++ r.name ++ " \x7b")
      = some r.name.toList := by
    rw [between?_eq_some_iff, String.toList_append, String.toList_append]
  have hdefaults : readFields (if r.hasOtherFields then [.line "..Default::default()"] else [])
      = some ([], r.hasOtherFields) := by
    cases r.hasOtherFields <;> decide
  rw [recordCode, recordLiteral?, hname, readFields_append h, hdefaults]
  simp

/-- **The method that answers for an endpoint fills its record once.** -/
theorem literalsOf_endpointCode {e : Endpoint} (h : ∀ f ∈ e.record.fields, IsPlain f.name) :
    literalsOf (endpointCode e)
      = [⟨e.record.name, e.record.fields.map Field.name, e.record.hasOtherFields⟩] := by
  have hother {opening closing : String} {inside : List Code}
      (h : between? "let params = " " \x7b" opening = none) :
      recordLiteral? (.block opening inside closing) = none := by
    rw [recordLiteral?, h]
    rfl
  have htemplate : recordLiteral? (tableCode "const TEMPLATE: &[(&str, &str)]"
      (e.record.template.entries.map templateEntry)) = none := hother (by decide)
  have hinputs : recordLiteral? (tableCode "const INPUTS: &[InputField]"
      (e.record.fields.map inputEntry)) = none := hother (by decide)
  have hintake : intakeCode.filterMap recordLiteral? = [] := by decide
  have hcontext : (contextCode e.handler).filterMap recordLiteral? = [] := by
    rw [contextCode]
    split_ifs <;> rfl
  have hcall : recordLiteral? (callCode e.handler) = none :=
    hother (between?_of_head? (by decide) (by simp [String.toList_append]))
  have hblank : recordLiteral? .blank = none := rfl
  rw [endpointCode, literalsOf]
  simp only [List.filterMap_append, List.filterMap_cons, List.filterMap_nil, htemplate,
    hinputs, hblank, hintake, hcontext, hcall, recordLiteral?_recordCode h, List.nil_append,
    List.append_nil]

end Dispatch

/-! ## Structures and the methods that fill them -/

open Source Dispatch

/-- **A structure is written out as it is declared**: each annotated field is named once, in
order, no other is, the default stands there for the others, if there are others, and so
no field is left out. -/
structure Dispatch.RecordLiteral.Covers (l : RecordLiteral) (s : Struct) : Prop where
  /-- It is this structure. -/
  record : l.record = s.name.text
  /-- The annotated fields are named, and no others. -/
  fields : l.fields = s.tagged.map fun f => plainName f.name
  /-- The default is there for the others. -/
  defaults : l.defaults = true ↔ ∃ f ∈ s.fields.getD [], ¬f.IsTagged
  /-- Each field gets a value. -/
  complete : ∀ f ∈ s.fields.getD [], plainName f.name ∈ l.fields ∨ l.defaults = true

/-- A record with the annotated fields of a structure covers it. -/
theorem Dispatch.RecordLiteral.covers_of_tagged {s : Struct} {r : Record}
    (hname : r.name = s.name.text)
    (hfields : r.fields.map Field.name = s.tagged.map (fun f => plainName f.name))
    (hothers : r.hasOtherFields = decide (∃ f ∈ s.fields.getD [], ¬f.IsTagged)) :
    RecordLiteral.Covers ⟨r.name, r.fields.map Field.name, r.hasOtherFields⟩ s := by
  have hdefaults : r.hasOtherFields = true ↔ ∃ f ∈ s.fields.getD [], ¬f.IsTagged := by
    rw [hothers, decide_eq_true_iff]
  refine ⟨hname, hfields, hdefaults, fun f hf => ?_⟩
  by_cases htagged : f.IsTagged
  · refine .inl ?_
    dsimp only
    rw [hfields]
    exact List.mem_map_of_mem (List.mem_filter.mpr ⟨hf, decide_eq_true htagged⟩)
  · exact .inr (hdefaults.mpr ⟨f, hf, htagged⟩)

/-- **A structure is filled as it is declared.** A structure with an annotated field whose
type has no kind is refused for the first of these. All others declare a record exactly
when they have annotated fields, and it has these fields, with their names, kinds and
annotations, and tells whether there are others. Of an accepted source each handler is
linked to such a structure, and the method that answers for it writes this structure out
once, with each annotated field named once, no other field named, and the default at the
end exactly when there are others. -/
theorem literal_of_struct (file : String) :
    (∀ (s : Struct) (fields : List StructField), s.fields = some fields →
      (∀ earlier f later,
        fields.filter (fun f => decide f.IsTagged) = earlier ++ f :: later →
        (∀ g ∈ earlier, ∃ k, g.type.HasKind k) → (∀ k, ¬f.type.HasKind k) →
        itemDeclarations file (.struct s) = .error (.unsupportedKind (f.pos.inFile file)
            s.name.text (plainName f.name) f.type.text)
        ∧ ∀ source tokens before after, fileTokens source = .ok tokens →
          itemsOf tokens = .ok (before ++ .struct s :: after) →
          (∀ item ∈ before, ∃ decls, itemDeclarations file item = .ok decls) →
          declarations source file = .error (.unsupportedKind (f.pos.inFile file)
            s.name.text (plainName f.name) f.type.text))
      ∧ ((∀ f ∈ fields, f.IsTagged → ∃ k, f.type.HasKind k) →
        (¬(∃ f ∈ fields, f.IsTagged) ∧ itemDeclarations file (.struct s) = .ok [])
        ∨ (∃ f ∈ fields, f.IsTagged) ∧ ∃ r, s.DeclaresRecord file r
          ∧ itemDeclarations file (.struct s) = .ok [.record r]))
    ∧ ∀ moduleName source tokens items api label, fileTokens source = .ok tokens →
      itemsOf tokens = .ok items → Api.ofSource moduleName source file = .ok api →
      ∃ text, render api label = .ok text ∧ ∀ h ∈ api.handlers, ∃ s e l,
        h.link.bind ((taggedStructs items)[·]?) = some s ∧ api.endpoint h = .ok e
        ∧ (endpointCode e).chars 1 <:+: text.toList
        ∧ literalsOf (endpointCode e) = [l] ∧ l.Covers s := by
  constructor
  · rintro ⟨name, pos, _⟩ fields rfl
    refine ⟨fun earlier f later htagged hearlier hf => ?_, fun hkinds => ?_⟩
    · have hitem : itemDeclarations file (.struct ⟨name, pos, some fields⟩)
          = .error (.unsupportedKind (f.pos.inFile file) name.text (plainName f.name)
              f.type.text) := by
        rw [itemDeclarations, recordDeclaration?_eq_error (s := ⟨name, pos, some fields⟩) file
          htagged hearlier hf]
        rfl
      refine ⟨hitem, fun source tokens before after htokens hitems hbefore => ?_⟩
      rw [declarations_eq htokens hitems]
      exact declarationsIn_eq_error hbefore hitem
    · by_cases hany : ∃ f ∈ fields, f.IsTagged
      · have htagged : Struct.tagged ⟨name, pos, some fields⟩ ≠ [] :=
          fun hnil => Struct.tagged_eq_nil_iff.mp hnil hany
        have hkind : ∀ f ∈ Struct.tagged ⟨name, pos, some fields⟩, ∃ k, f.type.HasKind k := by
          intro f hf
          obtain ⟨hf, htag⟩ := List.mem_filter.mp hf
          exact hkinds f hf (of_decide_eq_true htag)
        obtain ⟨r, hr⟩ := exists_declaresRecord file hkind
        refine .inr ⟨hany, r, hr, ?_⟩
        rw [itemDeclarations, recordDeclaration?_eq_some_iff.mpr ⟨htagged, hr⟩]
        rfl
      · exact .inl ⟨hany, itemDeclarations_eq_nil_iff.mpr hany⟩
  · intro moduleName source tokens items api label htokens hitems hapi
    obtain ⟨-, es, hes, hnamed⟩ := Api.exists_endpoints_of_source hapi
    obtain ⟨decls, hdecls, hapi⟩ := bind_eq_ok.mp hapi
    rw [declarations_eq htokens hitems] at hdecls
    refine ⟨_, render_eq_ok hes label, fun h hh => ?_⟩
    obtain ⟨e, he, hendpoint⟩ := exists_of_mem_forall₂ hes hh
    obtain ⟨s, hlink, hname, hfields, hothers⟩ := Api.exists_struct_of_linkedRecord? hdecls hapi
      (Api.linkedRecord?_of_endpoint hendpoint)
    exact ⟨s, e, _, hlink, hendpoint, infix_moduleText_of_mem he,
      literalsOf_endpointCode (hnamed e he).fields,
      RecordLiteral.covers_of_tagged hname hfields hothers⟩

/-- A source whose record has two annotated fields, one of them with a raw name, and
another one. -/
def rawNameSource : String := Text.join "\n" [
  "struct P \x7b", "/// apivalidator:\"required\"", "r#type: String,", "w: Vec<u8>,",
  "/// apivalidator:\"min=1\"", "n: std::i64", "\x7d",
  "impl S \x7b", "/// apigen:api \x7b\"url\": \"/a\"\x7d",
  "fn f(&self, p: P) -> Result<P, E> \x7b\x7d", "\x7d"]

/-- The structures with annotated fields of a source, each with the names of these and
whether it has others. -/
def Source.taggedIn (source : String) : Except Pos (List (String × List String × Bool)) :=
  (fileTokens source >>= itemsOf).map fun items => (taggedStructs items).map fun s =>
    (s.name.text, s.tagged.map fun f => plainName f.name,
      decide (∃ f ∈ s.fields.getD [], ¬f.IsTagged))

/-- A structure with an annotated field that has a kind and one that has none. -/
def listFieldStruct : Struct :=
  let tag : List Attribute := [.doc "apivalidator:\"required\""]
  let word (text : String) (h : (unmarked text.toList).all Text.isIdentContinue = true) :
      Word := ⟨text, List.all_eq_true.mp h⟩
  ⟨word "P" (by decide), ⟨1, 8⟩, some [
    ⟨word "t" (by decide), ⟨2, 1⟩, tag, .named "String" false (word "String" (by decide))⟩,
    ⟨word "v" (by decide), ⟨3, 1⟩, tag,
      .applied "Vec<u8>" false (word "Vec" (by decide)) none⟩]⟩

/-- A record with two annotated fields, one of them named by a keyword, and with another
field is written out with the two names and the default behind them, and a structure with an
annotated list is refused. -/
theorem literal_of_struct_with_raw_name :
    (∃ api text e, Api.ofSource "s" rawNameSource "s.rs" = .ok api
      ∧ render api "s.rs" = .ok text ∧ (endpointCode e).chars 1 <:+: text.toList
      ∧ literalsOf (endpointCode e) = [⟨"P", ["type", "n"], true⟩])
    ∧ itemDeclarations "s.rs" (.struct listFieldStruct)
      = .error (.unsupportedKind ⟨"s.rs", 3, 1⟩ "P" "v" "Vec<u8>") := by
  obtain ⟨hstruct, hsource⟩ := literal_of_struct "s.rs"
  constructor
  · have htagged : taggedIn rawNameSource = .ok [("P", ["type", "n"], true)] := by
      rw [taggedIn, fileTokens, rawNameSource, Text.join, String.toList_intercalate]
      simp only [List.map_cons, List.map_nil]
      repeat rewrite [String.toList_ofList]
      decide +kernel
    have hlinks : (Api.ofSource "s" rawNameSource "s.rs").map
        (fun api => api.handlers.map Handler.link) = .ok [some 0] := by
      rw [Api.ofSource, declarations, fileTokens, rawNameSource, Text.join,
        String.toList_intercalate]
      simp only [List.map_cons, List.map_nil]
      repeat rewrite [String.toList_ofList]
      decide +kernel
    obtain ⟨api, hapi, hlinks⟩ := map_eq_ok.mp hlinks
    obtain ⟨items, hitems, htagged⟩ := map_eq_ok.mp htagged
    obtain ⟨tokens, htokens, hitems⟩ := bind_eq_ok.mp hitems
    obtain ⟨text, hrender, hfilled⟩ :=
      hsource "s" rawNameSource tokens items api "s.rs" htokens hitems hapi
    obtain ⟨h, hhandlers, hlink⟩ := List.map_eq_singleton_iff.mp hlinks
    obtain ⟨s, e, ⟨record, fields, defaults⟩, hs, -, hwritten, hliterals, hcovers⟩ :=
      hfilled h (by rw [hhandlers]; exact List.mem_singleton_self h)
    obtain ⟨s', hstructs, hs'⟩ := List.map_eq_singleton_iff.mp htagged
    rw [hlink, hstructs] at hs
    obtain rfl := Option.some.inj hs
    obtain ⟨hname, hs'⟩ := Prod.mk.inj hs'
    obtain ⟨hfields, hothers⟩ := Prod.mk.inj hs'
    obtain rfl : record = "P" := hcovers.record.trans hname
    obtain rfl : fields = ["type", "n"] := hcovers.fields.trans hfields
    obtain rfl : defaults = true := hcovers.defaults.mpr (of_decide_eq_true hothers)
    exact ⟨api, text, e, hapi, hrender, hwritten, hliterals⟩
  · refine ((hstruct listFieldStruct _ rfl).1 [_] _ [] (List.filter_eq_self.mpr ?_) ?_ ?_).1
    · decide +kernel
    · rintro g hg
      rw [List.mem_singleton.mp hg]
      exact ⟨.string, _, _, rfl, rfl⟩
    · exact Ty.kind?_eq_none_iff.mp rfl

end Switchboard
