import Switchboard.Proofs.Source.Annotations
import Switchboard.Proofs.Source.Fields

/-!
# Sources that document tables

A table of fields is written down as a structure: each field with its tag on a line of
its documentation. A directive is written down in the documentation of a method. This is
how a table gets into a source, and what is read from such a source is the table again.

What a source is read as goes by little of its items: names, types by their kind, and
documentation as it stands. This is the view that is taken here (`Item.source`). Whether
a row of fields is the documentation of a table can be seen in it, and so can the
methods with their directives and the items that declare nothing
(`ItemSource.Documents`). A source whose items document tables is accepted, and its API
consists of the tables, each handler with the table of the record it takes
(`Api.ofSource_of_documents`).
-/

namespace Switchboard

/-! ## Rows of tables -/

/-- **A record as a row of a table**, wherever it is declared. -/
structure RecordRow where
  /-- Its name. -/
  name : String
  /-- The fields a form fills, in order. -/
  fields : List Field
  /-- Whether it has fields beside these. -/
  hasOtherFields : Bool
deriving DecidableEq, Repr

/-- **A handler as a row of a table**, wherever it is declared. -/
structure HandlerRow where
  /-- The type it belongs to. -/
  receiver : String
  /-- Its name. -/
  name : String
  /-- The name of the record it takes. -/
  record : String
  /-- Where it is reached. -/
  directive : Directive
deriving DecidableEq, Repr

/-- The row of a record. -/
def Record.row (r : Record) : RecordRow := ⟨r.name, r.fields, r.hasOtherFields⟩

/-- The row of a handler. -/
def Handler.row (h : Handler) : HandlerRow := ⟨h.receiver, h.name, h.record, h.directive⟩

namespace Source

/-! ## What is seen of items -/

/-- **What of a field its declaration is made from.** -/
structure FieldSource where
  /-- Its name. -/
  name : String
  /-- Its attributes. -/
  attributes : List Attribute
  /-- The kind of its type, if it has one. -/
  kind : Option Kind
deriving DecidableEq, Repr

/-- **What of a method its declaration is made from.** -/
structure MethodSource where
  /-- Its attributes. -/
  attributes : List Attribute
  /-- The receiver, the name and the record, if its signature is that of a handler. -/
  signature : Option (String × String × String)
deriving DecidableEq, Repr

/-- **What of an item its declarations are made from.** -/
inductive ItemSource where
  /-- A structure, by its name and its fields. -/
  | struct (name : String) (fields : List FieldSource)
  /-- A block of methods, and whether it is for a trait. -/
  | impl (isTrait : Bool) (methods : List MethodSource)
  /-- Any other item. -/
  | other
deriving DecidableEq, Repr

/-- What is seen of a field. -/
def StructField.source (f : StructField) : FieldSource :=
  ⟨plainName f.name, f.attributes, f.type.kind?⟩

/-- What is seen of a method of a block. -/
def Method.source (file : String) (b : ImplBlock) (m : Method) : MethodSource :=
  ⟨m.attributes,
    (blockHandler file b m).toOption.map fun d => (d.receiver, d.name, d.record)⟩

/-- **What is seen of an item.** -/
def Item.source (file : String) : Item → ItemSource
  | .struct s => .struct s.name.text ((s.fields.getD []).map StructField.source)
  | .impl b => .impl b.isTrait (b.methods.map (Method.source file b))
  | .other => .other

end Source

open Source

/-- **How a field of a table is written down**: with its tag on a line of documentation. -/
def Field.source (f : Field) : FieldSource := ⟨f.name, [.doc (" " ++ f.tag)], some f.kind⟩

/-- **A field that is read as it is written down.** -/
structure Field.IsDocumented (f : Field) : Prop where
  /-- Its tag is all of its annotations. -/
  tag : tagText [.doc (" " ++ f.tag)] = f.tag
  /-- The tag makes it a field that a form fills. -/
  annotated : isAnnotated f.tag = true
  /-- Its constraints are those of the tag. -/
  constraints : Doc.constraints f.tag = .ok f.constraints

namespace Source

/-! ## Tags on a line of documentation -/

open Doc

/-- A pair with nothing behind it has no blanks around it. -/
theorem trim_pair {i : SpacedPair} (h : i.IsWritable) (hend : i.blanks = "") :
    Text.trim i.text.toList = i.text.toList := by
  obtain ⟨c, cs, hkey⟩ :=
    List.exists_cons_of_ne_nil (mt String.toList_eq_nil_iff.mp h.key_ne_empty)
  refine Text.trim_of_ends ?_ ?_
  · have hc : isKeyChar c = true := h.key c (hkey ▸ List.mem_cons_self)
    rw [isKeyChar, Bool.and_eq_true, Bool.and_eq_true, Bool.not_eq_true'] at hc
    simpa [SpacedPair.text, hkey] using hc.1.1
  · have hquote : i.text.toList
        = (i.key ++ ":\"" ++ escapeQuotes i.value).toList ++ ['"'] := by
      rw [SpacedPair.text, hend, String.append_empty, String.toList_append]
      rfl
    rw [hquote, List.getLast?_concat]
    rintro c ⟨rfl⟩
    decide

/-- **A pair on a line of documentation is all of the annotations.** -/
theorem tagText_pair {i : SpacedPair} (h : i.IsWritable) (hend : i.blanks = "")
    (hline : '\n' ∉ i.text.toList) : tagText [.doc (" " ++ i.text)] = i.text := by
  have hchars : (" " ++ i.text).toList = [' '] ++ i.text.toList := String.toList_append
  have hblank : ∀ c ∈ [' '], Text.isBlank c = true := List.forall_mem_singleton.mpr rfl
  have hlines : docLines [.doc (" " ++ i.text)] = [" " ++ i.text] := by
    have hpieces : Text.pieces '\n' (" " ++ i.text).toList = [(" " ++ i.text).toList] :=
      Text.pieces_of_notMem (by simpa using hline)
    rw [docLines, List.flatMap_singleton]
    dsimp only
    rw [Text.lines, hpieces, hchars]
    show [String.ofList ([' '] ++ i.text.toList)] = _
    rw [← hchars, String.ofList_toList]
  have htag : isTagLine (" " ++ i.text) = true := by
    have hsplit := (isSplit_blanks hblank).append h.isSplit
    rw [← hchars] at hsplit
    refine isTagLine_iff.mpr ⟨_, hsplit, ?_⟩
    rw [pairsOf_append, SpacedPair.pairsOf_pieces]
    exact List.append_ne_nil_of_right_ne_nil _ (List.cons_ne_nil _ _)
  have htrimmed : trimmed (" " ++ i.text) = i.text := by
    rw [trimmed, hchars, Text.trim_append_left hblank, trim_pair h hend,
      String.ofList_toList]
  rw [tagText, hlines, List.filter_cons_of_pos htag]
  simp [htrimmed, serdeTag, serdeOptions, Text.join]

/-! ## Structures that document tables -/

/-- A field that is written down as one of a table declares this one. -/
theorem StructField.exists_declares {f : StructField} {t : Field} (hsource : f.source = t.source)
    (ht : t.IsDocumented) (file record : String) :
    f.IsTagged ∧ ∃ d, f.Declares file d ∧ d.field record = .ok t := by
  obtain ⟨hname, hattributes, hkind⟩ := FieldSource.mk.inj hsource
  have htag : tagText f.attributes = t.tag := by rw [hattributes, ht.tag]
  refine ⟨?_, ⟨t.name, t.kind, t.tag, f.pos.inFile file⟩, ?_, ?_⟩
  · rw [StructField.IsTagged, htag]
    exact ht.annotated
  · exact ⟨hname.symm, Ty.kind?_eq_some_iff.mp hkind, htag.symm, rfl⟩
  · rw [FieldDeclaration.field, ht.constraints]
    rfl

/-- The fields of a structure that documents a table are those of the table, and behind them
others that are not annotated. -/
theorem Struct.exists_fields {s : Struct} {table : List Field} {others : List FieldSource}
    (hfields : (s.fields.getD []).map StructField.source = table.map Field.source ++ others)
    (htable : ∀ t ∈ table, t.IsDocumented)
    (hothers : ∀ o ∈ others, isAnnotated (tagText o.attributes) = false) (file : String) :
    ∃ fs os, s.fields.getD [] = fs ++ os ∧ os.isEmpty = others.isEmpty
      ∧ List.Forall₂ (fun f t => f.IsTagged
          ∧ ∃ d, f.Declares file d ∧ d.field s.name.text = .ok t) fs table
      ∧ ∀ o ∈ os, ¬o.IsTagged := by
  obtain ⟨fs, os, hsplit, hfs, hos⟩ := List.map_eq_append_iff.mp hfields
  refine ⟨fs, os, hsplit, by rw [← hos, List.isEmpty_map], ?_, fun o ho htagged => ?_⟩
  · rw [← List.forall₂_eq_eq_eq, List.forall₂_map_left_iff, List.forall₂_map_right_iff] at hfs
    exact (forall₂_and_mem hfs).imp fun f t h =>
      f.exists_declares h.1 (htable t h.2) file s.name.text
  · have hplain := hothers o.source (hos ▸ List.mem_map_of_mem ho)
    exact Bool.false_ne_true (hplain.symm.trans htagged)

/-- **A structure that documents a table declares it**, whatever its other fields are. -/
theorem Struct.exists_record {s : Struct} {table : List Field} {others : List FieldSource}
    (hfields : (s.fields.getD []).map StructField.source = table.map Field.source ++ others)
    (hne : table ≠ []) (htable : ∀ t ∈ table, t.IsDocumented)
    (hothers : ∀ o ∈ others, isAnnotated (tagText o.attributes) = false) (file : String) :
    ∃ d r, itemDeclarations file (.struct s) = .ok [.record d] ∧ d.record = .ok r
      ∧ r.row = ⟨s.name.text, table, !others.isEmpty⟩ := by
  obtain ⟨fs, os, hsplit, hempty, hrows, hplain⟩ :=
    s.exists_fields hfields htable hothers file
  have hall : ∀ f ∈ fs, f.IsTagged := fun f hf => by
    obtain ⟨t, -, h, -⟩ := exists_of_mem_forall₂ hrows hf
    exact h
  have htagged : s.tagged = fs := by
    rw [Struct.tagged, hsplit, List.filter_append, List.filter_eq_self.mpr (by simpa using hall),
      List.filter_eq_nil_iff.mpr (by simpa using hplain), List.append_nil]
  have hnonempty : s.tagged ≠ [] := by
    intro hnil
    rw [← htagged, hnil, List.forall₂_nil_left_iff] at hrows
    exact hne hrows
  have hmore : (!others.isEmpty) = true ↔ ∃ f ∈ s.fields.getD [], ¬f.IsTagged := by
    rw [← hempty, Bool.not_eq_true', List.isEmpty_eq_false_iff_exists_mem, hsplit]
    constructor
    · rintro ⟨o, ho⟩
      exact ⟨o, List.mem_append_right _ ho, hplain o ho⟩
    · rintro ⟨f, hf, hnot⟩
      exact ⟨f, (List.mem_append.mp hf).resolve_left fun h => hnot (hall f h)⟩
  obtain ⟨ds, hdeclares, hread⟩ := exists_forall₂_of_comp (fun _ _ h => h.2) hrows
  have hdeclared : recordDeclaration? file s
      = .ok (some ⟨s.name.text, ds, !others.isEmpty, s.pos.inFile file⟩) :=
    recordDeclaration?_eq_some_iff.mpr ⟨hnonempty, rfl, htagged ▸ hdeclares, hmore, rfl⟩
  refine ⟨⟨s.name.text, ds, !others.isEmpty, s.pos.inFile file⟩,
    ⟨s.name.text, table, !others.isEmpty, s.pos.inFile file⟩, ?_, ?_, rfl⟩
  · rw [itemDeclarations, hdeclared]
    rfl
  · rw [RecordDeclaration.record, mapM_eq_ok.mpr hread]
    rfl

/-! ## Methods with directives -/

/-- What follows a marker follows one that is there. -/
theorem infix_of_afterMarker? {lineStart : Bool} {cs text : List Char}
    (h : afterMarker? lineStart cs = some text) : directiveMarker.toList <:+: cs := by
  induction cs generalizing lineStart with
  | nil => exact nomatch h
  | cons c rest ih =>
    rw [afterMarker?] at h
    split_ifs at h with hmarker
    · rw [Bool.and_eq_true, List.isPrefixOf_iff_prefix] at hmarker
      exact hmarker.2.isInfix
    · exact (ih h).trans (List.suffix_cons c rest).isInfix
    · exact (ih h).trans (List.suffix_cons c rest).isInfix

/-- A text with a directive has the marker. -/
theorem hasMarker_of_directive {doc : String} {d : Directive} (h : directive doc = .ok d) :
    hasMarker doc = true := by
  rw [directive] at h
  cases hafter : afterMarker? true doc.toList with
  | none => exact nomatch hafter ▸ h
  | some text => exact Text.occursIn_iff.mpr (infix_of_afterMarker? hafter)

/-- The characters of a documentation are those of its lines. -/
theorem toList_docText (attributes : List Attribute) :
    (docText attributes).toList = ['\n'].intercalate (attributes.flatMap fun a =>
      match a with
      | .doc text => Text.linesOfPieces (Text.pieces '\n' text.toList)
      | _ => []) := by
  rw [docText, docLines, Text.join, String.toList_intercalate, List.map_flatMap]
  refine congrArg _ (List.flatMap_congr fun a _ => ?_)
  cases a with
  | doc text => simp [Text.lines]
  | serde => rfl
  | other => rfl

/-- **A method declares the handler of its directive**, if its signature is that of one. -/
theorem Method.exists_handler {file : String} {b : ImplBlock} {m : Method}
    {attributes : List Attribute} {row : HandlerRow}
    (hsource : m.source file b = ⟨attributes, some (row.receiver, row.name, row.record)⟩)
    (hdirective : Doc.directive (docText attributes) = .ok row.directive) :
    ∃ d h, blockHandler file b m = .ok d ∧ d.handler = .ok h ∧ h.row = row := by
  obtain ⟨hattributes, hsignature⟩ := MethodSource.mk.inj hsource
  cases hd : blockHandler file b m with
  | error e => exact nomatch hd ▸ hsignature
  | ok d =>
    rw [hd] at hsignature
    obtain ⟨hreceiver, hrest⟩ := Prod.mk.inj (Option.some.inj hsignature)
    obtain ⟨hname, hrecord⟩ := Prod.mk.inj hrest
    obtain ⟨-, hd'⟩ := throw_if_eq_ok.mp (mapError_eq_ok.mp hd)
    obtain ⟨-, hd'⟩ := throw_if_eq_ok.mp hd'
    obtain ⟨_, _, _, _, _, -, -, -, hdoc⟩ := exists_of_handlerDeclaration hd'
    have hread : Doc.directive d.doc = .ok row.directive := by
      rw [hdoc, hattributes]
      exact hdirective
    refine ⟨d, _, rfl, by rw [HandlerDeclaration.handler, hread]; rfl, ?_⟩
    rw [Handler.row, hreceiver, hname, hrecord]

/-! ## Items that document tables -/

/-- **What a documented method is**: the row of its handler and the documentation that has
its directive. -/
structure MethodRow where
  /-- The row. -/
  handler : HandlerRow
  /-- The attributes. -/
  attributes : List Attribute

/-- **A method that is documented**: the directive of its row is found in the
documentation. -/
def MethodRow.IsDocumented (m : MethodRow) : Prop :=
  directive (docText m.attributes) = .ok m.handler.directive

/-- How a documented method is seen. -/
def MethodRow.source (m : MethodRow) : MethodSource :=
  ⟨m.attributes, some (m.handler.receiver, m.handler.name, m.handler.record)⟩

/-- **A view that shows an item which declares something.** -/
def ItemSource.Declares : ItemSource → Prop
  | .struct _ fields => ∃ f ∈ fields, isAnnotated (tagText f.attributes) = true
  | .impl isTrait methods =>
    isTrait = false ∧ ∃ m ∈ methods, hasMarker (docText m.attributes) = true
  | .other => False

/-- **Items that document rows of tables**, by the handlers and the records in these. -/
inductive ItemSource.Documents : ItemSource → List HandlerRow → List RecordRow → Prop where
  /-- A structure documents a table that has fields, beside fields that are not annotated. -/
  | table {name : String} {table : List Field} {others : List FieldSource} (fields : table ≠ [])
    (documented : ∀ t ∈ table, t.IsDocumented)
    (plain : ∀ o ∈ others, isAnnotated (tagText o.attributes) = false) :
    Documents (.struct name (table.map Field.source ++ others)) []
      [⟨name, table, !others.isEmpty⟩]
  /-- A block for a type documents the handlers that its methods with a marker are. -/
  | methods {methods : List MethodSource} {rows : List MethodRow}
    (marked : (methods.filter fun m => hasMarker (docText m.attributes))
      = rows.map MethodRow.source)
    (documented : ∀ m ∈ rows, m.IsDocumented) :
    Documents (.impl false methods) (rows.map MethodRow.handler) []
  /-- An item that declares nothing documents nothing. -/
  | nothing {item : ItemSource} (silent : ¬item.Declares) : Documents item [] []

/-- A structure with no other fields documents the table of its fields. -/
theorem ItemSource.Documents.tableAlone {name : String} {table : List Field}
    (fields : table ≠ []) (documented : ∀ t ∈ table, t.IsDocumented) :
    (ItemSource.struct name (table.map Field.source)).Documents [] [⟨name, table, false⟩] := by
  rw [← List.append_nil (table.map Field.source)]
  exact .table fields documented (List.forall_mem_nil _)

/-- A block of documented methods documents the handlers that these are. -/
theorem ItemSource.Documents.allMethods {rows : List MethodRow}
    (documented : ∀ m ∈ rows, m.IsDocumented) :
    (ItemSource.impl false (rows.map MethodRow.source)).Documents
      (rows.map MethodRow.handler) [] := by
  refine .methods (List.filter_eq_self.mpr ?_) documented
  exact List.forall_mem_map.mpr fun m hm => hasMarker_of_directive (documented m hm)

variable {file : String}

/-- Whether an item declares something can be seen. -/
theorem declares_source_iff {item : Item} : (item.source file).Declares ↔ item.Declares := by
  cases item with
  | other => rfl
  | impl b =>
    rw [Item.source, ItemSource.Declares, Item.Declares]
    simp only [List.mem_map, exists_exists_and_eq_and, ← hasMarker_iff]
    rfl
  | struct s =>
    obtain ⟨name, pos, fields⟩ := s
    rw [Item.source, ItemSource.Declares]
    simp only [List.mem_map, exists_exists_and_eq_and]
    cases fields with
    | none =>
      refine iff_of_false ?_ not_false
      rintro ⟨_, h, -⟩
      exact absurd h List.not_mem_nil
    | some fields => rfl

/-- **An item that documents rows declares them**, and nothing else. -/
theorem exists_declarations_of_documents {item : Item} {hs : List HandlerRow}
    {rs : List RecordRow} (h : (item.source file).Documents hs rs) :
    ∃ decls, itemDeclarations file item = .ok decls
      ∧ List.Forall₂ (fun d row => ∃ h, d.handler = .ok h ∧ h.row = row) (handlersIn decls) hs
      ∧ List.Forall₂ (fun d row => ∃ r, d.record = .ok r ∧ r.row = row)
          (recordsIn decls) rs := by
  generalize hsource : item.source file = seen at h
  cases h with
  | nothing silent =>
    rw [← hsource, declares_source_iff] at silent
    exact ⟨[], itemDeclarations_eq_nil_iff.mpr silent, .nil, .nil⟩
  | table fields documented plain =>
    cases item with
    | impl b => exact nomatch hsource
    | other => exact nomatch hsource
    | struct s =>
      obtain ⟨rfl, hfields⟩ := ItemSource.struct.inj hsource
      obtain ⟨d, r, hitem, hread, hrow⟩ := s.exists_record hfields fields documented plain file
      exact ⟨_, hitem, .nil, .cons ⟨r, hread, hrow⟩ .nil⟩
  | @methods _ rows marked documented =>
    cases item with
    | struct s => exact nomatch hsource
    | other => exact nomatch hsource
    | impl b =>
      obtain ⟨htrait, rfl⟩ := ItemSource.impl.inj hsource
      have hmethods : b.annotated.map (Method.source file b) = rows.map MethodRow.source := by
        rw [ImplBlock.annotated, htrait, if_neg Bool.false_ne_true, ← marked, List.filter_map]
        rfl
      rw [← List.forall₂_eq_eq_eq, List.forall₂_map_left_iff, List.forall₂_map_right_iff]
        at hmethods
      obtain ⟨ds, hds, hread⟩ := exists_forall₂_of_comp
        (S := fun m d => blockHandler file b m = .ok d)
        (T := fun d row => ∃ h, d.handler = .ok h ∧ h.row = row.handler)
        (fun m row hm => by
          obtain ⟨d, h, hd, hh, hrow⟩ := m.exists_handler hm.1 (documented row hm.2)
          exact ⟨d, hd, h, hh, hrow⟩) (forall₂_and_mem hmethods)
      have hhandlers : handlersIn (ds.map .handler) = ds := by
        rw [handlersIn, List.filterMap_map]
        exact List.filterMap_some
      have hrecords : recordsIn (ds.map .handler) = [] := by
        rw [recordsIn, List.filterMap_map]
        exact List.filterMap_none ds
      refine ⟨ds.map .handler, ?_, ?_, hrecords ▸ .nil⟩
      · rw [itemDeclarations, handlerDeclarations_eq, mapM_eq_ok.mpr hds]
        rfl
      · rw [hhandlers, List.forall₂_map_right_iff]
        exact hread

/-- **Items that document rows declare these**, item by item. -/
theorem exists_declarationsIn_of_documents {items : List Item}
    {rows : List (List HandlerRow × List RecordRow)}
    (h : List.Forall₂ (fun item p => (item.source file).Documents p.1 p.2) items rows) :
    ∃ decls, declarationsIn file items = .ok decls
      ∧ List.Forall₂ (fun d row => ∃ h, d.handler = .ok h ∧ h.row = row) (handlersIn decls)
          (rows.flatMap Prod.fst)
      ∧ List.Forall₂ (fun d row => ∃ r, d.record = .ok r ∧ r.row = row) (recordsIn decls)
          (rows.flatMap Prod.snd) := by
  obtain ⟨declss, hdeclss, hread⟩ :=
    exists_forall₂_of_comp (fun _ _ h => exists_declarations_of_documents h) h
  refine ⟨declss.flatten, ?_, ?_, ?_⟩
  · rw [declarationsIn, mapM_eq_ok.mpr hdeclss]
    rfl
  · rw [handlersIn, List.filterMap_flatten, ← List.flatMap_def]
    exact List.rel_flatMap hread fun _ _ h => h.1
  · rw [recordsIn, List.filterMap_flatten, ← List.flatMap_def]
    exact List.rel_flatMap hread fun _ _ h => h.2

end Source

/-! ## Sources that document tables -/

/-- The first declaration of a name is read as the first record of it. -/
theorem find?_of_firstRecord? {decls : List Declaration} {rs : List Record}
    (hread : List.Forall₂ (fun d r => d.record = .ok r) (recordsIn decls) rs)
    {name : String} {rd : RecordDeclaration} {r : Record}
    (hfirst : firstRecord? decls name = some rd) (hr : rd.record = .ok r) :
    (rs.find? fun r => r.name == name) = some r := by
  cases hfind : rs.find? fun r => r.name == name with
  | some r' =>
    obtain ⟨rd', hfirst', hr'⟩ := exists_firstRecord? hread hfind
    rw [Option.some.inj (hfirst.symm.trans hfirst')] at hr
    rw [Except.ok.inj (hr'.symm.trans hr)]
  | none =>
    have hname : (rd.name == name) = true :=
      List.find?_some (p := fun d : RecordDeclaration => d.name == name) hfirst
    obtain ⟨r', hmem, hr'⟩ := exists_of_mem_forall₂ hread (List.mem_of_find?_eq_some hfirst)
    refine absurd ?_ (List.find?_eq_none.mp hfind r' hmem)
    rw [RecordDeclaration.name_of_record hr', hname]

/-- **A source that documents tables is read as these tables.** If each of its items documents
rows, and each record that is taken is among them, the source is accepted. Its records have
these rows, and each of its handlers has its row and is linked to the first record of the
name that it takes. -/
theorem Api.ofSource_of_documents (moduleName : String) {source file : String} {tokens : List Token}
    {items : List Item} {rows : List (List HandlerRow × List RecordRow)}
    (htokens : fileTokens source = .ok tokens) (hitems : itemsOf tokens = .ok items)
    (h : List.Forall₂ (fun item p => (item.source file).Documents p.1 p.2) items rows)
    (hlinks : ∀ row ∈ rows.flatMap Prod.fst, ∃ r ∈ rows.flatMap Prod.snd, r.name = row.record) :
    ∃ api es, Api.ofSource moduleName source file = .ok api
      ∧ api.records.map Record.row = rows.flatMap Prod.snd
      ∧ List.Forall₂ (fun h e => api.endpoint h = .ok e) api.handlers es
      ∧ List.Forall₂ (fun row e => e.handler.row = row
          ∧ (rows.flatMap Prod.snd).find? (fun r => r.name == row.record) = some e.record.row)
          (rows.flatMap Prod.fst) es := by
  obtain ⟨decls, hdecls, hhandlers, hrecords⟩ := exists_declarationsIn_of_documents h
  have hbuilt : ∃ api, Api.ofDeclarations moduleName decls = .ok api := by
    refine Api.exists_ofDeclarations_iff.mpr ⟨fun d hd => ?_, fun d hd => ?_, fun d hd => ?_⟩
    · obtain ⟨_, -, h, hh, -⟩ := exists_of_mem_forall₂ hhandlers hd
      exact ⟨h, hh⟩
    · obtain ⟨_, -, r, hr, -⟩ := exists_of_mem_forall₂ hrecords hd
      exact ⟨r, hr⟩
    · obtain ⟨row, hrow, h, hh, rfl⟩ := exists_of_mem_forall₂ hhandlers hd
      obtain ⟨_, hmem, hname⟩ := hlinks _ hrow
      obtain ⟨rd, hrd, r, hr, rfl⟩ := exists_of_mem_forall₂ hrecords.flip hmem
      refine ⟨rd, hrd, ?_⟩
      rw [← RecordDeclaration.name_of_record hr, ← HandlerDeclaration.record_of_handler hh]
      exact hname
  obtain ⟨api, hapi⟩ := hbuilt
  obtain ⟨-, hread, -⟩ := Api.ofDeclarations_eq_ok.mp hapi
  obtain ⟨es, hes, hmeans⟩ := Api.exists_endpoints hapi
  have hrows : api.records.map Record.row = rows.flatMap Prod.snd := by
    rw [← List.forall₂_eq_eq_eq, List.forall₂_map_left_iff]
    refine forall₂_trans (fun r d row hr hrow => ?_) hread.flip hrecords
    obtain ⟨r', hr', hrow⟩ := hrow
    rw [← hrow, Except.ok.inj (hr.symm.trans hr')]
  refine ⟨api, es, ?_, hrows, hes, ?_⟩
  · rw [Api.ofSource, declarations_eq htokens hitems, hdecls]
    exact hapi
  · refine forall₂_trans (fun row d e hrow he => ?_) hhandlers.flip hmeans
    obtain ⟨h, hh, rfl⟩ := hrow
    have hunlinked : h = e.handler.unlinked := Except.ok.inj (hh.symm.trans he.handler)
    obtain ⟨rd, hfirst, hrd⟩ := he.record
    have hrecord : (api.records.find? fun r => r.name == h.record) = some e.record :=
      HandlerDeclaration.record_of_handler hh ▸ find?_of_firstRecord? hread hfirst hrd
    refine ⟨hunlinked ▸ rfl, ?_⟩
    rw [← hrows, List.find?_map]
    exact congrArg (Option.map Record.row) hrecord

end Switchboard
