import Switchboard.Proofs.Api.Names
import Switchboard.Proofs.Source.Items

/-!
# The fields of a structure

Of a structure with named fields the annotated ones count, and each of them has to be
of a type that has a kind. The first that is not refuses the structure, and then the
source (`recordDeclaration?_eq_error`); if there is none, the structure is declared
with exactly these fields in their order, and with whether it has others
(`recordDeclaration?_eq_some_iff`). A structure without annotated fields is nothing to
declare, whatever the types of its fields are.

So the records of a source are its structures with annotated fields, in order
(`forall₂_recordsIn`), and what an API keeps of a record at a position is told by the
structure at that position.
-/

namespace Switchboard

/-- The name of the type whose values are of a kind. -/
def Kind.typeName : Kind → String
  | string => "String"
  | int => "i64"
  | uint64 => "u64"

namespace Source

/-! ## One field -/

/-- **A type that has a kind**: a path through no trait, to the name of the kind's type
without arguments. -/
def Ty.HasKind (t : Ty) (k : Kind) : Prop :=
  ∃ text name, t = .named text false name ∧ name.text = k.typeName

theorem Ty.kind?_eq_some_iff {t : Ty} {k : Kind} : t.kind? = some k ↔ t.HasKind k := by
  have hname : t.HasKind k ↔ t.name?.map Word.text = some k.typeName := by
    simp only [Option.map_eq_some_iff, Ty.name?_eq_some_iff]
    exact ⟨fun ⟨text, name, ht, hk⟩ => ⟨name, ⟨text, ht⟩, hk⟩,
      fun ⟨name, ⟨text, ht⟩, hk⟩ => ⟨text, name, ht, hk⟩⟩
  rw [hname, Ty.kind?]
  constructor
  · intro h
    split at h <;> cases h <;> assumption
  · intro h
    rw [h]
    cases k <;> rfl

theorem Ty.kind?_eq_none_iff {t : Ty} : t.kind? = none ↔ ∀ k, ¬t.HasKind k := by
  simp only [Option.eq_none_iff_forall_not_mem, Option.mem_def, Ty.kind?_eq_some_iff]

/-- **A field as it is declared**: by its name without the mark of a raw one, the kind of
its type and its annotations as they are. -/
structure StructField.Declares (file : String) (f : StructField) (d : FieldDeclaration) :
    Prop where
  /-- It has the field's name. -/
  name : d.name = plainName f.name
  /-- It has the kind of the field's type. -/
  kind : f.type.HasKind d.kind
  /-- It has the field's annotations. -/
  tag : d.tag = tagText f.attributes
  /-- It is placed where the field's name stands. -/
  location : d.location = f.pos.inFile file

/-- A field is declared when its type has a kind. -/
theorem fieldDeclaration_eq_ok_iff {file record : String} {f : StructField}
    {d : FieldDeclaration} :
    fieldDeclaration file record f (tagText f.attributes) = .ok d ↔ f.Declares file d := by
  rw [fieldDeclaration]
  constructor
  · intro h
    cases hkind : f.type.kind? with
    | none =>
      rw [hkind] at h
      cases h
    | some kind =>
      rw [hkind] at h
      rw [← Except.ok.inj h]
      exact ⟨rfl, Ty.kind?_eq_some_iff.mp hkind, rfl, rfl⟩
  · rintro ⟨hname, hkind, htag, hlocation⟩
    rw [Ty.kind?_eq_some_iff.mpr hkind, ← hname, ← htag, ← hlocation]

theorem fieldDeclaration_eq_error {file record tag : String} {f : StructField}
    (h : ∀ k, ¬f.type.HasKind k) :
    fieldDeclaration file record f tag
      = .error (.unsupportedKind (f.pos.inFile file) record (plainName f.name)
          f.type.text) := by
  rw [fieldDeclaration, Ty.kind?_eq_none_iff.mpr h]

/-! ## One structure -/

/-- **A structure as it is declared**: by its name, its annotated fields in their order,
and whether it has others. -/
structure Struct.DeclaresRecord (file : String) (s : Struct) (r : RecordDeclaration) :
    Prop where
  /-- It has the structure's name. -/
  name : r.name = s.name.text
  /-- Its fields are the annotated ones of the structure. -/
  fields : List.Forall₂ (StructField.Declares file) s.tagged r.fields
  /-- It tells whether there are others. -/
  others : r.hasOtherFields = true ↔ ∃ f ∈ s.fields.getD [], ¬f.IsTagged
  /-- It is placed where the structure's name stands. -/
  location : r.location = s.pos.inFile file

/-- **A record is declared of a structure with annotated fields**, and it is told by these. -/
theorem recordDeclaration?_eq_some_iff {file : String} {s : Struct}
    {r : RecordDeclaration} :
    recordDeclaration? file s = .ok (some r) ↔ s.tagged ≠ [] ∧ s.DeclaresRecord file r := by
  rw [recordDeclaration?_eq, bind_eq_ok]
  constructor
  · rintro ⟨declared, hdeclared, h⟩
    split_ifs at h with hempty
    · exact nomatch Except.ok.inj h
    · have hfields := mapM_eq_ok.mp hdeclared
      rw [← Option.some.inj (Except.ok.inj h)]
      constructor
      · rintro hnone
        rw [hnone, List.forall₂_nil_left_iff] at hfields
        exact hempty (List.isEmpty_iff.mpr hfields)
      · exact ⟨rfl, hfields.imp fun _ _ => fieldDeclaration_eq_ok_iff.mp,
          decide_eq_true_iff, rfl⟩
  · rintro ⟨htagged, hname, hfields, hothers, hlocation⟩
    refine ⟨r.fields, mapM_eq_ok.mpr (hfields.imp fun _ _ => fieldDeclaration_eq_ok_iff.mpr),
      ?_⟩
    have hsome : ¬r.fields.isEmpty = true := by
      intro hempty
      rw [List.isEmpty_iff.mp hempty, List.forall₂_nil_right_iff] at hfields
      exact htagged hfields
    rw [if_neg hsome, ← hname, ← hlocation,
      ← Bool.eq_iff_iff.mpr (hothers.trans decide_eq_true_iff.symm)]
    rfl

/-- **A record is declared of each structure whose annotated fields have kinds**, if it
has any. -/
theorem exists_declaresRecord {s : Struct} (file : String)
    (h : ∀ f ∈ s.tagged, ∃ k, f.type.HasKind k) : ∃ r, s.DeclaresRecord file r := by
  obtain ⟨ds, hds⟩ : ∃ ds, List.Forall₂ (StructField.Declares file) s.tagged ds := by
    refine exists_forall₂_iff.mpr fun f hf => ?_
    obtain ⟨k, hk⟩ := h f hf
    exact ⟨⟨plainName f.name, k, tagText f.attributes, f.pos.inFile file⟩,
      rfl, hk, rfl, rfl⟩
  exact ⟨⟨s.name.text, ds, decide (∃ f ∈ s.fields.getD [], ¬f.IsTagged),
    s.pos.inFile file⟩, rfl, hds, decide_eq_true_iff, rfl⟩

/-- **The first annotated field whose type has no kind is refused.** -/
theorem recordDeclaration?_eq_error {s : Struct} (file : String)
    {earlier later : List StructField} {f : StructField}
    (htagged : s.tagged = earlier ++ f :: later)
    (hearlier : ∀ g ∈ earlier, ∃ k, g.type.HasKind k) (hf : ∀ k, ¬f.type.HasKind k) :
    recordDeclaration? file s
      = .error (.unsupportedKind (f.pos.inFile file) s.name.text (plainName f.name)
          f.type.text) := by
  have hmapM : s.tagged.mapM (fun f => fieldDeclaration file s.name.text f
      (tagText f.attributes)) = .error (.unsupportedKind (f.pos.inFile file) s.name.text
        (plainName f.name) f.type.text) := by
    refine mapM_eq_error_iff.mpr ⟨earlier, f, later, htagged,
      fieldDeclaration_eq_error hf, fun g hg => ?_⟩
    obtain ⟨k, hk⟩ := hearlier g hg
    exact ⟨⟨plainName g.name, k, tagText g.attributes, g.pos.inFile file⟩,
      fieldDeclaration_eq_ok_iff.mpr ⟨rfl, hk, rfl, rfl⟩⟩
  rw [recordDeclaration?_eq, hmapM]
  rfl

/-! ## The structures of a source -/

/-- The structure with annotated fields that an item is, if it is one. -/
def Item.tagged? : Item → Option Struct
  | .struct s => if s.tagged = [] then none else some s
  | _ => none

/-- **The structures with annotated fields**, in order. -/
def taggedStructs (items : List Item) : List Struct := items.filterMap Item.tagged?

theorem forall₂_recordsIn_of_itemDeclarations {file : String} {item : Item}
    {decls : List Declaration} (h : itemDeclarations file item = .ok decls) :
    List.Forall₂ (Struct.DeclaresRecord file) item.tagged?.toList (recordsIn decls) := by
  cases item with
  | impl b =>
    obtain ⟨ds, -, h⟩ := bind_eq_ok.mp h
    have hrecords : recordsIn (ds.map .handler) = [] := by
      rw [recordsIn, List.filterMap_map]
      exact List.filterMap_none ds
    rw [← Except.ok.inj h, hrecords]
    exact .nil
  | struct s =>
    obtain ⟨r?, hr?, h⟩ := bind_eq_ok.mp h
    rw [← Except.ok.inj h, Item.tagged?]
    cases r? with
    | none =>
      have hnone : itemDeclarations file (.struct s) = .ok [] := bind_eq_ok.mpr ⟨_, hr?, rfl⟩
      rw [if_pos (Struct.tagged_eq_nil_iff.mpr (itemDeclarations_eq_nil_iff.mp hnone))]
      exact .nil
    | some r =>
      obtain ⟨htagged, hdeclares⟩ := recordDeclaration?_eq_some_iff.mp hr?
      rw [if_neg htagged]
      exact .cons hdeclares .nil
  | other =>
    rw [← Except.ok.inj h]
    exact .nil

/-- **The records of a source are its structures with annotated fields**, in order. -/
theorem forall₂_recordsIn {file : String} {items : List Item} {decls : List Declaration}
    (h : declarationsIn file items = .ok decls) :
    List.Forall₂ (Struct.DeclaresRecord file) (taggedStructs items) (recordsIn decls) := by
  obtain ⟨declss, hdeclss, rfl⟩ := map_eq_ok.mp h
  rw [taggedStructs, List.filterMap_eq_flatMap_toList, recordsIn, List.filterMap_flatten,
    ← List.flatMap_def]
  exact List.rel_flatMap (mapM_eq_ok.mp hdeclss)
    fun _ _ => forall₂_recordsIn_of_itemDeclarations

/-- What an API keeps of a structure: its name, the names of its annotated fields and
whether it has others. -/
theorem Struct.DeclaresRecord.of_record {file : String} {s : Struct}
    {d : RecordDeclaration} (h : s.DeclaresRecord file d) {r : Record}
    (hr : d.record = .ok r) :
    r.name = s.name.text
      ∧ r.fields.map Field.name = s.tagged.map (fun f => plainName f.name)
      ∧ r.hasOtherFields = decide (∃ f ∈ s.fields.getD [], ¬f.IsTagged) := by
  obtain ⟨fields, hfields, hr⟩ := bind_eq_ok.mp hr
  rw [← Except.ok.inj hr]
  refine ⟨h.name, Eq.symm ?_, ?_⟩
  · rw [← List.forall₂_eq_eq_eq, List.forall₂_map_left_iff, List.forall₂_map_right_iff]
    refine forall₂_trans ?_ h.fields (mapM_eq_ok.mp hfields)
    exact fun f fd g hd hg => ((FieldDeclaration.name_of_field hg).trans hd.name).symm
  · exact Bool.eq_iff_iff.mpr (h.others.trans decide_eq_true_iff.symm)

end Source

/-- **The record a handler is linked to is that of a structure**: the one that stands at
the position of the link among the structures with annotated fields. -/
theorem Api.exists_struct_of_linkedRecord? {moduleName file : String} {items : List Source.Item}
    {decls : List Declaration} (hdecls : Source.declarationsIn file items = .ok decls)
    {api : Api} (hapi : Api.ofDeclarations moduleName decls = .ok api) {h : Handler}
    {r : Record} (hr : api.linkedRecord? h = some r) :
    ∃ s, h.link.bind ((Source.taggedStructs items)[·]?) = some s
      ∧ r.name = s.name.text
      ∧ r.fields.map Field.name = s.tagged.map (fun f => Source.plainName f.name)
      ∧ r.hasOtherFields = decide (∃ f ∈ s.fields.getD [], ¬f.IsTagged) := by
  obtain ⟨i, hi, hr⟩ := Option.bind_eq_some_iff.mp hr
  obtain ⟨d, hd, hread⟩ :=
    exists_getElem?_of_forall₂ (Api.ofDeclarations_eq_ok.mp hapi).2.1 hr
  obtain ⟨s, hs, hdeclares⟩ :=
    exists_getElem?_of_forall₂ (Source.forall₂_recordsIn hdecls) hd
  exact ⟨s, Option.bind_eq_some_iff.mpr ⟨i, hi, hs⟩, hdeclares.of_record hread⟩

end Switchboard
