import Switchboard.Api.Rules
import Switchboard.Proofs.Api.Build
import Switchboard.Proofs.Api.Receivers

/-!
# The template of a record of a source

A template is a map, and what it can hold is one rule for a form key, not one for a
field. When the fields of a record have keys of their own, it lists their rules as the
fields stand (`Record.entries_template_eq_iff`). Nothing sees to it that they do. A key
is a name in lower case or comes from a tag, and reading a source compares neither, so
two fields may share a key. The template then has it once, where the first of them
stands (`Record.keys_template`), with the rule of the last
(`Record.get?_template_of_last`): the rules before that are lost.
-/

namespace Switchboard

open Text (join)

/-! ## Templates and fields -/

/-- **The rules of a record's fields**, each with the form key of its field, in order. -/
def Record.ownRules (r : Record) : List (String × String) :=
  r.fields.map fun f => (f.externalKey, f.rule)

theorem Record.map_fst_ownRules (r : Record) :
    r.ownRules.map Prod.fst = r.fields.map Field.externalKey := by
  rw [ownRules, List.map_map]
  rfl

/-- **A template lists the rules of all fields** exactly when no two of them have one
form key. -/
theorem Record.entries_template_eq_iff (r : Record) :
    r.template.entries = r.ownRules ↔ (r.fields.map Field.externalKey).Nodup := by
  rw [← map_fst_ownRules]
  exact OrderedMap.entries_ofList_eq_iff

/-- **A template has each form key once**, by its first field. -/
theorem Record.keys_template (r : Record) :
    r.template.keys = keysOf Field.externalKey r.fields := by
  rw [keysOf, ← map_fst_ownRules]
  exact OrderedMap.keys_ofList _

/-- **The rule of a form key** is that of its last field. -/
theorem Record.get?_template_of_last {r : Record} {before after : List Field} {f : Field}
    (hfields : r.fields = before ++ f :: after)
    (hlast : ∀ g ∈ after, g.externalKey ≠ f.externalKey) :
    r.template.get? f.externalKey = some f.rule := by
  have hrules : r.ownRules
      = before.map (fun f => (f.externalKey, f.rule))
        ++ (f.externalKey, f.rule) :: after.map fun f => (f.externalKey, f.rule) := by
    rw [ownRules, hfields, List.map_append, List.map_cons]
  show (OrderedMap.ofList r.ownRules).get? f.externalKey = some f.rule
  rw [hrules]
  exact OrderedMap.get?_ofList_of_last (List.forall_mem_map.mpr hlast)

/-! ## Fields of a source -/

/-- **The field that a declaration means**: it has the name and the kind declared, and
the constraints that its tag states. -/
structure FieldDeclaration.Means (d : FieldDeclaration) (f : Field) : Prop where
  /-- The name is the one declared. -/
  name : f.name = d.name
  /-- The kind is the one declared. -/
  kind : f.kind = d.kind
  /-- The constraints are those of the tag. -/
  constraints : Doc.constraints d.tag = .ok f.constraints

theorem FieldDeclaration.means_of_field {record : String} {d : FieldDeclaration}
    {f : Field} (h : d.field record = .ok f) : d.Means f := by
  obtain ⟨c, hc, hf⟩ := bind_eq_ok.mp h
  rw [← Except.ok.inj hf]
  exact ⟨rfl, rfl, mapError_eq_ok.mp hc⟩

theorem RecordDeclaration.means_of_record {d : RecordDeclaration} {r : Record}
    (h : d.record = .ok r) : List.Forall₂ FieldDeclaration.Means d.fields r.fields := by
  obtain ⟨fields, hfields, hr⟩ := bind_eq_ok.mp h
  rw [← Except.ok.inj hr]
  exact (mapM_eq_ok.mp hfields).imp fun _ _ => FieldDeclaration.means_of_field

/-- **What the template of a record holds**, for every record of every source that is
accepted. It has an entry for each field declared, at the field's place, with the
field's key and its own rule, exactly when no two fields have one key. In any case it
has each key once, where its first field stands, with the rule of its last. -/
theorem template_of_source {moduleName source file : String} {api : Api}
    (h : Api.ofSource moduleName source file = .ok api) :
    ∃ decls, Source.declarations source file = .ok decls
      ∧ List.Forall₂ (fun d r =>
          List.Forall₂ FieldDeclaration.Means d.fields r.fields
          ∧ (r.template.entries = r.ownRules ↔ (r.fields.map Field.externalKey).Nodup)
          ∧ r.template.keys = keysOf Field.externalKey r.fields
          ∧ ∀ before f after, r.fields = before ++ f :: after →
              (∀ g ∈ after, g.externalKey ≠ f.externalKey) →
              r.template.get? f.externalKey = some f.rule)
        (recordsIn decls) api.records := by
  obtain ⟨decls, hdecls, happ⟩ := bind_eq_ok.mp h
  refine ⟨decls, hdecls, (Api.ofDeclarations_eq_ok.mp happ).2.1.imp fun d r hr => ?_⟩
  exact ⟨RecordDeclaration.means_of_record hr, r.entries_template_eq_iff,
    r.keys_template, fun _ _ _ => Record.get?_template_of_last⟩

/-- A source with a record of two fields that differ in case. -/
def sharedKeySource : String := join "\n" [
  "struct P \x7b", "/// apivalidator:\"required\"", "T: u64,",
  "/// apivalidator:\"min=1\"", "t: u64", "\x7d"]

/-- The record of that source. -/
def sharedKeyRecord : Record :=
  ⟨"P", [⟨"T", .uint64, "apivalidator:\"required\"", ⟨true, true, "", [], "", none, none⟩⟩,
      ⟨"t", .uint64, "apivalidator:\"min=1\"", ⟨true, false, "", [], "", some 1, none⟩⟩],
    false, ⟨"s.rs", 1, 8⟩⟩

theorem ofSource_sharedKeySource :
    Api.ofSource "s" sharedKeySource "s.rs" = .ok ⟨"s", [], [sharedKeyRecord]⟩ := by
  -- the characters of short lines are found faster than those of one long text
  rw [Api.ofSource, Source.declarations, Source.fileTokens, sharedKeySource, join,
    String.toList_intercalate]
  simp only [List.map_cons, List.map_nil]
  repeat rewrite [String.toList_ofList]
  decide +kernel

/-- Of two fields with one key the second has its rule in the template, and that the
first is required is lost. -/
theorem template_of_source_with_shared_key :
    Api.ofSource "s" sharedKeySource "s.rs" = .ok ⟨"s", [], [sharedKeyRecord]⟩
      ∧ sharedKeyRecord.template.keys = ["t"]
      ∧ sharedKeyRecord.template.get? "t" = some "type(uint64),range(1|)" := by
  obtain ⟨decls, -, hrecords⟩ := template_of_source ofSource_sharedKeySource
  obtain ⟨d, -, ⟨-, -, hkeys, hlast⟩, -⟩ := List.forall₂_cons_right_iff.mp hrecords
  refine ⟨ofSource_sharedKeySource, hkeys.trans (by decide), ?_⟩
  exact hlast [_] _ [] rfl (fun _ hg => absurd hg List.not_mem_nil)

/-- **A field need not have an entry of its own** in the template of its record. -/
theorem not_every_field_has_an_entry :
    ¬∀ moduleName source file api, Api.ofSource moduleName source file = .ok api →
      ∀ r ∈ api.records, r.template.entries = r.ownRules := by
  intro h
  have hentries := h _ _ _ _ ofSource_sharedKeySource _ (List.mem_singleton_self _)
  rw [Record.entries_template_eq_iff] at hentries
  exact absurd hentries (by decide +kernel)

end Switchboard
