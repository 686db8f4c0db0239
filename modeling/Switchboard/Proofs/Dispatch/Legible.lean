import Switchboard.Dispatch.Handler
import Switchboard.Proofs.Api.Names
import Switchboard.Proofs.Dispatch.Layout
import Switchboard.Proofs.Text.Quoted

/-!
# Methods that answer can be read

Each part of the method that answers for an endpoint is legible: from its text,
whatever follows it, one can tell what it was made from as far as dispatch goes by
it, and where it ends. A literal ends at its closing quote whatever it holds, a
name ends at the first character that is in no name, a row of lines ends where a
line is less deep or starts with another word.

So what is in a key, a rule or a fallback cannot pass for the code around it. The
parts are taken in the order they are nested in: words, entries of tables, fields,
the record, the call, and the method with all of these (`legible_endpointCode`).
-/

namespace Switchboard

/-! ## Outlines -/

/-- **What of a field dispatch goes by.** -/
structure FieldOutline where
  /-- Its name. -/
  name : String
  /-- Its form key. -/
  externalKey : String
  /-- What is taken when nothing is given. -/
  fallback : String
  /-- Its kind. -/
  kind : Kind
deriving DecidableEq, Repr

/-- **What of a record dispatch goes by.** -/
structure RecordOutline where
  /-- Its name. -/
  name : String
  /-- The rules of its fields by form key. -/
  template : List (String × String)
  /-- Its fields, in order. -/
  fields : List FieldOutline
  /-- Whether it has fields beside these. -/
  hasOtherFields : Bool
deriving DecidableEq, Repr

/-- **What of an endpoint dispatch goes by.** -/
structure EndpointOutline where
  /-- Where and how the handler is reached. -/
  directive : Directive
  /-- The name of the handler. -/
  handler : String
  /-- How it takes the context of a request, if it does. -/
  context : Option ContextMode
  /-- Whether it takes the record as a reference. -/
  byRef : Bool
  /-- The record it takes. -/
  record : RecordOutline
deriving DecidableEq, Repr

/-- The outline of a field. -/
def Field.outline (f : Field) : FieldOutline :=
  ⟨f.name, f.externalKey, f.constraints.fallback, f.kind⟩

/-- The outline of a record. -/
def Record.outline (r : Record) : RecordOutline :=
  ⟨r.name, r.template.entries, r.fields.map Field.outline, r.hasOtherFields⟩

/-- The outline of an endpoint. -/
def Endpoint.outline (e : Endpoint) : EndpointOutline :=
  ⟨e.handler.directive, e.handler.name, e.handler.context, e.handler.byRef,
    e.record.outline⟩

/-- What of an endpoint the method that answers for it shows. -/
def Endpoint.shown (e : Endpoint) :
    String × Option ContextMode × Bool × RecordOutline :=
  (e.handler.name, e.handler.context, e.handler.byRef, e.record.outline)

namespace Dispatch

open Text

variable {α β : Type}

/-! ## Words -/

/-- No word for a kind starts another. -/
theorem legible_variantName :
    Legible (fun _ => True) (fun k => (variantName k).toList) id :=
  .of_apart (fun k => (variantName k).toList) (fun _ => rfl)
    (by rintro ⟨⟩ ⟨⟩ <;> decide)

theorem legible_accessorName :
    Legible (fun _ => True) (fun k => (accessorName k).toList) id :=
  .of_apart (fun k => (accessorName k).toList) (fun _ => rfl)
    (by rintro ⟨⟩ ⟨⟩ <;> decide)

theorem legible_flagText :
    Legible (fun _ => True) (fun b => (flagText b).toList) id :=
  .of_apart (fun b => (flagText b).toList) (fun _ => rfl) (by decide)

/-- The arguments of a handler by how it takes the context and the record. -/
def argumentsOf (context : Option ContextMode) (byRef : Bool) : String :=
  (context.elim "" fun mode => if mode = .byRef then "&ctx, " else "ctx, ")
    ++ recordArgument byRef

theorem argumentsText_eq (h : Handler) :
    argumentsText h = argumentsOf h.context h.byRef := by
  unfold argumentsText argumentsOf
  rcases h.context with _ | ⟨⟨⟩⟩
  · rw [Option.elim_none, String.empty_append]
  · rfl
  · rfl

/-- The arguments of a handler show how it takes the context and the record. -/
theorem legible_argumentsText :
    Legible (fun _ => True) (fun h => (argumentsText h).toList)
      (fun h => (h.context, h.byRef)) := by
  refine .of_apart (fun x => (argumentsOf x.1 x.2).toList)
    (fun h => congrArg String.toList (argumentsText_eq h)) ?_
  rintro ⟨_ | ⟨⟨⟩⟩, ⟨⟩⟩ ⟨_ | ⟨⟨⟩⟩, ⟨⟩⟩ <;> decide

/-! ## Names -/

theorem mem_of_mem_dropRawMarks {cs : List Char} {c : Char} (h : c ∈ dropRawMarks cs) :
    c ∈ cs := by
  induction cs using dropRawMarks.induct with
  | case1 rest ih =>
    rw [dropRawMarks] at h
    exact List.mem_cons_of_mem _ (List.mem_cons_of_mem _ (ih h))
  | case2 cs hcs =>
    rw [dropRawMarks] at h
    · exact h
    · exact hcs

/-- The name of a method ends where its parameters start. -/
theorem notMem_methodName {name : String} (h : IsName name) {c : Char}
    (hc : isIdentContinue c = false) (hmark : c ≠ '#')
    (hhandle : c ∉ "handle_".toList) : c ∉ (methodName name).toList := by
  rw [methodName, String.toList_append, List.mem_append, not_or]
  refine ⟨hhandle, fun hmem => ?_⟩
  rw [String.toList_ofList] at hmem
  exact h.notMem hc hmark (mem_of_mem_dropRawMarks hmem)

/-- **A field can be told from what a structure literal names it**: no name has
the mark of a raw one already. -/
theorem fieldName_inj {a b : String} (ha : IsPlain a) (hb : IsPlain b)
    (h : fieldName a = fieldName b) : a = b := by
  have hmark : ∀ {x y : String}, IsPlain x → x ≠ "r#" ++ y := by
    rintro x y hx rfl
    refine hx.notMem (c := '#') (by decide +kernel) ?_
    rw [String.toList_append]
    exact List.mem_append_left _ (by decide)
  rw [fieldName, fieldName] at h
  split at h <;> split at h
  · exact h
  · exact absurd h (hmark ha)
  · exact absurd h.symm (hmark hb)
  · have hlists := congrArg String.toList h
    rw [String.toList_append, String.toList_append] at hlists
    exact String.toList_inj.mp (List.append_cancel_left hlists)

theorem notMem_fieldName {name : String} (h : IsPlain name) {c : Char}
    (hc : isIdentContinue c = false) (hmark : c ≠ '#') :
    c ∉ (fieldName name).toList := by
  rw [fieldName]
  split
  · exact h.notMem hc
  · rw [String.toList_append, List.mem_append, not_or]
    refine ⟨fun hmem => ?_, h.notMem hc⟩
    rcases List.mem_pair.mp (show c ∈ ['r', '#'] from hmem) with rfl | rfl
    · exact absurd hc (by decide +kernel)
    · exact hmark rfl

/-! ## Tables -/

/-- An entry of the template shows its key and its rule. -/
theorem legible_templateEntry (depth : Nat) :
    Legible (fun _ => True) (fun e => lineChars depth (templateEntry e)) id := by
  intro a b _ _ r s h
  simp only [templateEntry, lineChars, String.toList_append, List.append_assoc] at h
  rw [List.append_cancel_left_eq, List.append_cancel_left_eq] at h
  obtain ⟨hkey, h⟩ := quote_append_inj h
  rw [List.append_cancel_left_eq] at h
  obtain ⟨hrule, h⟩ := quote_append_inj h
  rw [List.append_cancel_left_eq, List.append_cancel_left_eq] at h
  exact ⟨Prod.ext hkey hrule, h⟩

/-- An entry of the inputs shows its key, its fallback and its kind. -/
theorem legible_inputEntry (depth : Nat) :
    Legible (fun _ => True) (fun f => lineChars depth (inputEntry f))
      (fun f => (f.externalKey, f.constraints.fallback, f.kind)) := by
  intro a b _ _ r s h
  unfold inputEntry at h
  simp only [lineChars, String.toList_append, List.append_assoc] at h
  rw [List.append_cancel_left_eq, List.append_cancel_left_eq] at h
  obtain ⟨hkey, h⟩ := quote_append_inj h
  rw [List.append_cancel_left_eq] at h
  obtain ⟨hfallback, h⟩ := quote_append_inj h
  rw [List.append_cancel_left_eq] at h
  obtain ⟨hkind, h⟩ := legible_variantName trivial trivial h
  rw [List.append_cancel_left_eq] at h
  obtain ⟨-, h⟩ := legible_flagText trivial trivial h
  rw [List.append_cancel_left_eq, List.append_cancel_left_eq] at h
  exact ⟨Prod.ext hkey (Prod.ext hfallback hkind), h⟩

/-- The lines inside a block can be seen to end. -/
theorem ends_of_closing {P : α → Prop} {text : α → String} {depth : Nat}
    {closing : String} (h : closing.toList.head?.any (· != ' ') = true) (r : List Char) :
    Ends P (fun a => lineChars (depth + 1) (text a)) (lineChars depth closing ++ r) := by
  intro a _ t heq
  simp only [lineChars, List.append_assoc] at heq
  exact replicate_append_ne (by omega) h _ _ heq

/-- **A table shows its entries.** -/
theorem legible_tableCode {P : α → Prop} {entry : α → String} {view : α → β}
    (depth : Nat) (declaration : String)
    (h : Legible P (fun a => lineChars (depth + 1) (entry a)) view) :
    Legible (fun as => ∀ a ∈ as, P a)
      (fun as => (tableCode declaration (as.map entry)).chars depth)
      (List.map view) := by
  intro as bs has hbs r s heq
  simp only [tableCode, Code.chars, List.map_map, Code.charsAll_map, List.append_assoc,
    Function.comp_apply, List.append_cancel_left_eq] at heq
  obtain ⟨hviews, hrest⟩ := h.flatMap has hbs (ends_of_closing (by decide) r)
    (ends_of_closing (by decide) s) heq
  exact ⟨hviews, List.append_cancel_left hrest⟩

/-! ## Records -/

/-- A field of the record shows its name. -/
theorem legible_fieldCode (depth : Nat) :
    Legible (fun f => IsPlain f.name) (fun f => (fieldCode f).chars depth)
      Field.name := by
  intro a b ha hb r s h
  unfold fieldCode at h
  simp only [Code.chars, lineChars, String.toList_append, List.append_assoc] at h
  rw [List.append_cancel_left_eq] at h
  have hcolon : isIdentContinue ':' = false := by decide +kernel
  obtain ⟨hname, h⟩ := append_fixed_inj (by decide)
    (notMem_fieldName ha hcolon (by decide)) (notMem_fieldName hb hcolon (by decide)) h
  obtain ⟨-, h⟩ := legible_accessorName trivial trivial h
  rw [List.append_cancel_left_eq] at h
  obtain ⟨-, h⟩ := quote_append_inj h
  rw [List.append_cancel_left_eq, List.append_cancel_left_eq] at h
  exact ⟨fieldName_inj ha hb (String.toList_inj.mp hname), h⟩

/-- The characters at the end of a record: whether it has other fields. -/
def otherFieldsChars (depth : Nat) (other : Bool) : List Char :=
  Code.charsAll (depth + 1) (if other then [.line "..Default::default()"] else [])
    ++ lineChars depth "\x7d;"

theorem legible_otherFieldsChars (depth : Nat) :
    Legible (fun _ => True) (otherFieldsChars depth) id := by
  have hclosing : ∀ x y : List Char,
      otherFieldsChars depth true ++ x ≠ otherFieldsChars depth false ++ y := by
    intro x y heq
    simp only [otherFieldsChars, if_pos, Bool.false_eq_true, if_false, Code.charsAll,
      Code.chars, lineChars, List.nil_append, List.append_assoc] at heq
    exact replicate_append_ne (by omega) (by decide) _ _ heq
  rintro (_ | _) (_ | _) _ _ r s h
  · exact ⟨rfl, List.append_cancel_left h⟩
  · exact absurd h.symm (hclosing s r)
  · exact absurd h (hclosing r s)
  · exact ⟨rfl, List.append_cancel_left h⟩

/-- The fields of a record can be seen to end. -/
theorem ends_fieldCode (depth : Nat) (other : Bool) (r : List Char) :
    Ends (fun f => IsPlain f.name) (fun f => (fieldCode f).chars (depth + 1))
      (otherFieldsChars depth other ++ r) := by
  intro f hf t heq
  unfold fieldCode at heq
  cases other with
  | false =>
    simp only [otherFieldsChars, Code.chars, lineChars, List.append_assoc] at heq
    exact replicate_append_ne (by omega) (by decide) _ _ heq
  | true =>
    simp only [otherFieldsChars, if_pos, Code.charsAll, Code.chars, lineChars,
      String.toList_append, List.append_assoc] at heq
    have hpoint : '.' ∉ (fieldName f.name).toList :=
      notMem_fieldName hf (by decide +kernel) (by decide)
    exact append_cons_ne (by decide : ':' ≠ '.') hpoint _ _
      (List.append_cancel_left heq)

/-- **How a record is laid out.** -/
theorem chars_recordCode (depth : Nat) (r : Record) (t : List Char) :
    (recordCode r).chars depth ++ t
      = List.replicate (4 * depth) ' ' ++ ("let params = ".toList ++ (r.name.toList
        ++ (" \x7b\n".toList
        ++ (r.fields.flatMap (fun f => (fieldCode f).chars (depth + 1))
        ++ (otherFieldsChars depth r.hasOtherFields ++ t))))) := by
  simp [recordCode, Code.chars, Code.charsAll_map, lineChars, otherFieldsChars]

/-- **The record shows its name, its fields and whether it has others.** -/
theorem legible_recordCode (depth : Nat) :
    Legible (fun r => IsName r.name ∧ ∀ f ∈ r.fields, IsPlain f.name)
      (fun r => (recordCode r).chars depth)
      (fun r => (r.name, r.fields.map Field.name, r.hasOtherFields)) := by
  intro a b ha hb r s h
  dsimp only at h
  rw [chars_recordCode, chars_recordCode, List.append_cancel_left_eq,
    List.append_cancel_left_eq] at h
  have hblank : isIdentContinue ' ' = false := by decide +kernel
  obtain ⟨hname, h⟩ := append_fixed_inj (by decide) (ha.1.notMem hblank (by decide))
    (hb.1.notMem hblank (by decide)) h
  obtain ⟨hfields, h⟩ := (legible_fieldCode (depth + 1)).flatMap ha.2 hb.2
    (ends_fieldCode depth _ r) (ends_fieldCode depth _ s) h
  obtain ⟨hother, h⟩ := legible_otherFieldsChars depth trivial trivial h
  exact ⟨Prod.ext (String.toList_inj.mp hname) (Prod.ext hfields hother), h⟩

/-! ## Handlers -/

/-- **The call of a handler shows its name and how it takes its arguments.** -/
theorem legible_callCode (depth : Nat) :
    Legible (fun h => IsName h.name) (fun h => (callCode h).chars depth)
      (fun h => (h.name, h.context, h.byRef)) := by
  intro a b ha hb r s h
  unfold callCode at h
  simp only [Code.chars, lineChars, String.toList_append, List.append_assoc] at h
  rw [List.append_cancel_left_eq, List.append_cancel_left_eq] at h
  have hbracket : isIdentContinue '(' = false := by decide +kernel
  obtain ⟨hname, h⟩ := append_fixed_inj (by decide) (ha.notMem hbracket (by decide))
    (hb.notMem hbracket (by decide)) h
  obtain ⟨harguments, h⟩ := legible_argumentsText trivial trivial h
  simp only [List.append_cancel_left_eq] at h
  exact ⟨Prod.ext (String.toList_inj.mp hname) harguments, h⟩

/-- The line for the context can be told from the call behind it. -/
theorem append_callCode_of_contextCode {depth : Nat} {a b : Handler} {r s : List Char}
    (h : Code.charsAll depth (contextCode a) ++ ((callCode a).chars depth ++ r)
      = Code.charsAll depth (contextCode b) ++ ((callCode b).chars depth ++ s)) :
    (callCode a).chars depth ++ r = (callCode b).chars depth ++ s := by
  have hcall : ∀ (h : Handler) (x y : List Char),
      Code.charsAll depth [.line "let ctx = Context::from_request(req);"] ++ x
        ≠ (callCode h).chars depth ++ y := by
    intro h x y heq
    unfold callCode at heq
    simp only [Code.charsAll, Code.chars, lineChars, String.toList_append,
      List.append_assoc] at heq
    exact append_ne_append (by decide) _ _ (List.append_cancel_left heq)
  unfold contextCode at h
  split at h <;> split at h
  · exact List.append_cancel_left h
  · exact absurd h (hcall b _ s)
  · exact absurd h.symm (hcall a _ r)
  · exact h

/-- **How the method of an endpoint is laid out.** -/
theorem chars_endpointCode (depth : Nat) (e : Endpoint) (t : List Char) :
    (endpointCode e).chars depth ++ t
      = List.replicate (4 * depth) ' ' ++ ("fn ".toList
        ++ ((methodName e.handler.name).toList ++ (answerSignature.toList ++ ('\n'
        :: ((tableCode "const TEMPLATE: &[(&str, &str)]"
            (e.record.template.entries.map templateEntry)).chars (depth + 1)
        ++ ((tableCode "const INPUTS: &[InputField]"
            (e.record.fields.map inputEntry)).chars (depth + 1)
        ++ (Code.charsAll (depth + 1) ([.blank] ++ intakeCode ++ [.blank])
        ++ ((recordCode e.record).chars (depth + 1)
        ++ (Code.charsAll (depth + 1) (contextCode e.handler)
        ++ ((callCode e.handler).chars (depth + 1)
        ++ (lineChars depth "\x7d" ++ t))))))))))) := by
  unfold endpointCode
  simp [Code.chars, Code.charsAll, lineChars]

/-- **The method that answers for an endpoint shows** its handler and its record. -/
theorem legible_endpointCode (depth : Nat) :
    Legible Endpoint.IsNamed (fun e => (endpointCode e).chars depth) Endpoint.shown := by
  intro a b ha hb r s h
  dsimp only at h
  rw [chars_endpointCode, chars_endpointCode] at h
  rw [List.append_cancel_left_eq, List.append_cancel_left_eq] at h
  have hname : ∀ {e : Endpoint}, e.IsNamed → '<' ∉ (methodName e.handler.name).toList :=
    fun he => notMem_methodName he.handler (by decide +kernel) (by decide) (by decide)
  obtain ⟨-, h⟩ := append_fixed_inj (by decide) (hname ha) (hname hb) h
  obtain ⟨-, h⟩ := List.cons.inj h
  -- the two tables, then the record, then the call; what is the same for all
  -- records stands between
  obtain ⟨htemplate, h⟩ := legible_tableCode _ _ (legible_templateEntry _)
    (fun _ _ => trivial) (fun _ _ => trivial) h
  rw [List.map_id, List.map_id] at htemplate
  obtain ⟨hinputs, h⟩ := legible_tableCode _ _ (legible_inputEntry _)
    (fun _ _ => trivial) (fun _ _ => trivial) h
  rw [List.append_cancel_left_eq] at h
  obtain ⟨hrecord, h⟩ := legible_recordCode _ ⟨ha.record, ha.fields⟩ ⟨hb.record, hb.fields⟩ h
  obtain ⟨hcall, h⟩ := legible_callCode _ ha.handler hb.handler
    (append_callCode_of_contextCode h)
  rw [List.append_cancel_left_eq] at h
  obtain ⟨hrname, hrest⟩ := Prod.mk.inj hrecord
  obtain ⟨hrfields, hrother⟩ := Prod.mk.inj hrest
  have hfields : a.record.fields.map Field.outline = b.record.fields.map Field.outline := by
    refine map_eq_map_of_views (fun f g hname hinput => ?_) hrfields hinputs
    obtain ⟨hkey, hinput⟩ := Prod.mk.inj hinput
    obtain ⟨hfallback, hkind⟩ := Prod.mk.inj hinput
    rw [Field.outline, hname, hkey, hfallback, hkind, Field.outline]
  have houtline : a.record.outline = b.record.outline := by
    rw [Record.outline, hrname, htemplate, hfields, hrother, Record.outline]
  obtain ⟨hhandler, hrest⟩ := Prod.mk.inj hcall
  obtain ⟨hcontext, hbyRef⟩ := Prod.mk.inj hrest
  refine ⟨?_, h⟩
  rw [Endpoint.shown, hhandler, hcontext, hbyRef, houtline, Endpoint.shown]

end Dispatch

end Switchboard
