import Switchboard.Api.Build
import Switchboard.Proofs.Success

/-!
# The name of a source file

The name of a source file stands in the places that declarations and refusals carry, and
nothing is decided by it. So a source is read the same way under each name: what comes of it
under one name is what comes of it under another, an API or a refusal, moved to that name
(`Api.ofSource_movedTo`).

Moving goes through a computation step by step. Where each step, given what was moved,
comes to what the step before the move comes to, moved, so does the whole
(`outcomeMovedTo_bind`, `mapM_outcomeMovedTo`).
-/

namespace Switchboard

/-! ## Moving -/

/-- A place in a file of another name. -/
def Location.movedTo (file : String) (l : Location) : Location := { l with file := file }

/-- The declaration of a handler in a file of another name. -/
def HandlerDeclaration.movedTo (file : String) (d : HandlerDeclaration) : HandlerDeclaration :=
  { d with location := d.location.movedTo file }

/-- The declaration of a field in a file of another name. -/
def FieldDeclaration.movedTo (file : String) (d : FieldDeclaration) : FieldDeclaration :=
  { d with location := d.location.movedTo file }

/-- The declaration of a record in a file of another name. -/
def RecordDeclaration.movedTo (file : String) (d : RecordDeclaration) : RecordDeclaration :=
  { d with
    fields := d.fields.map (FieldDeclaration.movedTo file)
    location := d.location.movedTo file }

/-- A declaration in a file of another name. -/
def Declaration.movedTo (file : String) : Declaration → Declaration
  | .handler d => .handler (d.movedTo file)
  | .record d => .record (d.movedTo file)

/-- A handler in a file of another name. -/
def Handler.movedTo (file : String) (h : Handler) : Handler :=
  { h with location := h.location.movedTo file }

/-- A record in a file of another name. -/
def Record.movedTo (file : String) (r : Record) : Record :=
  { r with location := r.location.movedTo file }

/-- **An API as it is read from a file of another name**, which may be another module. -/
def Api.movedTo (moduleName file : String) (api : Api) : Api :=
  ⟨moduleName, api.handlers.map (Handler.movedTo file), api.records.map (Record.movedTo file)⟩

/-- **A refusal as it is made of a file of another name.** -/
def GenerationError.movedTo (file : String) : GenerationError → GenerationError
  | .read path cause => .read path cause
  | .write path cause => .write path cause
  | .badTokens location => .badTokens (location.movedTo file)
  | .badGrammar location => .badGrammar (location.movedTo file)
  | .unsupportedKind location record field type =>
    .unsupportedKind (location.movedTo file) record field type
  | .invalidTag location record field reason =>
    .invalidTag (location.movedTo file) record field reason
  | .invalidDirective location receiver handler reason =>
    .invalidDirective (location.movedTo file) receiver handler reason
  | .unsupportedSignature location receiver handler reason =>
    .unsupportedSignature (location.movedTo file) receiver handler reason
  | .unresolvedRecord location receiver handler record =>
    .unresolvedRecord (location.movedTo file) receiver handler record

variable {α α' β β' : Type} {file : String}

/-- **What comes of a computation**, moved. -/
def outcomeMovedTo (file : String) (move : α → β) :
    Except GenerationError α → Except GenerationError β
  | .ok a => .ok (move a)
  | .error e => .error (e.movedTo file)

/-- Steps one after the other are moved when each of them is. -/
theorem outcomeMovedTo_bind {x : Except GenerationError α} {x' : Except GenerationError α'}
    {move : α → α'} {result : β → β'} {k : α → Except GenerationError β}
    {k' : α' → Except GenerationError β'} (hx : x' = outcomeMovedTo file move x)
    (hk : ∀ a, k' (move a) = outcomeMovedTo file result (k a)) :
    (x' >>= k') = outcomeMovedTo file result (x >>= k) := by
  rw [hx]
  cases x with
  | error e => rfl
  | ok a => exact hk a

/-- Steps over a list are moved when each of them is. -/
theorem mapM_outcomeMovedTo {move : α → α'} {as : List β} {k : β → Except GenerationError α}
    {k' : β → Except GenerationError α'} (h : ∀ a, k' a = outcomeMovedTo file move (k a)) :
    as.mapM k' = outcomeMovedTo file (List.map move) (as.mapM k) := by
  induction as with
  | nil => rfl
  | cons a as ih =>
    rw [List.mapM_cons, List.mapM_cons]
    exact outcomeMovedTo_bind (h a) fun b => outcomeMovedTo_bind ih fun bs => rfl

/-- A refusal that gets its place here is moved when the place is. -/
theorem mapError_outcomeMovedTo {ε : Type} {move : α → α'} {x : Except ε α} {x' : Except ε α'}
    {f f' : ε → GenerationError} (hx : x' = x.map move) (hf : ∀ e, f' e = (f e).movedTo file) :
    x'.mapError f' = outcomeMovedTo file move (x.mapError f) := by
  rw [hx]
  cases x with
  | error e => exact congrArg Except.error (hf e)
  | ok a => rfl

/-! ## Declarations -/

namespace Source

variable (file file' : String)

theorem fieldDeclaration_movedTo (record : String) (f : StructField) (tag : String) :
    fieldDeclaration file' record f tag
      = outcomeMovedTo file' (FieldDeclaration.movedTo file')
          (fieldDeclaration file record f tag) := by
  rw [fieldDeclaration, fieldDeclaration]
  cases f.type.kind? <;> rfl

theorem recordDeclaration?_movedTo (s : Struct) :
    recordDeclaration? file' s
      = outcomeMovedTo file' (Option.map (RecordDeclaration.movedTo file'))
          (recordDeclaration? file s) := by
  rw [recordDeclaration?, recordDeclaration?]
  refine outcomeMovedTo_bind (mapM_outcomeMovedTo fun f =>
    fieldDeclaration_movedTo file file' s.name.text f.1 f.2) fun declared => ?_
  cases declared <;> rfl

theorem handlerDeclaration_movedTo (receiver : String) (m : Method) :
    handlerDeclaration file' receiver m
      = (handlerDeclaration file receiver m).map (HandlerDeclaration.movedTo file') := by
  rw [handlerDeclaration, handlerDeclaration]
  exact throw_if_eq_map <| throw_if_eq_map <| throw_if_eq_map <| bind_eq_map fun split =>
    bind_eq_map fun name => bind_eq_map fun record => bind_eq_map fun result => rfl

theorem blockHandler_movedTo (b : ImplBlock) (m : Method) :
    blockHandler file' b m
      = outcomeMovedTo file' (HandlerDeclaration.movedTo file') (blockHandler file b m) := by
  rw [blockHandler, blockHandler]
  exact mapError_outcomeMovedTo (throw_if_eq_map <| throw_if_eq_map <|
    handlerDeclaration_movedTo file file' b.self.label m) fun e => rfl

theorem handlerDeclarations_movedTo (b : ImplBlock) :
    handlerDeclarations file' b
      = outcomeMovedTo file' (List.map (HandlerDeclaration.movedTo file'))
          (handlerDeclarations file b) := by
  rw [handlerDeclarations, handlerDeclarations]
  cases b.isTrait with
  | true => rfl
  | false => exact mapM_outcomeMovedTo (blockHandler_movedTo file file' b)

theorem itemDeclarations_movedTo (item : Item) :
    itemDeclarations file' item
      = outcomeMovedTo file' (List.map (Declaration.movedTo file'))
          (itemDeclarations file item) := by
  cases item with
  | impl b =>
    rw [itemDeclarations, itemDeclarations]
    refine outcomeMovedTo_bind (handlerDeclarations_movedTo file file' b) fun ds =>
      congrArg Except.ok ?_
    rw [List.map_map, List.map_map]
    rfl
  | struct s =>
    rw [itemDeclarations, itemDeclarations]
    refine outcomeMovedTo_bind (recordDeclaration?_movedTo file file' s) fun d? => ?_
    cases d? <;> rfl
  | other => rfl

/-- **A source declares the same under each name.** -/
theorem declarations_movedTo (source : String) :
    declarations source file'
      = outcomeMovedTo file' (List.map (Declaration.movedTo file'))
          (declarations source file) := by
  rw [declarations, declarations]
  refine outcomeMovedTo_bind (mapError_outcomeMovedTo (id_map _).symm fun p => rfl) fun tokens => ?_
  refine outcomeMovedTo_bind (mapError_outcomeMovedTo (id_map _).symm fun p => rfl) fun items => ?_
  refine outcomeMovedTo_bind (mapM_outcomeMovedTo (itemDeclarations_movedTo file file'))
    fun dss => congrArg Except.ok ?_
  rw [List.map_flatten]

end Source

/-! ## APIs -/

variable (file)

theorem HandlerDeclaration.handler_movedTo (d : HandlerDeclaration) :
    (d.movedTo file).handler = outcomeMovedTo file (Handler.movedTo file) d.handler := by
  rw [handler, handler]
  exact outcomeMovedTo_bind (mapError_outcomeMovedTo (id_map _).symm fun e => rfl)
    fun directive => rfl

theorem FieldDeclaration.field_movedTo (record : String) (d : FieldDeclaration) :
    (d.movedTo file).field record = outcomeMovedTo file id (d.field record) := by
  rw [field, field]
  exact outcomeMovedTo_bind (mapError_outcomeMovedTo (id_map _).symm fun e => rfl)
    fun constraints => rfl

theorem RecordDeclaration.record_movedTo (d : RecordDeclaration) :
    (d.movedTo file).record = outcomeMovedTo file (Record.movedTo file) d.record := by
  rw [record, record]
  have hfields : (d.movedTo file).fields.mapM (FieldDeclaration.field d.name)
      = outcomeMovedTo file (List.map id) (d.fields.mapM (FieldDeclaration.field d.name)) := by
    rw [movedTo, List.mapM_map]
    exact mapM_outcomeMovedTo (FieldDeclaration.field_movedTo file d.name)
  refine outcomeMovedTo_bind hfields fun fields => ?_
  rw [List.map_id]
  rfl

theorem Declaration.parts_movedTo (d : Declaration) :
    (d.movedTo file).parts
      = outcomeMovedTo file
          (Prod.map (List.map (Handler.movedTo file)) (List.map (Record.movedTo file)))
          d.parts := by
  cases d with
  | handler d =>
    exact outcomeMovedTo_bind (d.handler_movedTo file) fun _ => rfl
  | record d =>
    exact outcomeMovedTo_bind (d.record_movedTo file) fun _ => rfl

theorem linkedIn?_movedTo (records : List Record) (h : Handler) :
    (h.movedTo file).linkedIn? (records.map (Record.movedTo file))
      = (h.linkedIn? records).map (Handler.movedTo file) := by
  have hindex : recordIndex? (records.map (Record.movedTo file)) h.record
      = recordIndex? records h.record := by
    rw [recordIndex?, recordIndex?, List.findIdx?_map]
    rfl
  rw [Handler.linkedIn?, Handler.linkedIn?]
  show (recordIndex? _ h.record).map _ = _
  rw [hindex, Option.map_map]
  rfl

theorem linkHandlers_movedTo (records : List Record) (hs : List Handler) :
    linkHandlers (records.map (Record.movedTo file)) (hs.map (Handler.movedTo file))
      = Prod.map (List.map (Handler.movedTo file)) (Option.map (GenerationError.movedTo file))
          (linkHandlers records hs) := by
  induction hs with
  | nil => rfl
  | cons h hs ih =>
    rw [List.map_cons, linkHandlers, linkHandlers, linkedIn?_movedTo]
    cases h.linkedIn? records with
    | none => rfl
    | some linked =>
      dsimp only [Option.map]
      rw [ih]
      rfl

theorem Api.ofDeclarations_movedTo (moduleName moduleName' : String) (decls : List Declaration) :
    Api.ofDeclarations moduleName' (decls.map (Declaration.movedTo file))
      = outcomeMovedTo file (Api.movedTo moduleName' file)
          (Api.ofDeclarations moduleName decls) := by
  rw [ofDeclarations, ofDeclarations, List.mapM_map]
  refine outcomeMovedTo_bind (mapM_outcomeMovedTo (Declaration.parts_movedTo file))
    fun parts => ?_
  have hhandlers : (parts.map (Prod.map (List.map (Handler.movedTo file))
      (List.map (Record.movedTo file)))).flatMap Prod.fst
        = (parts.flatMap Prod.fst).map (Handler.movedTo file) := by
    rw [List.flatMap_map, List.map_flatMap]
    rfl
  have hrecords : (parts.map (Prod.map (List.map (Handler.movedTo file))
      (List.map (Record.movedTo file)))).flatMap Prod.snd
        = (parts.flatMap Prod.snd).map (Record.movedTo file) := by
    rw [List.flatMap_map, List.map_flatMap]
    rfl
  rw [hhandlers, hrecords]
  dsimp only [link]
  rw [linkHandlers_movedTo]
  obtain ⟨linked, refusal⟩ := linkHandlers (parts.flatMap Prod.snd) (parts.flatMap Prod.fst)
  cases refusal <;> rfl

/-- **A source is read the same way under each name.** What comes of it is the same API, or
the same refusal, but for the name in its places. -/
theorem Api.ofSource_movedTo (moduleName moduleName' source file file' : String) :
    Api.ofSource moduleName' source file'
      = outcomeMovedTo file' (Api.movedTo moduleName' file')
          (Api.ofSource moduleName source file) := by
  rw [ofSource, ofSource]
  exact outcomeMovedTo_bind (Source.declarations_movedTo file file' source)
    (ofDeclarations_movedTo file' moduleName moduleName')

end Switchboard
