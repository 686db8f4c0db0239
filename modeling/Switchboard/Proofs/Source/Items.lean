import Switchboard.Proofs.Success
import Switchboard.Proofs.Text.Pieces
import Switchboard.Source.Declarations

/-!
# The items of a source, one by one

A source is read item by item, and what one item declares depends on no other. So the
declarations of items are those of its parts put together, up to the first part that is
refused (`declarationsIn_append`).

Most items declare nothing. Only two kinds do: a block of methods of a type, with a
method that carries a directive, and a structure with an annotated field
(`Item.Declares`). All others are passed over without being looked at any further, so
what would be refused elsewhere is not refused there, and they may stand anywhere or be
left out (`declarationsIn_filter`). What is neither a block of methods nor a structure
is not even told what it holds once it has been read: an item is one of the two only if
its first words say so (`eq_other_of_itemParser`).
-/

namespace Switchboard.Source

/-! ## Items that declare something -/

/-- The methods of a block that carry a directive. -/
def ImplBlock.annotated (b : ImplBlock) : List Method :=
  if b.isTrait then []
  else b.methods.filter fun m => Doc.hasMarker (docText m.attributes)

/-- The methods of an item that carry a directive, each with its block. -/
def Item.annotated : Item → List (ImplBlock × Method)
  | .impl b => b.annotated.map fun m => (b, m)
  | _ => []

/-- **A method that carries a directive**: its documentation has the marker somewhere. -/
def Method.IsMarked (m : Method) : Prop :=
  Doc.directiveMarker.toList <:+: (docText m.attributes).toList

/-- **A field that is annotated.** -/
def StructField.IsTagged (f : StructField) : Prop :=
  isAnnotated (tagText f.attributes) = true

instance : DecidablePred Method.IsMarked := fun _ => inferInstanceAs (Decidable (_ <:+: _))

instance : DecidablePred StructField.IsTagged := fun _ => inferInstanceAs (Decidable (_ = _))

/-- The annotated fields of a structure, in order. -/
def Struct.tagged (s : Struct) : List StructField :=
  (s.fields.getD []).filter fun f => decide f.IsTagged

/-- **An item that declares something**: a block for a type, and for no trait, with a
method that carries a directive, or a structure whose fields are named and one of them
annotated. -/
def Item.Declares : Item → Prop
  | .impl b => b.isTrait = false ∧ ∃ m ∈ b.methods, m.IsMarked
  | .struct ⟨_, _, some fields⟩ => ∃ f ∈ fields, f.IsTagged
  | .struct ⟨_, _, none⟩ => False
  | .other => False

instance : DecidablePred Item.Declares
  | .impl _ => inferInstanceAs (Decidable (_ ∧ _))
  | .struct ⟨_, _, some fields⟩ => inferInstanceAs (Decidable (∃ f ∈ fields, f.IsTagged))
  | .struct ⟨_, _, none⟩ => inferInstanceAs (Decidable False)
  | .other => inferInstanceAs (Decidable False)

theorem hasMarker_iff {m : Method} :
    Doc.hasMarker (docText m.attributes) = true ↔ m.IsMarked :=
  Text.occursIn_iff

theorem ImplBlock.annotated_eq_nil_iff {b : ImplBlock} :
    b.annotated = [] ↔ ¬(Item.impl b).Declares := by
  rw [annotated, Item.Declares]
  cases b.isTrait with
  | true => exact iff_of_true rfl fun h => nomatch h.1
  | false =>
    rw [if_neg Bool.false_ne_true, List.filter_eq_nil_iff]
    simp only [hasMarker_iff, true_and, not_exists, not_and]

theorem Struct.tagged_eq_nil_iff {s : Struct} :
    s.tagged = [] ↔ ¬(Item.struct s).Declares := by
  obtain ⟨name, pos, fields⟩ := s
  cases fields with
  | none => exact iff_of_true rfl not_false
  | some fields =>
    rw [tagged, Item.Declares, Option.getD_some, List.filter_eq_nil_iff]
    simp only [decide_eq_true_iff, not_exists, not_and]

/-! ## One item -/

theorem handlerDeclarations_eq (file : String) (b : ImplBlock) :
    handlerDeclarations file b = b.annotated.mapM (blockHandler file b) := by
  rw [handlerDeclarations, ImplBlock.annotated]
  split_ifs <;> rfl

/-- **What is declared of a structure**: its annotated fields, if it has any, and whether
it has others. -/
theorem recordDeclaration?_eq (file : String) (s : Struct) :
    recordDeclaration? file s = (do
      let declared ← s.tagged.mapM fun f =>
        fieldDeclaration file s.name.text f (tagText f.attributes)
      if declared.isEmpty then return none
      return some ⟨s.name.text, declared, decide (∃ f ∈ s.fields.getD [], ¬f.IsTagged),
        s.pos.inFile file⟩) := by
  have htagged : ((s.fields.getD []).map fun f => (f, tagText f.attributes)).filter
      (fun f => isAnnotated f.2) = s.tagged.map fun f => (f, tagText f.attributes) := by
    rw [List.filter_map, Struct.tagged]
    congr 1
    exact List.filter_congr fun f _ => Bool.decide_eq_true.symm
  have hothers : decide ((s.tagged.map fun f => (f, tagText f.attributes)).length
      < ((s.fields.getD []).map fun f => (f, tagText f.attributes)).length)
      = decide (∃ f ∈ s.fields.getD [], ¬f.IsTagged) := by
    rw [List.length_map, List.length_map, Struct.tagged, decide_eq_decide,
      List.length_filter_lt_length_iff_exists]
    simp only [decide_eq_true_iff]
  rw [recordDeclaration?, htagged, hothers, List.mapM_map]
  rfl

/-- **An item that declares nothing is passed over**, and no other is. -/
theorem itemDeclarations_eq_nil_iff {file : String} {item : Item} :
    itemDeclarations file item = .ok [] ↔ ¬item.Declares := by
  cases item with
  | impl b =>
    rw [← ImplBlock.annotated_eq_nil_iff, itemDeclarations, handlerDeclarations_eq,
      bind_eq_ok]
    constructor
    · rintro ⟨ds, hds, h⟩
      rw [List.map_eq_nil_iff.mp (Except.ok.inj h), mapM_eq_ok] at hds
      exact List.forall₂_nil_right_iff.mp hds
    · intro h
      rw [h]
      exact ⟨[], rfl, rfl⟩
  | struct s =>
    rw [← Struct.tagged_eq_nil_iff, itemDeclarations, recordDeclaration?_eq, bind_eq_ok]
    constructor
    · rintro ⟨d?, hd?, h⟩
      obtain ⟨declared, hdeclared, hd?⟩ := bind_eq_ok.mp hd?
      split_ifs at hd? with hempty
      · rw [List.isEmpty_iff.mp hempty, mapM_eq_ok] at hdeclared
        exact List.forall₂_nil_right_iff.mp hdeclared
      · rw [← Except.ok.inj hd?] at h
        exact nomatch Except.ok.inj h
    · intro h
      rw [h]
      exact ⟨none, rfl, rfl⟩
  | other => exact iff_of_true rfl not_false

/-! ## All items -/

/-- **The declarations of items**, in order. -/
def declarationsIn (file : String) (items : List Item) :
    Except GenerationError (List Declaration) :=
  (items.mapM (itemDeclarations file)).map List.flatten

/-- The declarations of a source are those of its items. -/
theorem declarations_eq {source file : String} {tokens : List Token} {items : List Item}
    (htokens : fileTokens source = .ok tokens) (hitems : itemsOf tokens = .ok items) :
    declarations source file = declarationsIn file items := by
  rw [declarations, htokens]
  show ((itemsOf tokens).mapError _
    >>= fun items => items.mapM (itemDeclarations file) >>= _) = _
  rw [hitems, declarationsIn]
  show (items.mapM (itemDeclarations file) >>= fun declss => pure declss.flatten) = _
  cases items.mapM (itemDeclarations file) <;> rfl

/-- **Items are read in two parts as in one**: the first part that is refused decides,
else the declarations of both stand one after the other. -/
theorem declarationsIn_append (file : String) (xs ys : List Item) :
    declarationsIn file (xs ++ ys) =
      match declarationsIn file xs, declarationsIn file ys with
      | .error e, _ => .error e
      | .ok _, .error e => .error e
      | .ok ds, .ok es => .ok (ds ++ es) := by
  rw [declarationsIn, declarationsIn, declarationsIn, List.mapM_append]
  cases xs.mapM (itemDeclarations file) with
  | error e => rfl
  | ok dss =>
    cases ys.mapM (itemDeclarations file) with
    | error e => rfl
    | ok ess => exact congrArg Except.ok List.flatten_append

theorem declarationsIn_singleton (file : String) (item : Item) :
    declarationsIn file [item] = itemDeclarations file item := by
  rw [declarationsIn, List.mapM_cons, List.mapM_nil]
  cases itemDeclarations file item with
  | error e => rfl
  | ok ds => exact congrArg Except.ok (List.append_nil ds)

/-- An item that declares nothing may stand first or be left out. -/
theorem declarationsIn_cons_of_not_declares {file : String} {item : Item}
    (h : ¬item.Declares) (items : List Item) :
    declarationsIn file (item :: items) = declarationsIn file items := by
  rw [← List.singleton_append, declarationsIn_append, declarationsIn_singleton,
    itemDeclarations_eq_nil_iff.mpr h]
  cases declarationsIn file items <;> rfl

/-- **Only items that declare something count.** -/
theorem declarationsIn_filter (file : String) (items : List Item) :
    declarationsIn file (items.filter fun item => decide item.Declares)
      = declarationsIn file items := by
  induction items with
  | nil => rfl
  | cons item items ih =>
    by_cases h : item.Declares
    · rw [List.filter_cons_of_pos (by simpa using h), ← List.singleton_append,
        declarationsIn_append, ih, ← declarationsIn_append, List.singleton_append]
    · rw [List.filter_cons_of_neg (by simpa using h), ih,
        declarationsIn_cons_of_not_declares h]

/-- **The first item that is refused decides**, if those before it are not. -/
theorem declarationsIn_eq_error {file : String} {before after : List Item} {item : Item}
    {e : GenerationError}
    (hbefore : ∀ i ∈ before, ∃ decls, itemDeclarations file i = .ok decls)
    (hitem : itemDeclarations file item = .error e) :
    declarationsIn file (before ++ item :: after) = .error e := by
  rw [declarationsIn, mapM_eq_error_iff.mpr ⟨before, item, after, rfl, hitem, hbefore⟩]
  rfl

/-! ## What an item begins with -/

/-- Whether a row, after its visibility, begins like a structure or a block of
methods. -/
def beginsDeclaration (ts : List Token) : Bool :=
  Parser.atWord "struct" ts || Parser.atWord "impl" ts
    || (Parser.atWord "default" ts && !Parser.atOp "!" (Parser.skip ts))
    || (Parser.atWord "unsafe" ts && Parser.atWord "impl" (Parser.skip ts))

/-- What a sequence of parsers reads, its second reads where the first has ended. -/
theorem Parser.run_bind_eq_ok {α β : Type} {p : Parser α} {f : α → Parser β}
    {s s'' : ParserState} {b : β} :
    (p >>= f).run s = .ok (b, s'')
      ↔ ∃ a s', p.run s = .ok (a, s') ∧ (f a).run s' = .ok (b, s'') := by
  rw [StateT.run_bind, bind_eq_ok]
  exact Prod.exists

/-- A parser that leaves what it reads. -/
def LeavesItem (p : Parser Item) : Prop :=
  ∀ s item s', p.run s = .ok (item, s') → item = .other

theorem leavesItem_bind {α : Type} {p : Parser α} {f : α → Parser Item}
    (h : ∀ a, LeavesItem (f a)) : LeavesItem (p >>= f) := by
  intro s item s' hrun
  obtain ⟨a, mid, -, hrun⟩ := Parser.run_bind_eq_ok.mp hrun
  exact h a mid item s' hrun

theorem leavesItem_pure : LeavesItem (pure .other) := by
  intro s item s' hrun
  exact (Prod.mk.inj (Except.ok.inj hrun)).1.symm

theorem leavesItem_ite {c : Prop} [Decidable c] {p q : Parser Item}
    (hp : c → LeavesItem p) (hq : ¬c → LeavesItem q) : LeavesItem (if c then p else q) := by
  by_cases h : c
  · rw [if_pos h]
    exact hp h
  · rw [if_neg h]
    exact hq h

/-- A choice among parsers that leave what they read. -/
def LeavesItem? (p? : Option (Parser Item)) : Prop := ∀ p, p? = some p → LeavesItem p

theorem leavesItem?_ite {c : Prop} [Decidable c] {p? q? : Option (Parser Item)}
    (hp : c → LeavesItem? p?) (hq : ¬c → LeavesItem? q?) :
    LeavesItem? (if c then p? else q?) := by
  by_cases h : c
  · rw [if_pos h]
    exact hp h
  · rw [if_neg h]
    exact hq h

theorem leavesItem?_left (p : Parser Unit) :
    LeavesItem? (some do
      p
      return .other) := by
  rintro _ ⟨⟩
  exact leavesItem_bind fun _ => leavesItem_pure

theorem leavesItem_unsafeItem (g : Grammar) {next : List Token}
    (h : Parser.atWord "impl" next = false) : LeavesItem (Grammar.unsafeItem g next) := by
  have left {α : Type} (p : Parser α) : LeavesItem (p >>= fun _ => pure .other) :=
    leavesItem_bind fun _ => leavesItem_pure
  unfold Grammar.unsafeItem
  rw [if_neg (Bool.eq_false_iff.mp h)]
  refine leavesItem_ite (fun _ => left _) fun _ => ?_
  refine leavesItem_ite (fun _ => left _) fun _ => ?_
  refine leavesItem_ite (fun _ => left _) fun _ => ?_
  exact leavesItem_bind fun _ => leavesItem_bind fun _ => left _

/-- **An item that begins with neither is read and left.** -/
theorem leavesItem?_itemAt? (g : Grammar) (visible : Bool) {ts : List Token}
    (h : beginsDeclaration ts = false) : LeavesItem? (Grammar.itemAt? g visible ts) := by
  simp only [beginsDeclaration, Bool.or_eq_false_iff] at h
  obtain ⟨⟨⟨hstruct, himpl⟩, hdefault⟩, hunsafe⟩ := h
  have left := leavesItem?_left
  -- one step for each word, in the order in which they are tried
  unfold Grammar.itemAt?
  refine leavesItem?_ite (fun _ => left _) fun _ => ?_
  refine leavesItem?_ite (fun _ => left _) fun _ => ?_
  refine leavesItem?_ite (fun _ => left _) fun _ => ?_
  refine leavesItem?_ite (fun _ => left _) fun _ => ?_
  refine leavesItem?_ite (fun hword => ?_) fun _ => ?_
  · rw [hword, Bool.true_and] at hunsafe
    rintro _ ⟨⟩
    exact leavesItem_unsafeItem g hunsafe
  refine leavesItem?_ite (fun _ => left _) fun _ => ?_
  refine leavesItem?_ite (fun _ => left _) fun _ => ?_
  refine leavesItem?_ite (fun hword => nomatch hstruct.symm.trans hword) fun _ => ?_
  refine leavesItem?_ite (fun _ => left _) fun _ => ?_
  refine leavesItem?_ite (fun _ => left _) fun _ => ?_
  refine leavesItem?_ite (fun _ => left _) fun _ => ?_
  refine leavesItem?_ite (fun hword => ?_) fun _ => ?_
  · rw [himpl, Bool.false_or, hdefault] at hword
    exact nomatch hword
  refine leavesItem?_ite (fun _ => left _) fun _ => ?_
  exact leavesItem?_ite (fun _ => left _) fun _ => fun _ h => nomatch h

/-- To look ahead reads nothing. -/
theorem eq_of_run_atSignature {allowSafe found : Bool} {s s' : ParserState}
    (h : (Grammar.atSignature allowSafe).run s = .ok (found, s')) : s' = s := by
  obtain ⟨_, t, hpeek, h⟩ := Parser.run_bind_eq_ok.mp h
  obtain rfl : t = s' := (Prod.mk.inj (Except.ok.inj h)).2
  obtain ⟨_, t, hget, hpeek⟩ := Parser.run_bind_eq_ok.mp hpeek
  obtain ⟨rfl, rfl⟩ := Prod.mk.inj (Except.ok.inj hget)
  split at hpeek <;> exact (Prod.mk.inj (Except.ok.inj hpeek)).2.symm

/-- **An item is a structure or a block of methods only if it begins so**: any other is
left once it is read, whatever stands in it. -/
theorem eq_other_of_itemParser {g : Grammar} {s t s' : ParserState} {visible : Bool}
    {item : Item} (hvisible : Grammar.visibility.run s = .ok (visible, t))
    (hts : beginsDeclaration t.rest = false)
    (h : (Grammar.itemParser g).run s = .ok (item, s')) : item = .other := by
  obtain ⟨before, _, hget, h⟩ := Parser.run_bind_eq_ok.mp h
  obtain ⟨rfl, rfl⟩ := Prod.mk.inj (Except.ok.inj hget)
  obtain ⟨_, _, hvisible', h⟩ := Parser.run_bind_eq_ok.mp h
  obtain ⟨rfl, rfl⟩ := Prod.mk.inj (Except.ok.inj (hvisible.symm.trans hvisible'))
  obtain ⟨isFunction, _, hsignature, h⟩ := Parser.run_bind_eq_ok.mp h
  obtain rfl := eq_of_run_atSignature hsignature
  cases isFunction with
  | true => exact leavesItem_bind (fun _ => leavesItem_bind fun _ => leavesItem_pure) _ _ _ h
  | false =>
    obtain ⟨ts, _, hahead, h⟩ := Parser.run_bind_eq_ok.mp h
    obtain ⟨rfl, rfl⟩ := Prod.mk.inj (Except.ok.inj hahead)
    have hleaves := leavesItem?_itemAt? g visible hts
    cases hitem : Grammar.itemAt? g visible _ with
    | none =>
      rw [hitem] at h
      exact nomatch h
    | some p =>
      rw [hitem] at h
      exact leavesItem_bind (fun _ => hleaves p hitem) _ _ _ h

/-! ## Sources -/

/-- **A source is read item by item.** What the items of two lists declare is what those
of the first declare and then those of the second, unless the first or else the second
is refused. An item has nothing to declare exactly when it is neither a block for a type
with a method that carries a directive nor a structure with a named field that is
annotated; such items may stand anywhere among others, in any number, and neither what
is declared nor the refusal changes. All items that begin otherwise than blocks of
methods and structures are such, whatever stands in them. -/
theorem declarations_of_items (file : String) :
    (∀ xs ys, declarationsIn file (xs ++ ys) =
      match declarationsIn file xs, declarationsIn file ys with
      | .error e, _ => .error e
      | .ok _, .error e => .error e
      | .ok ds, .ok es => .ok (ds ++ es))
    ∧ (∀ item, itemDeclarations file item = .ok [] ↔ ¬item.Declares)
    ∧ (∀ xs ys : List Item,
        (xs.filter fun item => decide item.Declares)
          = (ys.filter fun item => decide item.Declares) →
        declarationsIn file xs = declarationsIn file ys)
    ∧ (∀ (g : Grammar) (s t s' : ParserState) (visible : Bool) (item : Item),
        Grammar.visibility.run s = .ok (visible, t) → beginsDeclaration t.rest = false →
        (Grammar.itemParser g).run s = .ok (item, s') → ¬item.Declares)
    ∧ ∀ (source : String) (tokens : List Token) (items : List Item),
        fileTokens source = .ok tokens → itemsOf tokens = .ok items →
        declarations source file = declarationsIn file items := by
  refine ⟨declarationsIn_append file, fun item => itemDeclarations_eq_nil_iff,
    fun xs ys h => ?_, fun g s t s' visible item hvisible hts hitem => ?_,
    fun source tokens items => declarations_eq⟩
  · rw [← declarationsIn_filter file xs, h, declarationsIn_filter]
  · rw [eq_other_of_itemParser hvisible hts hitem]
    exact not_false

/-- A source with a record, after items of other shapes that hold what would count
elsewhere. -/
def shapesSource : String := Text.join "\n" [
  "mod m \x7b", "impl S \x7b", "/// apigen:api", "fn a() \x7b\x7d", "\x7d", "\x7d",
  "impl<A> T for S<A> \x7b", "/// apigen:api", "fn b() \x7b\x7d", "\x7d",
  "struct U(", "/// apivalidator:\"required\"", "Vec<u8>);",
  "struct V \x7b v: Vec<u8> \x7d", "impl<A> W<A> \x7b fn c() \x7b\x7d \x7d",
  "struct P \x7b", "/// apivalidator:\"required\"", "t: String", "\x7d"]

/-- Which items of a source declare something. -/
def declaringIn (source : String) : Except Pos (List Bool) :=
  (fileTokens source >>= itemsOf).map fun items => items.map fun item => decide item.Declares

/-- Of a module, a trait's block, structures without annotated fields and a block without
directives nothing is declared; the record after them is. -/
theorem declarations_of_items_of_shapes :
    ∃ items, (fileTokens shapesSource >>= itemsOf) = .ok items
      ∧ items.map (fun item => decide item.Declares)
        = [false, false, false, false, false, true]
      ∧ declarations shapesSource "s.rs" = declarationsIn "s.rs" (items.drop 5) := by
  have hdeclaring : declaringIn shapesSource
      = .ok [false, false, false, false, false, true] := by
    rw [declaringIn, fileTokens, shapesSource, Text.join, String.toList_intercalate]
    simp only [List.map_cons, List.map_nil]
    repeat rewrite [String.toList_ofList]
    decide +kernel
  obtain ⟨items, hitems, hshapes⟩ := map_eq_ok.mp hdeclaring
  obtain ⟨-, -, hsame, -, hsource⟩ := declarations_of_items "s.rs"
  obtain ⟨tokens, htokens, hparsed⟩ := bind_eq_ok.mp hitems
  refine ⟨items, hitems, hshapes, ?_⟩
  rw [hsource shapesSource tokens items htokens hparsed]
  refine hsame _ _ ?_
  obtain ⟨a, items, rfl, ha, hshapes⟩ := List.map_eq_cons_iff.mp hshapes
  obtain ⟨b, items, rfl, hb, hshapes⟩ := List.map_eq_cons_iff.mp hshapes
  obtain ⟨c, items, rfl, hc, hshapes⟩ := List.map_eq_cons_iff.mp hshapes
  obtain ⟨d, items, rfl, hd, hshapes⟩ := List.map_eq_cons_iff.mp hshapes
  obtain ⟨e, items, rfl, he, -⟩ := List.map_eq_cons_iff.mp hshapes
  rw [decide_eq_false_iff_not] at ha hb hc hd he
  simp [ha, hb, hc, hd, he]

end Switchboard.Source
