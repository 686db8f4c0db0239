import Switchboard.Proofs.Dispatch.Legible
import Switchboard.Proofs.Dispatch.Resolution
import Switchboard.Proofs.Text.Pieces

/-!
# The string literals of a module

What a source says in its annotations ends up in the module as string literals: the
paths and verbs of the routers, the keys and rules of the templates, the keys and
fallbacks of the inputs, and the keys by which the fields of a record are taken. No
text may get out of its literal. A literal is closed where it is meant to be
(`closingQuote?_flatMap_escapeChar`) and stays on its line, but this is not enough: a
quote before it could open another one, and a comment could swallow it.

So the module is read line by line (`literalRows`), each line from its beginning, past
what is no literal. The names that stand between the literals hold no quote, no slash
and no end of a line (`IsClear`), and the rest of each line is fixed. The lines with
literals are then those that the code is meant to have, and each has the literals it is
meant to have (`literals_of_render`).
-/

namespace Switchboard

namespace Dispatch

open Text (quote toList_quote readLiteral readLiteral_escapeChar escapeChar pieces
  pieces_append_cons)

/-! ## Literals in a line -/

/-- The string literals of a line behind characters that belong to one before, as they are
written, up to a comment. A line that ends inside a literal has none. -/
def literalsFrom (skip : Nat) : List Char → Option (List String)
  | [] => some []
  | c :: rest =>
    match skip with
    | k + 1 => literalsFrom k rest
    | 0 =>
      if c = '"' then
        match readLiteral rest with
        | none => none
        | some (n, _) => (literalsFrom n rest).map (String.ofList (c :: rest.take n) :: ·)
      else if c = '/' ∧ rest.head? = some '/' then some []
      else literalsFrom 0 rest

/-- **The string literals of a line**, as they are written. -/
def literalsIn (line : List Char) : Option (List String) := literalsFrom 0 line

/-- **The lines of a text that hold literals**, by these. -/
def literalRows (cs : List Char) : List (Option (List String)) :=
  ((pieces '\n' cs).map literalsIn).filter (· ≠ some [])

/-- **A text in which no literal, no comment and no line begins or ends.** -/
def IsClear (s : String) : Prop := ∀ c ∈ s.toList, c ≠ '"' ∧ c ≠ '/' ∧ c ≠ '\n'

/-- A fixed text is clear when its characters are. -/
theorem IsClear.fixed {cs : List Char}
    (h : (cs.all fun c => c != '"' && c != '/' && c != '\n') = true) :
    IsClear (String.ofList cs) := by
  rw [IsClear, String.toList_ofList]
  simpa [and_assoc] using h

theorem IsClear.append {s t : String} (hs : IsClear s) (ht : IsClear t) :
    IsClear (s ++ t) := by
  rw [IsClear, String.toList_append, List.forall_mem_append]
  exact ⟨hs, ht⟩

/-- A clear text between fixed ones. -/
theorem IsClear.within {s : String} {before after : List Char} (h : IsClear s)
    (hbefore : (before.all fun c => c != '"' && c != '/' && c != '\n') = true)
    (hafter : (after.all fun c => c != '"' && c != '/' && c != '\n') = true) :
    IsClear (String.ofList before ++ s ++ String.ofList after) :=
  ((IsClear.fixed hbefore).append h).append (.fixed hafter)

/-- **A piece of a line adds literals to it**: those of the texts, and then the line goes
on. -/
structure AddsLiterals (piece : String) (texts : List String) : Prop where
  /-- The line is not broken. -/
  unbroken : '\n' ∉ piece.toList
  /-- The literals come before those of the rest. -/
  literals : ∀ rest, literalsIn (piece.toList ++ rest)
    = (literalsIn rest).map (texts.map quote ++ ·)

theorem AddsLiterals.append {a b : String} {s t : List String} (ha : AddsLiterals a s)
    (hb : AddsLiterals b t) : AddsLiterals (a ++ b) (s ++ t) := by
  constructor
  · rw [String.toList_append, List.mem_append, not_or]
    exact ⟨ha.unbroken, hb.unbroken⟩
  · intro rest
    rw [String.toList_append, List.append_assoc, ha.literals, hb.literals, Option.map_map]
    simp only [Function.comp_def, List.map_append, List.append_assoc]

theorem addsLiterals_of_isClear {s : String} (h : IsClear s) : AddsLiterals s [] := by
  refine ⟨fun hbreak => (h _ hbreak).2.2 rfl, fun rest => ?_⟩
  have hclear : ∀ c ∈ s.toList, c ≠ '"' ∧ c ≠ '/' := fun c hc => ⟨(h c hc).1, (h c hc).2.1⟩
  rw [List.map_nil, Option.map_congr fun _ _ => List.nil_append _, Option.map_id']
  generalize s.toList = cs at hclear
  induction cs with
  | nil => rfl
  | cons c cs ih =>
    rw [List.forall_mem_cons] at hclear
    rw [← ih hclear.2, List.cons_append, literalsIn, literalsFrom, if_neg hclear.1.1,
      if_neg fun hc => hclear.1.2 hc.1]
    rfl

/-- Characters that belong to a literal are passed over. -/
theorem literalsFrom_length_append (cs rest : List Char) :
    literalsFrom cs.length (cs ++ rest) = literalsIn rest := by
  induction cs with
  | nil => rfl
  | cons c cs ih => exact ih

/-- **A literal adds itself**, whatever its text is. -/
theorem addsLiterals_quote (s : String) : AddsLiterals (quote s) [s] := by
  refine ⟨Text.notMem_quote_of_mem_lineBreaks s (by decide), fun rest => ?_⟩
  let body := s.toList.flatMap escapeChar
  have hline : (quote s).toList ++ rest = '"' :: ((body ++ ['"']) ++ rest) := by
    rw [toList_quote]
    rfl
  have hread : readLiteral ((body ++ ['"']) ++ rest) = some ((body ++ ['"']).length, s) := by
    rw [List.append_assoc]
    refine (readLiteral_escapeChar s.toList rest).trans ?_
    rw [List.length_append, String.ofList_toList]
    rfl
  have hwritten : String.ofList ('"' :: (body ++ ['"'])) = quote s :=
    String.toList_inj.mp (by rw [String.toList_ofList, toList_quote]; rfl)
  rw [hline, literalsIn, literalsFrom, if_pos rfl, hread]
  dsimp only
  rw [literalsFrom_length_append, List.take_left, hwritten]
  rfl

/-- **The literals of a line** as it stands. -/
structure HasLiterals (line : String) (texts : List String) : Prop where
  /-- It is one line. -/
  unbroken : '\n' ∉ line.toList
  /-- It has the literals of the texts. -/
  literals : literalsIn line.toList = some (texts.map quote)

instance (line : String) (texts : List String) : Decidable (HasLiterals line texts) :=
  decidable_of_iff (_ ∧ _) ⟨fun h => ⟨h.1, h.2⟩, fun h => ⟨h.1, h.2⟩⟩

theorem AddsLiterals.hasLiterals {line : String} {texts : List String}
    (h : AddsLiterals line texts) : HasLiterals line texts := by
  refine ⟨h.unbroken, ?_⟩
  have hline := h.literals []
  rwa [List.append_nil, show literalsIn [] = some [] from rfl, Option.map_some,
    List.append_nil] at hline

theorem hasLiterals_of_isClear {line : String} (h : IsClear line) : HasLiterals line [] :=
  (addsLiterals_of_isClear h).hasLiterals

/-! ## The lines of code -/

namespace Code

mutual

/-- **The lines of code**, without the blanks before them. -/
def lines : Code → List String
  | .line text => [text]
  | .blank => [""]
  | .block opening inside closing => opening :: linesAll inside ++ [closing]

/-- The lines of pieces of code one after the other. -/
def linesAll : List Code → List String
  | [] => []
  | c :: rest => c.lines ++ linesAll rest

end

@[simp]
theorem linesAll_append (cs ds : List Code) :
    linesAll (cs ++ ds) = linesAll cs ++ linesAll ds := by
  induction cs with
  | nil => rfl
  | cons c cs ih => rw [List.cons_append, linesAll, ih, linesAll, List.append_assoc]

theorem linesAll_eq_flatMap (cs : List Code) : linesAll cs = cs.flatMap lines := by
  induction cs with
  | nil => rfl
  | cons c cs ih => rw [linesAll, ih, List.flatMap_cons]

end Code

/-- The blanks before a line do not matter. -/
theorem literalsIn_indented (depth : Nat) (line : List Char) :
    literalsIn (List.replicate (4 * depth) ' ' ++ line) = literalsIn line := by
  have hblanks : IsClear (Output.indentation depth) := by
    intro c hc
    rw [Output.indentation, String.toList_ofList] at hc
    rw [List.eq_of_mem_replicate hc]
    decide
  have hline := (addsLiterals_of_isClear hblanks).literals line
  rw [Output.indentation, String.toList_ofList] at hline
  exact hline.trans Option.map_id'

theorem pieces_lineChars (depth : Nat) {text : String} (h : '\n' ∉ text.toList)
    (rest : List Char) :
    (pieces '\n' (lineChars depth text ++ rest)).map literalsIn
      = literalsIn text.toList :: (pieces '\n' rest).map literalsIn := by
  have hline : '\n' ∉ List.replicate (4 * depth) ' ' ++ text.toList := by
    rw [List.mem_append, not_or]
    exact ⟨fun hblank => absurd (List.eq_of_mem_replicate hblank) (by decide), h⟩
  rw [lineChars, List.append_assoc, List.singleton_append, pieces_append_cons hline,
    List.map_cons, literalsIn_indented]

mutual

/-- **Code is read line by line**, as long as no line of it is broken. -/
theorem pieces_chars (depth : Nat) (c : Code) (h : ∀ t ∈ c.lines, '\n' ∉ t.toList)
    (rest : List Char) :
    (pieces '\n' (c.chars depth ++ rest)).map literalsIn
      = c.lines.map (fun t => literalsIn t.toList) ++ (pieces '\n' rest).map literalsIn := by
  cases c with
  | line text => exact pieces_lineChars depth (h text List.mem_cons_self) rest
  | blank => rfl
  | block opening inside closing =>
    rw [Code.lines, List.cons_append, List.forall_mem_cons, List.forall_mem_append] at h
    obtain ⟨hopening, hinside, hclosing⟩ := h
    rw [Code.chars, List.append_assoc, List.append_assoc, pieces_lineChars depth hopening,
      pieces_charsAll (depth + 1) inside hinside,
      pieces_lineChars depth (hclosing closing List.mem_cons_self), Code.lines]
    simp

theorem pieces_charsAll (depth : Nat) (cs : List Code)
    (h : ∀ t ∈ Code.linesAll cs, '\n' ∉ t.toList) (rest : List Char) :
    (pieces '\n' (Code.charsAll depth cs ++ rest)).map literalsIn
      = (Code.linesAll cs).map (fun t => literalsIn t.toList)
        ++ (pieces '\n' rest).map literalsIn := by
  cases cs with
  | nil => rfl
  | cons c cs =>
    rw [Code.linesAll, List.forall_mem_append] at h
    rw [Code.charsAll, List.append_assoc, pieces_chars depth c h.1,
      pieces_charsAll depth cs h.2, Code.linesAll, List.map_append, List.append_assoc]

end

/-- **Lines that hold the literals of rows of texts**, one row for each line that holds
any. -/
structure HaveLiterals (lines : List String) (rows : List (List String)) : Prop where
  /-- Each is one line. -/
  unbroken : ∀ t ∈ lines, '\n' ∉ t.toList
  /-- Those with literals have those of the rows. -/
  literals : (lines.map fun t => literalsIn t.toList).filter (· ≠ some [])
    = rows.map fun row => some (row.map quote)

instance (lines : List String) (rows : List (List String)) :
    Decidable (HaveLiterals lines rows) :=
  decidable_of_iff (_ ∧ _) ⟨fun h => ⟨h.1, h.2⟩, fun h => ⟨h.1, h.2⟩⟩

namespace HaveLiterals

theorem nil : HaveLiterals [] [] := ⟨fun _ hmem => absurd hmem List.not_mem_nil, rfl⟩

theorem append {ts us : List String} {rows more : List (List String)}
    (ht : HaveLiterals ts rows) (hu : HaveLiterals us more) :
    HaveLiterals (ts ++ us) (rows ++ more) := by
  constructor
  · exact List.forall_mem_append.mpr ⟨ht.unbroken, hu.unbroken⟩
  · rw [List.map_append, List.filter_append, ht.literals, hu.literals, List.map_append]

theorem flatMap {α : Type} {lines : α → List String} {rows : α → List (List String)}
    {as : List α} (h : ∀ a ∈ as, HaveLiterals (lines a) (rows a)) :
    HaveLiterals (as.flatMap lines) (as.flatMap rows) := by
  induction as with
  | nil => exact nil
  | cons a as ih =>
    rw [List.forall_mem_cons] at h
    exact h.1.append (ih h.2)

/-- A line that holds literals is a row. -/
theorem of_line {line text : String} {texts : List String}
    (h : HasLiterals line (text :: texts)) : HaveLiterals [line] [text :: texts] := by
  constructor
  · exact fun t ht => List.mem_singleton.mp ht ▸ h.unbroken
  · rw [List.map_singleton, h.literals]
    rfl

/-- A line that holds none is no row. -/
theorem of_isClear {line : String} (h : IsClear line) : HaveLiterals [line] [] := by
  have hline := hasLiterals_of_isClear h
  constructor
  · exact fun t ht => List.mem_singleton.mp ht ▸ hline.unbroken
  · rw [List.map_singleton, hline.literals]
    rfl

/-- Code that holds none may stand before other code. -/
theorem cons {c : Code} {cs : List Code} {rows : List (List String)}
    (hc : HaveLiterals c.lines []) (hcs : HaveLiterals (Code.linesAll cs) rows) :
    HaveLiterals (Code.linesAll (c :: cs)) rows :=
  hc.append hcs

theorem singleton {c : Code} {rows : List (List String)} (h : HaveLiterals c.lines rows) :
    HaveLiterals (Code.linesAll [c]) rows := by
  rw [Code.linesAll, Code.linesAll, List.append_nil]
  exact h

theorem blank : HaveLiterals Code.blank.lines [] := .of_isClear (.fixed rfl)

/-- The first and the last line of a block hold none. -/
theorem of_block {opening closing : String} {inside : List Code} {rows : List (List String)}
    (hopening : IsClear opening) (hinside : HaveLiterals (Code.linesAll inside) rows)
    (hclosing : IsClear closing) :
    HaveLiterals (Code.block opening inside closing).lines rows := by
  have hblock := ((of_isClear hopening).append hinside).append (of_isClear hclosing)
  rwa [List.nil_append, List.append_nil] at hblock

/-- **The text of code has the literals that its lines have.** -/
theorem literalRows_eq {cs : List Code} {rows : List (List String)}
    (h : HaveLiterals (Code.linesAll cs) rows) (depth : Nat) :
    literalRows (Code.charsAll depth cs) = rows.map fun row => some (row.map quote) := by
  have hpieces := pieces_charsAll depth cs h.unbroken []
  rw [List.append_nil] at hpieces
  rw [literalRows, hpieces, List.filter_append, h.literals]
  exact List.append_nil _

end HaveLiterals

/-! ## What is meant to be in a module -/

/-- The literals of a branch: its path, and if it asks for a verb, the verb and what is
answered to others. -/
def branchRows (b : Branch) : List (List String) :=
  [b.url] :: b.verb.toList.flatMap fun verb => [[verb], ["bad method"]]

/-- **The literals of a router**: those of its branches, and what is answered on other
paths. -/
def routerRows (s : Service) : List (List String) :=
  (branches s).flatMap branchRows ++ [["unknown method"]]

/-- **The literals of the method that answers for an endpoint**: keys with their rules, keys
with what the inputs fall back on, and the keys by which the fields are taken. -/
def endpointRows (e : Endpoint) : List (List String) :=
  (e.record.template.entries.map fun entry => [entry.1, entry.2])
    ++ (e.record.fields.map fun f => [f.externalKey, f.constraints.fallback])
    ++ e.record.fields.map fun f => [f.externalKey]

/-- The literals of the guards. -/
def guardRows : List (List String) :=
  [[tokenHeader], [token], ["no auth"], ["unauthorized"], ["recovered from panic"]]

/-- **The literals of services.** -/
def moduleRows (services : List Service) : List (List String) :=
  services.flatMap routerRows
    ++ (services.flatMap fun s => s.endpoints.flatMap endpointRows) ++ guardRows

/-! ## Names between literals -/

theorem isClear_of_notMem {s : String}
    (h : ∀ c, Text.isIdentContinue c = false → c ≠ '#' → c ∉ s.toList) : IsClear s := by
  intro c hc
  refine ⟨?_, ?_, ?_⟩ <;> rintro rfl <;> exact h _ (by decide) (by decide) hc

theorem isClear_methodName {name : String} (h : IsClear name) : IsClear (methodName name) := by
  refine IsClear.append (.fixed rfl) fun c hc => ?_
  rw [String.toList_ofList] at hc
  exact h c (mem_of_mem_dropRawMarks hc)

theorem isClear_fieldName {name : String} (h : IsClear name) : IsClear (fieldName name) := by
  rw [fieldName]
  split
  · exact h
  · exact IsClear.append (.fixed rfl) h

/-- **An endpoint whose names are clear.** -/
structure HasClearNames (e : Endpoint) : Prop where
  /-- That of its receiver. -/
  receiver : IsClear e.handler.receiver
  /-- That of its handler. -/
  handler : IsClear e.handler.name
  /-- That of its record. -/
  record : IsClear e.record.name
  /-- Those of the fields of its record. -/
  fields : ∀ f ∈ e.record.fields, IsClear f.name

/-- Names that are identifiers are clear. -/
theorem hasClearNames_of_isNamed {e : Endpoint} (h : e.IsNamed) : HasClearNames e where
  receiver := isClear_of_notMem fun _ => h.receiver.notMem
  handler := isClear_of_notMem fun _ => h.handler.notMem
  record := isClear_of_notMem fun _ => h.record.notMem
  fields f hf := isClear_of_notMem fun _ hc _ => (h.fields f hf).notMem hc

/-! ## What is in a module -/

/-- Clear pieces around literals add nothing to these. -/
theorem AddsLiterals.between {before after : String} {piece : String} {texts : List String}
    (hbefore : IsClear before) (h : AddsLiterals piece texts) (hafter : IsClear after) :
    AddsLiterals (before ++ piece ++ after) texts := by
  have hpiece := ((addsLiterals_of_isClear hbefore).append h).append
    (addsLiterals_of_isClear hafter)
  rwa [List.nil_append, List.append_nil] at hpiece

/-- A line with one literal between clear pieces. -/
theorem haveLiterals_quote {before after : String} (hbefore : IsClear before) (text : String)
    (hafter : IsClear after) : HaveLiterals [before ++ quote text ++ after] [[text]] :=
  .of_line (AddsLiterals.between hbefore (addsLiterals_quote text) hafter).hasLiterals

/-- A line that ends with a literal written out, and perhaps clear pieces around it. -/
theorem haveLiterals_written {front back : String} (before text after : String)
    (hfront : IsClear front) (hbefore : IsClear before) (hafter : IsClear after)
    (h : back.toList = before.toList ++ (quote text).toList ++ after.toList) :
    HaveLiterals [front ++ back] [[text]] := by
  have hback : back = before ++ quote text ++ after := by
    rw [← String.toList_inj, h, String.toList_append, String.toList_append]
  rw [hback]
  exact .of_line ((addsLiterals_of_isClear hfront).append
    (.between hbefore (addsLiterals_quote text) hafter)).hasLiterals

theorem haveLiterals_branchCode {b : Branch} (h : IsClear b.target) :
    HaveLiterals (branchCode b).lines (branchRows b) := by
  have hurl : HaveLiterals ["if req.uri().path() == " ++ quote b.url ++ " \x7b"] [[b.url]] :=
    haveLiterals_quote (.fixed rfl) b.url (.fixed rfl)
  have hverb : HaveLiterals (Code.linesAll (b.verb.map verbCode).toList)
      (b.verb.toList.flatMap fun verb => [[verb], ["bad method"]]) := by
    cases b.verb with
    | none => exact .nil
    | some verb =>
      have htest : HaveLiterals ["if req.method().as_str() != " ++ quote verb ++ " \x7b"]
          [[verb]] :=
        haveLiterals_quote (.fixed rfl) verb (.fixed rfl)
      have hrefusal : HaveLiterals
          ["return apigen_rt::respond_error(StatusCode::METHOD_NOT_ALLOWED, "
            ++ "\"bad method\");"] [["bad method"]] :=
        haveLiterals_written "" "bad method" ");" (.fixed rfl) (.fixed rfl) (.fixed rfl) (by decide)
      exact htest.append (hrefusal.append (.of_isClear (.fixed rfl)))
  have hcall : IsClear (callText b) := by
    have hself : IsClear ("self." ++ b.target ++ "(req)") := h.within rfl rfl
    rw [callText]
    split
    · exact hself.within rfl rfl
    · exact hself
  have hreturn : HaveLiterals
      ["return error_middleware(req, |req| " ++ callText b ++ ");"] [] :=
    .of_isClear (hcall.within rfl rfl)
  have hclosing : HaveLiterals ["\x7d"] [] := .of_isClear (.fixed rfl)
  have hlines := ((hurl.append hverb).append hreturn).append hclosing
  rw [List.append_nil, List.append_nil] at hlines
  rw [branchCode, Code.lines, Code.linesAll_append]
  exact hlines

theorem haveLiterals_routerCode {s : Service} (hreceiver : IsClear s.receiver)
    (h : ∀ e ∈ s.endpoints, HasClearNames e) :
    HaveLiterals (routerCode s).lines (routerRows s) := by
  have hbranches : HaveLiterals (Code.linesAll ((branches s).map branchCode))
      ((branches s).flatMap branchRows) := by
    rw [Code.linesAll_eq_flatMap, List.flatMap_map]
    refine .flatMap fun b hb => haveLiterals_branchCode ?_
    obtain ⟨e, he, rfl⟩ := List.mem_map.mp hb
    exact isClear_methodName (h e he).handler
  have hunknown : HaveLiterals
      ["apigen_rt::respond_error(StatusCode::NOT_FOUND, " ++ "\"unknown method\")"]
      [["unknown method"]] :=
    haveLiterals_written "" "unknown method" ")" (.fixed rfl) (.fixed rfl) (.fixed rfl) (by decide)
  have hdoc : HaveLiterals
      ["/// Dispatches a request to the handler registered for its path."] [] := by
    decide
  rw [routerCode, methodsOf]
  refine .of_block (hreceiver.within rfl rfl) ?_ (.fixed rfl)
  have hserve : IsClear ("pub fn serve_http" ++ answerSignature) :=
    IsClear.append (.fixed rfl) (.fixed rfl)
  refine .cons hdoc (.singleton (.of_block hserve ?_ (.fixed rfl)))
  rw [Code.linesAll_append]
  exact hbranches.append hunknown

theorem haveLiterals_tableCode {α : Type} {declaration : String} (h : IsClear declaration)
    {entry : α → String} {row : α → List String} {as : List α}
    (hentry : ∀ a ∈ as, HaveLiterals [entry a] [row a]) :
    HaveLiterals (tableCode declaration (as.map entry)).lines (as.map row) := by
  refine .of_block (h.append (.fixed rfl)) ?_ (.fixed rfl)
  rw [Code.linesAll_eq_flatMap, List.flatMap_map, List.flatMap_map, ← List.flatMap_pure_eq_map]
  exact .flatMap hentry

theorem addsLiterals_templateEntry (entry : String × String) :
    AddsLiterals (templateEntry entry) [entry.1, entry.2] :=
  ((((addsLiterals_of_isClear (.fixed rfl)).append (addsLiterals_quote entry.1)).append
    (addsLiterals_of_isClear (.fixed rfl))).append (addsLiterals_quote entry.2)).append
    (addsLiterals_of_isClear (.fixed rfl))

theorem addsLiterals_inputEntry (f : Field) :
    AddsLiterals (inputEntry f) [f.externalKey, f.constraints.fallback] := by
  have hkind : IsClear (variantName f.kind) := by
    cases f.kind <;> exact .fixed rfl
  have hflag : IsClear (flagText f.constraints.hasFallback) := by
    cases f.constraints.hasFallback <;> exact .fixed rfl
  exact ((((((((addsLiterals_of_isClear (.fixed rfl)).append
    (addsLiterals_quote f.externalKey)).append (addsLiterals_of_isClear (.fixed rfl))).append
    (addsLiterals_quote f.constraints.fallback)).append
    (addsLiterals_of_isClear (.fixed rfl))).append (addsLiterals_of_isClear hkind)).append
    (addsLiterals_of_isClear (.fixed rfl))).append (addsLiterals_of_isClear hflag)).append
    (addsLiterals_of_isClear (.fixed rfl))

theorem haveLiterals_fieldCode {f : Field} (h : IsClear f.name) :
    HaveLiterals (fieldCode f).lines [[f.externalKey]] := by
  have haccessor : IsClear (accessorName f.kind) := by
    cases f.kind <;> exact .fixed rfl
  have hbefore : IsClear (fieldName f.name ++ ": inputs." ++ accessorName f.kind ++ "(") :=
    (((isClear_fieldName h).append (.fixed rfl)).append haccessor).append (.fixed rfl)
  exact haveLiterals_quote hbefore f.externalKey (.fixed rfl)

theorem haveLiterals_recordCode {r : Record} (hname : IsClear r.name)
    (h : ∀ f ∈ r.fields, IsClear f.name) :
    HaveLiterals (recordCode r).lines (r.fields.map fun f => [f.externalKey]) := by
  have hfields : HaveLiterals (Code.linesAll (r.fields.map fieldCode))
      (r.fields.map fun f => [f.externalKey]) := by
    rw [Code.linesAll_eq_flatMap, List.flatMap_map, ← List.flatMap_pure_eq_map]
    exact .flatMap fun f hf => haveLiterals_fieldCode (h f hf)
  have hothers : HaveLiterals (Code.linesAll
      (if r.hasOtherFields then [.line "..Default::default()"] else [])) [] := by
    cases r.hasOtherFields with
    | false => exact .nil
    | true => exact .singleton (.of_isClear (.fixed rfl))
  refine .of_block (hname.within rfl rfl) ?_ (.fixed rfl)
  have hinside := hfields.append hothers
  rw [List.append_nil] at hinside
  rw [Code.linesAll_append]
  exact hinside

theorem haveLiterals_callCode {h : Handler} (hname : IsClear h.name) :
    HaveLiterals (callCode h).lines [] := by
  have hrecord : IsClear (recordArgument h.byRef) := by
    rw [recordArgument]
    split <;> exact .fixed rfl
  have harguments : IsClear (argumentsText h) := by
    rw [argumentsText]
    split
    · exact hrecord
    · exact IsClear.append (.fixed rfl) hrecord
    · exact IsClear.append (.fixed rfl) hrecord
  have herr : IsClear ("Err(err) => "
      ++ "apigen_rt::respond_error(apigen_rt::business_status(&err), err),") :=
    IsClear.append (.fixed rfl) (.fixed rfl)
  refine .of_block ?_ (.cons (.of_isClear (.fixed rfl)) (.singleton (.of_isClear herr)))
    (.fixed rfl)
  exact ((hname.within rfl rfl).append harguments).append (.fixed rfl)

theorem haveLiterals_bindCode {opening kept : String} (hopening : IsClear opening)
    (hkept : IsClear kept) : HaveLiterals (bindCode opening kept).lines [] := by
  have hok : IsClear ("Ok(" ++ kept ++ ") => " ++ kept ++ ",") :=
    ((hkept.within rfl rfl).append hkept).append (.fixed rfl)
  refine .of_block hopening (.cons (.of_isClear hok) (.singleton (.of_isClear ?_))) (.fixed rfl)
  exact IsClear.append (.fixed rfl) (.fixed rfl)

theorem haveLiterals_intakeCode : HaveLiterals (Code.linesAll intakeCode) [] := by
  refine .cons (haveLiterals_bindCode (.fixed rfl) (.fixed rfl))
    (.cons (haveLiterals_bindCode (.fixed rfl) (.fixed rfl)) (.singleton ?_))
  exact .of_block (.fixed rfl) (.singleton (.of_isClear (.fixed rfl))) (.fixed rfl)

/-- **The method that answers for an endpoint** has the literals it is meant to have. -/
theorem haveLiterals_endpointCode {e : Endpoint} (h : HasClearNames e) :
    HaveLiterals (endpointCode e).lines (endpointRows e) := by
  have htemplate : HaveLiterals (tableCode "const TEMPLATE: &[(&str, &str)]"
      (e.record.template.entries.map templateEntry)).lines
      (e.record.template.entries.map fun entry => [entry.1, entry.2]) :=
    haveLiterals_tableCode (.fixed rfl) fun entry _ =>
      .of_line (addsLiterals_templateEntry entry).hasLiterals
  have hinputs : HaveLiterals (tableCode "const INPUTS: &[InputField]"
      (e.record.fields.map inputEntry)).lines
      (e.record.fields.map fun f => [f.externalKey, f.constraints.fallback]) :=
    haveLiterals_tableCode (.fixed rfl) fun f _ =>
      .of_line (addsLiterals_inputEntry f).hasLiterals
  have hcontext : HaveLiterals (Code.linesAll (contextCode e.handler)) [] := by
    rw [contextCode]
    split
    · exact .singleton (.of_isClear (.fixed rfl))
    · exact .nil
  have hopening : IsClear ("fn " ++ methodName e.handler.name ++ answerSignature) :=
    (isClear_methodName h.handler).within rfl rfl
  refine .of_block hopening ?_ (.fixed rfl)
  have htables := htemplate.append (hinputs.append (.singleton .blank))
  have hrecord := HaveLiterals.cons .blank (.singleton (haveLiterals_recordCode h.record h.fields))
  have hinside := (((htables.append haveLiterals_intakeCode).append hrecord).append
    hcontext).append (.singleton (haveLiterals_callCode h.handler))
  rw [List.append_nil, List.append_nil, List.append_nil, List.append_nil] at hinside
  rw [Code.linesAll_append, Code.linesAll_append, Code.linesAll_append, Code.linesAll_append]
  exact hinside

/-- Pieces of code with an empty line between them hold their literals. -/
theorem haveLiterals_spaced {α : Type} {f : α → Code} {rows : α → List (List String)}
    {as : List α} (h : ∀ a ∈ as, HaveLiterals (f a).lines (rows a)) :
    HaveLiterals (Code.linesAll (spaced (as.map f))) (as.flatMap rows) := by
  cases as with
  | nil => exact .flatMap h
  | cons a as =>
    rw [List.forall_mem_cons] at h
    rw [List.map_cons, spaced_cons, Code.linesAll, Code.linesAll_eq_flatMap, List.flatMap_map,
      List.flatMap_assoc, List.flatMap_cons]
    refine h.1.append (.flatMap fun b hb => ?_)
    rw [← Code.linesAll_eq_flatMap]
    exact .cons .blank (.singleton (h.2 b hb))

theorem haveLiterals_guardCode {name : String} (h : IsClear name) {inside : List Code}
    {rows : List (List String)} (hinside : HaveLiterals (Code.linesAll inside) rows) :
    HaveLiterals (Code.linesAll (guardCode name inside)) rows := by
  have hname : IsClear ("fn " ++ name
      ++ "<B, F>(req: &Request<B>, next: F) -> Response<String>") :=
    h.within rfl rfl
  refine .cons (.of_isClear (.fixed rfl)) (.cons (.of_isClear hname)
    (.cons (.of_isClear (.fixed rfl)) (.cons (.of_isClear (.fixed rfl)) (.singleton ?_))))
  exact .of_block (.fixed rfl) hinside (.fixed rfl)

theorem haveLiterals_tokenGuard :
    HaveLiterals (Code.linesAll tokenGuard)
      [[tokenHeader], [token], ["no auth"], ["unauthorized"]] := by
  have hheader : HaveLiterals ["let token = req.headers().get(" ++ quote tokenHeader
      ++ ").map(|value| value.as_bytes()).unwrap_or_default();"] [[tokenHeader]] :=
    haveLiterals_quote (.fixed rfl) tokenHeader (.fixed rfl)
  have htest : HaveLiterals ["if !apigen_rt::constant_time_eq(token, b" ++ quote token
      ++ ") \x7b"] [[token]] :=
    haveLiterals_quote (.fixed rfl) token (.fixed rfl)
  have hlog : HaveLiterals ["apigen_rt::tracing::debug!"
      ++ "(path = req.uri().path(), \"no auth\");"] [["no auth"]] :=
    haveLiterals_written "(path = req.uri().path(), " "no auth" ");" (.fixed rfl) (.fixed rfl)
      (.fixed rfl) (by decide)
  have hrefusal : HaveLiterals ["return apigen_rt::respond_error(StatusCode::FORBIDDEN, "
      ++ "\"unauthorized\");"] [["unauthorized"]] :=
    haveLiterals_written "" "unauthorized" ");" (.fixed rfl) (.fixed rfl) (.fixed rfl) (by decide)
  have hrest : HaveLiterals ["\x7d", "next(req)"] [] :=
    HaveLiterals.append (.of_isClear (.fixed rfl)) (.of_isClear (.fixed rfl))
  exact haveLiterals_guardCode (.fixed rfl)
    (hheader.append ((htest.append (hlog.append hrefusal)).append hrest))

theorem haveLiterals_panicGuard :
    HaveLiterals (Code.linesAll panicGuard) [["recovered from panic"]] := by
  have hlog : HaveLiterals ["apigen_rt::tracing::error!(path = req.uri().path(), "
      ++ "panic = %message, \"recovered from panic\");"] [["recovered from panic"]] :=
    haveLiterals_written "panic = %message, " "recovered from panic" ");" (.fixed rfl)
      (.fixed rfl) (.fixed rfl) (by decide)
  have hreply : IsClear ("apigen_rt::respond_error"
      ++ "(StatusCode::INTERNAL_SERVER_ERROR, message)") :=
    IsClear.append (.fixed rfl) (.fixed rfl)
  have hopening : IsClear ("match std::panic::catch_unwind"
      ++ "(std::panic::AssertUnwindSafe(|| next(req))) \x7b") :=
    IsClear.append (.fixed rfl) (.fixed rfl)
  refine haveLiterals_guardCode (.fixed rfl) (.singleton (.of_block hopening
    (.cons (.of_isClear (.fixed rfl)) (.singleton ?_)) (.fixed rfl)))
  refine .of_block (.fixed rfl) (.cons (.of_isClear (.fixed rfl)) ?_) (.fixed rfl)
  exact hlog.append (.of_isClear hreply)

theorem haveLiterals_servicesCode {services : List Service}
    (h : ∀ s ∈ services, IsClear s.receiver ∧ ∀ e ∈ s.endpoints, HasClearNames e) :
    HaveLiterals (Code.linesAll (servicesCode services)) (moduleRows services) := by
  have hservices {code : Service → Code} {rows : Service → List (List String)}
      (hcode : ∀ s ∈ services, HaveLiterals (code s).lines (rows s)) :
      HaveLiterals (Code.linesAll (services.flatMap fun s => [.blank, code s]))
        (services.flatMap rows) := by
    rw [Code.linesAll_eq_flatMap, List.flatMap_assoc]
    refine .flatMap fun s hs => ?_
    rw [← Code.linesAll_eq_flatMap]
    exact .cons .blank (.singleton (hcode s hs))
  have hrouters := hservices fun s hs => haveLiterals_routerCode (h s hs).1 (h s hs).2
  have hendpoints : HaveLiterals
      (Code.linesAll (services.flatMap fun s => [.blank, endpointsCode s]))
      (services.flatMap fun s => s.endpoints.flatMap endpointRows) := by
    refine hservices fun s hs => .of_block ?_ (haveLiterals_spaced ?_) (.fixed rfl)
    · exact (h s hs).1.within rfl rfl
    · exact fun e he => haveLiterals_endpointCode ((h s hs).2 e he)
  have hguards : HaveLiterals (Code.linesAll ([.blank] ++ guardsCode)) guardRows := by
    rw [guardsCode, Code.linesAll_append, Code.linesAll_append, Code.linesAll_append]
    exact (HaveLiterals.singleton .blank).append
      ((haveLiterals_tokenGuard.append (.singleton .blank)).append haveLiterals_panicGuard)
  rw [servicesCode, List.append_assoc, Code.linesAll_append, Code.linesAll_append]
  exact (hrouters.append hendpoints).append hguards

/-- **Below its banner, a module has the literals it is meant to have.** -/
theorem exists_below_of_moduleText (moduleName label : String) {es : List Endpoint}
    (h : ∀ e ∈ es, HasClearNames e) :
    ∃ below, (moduleText moduleName label es).toList
        = (banner moduleName label).toList ++ '\n' :: below
      ∧ literalRows below
        = (moduleRows (servicesOf es)).map fun row => some (row.map quote) := by
  have hservices : ∀ s ∈ servicesOf es,
      IsClear s.receiver ∧ ∀ e ∈ s.endpoints, HasClearNames e := by
    intro s hs
    obtain ⟨r, hr, rfl⟩ := List.mem_map.mp hs
    obtain ⟨e, he, rfl⟩ := mem_keysOf.mp hr
    exact ⟨(h e he).receiver, fun e he => h e (List.mem_of_mem_filter he)⟩
  have hhead : HaveLiterals (Code.linesAll ([.blank] ++ importsCode)) [] := by
    decide
  have hlines := hhead.append (haveLiterals_servicesCode hservices)
  rw [← Code.linesAll_append] at hlines
  exact ⟨_, toList_writeAll_moduleCode moduleName label _, hlines.literalRows_eq 0⟩

/-- The banner is a comment, so as long as it is one line it holds no literals. -/
theorem literalRows_banner {moduleName label : String}
    (h : '\n' ∉ (banner moduleName label).toList) (below : List Char) :
    literalRows ((banner moduleName label).toList ++ '\n' :: below) = literalRows below := by
  have hcomment (rest : List Char) : literalsIn ('/' :: '/' :: rest) = some [] := rfl
  have hbanner : literalsIn (banner moduleName label).toList = some [] := by
    obtain ⟨_, _, _, -, -, -, hbanner⟩ := exists_toList_banner
    rw [hbanner]
    exact hcomment _
  rw [literalRows, pieces_append_cons h, List.map_cons, hbanner]
  rfl

end Dispatch

open Dispatch Text

/-- **The literals of a module are those of the texts it is made from.** A text as a literal
is read as that text; it holds nothing that ends a line, and no quote before its end that
is not escaped. Of any API whose links lead to records, the lines below the banner that
hold literals are those of the branches of the routers, of the templates, the inputs and
the fields of the records, and of the guards, in the order in which they are written, and
each holds the literals of its texts and no others. A banner of one line holds none. It is
asked of the names between the literals that they hold no quote, no slash and no end of a
line; those of a source are such. -/
theorem literals_of_render :
    (∀ s : String, unquote? (quote s).toList = some s
      ∧ (∀ c ∈ lineBreaks, c ∉ (quote s).toList)
      ∧ ∃ body, (quote s).toList = '"' :: body ++ ['"']
        ∧ ∀ rest, closingQuote? (body ++ '"' :: rest) = some body.length)
    ∧ (∀ api label text, render api label = .ok text →
      (∀ h ∈ api.handlers, ∀ e, api.endpoint h = .ok e → HasClearNames e) →
      ∃ services below, api.services = .ok services
        ∧ text.toList = (banner api.moduleName label).toList ++ '\n' :: below
        ∧ literalRows below = ((moduleRows services).map fun row => some (row.map quote))
        ∧ ('\n' ∉ (banner api.moduleName label).toList →
          literalRows text.toList = (moduleRows services).map fun row => some (row.map quote)))
    ∧ ∀ moduleName source file api, Api.ofSource moduleName source file = .ok api →
      ∀ h ∈ api.handlers, ∀ e, api.endpoint h = .ok e → HasClearNames e := by
  refine ⟨fun s => ⟨unquote?_quote s, fun c => notMem_quote_of_mem_lineBreaks s,
    s.toList.flatMap escapeChar, toList_quote s,
    closingQuote?_flatMap_escapeChar s.toList⟩, fun api label text h hnames => ?_,
    fun moduleName source file api h g hg e he => ?_⟩
  · obtain ⟨es, hes, rfl⟩ := exists_endpoints_of_render h
    have hclear : ∀ e ∈ es, HasClearNames e := by
      intro e he
      obtain ⟨g, hg, hendpoint⟩ := exists_of_mem_forall₂ hes.flip he
      exact hnames g hg e hendpoint
    obtain ⟨below, htext, hrows⟩ := exists_below_of_moduleText api.moduleName label hclear
    refine ⟨_, below, Api.services_eq_ok hes, htext, hrows, fun hbanner => ?_⟩
    rw [htext, literalRows_banner hbanner, hrows]
  · obtain ⟨-, es, hes, hnamed⟩ := Api.exists_endpoints_of_source h
    obtain ⟨e', he', hendpoint⟩ := exists_of_mem_forall₂ hes hg
    obtain rfl : e' = e := Except.ok.inj (hendpoint.symm.trans he)
    exact hasClearNames_of_isNamed (hnamed e' he')

/-- An API whose path, verb, key, choice and fallback hold quotes, brackets, slashes, a
backslash and ends of lines. -/
def quotesApi : Api :=
  let handler : Handler := ⟨"S", "f", "p", "P", false, none, "P",
    ⟨"/\"//\n", true, "\\"⟩, some 0, ⟨"s.rs", 1, 1⟩⟩
  let constraints : Constraints := ⟨true, false, "k\")", ["a\"b"], "\r\u2028", none, none⟩
  ⟨"m", [handler], [⟨"P", [⟨"t", .string, "", constraints⟩], false, ⟨"s.rs", 1, 1⟩⟩]⟩

/-- Each of these texts is in the module as one literal, and no other literal is there. -/
theorem literals_of_render_with_quotes :
    ∃ text, render quotesApi "s.rs" = .ok text
      ∧ literalRows text.toList
        = ([["/\"//\n"], ["\\"], ["bad method"], ["unknown method"],
            ["k\")", "type(string),in(a\"b)"], ["k\")", "\r\u2028"], ["k\")"]]
          ++ guardRows).map fun row => some (row.map quote) := by
  obtain ⟨text, hrender⟩ : ∃ text, render quotesApi "s.rs" = .ok text := ⟨_, rfl⟩
  have hclear : ∀ h ∈ quotesApi.handlers, ∀ e, quotesApi.endpoint h = .ok e →
      HasClearNames e := by
    intro h hh e he
    rw [List.mem_singleton.mp hh] at he
    obtain rfl := Except.ok.inj he
    refine ⟨.fixed rfl, .fixed rfl, .fixed rfl, fun f hf => ?_⟩
    rw [List.mem_singleton.mp hf]
    exact .fixed rfl
  obtain ⟨services, below, hservices, -, -, hrows⟩ :=
    literals_of_render.2.1 quotesApi "s.rs" text hrender hclear
  obtain rfl := Except.ok.inj hservices
  refine ⟨text, hrender, (hrows (by decide)).trans ?_⟩
  exact congrArg (List.map fun row : List String => some (row.map quote)) (by decide)

end Switchboard
