import Switchboard.Proofs.Dispatch.Resolution

/-!
# APIs appended one after the other

An output is written to more than once, and a refusal does not end it. What makes this
safe is that an API is appended **whole or not at all**: all of its links are followed
before its first line is written, so a refusal finds the output as it was
(`Output.emit_of_error`), and what is written closes every block it opens, so the next
API begins at the depth that this one began at (`Output.emit_of_ok`).

An API is therefore appended as the text it is rendered as alone, whatever was written
before, and a row of them as these texts in a row, those of the refused left out
(`emitAll_empty`).
-/

namespace Switchboard.Dispatch

namespace Output

/-- **APIs appended one after the other**, each with its label: the output after all
of them, and what each of them was refused for, if it was. -/
def emitAll (o : Output) : List (Api × String) → Output × List (Option GenerationError)
  | [] => (o, [])
  | (api, label) :: rest =>
    let (o, refusal) := o.emit api label
    let (o, refusals) := o.emitAll rest
    (o, refusal :: refusals)

theorem emitAll_cons (o : Output) (call : Api × String) (rest : List (Api × String)) :
    o.emitAll (call :: rest)
      = (((o.emit call.1 call.2).1.emitAll rest).1,
        (o.emit call.1 call.2).2 :: ((o.emit call.1 call.2).1.emitAll rest).2) := rfl

/-- What comes later begins with what the earlier ones left. -/
theorem emitAll_append (o : Output) (before after : List (Api × String)) :
    (o.emitAll (before ++ after)).1 = ((o.emitAll before).1.emitAll after).1 := by
  induction before generalizing o with
  | nil => rfl
  | cons call rest ih =>
    rw [List.cons_append, emitAll_cons, emitAll_cons]
    exact ih _

/-! ## One API -/

/-- Code written where no block is open is the text it is written as alone. -/
theorem text_writeAll {o : Output} (h : o.depth = 0) (cs : List Code) :
    (o.writeAll cs).text = o.text ++ (empty.writeAll cs).text := by
  refine String.toList_inj.mp ?_
  rw [String.toList_append, toList_writeAll, toList_writeAll, h]
  rfl

/-- **A refused API leaves the output as it was**: its text and its depth. -/
theorem emit_of_error {o : Output} {api : Api} {label : String} {e : GenerationError}
    (h : render api label = .error e) : o.emit api label = (o, some e) := by
  rw [render, emit] at h
  rw [emit]
  cases hservices : api.services with
  | error e' =>
    rw [hservices] at h
    rw [← Except.error.inj h]
  | ok services =>
    rw [hservices] at h
    cases h

/-- **An API that is rendered is appended as its text**, and no block stays open. -/
theorem emit_of_ok {o : Output} (hdepth : o.depth = 0) {api : Api} {label text : String}
    (h : render api label = .ok text) :
    o.emit api label = (⟨o.text ++ text, 0⟩, none) := by
  rw [render, emit] at h
  rw [emit]
  cases hservices : api.services with
  | error e =>
    rw [hservices] at h
    cases h
  | ok services =>
    rw [hservices] at h
    rw [← Except.ok.inj h]
    refine Prod.ext ?_ rfl
    have hclosed := depth_writeAll o (moduleCode api.moduleName label services)
    rw [hdepth] at hclosed
    have hwritten := text_writeAll hdepth (moduleCode api.moduleName label services)
    dsimp only
    rw [← hwritten, ← hclosed]

/-- What an API is refused for does not depend on what was written before. -/
theorem emit_snd (o : Output) (api : Api) (label : String) :
    (o.emit api label).2 = refusal? (render api label) := by
  rw [render, emit, emit]
  cases api.services <;> rfl

/-- **What an API leaves open**: nothing but what was open before it. -/
theorem depth_emit (o : Output) (api : Api) (label : String) :
    (o.emit api label).1.depth = o.depth := by
  rw [emit]
  cases api.services with
  | error e => rfl
  | ok services => exact depth_writeAll o _

/-! ## All of them -/

theorem depth_emitAll (o : Output) (calls : List (Api × String)) :
    (o.emitAll calls).1.depth = o.depth := by
  induction calls generalizing o with
  | nil => rfl
  | cons call rest ih => rw [emitAll_cons, ih, depth_emit]

/-- **A row of APIs is appended as the texts of those that are rendered.** -/
theorem text_emitAll {o : Output} (hdepth : o.depth = 0) (calls : List (Api × String)) :
    ∃ texts : List String,
      ((calls.zip (o.emitAll calls).2).filter fun c => c.2.isNone).map
          (fun c => render c.1.1 c.1.2) = texts.map .ok
        ∧ (o.emitAll calls).1.text = o.text ++ String.join texts := by
  induction calls generalizing o with
  | nil => exact ⟨[], rfl, by rw [String.join_nil, String.append_empty]; rfl⟩
  | cons call rest ih =>
    rw [emitAll_cons]
    dsimp only
    rw [List.zip_cons_cons, List.filter_cons]
    cases hrender : render call.1 call.2 with
    | error e =>
      rw [emit_of_error hrender]
      exact ih hdepth
    | ok text =>
      rw [emit_of_ok hdepth hrender]
      obtain ⟨texts, hrendered, htext⟩ := ih (o := ⟨o.text ++ text, 0⟩) rfl
      refine ⟨text :: texts, ?_, ?_⟩
      · rw [Option.isNone_none, if_pos rfl, List.map_cons, List.map_cons, hrendered,
          hrender]
      · rw [htext, String.append_assoc, String.join_cons]

/-- Every API comes to something. -/
theorem length_emitAll (o : Output) (calls : List (Api × String)) :
    (o.emitAll calls).2.length = calls.length := by
  induction calls generalizing o with
  | nil => rfl
  | cons call rest ih => rw [emitAll_cons, List.length_cons, ih, List.length_cons]

/-- **APIs are appended whole or not at all.** After any row of them the text is that
of the ones that were not refused, each as it is rendered alone and in order. Before
and after each of them no block is open, and one that is refused, as it would be alone,
changes neither the text nor the depth; following its links again as the turn of each
handler comes would not change that. -/
theorem emitAll_empty (calls : List (Api × String)) :
    let out := empty.emitAll calls
    out.2.length = calls.length
    ∧ (∃ texts : List String,
        ((calls.zip out.2).filter fun c => c.2.isNone).map
            (fun c => render c.1.1 c.1.2) = texts.map .ok
          ∧ out.1.text = String.join texts)
    ∧ out.1.depth = 0
    ∧ ∀ before api label after, calls = before ++ (api, label) :: after →
        let o := (empty.emitAll before).1
        o.depth = 0
        ∧ out.1 = ((o.emit api label).1.emitAll after).1
        ∧ (o.emit api label).2 = refusal? (render api label)
        ∧ (∀ e, (o.emit api label).2 = some e → (o.emit api label).1 = o)
        ∧ o.emitByTurns api label = o.emit api label := by
  intro out
  obtain ⟨texts, hrendered, htext⟩ := text_emitAll (o := empty) rfl calls
  refine ⟨length_emitAll empty calls, ⟨texts, hrendered, ?_⟩, depth_emitAll empty calls, ?_⟩
  · rw [htext]
    exact String.empty_append
  · intro before api label after hcalls o
    refine ⟨depth_emitAll empty before, ?_, emit_snd o api label, fun e he => ?_,
      emitByTurns_eq o api label⟩
    · show (empty.emitAll calls).1 = _
      rw [hcalls, emitAll_append, emitAll_cons]
    · rw [emit_snd, refusal?_eq_some_iff] at he
      rw [emit_of_error he]

/-- Of three APIs the second has a handler without a link: it is refused, and what is
left is the text of the first and the third. -/
theorem emitAll_empty_of_missing_link :
    let handler : Handler := ⟨"S", "f", "p", "P", false, none, "P", ⟨"/f", false, ""⟩, none,
      ⟨"n.rs", 7, 5⟩⟩
    let first : Api := ⟨"m", [], []⟩
    let second : Api := ⟨"n", [handler], [⟨"P", [], true, ⟨"n.rs", 1, 8⟩⟩]⟩
    let calls := [(first, "m.rs"), (second, "n.rs"), (first, "o.rs")]
    let out := empty.emitAll calls
    out.2 = [none, some handler.unresolved, none]
    ∧ (empty.emitAll [(first, "m.rs"), (second, "n.rs")]).1
      = (empty.emitAll [(first, "m.rs")]).1
    ∧ ∃ m o, render first "m.rs" = .ok m ∧ render first "o.rs" = .ok o
      ∧ out.1.text = m ++ o := by
  intro handler first second calls out
  have hrefusals : out.2 = [none, some handler.unresolved, none] := rfl
  obtain ⟨-, ⟨texts, hrendered, htext⟩, -, hturns⟩ := emitAll_empty calls
  obtain ⟨-, -, -, hunchanged, -⟩ :=
    hturns [(first, "m.rs")] second "n.rs" [(first, "o.rs")] rfl
  refine ⟨hrefusals, hunchanged handler.unresolved rfl, ?_⟩
  have hboth : [render first "m.rs", render first "o.rs"] = texts.map .ok := hrendered
  obtain ⟨m, rest, rfl, hm, hrest⟩ := List.map_eq_cons_iff.mp hboth.symm
  obtain ⟨o, rest, rfl, ho, hrest⟩ := List.map_eq_cons_iff.mp hrest
  rw [List.map_eq_nil_iff.mp hrest, String.join_cons, String.join_cons, String.join_nil,
    String.append_empty] at htext
  exact ⟨m, o, hm.symm, ho.symm, htext⟩

end Output

end Switchboard.Dispatch
