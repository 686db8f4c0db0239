import Switchboard.Proofs.Form
import Switchboard.Proofs.Success
import Switchboard.Routing

/-!
# What of a form counts

A form can hold any keys, any number of values for each, and these in any order.
Decoding goes through the fields of a record and never through the form, and of a
form it asks for the first value of a form key and for nothing else. So forms that
**agree** on the fields (`Form.AgreesOn`) are the same form to it: decoding,
validation and taking out come to the same, be that values or a refusal with all its
words (`inputsOfForm_eq`).

The rest is a matter of what else a request has. A service looks at the path, the
verb and the token before the form, and a handler may look at the headers after it.
Requests that are alike in all of this and agree in their forms are answered alike
and leave the same state (`serve_eq`).
-/

namespace Switchboard

/-! ## Forms -/

/-- **Forms that agree on fields**: they have the same value, or none, for the form
key of each of them. -/
def Form.AgreesOn (fields : List Field) (a b : Form) : Prop :=
  ∀ f ∈ fields, a.get? f.externalKey = b.get? f.externalKey

/-- A pair with another key does not change the value of a key. -/
theorem Form.get?_append_of_ne {key other : String} (h : other ≠ key) (form : Form)
    (value : String) : (form.append key value).get? other = form.get? other := by
  have hnone : valuesIn other [(key, value)] = [] := by
    simp [valuesIn, Ne.symm h]
  rw [get?, get?, getAll_append, hnone, List.append_nil]

/-- A further value does not change the first one. -/
theorem Form.get?_append_of_isSome {form : Form} {key : String}
    (h : (form.get? key).isSome = true) (value : String) :
    (form.append key value).get? key = form.get? key := by
  rw [get?, List.isSome_head?] at h
  have hne : form.getAll key ≠ [] := by simpa using h
  rw [get?, get?, getAll_append, List.head?_append_of_ne_nil _ hne]

/-- **What no field asks for makes no difference**: a pair under a key of no field, or
one that comes after another value of its key. -/
theorem Form.agreesOn_append {fields : List Field} {form : Form} {key : String}
    (h : (∀ f ∈ fields, f.externalKey ≠ key) ∨ (form.get? key).isSome = true)
    (value : String) : form.AgreesOn fields (form.append key value) := by
  intro f hf
  by_cases hkey : f.externalKey = key
  · rcases h with hnone | hsome
    · exact absurd hkey (hnone f hf)
    · rw [hkey, get?_append_of_isSome hsome]
  · rw [get?_append_of_ne hkey]

/-! ## Decoding -/

section Decoding

variable {fields : List Field} {a b : Form}

/-- A field is decoded from the value of its form key. -/
theorem InputField.read_eq {i : InputField} (h : a.get? i.key = b.get? i.key) :
    i.read a = i.read b := by
  have hraw : i.raw? a = i.raw? b := by rw [raw?, raw?, h]
  rw [read, read, hraw]

theorem InputMap.foldlM_add_eq {is : List InputField}
    (h : ∀ i ∈ is, a.get? i.key = b.get? i.key) (inputs : InputMap) :
    is.foldlM (InputMap.add a) inputs = is.foldlM (InputMap.add b) inputs := by
  induction is generalizing inputs with
  | nil => rfl
  | cons i rest ih =>
    have hfirst : inputs.add a i = inputs.add b i := by
      rw [InputMap.add, InputMap.add, InputField.read_eq (h i List.mem_cons_self)]
    rw [List.foldlM_cons, List.foldlM_cons, hfirst]
    exact bind_congr (ih fun j hj => h j (List.mem_cons_of_mem i hj))

/-- **Forms that agree on fields are decoded to the same inputs**, or refused alike. -/
theorem inputsOfForm_eq (h : a.AgreesOn fields b) :
    inputsOfForm fields a = inputsOfForm fields b := by
  have hkeys : ∀ i ∈ fields.map Field.input, a.get? i.key = b.get? i.key :=
    List.forall_mem_map.mpr h
  have hdecoded : InputMap.ofForm (fields.map Field.input) a
      = InputMap.ofForm (fields.map Field.input) b :=
    InputMap.foldlM_add_eq hkeys .empty
  rw [inputsOfForm, inputsOfForm, hdecoded]

/-- Requests whose forms agree have the same inputs. -/
theorem inputsOfRequest_eq {r q : Http.Request} (hr : Form.ofRequest r = .ok a)
    (hq : Form.ofRequest q = .ok b) (h : a.AgreesOn fields b) :
    inputsOfRequest fields r = inputsOfRequest fields q := by
  rw [inputsOfRequest, inputsOfRequest, hr, hq]
  exact inputsOfForm_eq h

end Decoding

/-! ## Serving -/

section Serving

variable {σ : Type} {r q : Http.Request} {s : σ}

/-- A handler that does not look at the form again does the same on the same
inputs. -/
theorem handler_eq {fields : List Field} {work : σ → Http.Request → InputMap → Result σ}
    (hinputs : inputsOfRequest fields r = inputsOfRequest fields q)
    (hwork : ∀ inputs, work s r inputs = work s q inputs) :
    handler fields work s r = handler fields work s q := by
  rw [handler, handler, hinputs]
  cases inputsOfRequest fields q with
  | error e => rfl
  | ok inputs =>
    dsimp only
    rw [hwork]

/-- What stands before a handler looks at the verb and the headers. -/
theorem Route.serve_eq {route : Route σ} (hverb : r.verb = q.verb)
    (hheaders : r.headers = q.headers) (hhandle : route.handle s r = route.handle s q) :
    route.serve s r = route.serve s q := by
  have htoken : authorized r = authorized q := by
    rw [authorized, authorized, Http.Request.header?, Http.Request.header?, hheaders]
  rw [serve, serve, hverb, htoken, hhandle]

/-- **Requests that are alike but for their forms are answered alike** when the route
on their path handles them alike. -/
theorem serve_eq {routes : List (Route σ)} (hpath : r.uri.path = q.uri.path)
    (hverb : r.verb = q.verb) (hheaders : r.headers = q.headers)
    (hhandle : ∀ route ∈ routes, route.directive.url = r.uri.path →
      route.handle s r = route.handle s q) :
    serve routes s r = serve routes s q := by
  rw [serve, serve, ← hpath]
  cases hfind : routes.find? fun route => route.directive.url == r.uri.path with
  | none => rfl
  | some route =>
    have hurl : route.directive.url = r.uri.path := by
      simpa using List.find?_some hfind
    exact Route.serve_eq hverb hheaders
      (hhandle route (List.mem_of_find?_eq_some hfind) hurl)

end Serving

end Switchboard
