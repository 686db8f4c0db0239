import Switchboard.Form
import Switchboard.Proofs.OrderedMap
import Switchboard.Proofs.Text.Pieces
import Switchboard.Proofs.Text.Utf8

/-!
# What a form keeps of a request

A form is filled pair by pair, and a pair changes the values of its own key alone. So a
form **collects** its pairs (`Form.Collects`): of each key it has the values in the
order they came, and of the keys each once. Nothing is said here of how pairs are
decoded; whatever they are, none is lost and none changes its place among those of its
key.

A request brings pairs from two places. Those of the query always count. Those of the
body count when the verb and the content type announce a form
(`Http.Request.CarriesForm`), and only then is the body looked at at all: it has to be
a text then, and may be anything else otherwise (`ofRequest_eq_error_iff`,
`ofRequest_body`). As they come first, the first value of a key is one of the body if
the body has any.
-/

namespace Switchboard

open Text

/-! ## Pairs -/

namespace Form

/-- **The values of a key** among pairs, in order. -/
def valuesIn (key : String) (pairs : List (String × String)) : List String :=
  (pairs.filter fun p => p.1 == key).map Prod.snd

theorem valuesIn_append (key : String) (ps qs : List (String × String)) :
    valuesIn key (ps ++ qs) = valuesIn key ps ++ valuesIn key qs := by
  rw [valuesIn, List.filter_append, List.map_append]
  rfl

/-- **A form that collects pairs**: it has what they have, in their order. -/
structure Collects (form : Form) (pairs : List (String × String)) : Prop where
  /-- All values of a key, in order. -/
  getAll : ∀ key, form.getAll key = valuesIn key pairs
  /-- The first of them counts. -/
  get? : ∀ key, form.get? key = (valuesIn key pairs).head?
  /-- A key is there when a pair has it. -/
  has : ∀ key, form.has key = true ↔ key ∈ pairs.map Prod.fst
  /-- Keys stand in the order of their first pairs. -/
  keys : form.values.keys = (pairs.map Prod.fst).eraseDups
  /-- Each key is counted once. -/
  size : form.size = (pairs.map Prod.fst).eraseDups.length

/-- A pair goes behind the values of its key and leaves those of the others. -/
theorem getAll_append (form : Form) (key value other : String) :
    (form.append key value).getAll other
      = form.getAll other ++ valuesIn other [(key, value)] := by
  by_cases h : key = other
  · subst h
    have hself : (form.append key value).values.get? key
        = some (form.getAll key ++ [value]) := OrderedMap.get?_upsert_self form.values key _
    rw [getAll, hself]
    simp [valuesIn]
  · have hother : (form.append key value).values.get? other = form.values.get? other :=
      OrderedMap.get?_upsert_of_ne (Ne.symm h) form.values _
    rw [getAll, hother]
    simp [valuesIn, getAll, h]

/-- **Pairs go behind the values that are there**, each behind those of its key. -/
theorem getAll_extend (form : Form) (pairs : List (String × String)) (key : String) :
    (form.extend pairs).getAll key = form.getAll key ++ valuesIn key pairs := by
  induction pairs generalizing form with
  | nil => simp [extend, valuesIn]
  | cons p pairs ih =>
    rw [extend, List.foldl_cons, ← extend, ih, getAll_append, List.append_assoc,
      ← valuesIn_append]
    rfl

theorem ofList_concat (pairs : List (String × String)) (p : String × String) :
    ofList (pairs ++ [p]) = (ofList pairs).append p.1 p.2 := by
  rw [ofList, extend, List.foldl_append]
  rfl

/-- **The keys of a form**, each once, by first appearance. -/
theorem keys_ofList (pairs : List (String × String)) :
    (ofList pairs).values.keys = (pairs.map Prod.fst).eraseDups := by
  -- a form grows at its end, so the last pair is taken off and not the first
  induction pairs using List.reverseRecOn with
  | nil => rfl
  | append_singleton pairs p ih =>
    have hkeys : ((ofList pairs).append p.1 p.2).values.keys
        = if p.1 ∈ (ofList pairs).values.keys then (ofList pairs).values.keys
          else (ofList pairs).values.keys ++ [p.1] := keys_upsertEntry p.1 _ _
    have hmem : p.1 ∈ (pairs.map Prod.fst).eraseDups ↔ p.1 ∈ pairs.map Prod.fst :=
      List.mem_eraseDups
    rw [ofList_concat, hkeys, ih, List.map_append, List.map_singleton,
      OrderedMap.eraseDups_concat]
    by_cases h : p.1 ∈ pairs.map Prod.fst
    · rw [if_pos (hmem.mpr h), if_pos h, List.append_nil]
    · rw [if_neg (mt hmem.mp h), if_neg h]

/-- **A form of pairs collects them.** -/
theorem collects_ofList (pairs : List (String × String)) : (ofList pairs).Collects pairs := by
  have hall (key : String) : (ofList pairs).getAll key = valuesIn key pairs :=
    getAll_extend empty pairs key
  have hkeys := keys_ofList pairs
  refine ⟨hall, fun key => ?_, fun key => ?_, hkeys, ?_⟩
  · rw [Form.get?, hall]
  · rw [Form.has, OrderedMap.contains_iff, hkeys, List.mem_eraseDups]
  · rw [← hkeys, OrderedMap.keys, List.length_map]
    rfl

end Form

/-! ## Requests -/

/-- **A request that carries a form in its body**: its verb is one of those that send
one, and its first content type is plain text and names, before any parameters, that of
a form in whatever case. -/
structure Http.Request.CarriesForm (r : Http.Request) : Prop where
  /-- The verb is one of three. -/
  verb : r.verb = "POST" ∨ r.verb = "PUT" ∨ r.verb = "PATCH"
  /-- The content type is that of a form. -/
  type : ∃ value, r.header? "content-type" = some value
    ∧ (∀ b ∈ value, isPlainByte b = true)
    ∧ (trim ((value.map fun b => Char.ofNat b.toNat).takeWhile (· != ';'))).map Char.toLower
        = Form.contentType.toList

namespace Form

theorem isFormType_iff {value : String} :
    isFormType value = true
      ↔ (trim (value.toList.takeWhile (· != ';'))).map Char.toLower = contentType.toList := by
  have hlower : ∀ s : String, s.toLower.toList = s.toList.map Char.toLower :=
    fun _ => String.toList_map
  rw [isFormType, headD_pieces, beq_iff_eq, ← String.toList_inj, hlower, String.toList_ofList]

theorem inBody_iff {r : Http.Request} : inBody r = true ↔ r.CarriesForm := by
  have htype : ((r.headerText? "content-type").any isFormType) = true
      ↔ ∃ value, r.header? "content-type" = some value
        ∧ (∀ b ∈ value, Http.isPlainByte b = true)
        ∧ (trim ((value.map fun b => Char.ofNat b.toNat).takeWhile (· != ';'))).map
            Char.toLower = contentType.toList := by
    rw [Http.Request.headerText?]
    cases r.header? "content-type" with
    | none => simp
    | some value =>
      rw [Option.bind_some, Http.plainText?]
      by_cases hplain : value.all Http.isPlainByte = true
      · rw [if_pos hplain, Option.any_some, isFormType_iff, String.toList_ofList]
        exact ⟨fun h => ⟨value, rfl, List.all_eq_true.mp hplain, h⟩,
          fun ⟨_, hvalue, _, h⟩ => Option.some.inj hvalue ▸ h⟩
      · rw [if_neg hplain]
        exact iff_of_false Bool.false_ne_true fun ⟨_, hvalue, h, _⟩ =>
          hplain (Option.some.inj hvalue ▸ List.all_eq_true.mpr h)
  have hverb : ["POST", "PUT", "PATCH"].contains r.verb = true
      ↔ r.verb = "POST" ∨ r.verb = "PUT" ∨ r.verb = "PATCH" := by
    simp
  rw [inBody, Bool.and_eq_true, hverb, htype]
  exact ⟨fun h => ⟨h.1, h.2⟩, fun h => ⟨h.verb, h.type⟩⟩

/-! ## What a request comes to -/

theorem extend_append (form : Form) (ps qs : List (String × String)) :
    form.extend (ps ++ qs) = (form.extend ps).extend qs :=
  List.foldl_append

/-- A request without a form in its body has the form of its query. -/
theorem ofRequest_of_not_inBody {r : Http.Request} (h : inBody r = false) :
    ofRequest r = .ok (ofList (queryPairs r)) := by
  rw [ofRequest, h]
  rfl

/-- A request with a form in its body has the form of both, if the body is a text. -/
theorem ofRequest_of_inBody {r : Http.Request} (h : inBody r = true) :
    ofRequest r = (decodeUtf8 0 r.body).map fun _ =>
      ofList (decodePairs r.body ++ queryPairs r) := by
  rw [ofRequest, if_pos h, ofList, extend_append]
  cases decodeUtf8 0 r.body <;> rfl

theorem exists_decodeUtf8_iff {bytes : List UInt8} :
    (∃ cs, decodeUtf8 0 bytes = .ok cs) ↔ ∃ text, utf8 text = bytes := by
  constructor
  · rintro ⟨cs, h⟩
    exact ⟨_, (decodeUtf8_eq_ok_iff.mp h).symm⟩
  · rintro ⟨text, rfl⟩
    exact ⟨text.toList, decodeUtf8_eq_ok_iff.mpr (by rw [String.ofList_toList])⟩

/-- **A request is refused for its form** when it carries one that is no text. -/
theorem ofRequest_eq_error_iff {r : Http.Request} :
    (∃ fault, ofRequest r = .error fault)
      ↔ r.CarriesForm ∧ ¬∃ text, utf8 text = r.body := by
  rw [← inBody_iff, ← exists_decodeUtf8_iff]
  cases h : inBody r with
  | false =>
    rw [ofRequest_of_not_inBody h]
    exact iff_of_false (fun ⟨_, hfault⟩ => nomatch hfault) fun h => Bool.false_ne_true h.1
  | true =>
    rw [ofRequest_of_inBody h]
    cases decodeUtf8 0 r.body with
    | error fault =>
      exact iff_of_true ⟨fault, rfl⟩ ⟨rfl, fun ⟨_, hok⟩ => nomatch hok⟩
    | ok cs =>
      exact iff_of_false (fun ⟨_, hfault⟩ => nomatch hfault) fun h => h.2 ⟨cs, rfl⟩

/-- A body that does not count may be any. -/
theorem ofRequest_body {r : Http.Request} (h : ¬r.CarriesForm) (body : List UInt8) :
    ofRequest { r with body := body } = ofRequest r := by
  have hnot : inBody r = false := Bool.eq_false_iff.mpr (mt inBody_iff.mp h)
  have hother : inBody { r with body := body } = false := hnot
  rw [ofRequest_of_not_inBody hnot, ofRequest_of_not_inBody hother]
  rfl

/-- **The form of a request has all of its pairs**, those of the body before those of
the query. A request is refused exactly when it carries a form in its body and the body
is no text. Any other has a form: it collects the pairs of the body and then those of
the query when the request carries a form, and else those of the query, whatever the
body is. So a key with a value in such a body has the first one there as its value, also
when the query has others. -/
theorem collects_of_request :
    (∀ r : Http.Request, (∃ fault, ofRequest r = .error fault)
      ↔ r.CarriesForm ∧ ¬∃ text, utf8 text = r.body)
    ∧ (∀ r : Http.Request, r.CarriesForm → (∃ text, utf8 text = r.body) →
      ∃ form, ofRequest r = .ok form
        ∧ form.Collects (decodePairs r.body ++ queryPairs r)
        ∧ ∀ key value, (valuesIn key (decodePairs r.body)).head? = some value →
          form.get? key = some value)
    ∧ (∀ r : Http.Request, ¬r.CarriesForm →
      (∃ form, ofRequest r = .ok form ∧ form.Collects (queryPairs r))
      ∧ ∀ body, ofRequest { r with body := body } = ofRequest r) := by
  refine ⟨fun _ => ofRequest_eq_error_iff, fun r hcarries htext => ?_,
    fun r hnot => ⟨⟨_, ?_, collects_ofList _⟩, ofRequest_body hnot⟩⟩
  · obtain ⟨cs, hcs⟩ := exists_decodeUtf8_iff.mpr htext
    have hcollects := collects_ofList (decodePairs r.body ++ queryPairs r)
    refine ⟨_, ?_, hcollects, fun key value hvalue => ?_⟩
    · rw [ofRequest_of_inBody (inBody_iff.mpr hcarries), hcs]
      rfl
    · rw [hcollects.get?, valuesIn_append, List.head?_append, hvalue, Option.some_or]
  · exact ofRequest_of_not_inBody (Bool.eq_false_iff.mpr (mt inBody_iff.mp hnot))

/-- A form in the body of a patch, its content type in capitals and with a parameter,
comes before the query; of a request that only looks things up the body does not count;
and a form that is no text is refused. -/
theorem collects_of_request_of_patch :
    let headers : List Http.Header :=
      [⟨"content-type", utf8 " Application/X-WWW-Form-Urlencoded ; charset=utf-8"⟩]
    let uri : Http.Uri := ⟨"/a", some "b=4&a=5&c="⟩
    let patch : Http.Request := ⟨"PATCH", uri, headers, utf8 "a=1&b=2&a=3"⟩
    let get : Http.Request := ⟨"GET", uri, headers, [0xff]⟩
    let broken : Http.Request := ⟨"PATCH", uri, headers, [0x61, 0xff]⟩
    (∃ form, ofRequest patch = .ok form
      ∧ form.getAll "a" = ["1", "3", "5"] ∧ form.get? "b" = some "2"
      ∧ form.has "c" = true ∧ form.values.keys = ["a", "b", "c"] ∧ form.size = 3)
    ∧ (∃ form, ofRequest get = .ok form ∧ form.getAll "a" = ["5"])
    ∧ ofRequest { get with body := utf8 "a=1" } = ofRequest get
    ∧ ∃ fault, ofRequest broken = .error fault := by
  intro headers uri patch get broken
  obtain ⟨hrefused, hboth, hquery⟩ := collects_of_request
  have hpatch : patch.CarriesForm := inBody_iff.mp (by decide +kernel)
  have hget : ¬get.CarriesForm := mt inBody_iff.mpr (by decide +kernel)
  have hbroken : ¬∃ text, utf8 text = broken.body := by
    have hnone : (decodeUtf8 0 broken.body).toOption = none := by decide +kernel
    rw [← exists_decodeUtf8_iff]
    rintro ⟨cs, hcs⟩
    rw [hcs] at hnone
    exact nomatch hnone
  have hpairs : decodePairs patch.body ++ queryPairs patch
      = [("a", "1"), ("b", "2"), ("a", "3"), ("b", "4"), ("a", "5"), ("c", "")] := by
    decide +kernel
  have hqueryPairs : queryPairs get = [("b", "4"), ("a", "5"), ("c", "")] := by
    decide +kernel
  obtain ⟨form, hform, hcollects, -⟩ := hboth patch hpatch ⟨"a=1&b=2&a=3", rfl⟩
  obtain ⟨⟨looked, hlooked, hlookedUp⟩, hbody⟩ := hquery get hget
  rw [hpairs] at hcollects
  rw [hqueryPairs] at hlookedUp
  refine ⟨⟨form, hform, hcollects.getAll "a", hcollects.get? "b",
      (hcollects.has "c").mpr (by decide), hcollects.keys.trans (by decide +kernel),
      hcollects.size.trans (by decide +kernel)⟩,
    ⟨looked, hlooked, hlookedUp.getAll "a"⟩, hbody _, (hrefused broken).mpr ⟨?_, hbroken⟩⟩
  exact inBody_iff.mp (by decide +kernel)

end Form

end Switchboard
