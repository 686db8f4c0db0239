import Switchboard.Intake
import Switchboard.Proofs.Json.Reader
import Switchboard.Proofs.Success

/-!
# What a reply says

A reply says the same thing three times: by its status, by its `error` member,
which is empty, and by its `response` member, which is there (`IsConsistent`). A
failure never has an empty message, since friendlier words are not empty and
neither is what they stand for (`friendly_ne_empty`).

The body is written once and read back whole (`read_success`, `read_failure`), so
no value and no message can be mistaken for another part of it. Nor is this a matter of the
reader: by the grammar alone, a body encodes the one object that it was written for
(`encodes_success_iff`, `encodes_failure_iff`), and so bodies differ as soon as what they say
does.
-/

namespace Switchboard

/-- **A reply that does not contradict itself.** -/
structure Reply.IsConsistent (reply : Reply) : Prop where
  /-- The body is JSON. -/
  contentType : reply.contentType = "application/json"
  /-- The body is one object, and its error is empty and its response there
  exactly when the status says so. -/
  body : ∃ members, Json.read reply.body = .ok (.object members)
    ∧ (reply.status = 200 ↔ members.lookup "error" = some (.string ""))
    ∧ (reply.status = 200 ↔ (members.lookup "response").isSome = true)

/-- An envelope is exact as soon as its value is. -/
theorem Json.isExact_envelope {v : Json} (h : v.IsExact) :
    (Json.object [("error", .string ""), ("response", v)]).IsExact :=
  ⟨by simp, trivial, h, trivial⟩

/-- An envelope with an error alone is exact. -/
theorem Json.isExact_error (words : String) :
    (Json.object [("error", .string words)]).IsExact :=
  ⟨by simp, trivial, trivial⟩

/-- **The body of a success is read back** as it was put together. -/
theorem Reply.read_success {v : Json} (h : v.IsExact) :
    Json.read (Reply.success v).body
      = .ok (.object [("error", .string ""), ("response", v)]) :=
  Json.read_compact (Json.isExact_envelope h)

/-- **The body of a failure is read back**, whatever its message. -/
theorem Reply.read_failure (status : Nat) (message : String) :
    Json.read (Reply.failure status message).body
      = .ok (.object [("error", .string (friendly message))]) :=
  Json.read_compact (Json.isExact_error _)

/-- **The body of a success encodes one object**: an empty error and the value. -/
theorem Reply.encodes_success_iff {v w : Json} (h : v.IsExact) :
    Json.Encodes (Reply.success v).body w ↔ w = .object [("error", .string ""), ("response", v)] :=
  Json.encodes_compact_iff (Json.isExact_envelope h)

/-- **The body of a failure encodes one object**: the message in friendlier words. -/
theorem Reply.encodes_failure_iff (status : Nat) (message : String) {w : Json} :
    Json.Encodes (Reply.failure status message).body w
      ↔ w = .object [("error", .string (friendly message))] :=
  Json.encodes_compact_iff (Json.isExact_error _)

/-- Values with the same body are the same. -/
theorem Reply.body_success_inj {v w : Json} (hv : v.IsExact) (hw : w.IsExact) :
    (Reply.success v).body = (Reply.success w).body ↔ v = w := by
  constructor
  · intro hbody
    have hread := Reply.read_success hv
    rw [hbody, Reply.read_success hw] at hread
    simpa using hread.symm
  · rintro rfl
    rfl

/-- Messages with the same body are put into the same words. -/
theorem Reply.body_failure_inj {status status' : Nat} {message message' : String} :
    (Reply.failure status message).body = (Reply.failure status' message').body
      ↔ friendly message = friendly message' := by
  constructor
  · intro hbody
    have hread := Reply.read_failure status message
    rw [hbody, Reply.read_failure] at hread
    simpa using hread.symm
  · intro hwords
    rw [Reply.failure, Reply.failure, hwords]
    rfl

/-- A failure is told from a success by its body. -/
theorem Reply.body_failure_ne_success {status : Nat} {message : String} {v : Json}
    (h : v.IsExact) : (Reply.failure status message).body ≠ (Reply.success v).body := by
  intro hbody
  have hread := Reply.read_failure status message
  rw [hbody, Reply.read_success h] at hread
  simp at hread

/-- **Bodies are not broken by what they say.** Whatever the status and the message, the body
of a failure is JSON that encodes one object, with the message in its words as the only member,
and is read as this. Whatever the value, as long as its text tells it apart from all others, the
body of a success encodes the empty error and the value, with what it contains in order, and is
read as this. So two messages that have no friendlier words, and two values, have the same body
only if they are the same, and no failure has the body of a success. -/
theorem bodies_of_replies :
    (∀ status message,
      let reply := Reply.failure status message
      let said := Json.object [("error", .string (friendly message))]
      reply.status = status ∧ reply.contentType = "application/json"
        ∧ (∀ w, Json.Encodes reply.body w ↔ w = said) ∧ Json.read reply.body = .ok said)
    ∧ (∀ v : Json, v.IsExact →
      let reply := Reply.ofValue (.ok v)
      let said := Json.object [("error", .string ""), ("response", v)]
      reply.status = 200 ∧ reply.contentType = "application/json"
        ∧ (∀ w, Json.Encodes reply.body w ↔ w = said) ∧ Json.read reply.body = .ok said)
    ∧ (∀ status status' message message',
      friendlyWords.lookup message = none → friendlyWords.lookup message' = none →
      message ≠ message' →
        (Reply.failure status message).body ≠ (Reply.failure status' message').body)
    ∧ (∀ v w : Json, v.IsExact → w.IsExact → v ≠ w →
      (Reply.ofValue (.ok v)).body ≠ (Reply.ofValue (.ok w)).body)
    ∧ (∀ (status : Nat) (message : String) (v : Json), v.IsExact →
      (Reply.failure status message).body ≠ (Reply.ofValue (.ok v)).body) := by
  refine ⟨?failure, ?success, ?messages, ?values, ?either⟩
  case failure =>
    intro status message
    exact ⟨rfl, rfl, fun _ => Reply.encodes_failure_iff status message,
      Reply.read_failure status message⟩
  case success =>
    intro v hv
    exact ⟨rfl, rfl, fun _ => Reply.encodes_success_iff hv, Reply.read_success hv⟩
  case messages =>
    intro status status' message message' h h' hne
    rw [Ne, Reply.body_failure_inj, friendly, friendly, h, h']
    exact hne
  case values =>
    intro v w hv hw hne hbody
    exact hne ((Reply.body_success_inj hv hw).mp hbody)
  case either =>
    intro status message v hv
    exact Reply.body_failure_ne_success hv

/-- A message that would close its string and go on with a response stays a message; and a
value with its members in the other order has another body. -/
theorem bodies_of_replies_with_quotes :
    let message := "\",\"response\":\"\\\n\x01"
    let b : String × Json := ("b", .array [.int (-9223372036854775808), .string "\"\x1f"])
    let a : String × Json := ("a", .object [])
    (∀ w, Json.Encodes (Reply.failure 400 message).body w
        ↔ w = .object [("error", .string message)])
      ∧ (∀ w, Json.Encodes (Reply.ofValue (.ok (.object [b, a]))).body w
        ↔ w = .object [("error", .string ""), ("response", .object [b, a])])
      ∧ (Reply.failure 400 message).body ≠ (Reply.failure 400 "").body
      ∧ (Reply.ofValue (.ok (.object [b, a]))).body ≠ (Reply.ofValue (.ok (.object [a, b]))).body
      ∧ (Reply.failure 400 message).body ≠ (Reply.ofValue (.ok (.object [b, a]))).body := by
  intro message b a
  have hb : b.2.IsExact := ⟨⟨by decide, by decide⟩, trivial, trivial⟩
  have ha : a.2.IsExact := ⟨by decide, trivial⟩
  have hba : (Json.object [b, a]).IsExact := ⟨by decide, hb, ha, trivial⟩
  have hab : (Json.object [a, b]).IsExact := ⟨by decide, ha, hb, trivial⟩
  have hnames : b.1 ≠ a.1 := by decide
  have horder : Json.object [b, a] ≠ .object [a, b] := fun h =>
    hnames (congrArg Prod.fst (List.cons.inj (Json.object.inj h)).1)
  obtain ⟨hfailure, hsuccess, hmessages, hvalues, heither⟩ := bodies_of_replies
  exact ⟨(hfailure 400 message).2.2.1, (hsuccess _ hba).2.2.1,
    hmessages 400 400 message "" (by decide) (by decide) (by decide),
    hvalues _ _ hba hab horder, heither 400 message _ hba⟩

/-- No message is put into empty words. -/
theorem friendly_ne_empty {message : String} (h : message ≠ "") :
    friendly message ≠ "" := by
  have hwords : ∀ e ∈ friendlyWords, e.2 ≠ "" := by decide
  rw [friendly]
  cases hlookup : friendlyWords.lookup message with
  | none => exact h
  | some words =>
    obtain ⟨before, after, hsplit, _⟩ := List.lookup_eq_some_iff.mp hlookup
    exact hwords (message, words) (by rw [hsplit]; simp)

theorem Reply.isConsistent_success {v : Json} (h : v.IsExact) :
    (Reply.success v).IsConsistent where
  contentType := rfl
  body := ⟨_, Reply.read_success h, iff_of_true rfl rfl, iff_of_true rfl rfl⟩

theorem Reply.isConsistent_failure {status : Nat} {message : String}
    (hstatus : status ≠ 200) (hmessage : message ≠ "") :
    (Reply.failure status message).IsConsistent where
  contentType := rfl
  body := by
    refine ⟨_, Reply.read_failure status message, iff_of_false hstatus ?_,
      iff_of_false hstatus (fun h => nomatch h)⟩
    intro h
    exact friendly_ne_empty hmessage (by simpa using h)

/-! ## Refusals before a handler -/

/-- Errors that there are have a message. -/
theorem errorsMessage_ne_empty {errors : List FieldError} (h : errors ≠ []) :
    errorsMessage errors ≠ "" := by
  obtain ⟨e, rest, rfl⟩ := List.exists_cons_of_ne_nil h
  have hfirst : e.message ≠ "" := by simp [FieldError.message]
  rw [errorsMessage, Text.join, List.map_cons]
  cases rest with
  | nil =>
    rw [List.map_nil, String.intercalate_singleton]
    exact hfirst
  | cons f rest =>
    rw [List.map_cons, String.intercalate_cons_cons]
    simp

/-- **A refusal has a message**, at whichever stage it was refused. -/
theorem message_ne_empty_of_inputsOfRequest {fields : List Field} {r : Http.Request}
    {e : IntakeError} (h : inputsOfRequest fields r = .error e) : e.message ≠ "" := by
  rw [inputsOfRequest] at h
  cases hform : Form.ofRequest r with
  | error fault =>
    rw [hform] at h
    replace h : Except.error (IntakeError.badBody fault) = .error e := h
    rw [← Except.error.inj h]
    show "invalid form body: " ++ fault.message ≠ ""
    rw [Ne, String.append_eq_empty_iff]
    exact fun h => absurd h.1 (by decide)
  | ok form =>
    rw [hform] at h
    replace h : inputsOfForm fields form = .error e := h
    rw [inputsOfForm] at h
    cases hinputs : InputMap.ofForm (fields.map Field.input) form with
    | error fault =>
      rw [hinputs] at h
      replace h : Except.error (IntakeError.badInput fault) = .error e := h
      rw [← Except.error.inj h]
      simp [IntakeError.message, InputError.message]
    | ok inputs =>
      rw [hinputs] at h
      dsimp only [Bind.bind, Except.bind, Except.mapError] at h
      split at h
      · cases h
      · next errors hne =>
        rw [← Except.error.inj h]
        exact errorsMessage_ne_empty hne

/-- A refusal is answered consistently. -/
theorem isConsistent_of_inputsOfRequest {fields : List Field} {r : Http.Request}
    {e : IntakeError} (h : inputsOfRequest fields r = .error e) :
    e.reply.IsConsistent :=
  Reply.isConsistent_failure (by decide) (message_ne_empty_of_inputsOfRequest h)

end Switchboard
