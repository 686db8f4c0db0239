import Switchboard.Proofs.Api.Build

/-!
# What linking leaves behind

Linking goes through the handlers in order and gives each the least position of a
record of the name it takes. It stops at the first handler whose record does not
exist, and what it did until then stays done: the handlers before that one are linked,
that one and those behind it keep the links they had (`linkHandlers_cases`).

What a link was before does not count, so linking is by name alone, and linking what
linking left comes to the same again (`link_by_name`).
-/

namespace Switchboard

variable {records : List Record}

/-! ## Records by name -/

/-- **Some record has a name.** -/
def Declares (records : List Record) (name : String) : Prop :=
  ∃ r ∈ records, r.name = name

/-- **The least position of a record of a name.** -/
structure IsFirstOf (records : List Record) (name : String) (i : Nat) : Prop where
  /-- A record of the name stands there. -/
  named : ∃ r, records[i]? = some r ∧ r.name = name
  /-- No record before it has the name. -/
  least : ∀ j r, j < i → records[j]? = some r → r.name ≠ name

theorem recordIndex?_eq_some_iff {name : String} {i : Nat} :
    recordIndex? records name = some i ↔ IsFirstOf records name i := by
  rw [recordIndex?, List.findIdx?_eq_some_iff_getElem]
  constructor
  · rintro ⟨hi, hname, hleast⟩
    refine ⟨⟨records[i], List.getElem?_eq_getElem hi, beq_iff_eq.mp hname⟩, ?_⟩
    intro j r hj hr
    obtain ⟨_, rfl⟩ := List.getElem?_eq_some_iff.mp hr
    simpa using hleast j hj
  · rintro ⟨⟨r, hr, hname⟩, hleast⟩
    obtain ⟨hi, rfl⟩ := List.getElem?_eq_some_iff.mp hr
    refine ⟨hi, beq_iff_eq.mpr hname, fun j hj => ?_⟩
    simpa using hleast j _ hj (List.getElem?_eq_getElem (Nat.lt_trans hj hi))

/-! ## One handler -/

/-- **A handler and what linking makes of it**: its link is the least position of a
record of the name it takes, and otherwise it is as it was. -/
def Handler.IsLinked (records : List Record) (h l : Handler) : Prop :=
  ∃ i, IsFirstOf records h.record i ∧ l = { h with link := some i }

theorem Handler.linkedIn?_eq_some_iff {h l : Handler} :
    h.linkedIn? records = some l ↔ h.IsLinked records l := by
  unfold linkedIn? IsLinked
  rw [Option.map_eq_some_iff]
  exact exists_congr fun i => and_congr recordIndex?_eq_some_iff eq_comm

theorem Handler.linkedIn?_eq_none_iff {h : Handler} :
    h.linkedIn? records = none ↔ ¬Declares records h.record := by
  unfold Declares
  rw [← exists_linkedIn?_iff, ← Option.ne_none_iff_exists', not_not]

/-- A handler that is linked has a record. -/
theorem Handler.IsLinked.declares {h l : Handler} (hl : h.IsLinked records l) :
    Declares records h.record :=
  exists_linkedIn?_iff.mp ⟨l, linkedIn?_eq_some_iff.mpr hl⟩

/-- What linking made of a handler, linking leaves as it is. -/
theorem Handler.IsLinked.again {h l : Handler} (hl : h.IsLinked records l) :
    l.IsLinked records l := by
  obtain ⟨i, hi, rfl⟩ := hl
  exact ⟨i, hi, rfl⟩

/-! ## Handlers in order -/

/-- **Handlers that have their records are passed**, and linking goes on behind
them. -/
theorem linkHandlers_append {before linked : List Handler}
    (h : List.Forall₂ (Handler.IsLinked records) before linked) (after : List Handler) :
    linkHandlers records (before ++ after)
      = (linked ++ (linkHandlers records after).1, (linkHandlers records after).2) := by
  induction h with
  | nil => rfl
  | cons hl _ ih =>
    rw [List.cons_append, linkHandlers, Handler.linkedIn?_eq_some_iff.mpr hl, ih]
    rfl

/-- **A handler without a record ends linking**, and nothing from it on changes. -/
theorem linkHandlers_of_missing {h : Handler} (hmissing : ¬Declares records h.record)
    (after : List Handler) :
    linkHandlers records (h :: after) = (h :: after, some h.unresolved) := by
  rw [linkHandlers, Handler.linkedIn?_eq_none_iff.mpr hmissing]

/-- **All that linking can come to**: every handler is linked, or those before the
first one without a record. -/
theorem linkHandlers_cases (records : List Record) (hs : List Handler) :
    (∃ linked, List.Forall₂ (Handler.IsLinked records) hs linked
      ∧ linkHandlers records hs = (linked, none))
    ∨ ∃ before h after linked, hs = before ++ h :: after
      ∧ List.Forall₂ (Handler.IsLinked records) before linked
      ∧ ¬Declares records h.record
      ∧ linkHandlers records hs = (linked ++ h :: after, some h.unresolved) := by
  induction hs with
  | nil => exact .inl ⟨[], .nil, rfl⟩
  | cons h rest ih =>
    cases hl : h.linkedIn? records with
    | none =>
      rw [Handler.linkedIn?_eq_none_iff] at hl
      exact .inr ⟨[], h, rest, [], rfl, .nil, hl, linkHandlers_of_missing hl rest⟩
    | some l =>
      rw [Handler.linkedIn?_eq_some_iff] at hl
      have hstep := linkHandlers_append (.cons hl .nil) rest
      rcases ih with ⟨linked, hlinked, hrest⟩
        | ⟨before, g, after, linked, rfl, hlinked, hmissing, hrest⟩
      · exact .inl ⟨l :: linked, .cons hl hlinked, by rw [hrest] at hstep; exact hstep⟩
      · exact .inr ⟨h :: before, g, after, l :: linked, rfl, .cons hl hlinked, hmissing,
          by rw [hrest] at hstep; exact hstep⟩

/-- Handlers that are linked all have their records. -/
theorem declares_of_forall₂ {hs linked : List Handler}
    (h : List.Forall₂ (Handler.IsLinked records) hs linked) :
    ∀ g ∈ hs, Declares records g.record := by
  intro g hg
  obtain ⟨l, -, hl⟩ := exists_of_mem_forall₂ h hg
  exact hl.declares

/-- **Linking what linking left** comes to the same again. -/
theorem linkHandlers_linkHandlers (records : List Record) (hs : List Handler) :
    linkHandlers records (linkHandlers records hs).1 = linkHandlers records hs := by
  have hagain {before linked : List Handler}
      (h : List.Forall₂ (Handler.IsLinked records) before linked) :
      List.Forall₂ (Handler.IsLinked records) linked linked :=
    List.forall₂_same.mpr fun l hl => by
      obtain ⟨g, -, hg⟩ := exists_of_mem_forall₂ h.flip hl
      exact Handler.IsLinked.again hg
  rcases linkHandlers_cases records hs with ⟨linked, hlinked, hall⟩
    | ⟨before, h, after, linked, -, hlinked, hmissing, hstop⟩
  · have h := linkHandlers_append (hagain hlinked) []
    rw [List.append_nil] at h
    rw [hall, h]
    simp [linkHandlers]
  · rw [hstop, linkHandlers_append (hagain hlinked), linkHandlers_of_missing hmissing]

/-! ## APIs -/

theorem Api.link_eq (api : Api) :
    api.link = ({ api with handlers := (linkHandlers api.records api.handlers).1 },
      (linkHandlers api.records api.handlers).2) := rfl

/-- **All that linking an API can come to.** -/
theorem Api.link_cases (api : Api) :
    (∃ linked, List.Forall₂ (Handler.IsLinked api.records) api.handlers linked
      ∧ api.link = ({ api with handlers := linked }, none))
    ∨ ∃ before h after linked, api.handlers = before ++ h :: after
      ∧ List.Forall₂ (Handler.IsLinked api.records) before linked
      ∧ ¬Declares api.records h.record
      ∧ api.link
        = ({ api with handlers := linked ++ h :: after }, some h.unresolved) := by
  rcases linkHandlers_cases api.records api.handlers with ⟨linked, hlinked, hall⟩
    | ⟨before, h, after, linked, hsplit, hlinked, hmissing, hstop⟩
  · exact .inl ⟨linked, hlinked, by rw [link_eq, hall]⟩
  · exact .inr ⟨before, h, after, linked, hsplit, hlinked, hmissing,
      by rw [link_eq, hstop]⟩

theorem Api.exists_link_ok_iff {api : Api} :
    (∃ linked, api.link = (linked, none))
      ↔ ∀ h ∈ api.handlers, Declares api.records h.record := by
  rcases api.link_cases with ⟨linked, hlinked, hlink⟩
    | ⟨before, h, after, linked, hsplit, -, hmissing, hlink⟩
  · exact iff_of_true ⟨_, hlink⟩ (declares_of_forall₂ hlinked)
  · have hmem : h ∈ api.handlers := hsplit ▸ List.mem_append_right _ List.mem_cons_self
    refine iff_of_false ?_ fun hall => hmissing (hall h hmem)
    rintro ⟨linked', hok⟩
    exact absurd (congrArg Prod.snd (hlink.symm.trans hok)) (Option.some_ne_none _)

theorem Api.linked_of_link_ok {api linked : Api} (h : api.link = (linked, none)) :
    linked = { api with handlers := linked.handlers }
      ∧ List.Forall₂ (Handler.IsLinked api.records) api.handlers linked.handlers := by
  rcases api.link_cases with ⟨handlers, hlinked, hlink⟩ | ⟨_, _, _, _, -, -, -, hlink⟩
  · obtain ⟨rfl, -⟩ := Prod.mk.inj (hlink.symm.trans h)
    exact ⟨rfl, hlinked⟩
  · exact absurd (congrArg Prod.snd (hlink.symm.trans h)) (Option.some_ne_none _)

theorem Api.stopped_of_link_error {api left : Api} {e : GenerationError}
    (h : api.link = (left, some e)) :
    ∃ before g after linked, api.handlers = before ++ g :: after
      ∧ (∀ g ∈ before, Declares api.records g.record)
      ∧ ¬Declares api.records g.record
      ∧ e = .unresolvedRecord g.location g.receiver g.name g.record
      ∧ List.Forall₂ (Handler.IsLinked api.records) before linked
      ∧ left = { api with handlers := linked ++ g :: after } := by
  rcases api.link_cases with ⟨_, -, hlink⟩
    | ⟨before, g, after, linked, hsplit, hlinked, hmissing, hlink⟩
  · exact absurd (congrArg Prod.snd (h.symm.trans hlink)) (Option.some_ne_none _)
  · obtain ⟨hleft, he⟩ := Prod.mk.inj (h.symm.trans hlink)
    exact ⟨before, g, after, linked, hsplit, declares_of_forall₂ hlinked, hmissing,
      Option.some.inj he, hlinked, hleft⟩

theorem Api.link_link (api : Api) : api.link.1.link = api.link := by
  rw [link_eq api, link_eq]
  dsimp only
  rw [linkHandlers_linkHandlers]

/-- **Linking goes by name, and the first record of a name counts.** It goes through
exactly when every handler takes a record that exists. Then each handler has the least
position of a record of its name, and nothing but links has changed. Otherwise it is
refused for the first handler without a record: the handlers before that one are
linked in the same way, that one and those behind it keep their links, and nothing
else has changed. Linking once more comes to the same in either case. -/
theorem link_by_name (api : Api) :
    ((∃ linked, api.link = (linked, none))
      ↔ ∀ h ∈ api.handlers, Declares api.records h.record)
    ∧ (∀ linked, api.link = (linked, none) →
        linked = { api with handlers := linked.handlers }
        ∧ List.Forall₂ (Handler.IsLinked api.records) api.handlers linked.handlers)
    ∧ (∀ left e, api.link = (left, some e) →
        ∃ before h after linked, api.handlers = before ++ h :: after
          ∧ (∀ g ∈ before, Declares api.records g.record)
          ∧ ¬Declares api.records h.record
          ∧ e = .unresolvedRecord h.location h.receiver h.name h.record
          ∧ List.Forall₂ (Handler.IsLinked api.records) before linked
          ∧ left = { api with handlers := linked ++ h :: after })
    ∧ api.link.1.link = api.link := by
  refine ⟨Api.exists_link_ok_iff, ?_, ?_, api.link_link⟩
  · intro linked h
    exact Api.linked_of_link_ok h
  · intro left e h
    exact Api.stopped_of_link_error h

/-- Of three handlers with stale links the second takes a record that does not exist.
The first is linked to the first of two records of its name, the second keeps a link
that leads elsewhere, and the third is not linked though its record is there. -/
theorem link_by_name_with_missing_record :
    let handler (name record : String) (link : Option Nat) : Handler :=
      ⟨"S", name, "p", record, false, none, "R", ⟨"/" ++ name, false, ""⟩, link,
        ⟨"n.rs", 9, 5⟩⟩
    let record (name : String) (line : Nat) : Record := ⟨name, [], true, ⟨"n.rs", line, 8⟩⟩
    let api : Api := ⟨"n", [handler "f" "P" (some 7), handler "g" "Q" (some 0),
      handler "h" "P" none], [record "O" 1, record "P" 3, record "P" 5]⟩
    ¬(∃ linked, api.link = (linked, none))
      ∧ api.link.1.handlers = [handler "f" "P" (some 1), handler "g" "Q" (some 0),
        handler "h" "P" none]
      ∧ api.link.2 = some (.unresolvedRecord ⟨"n.rs", 9, 5⟩ "S" "g" "Q")
      ∧ api.link.1.link = api.link := by
  intro handler record api
  obtain ⟨hall, -, -, hagain⟩ := link_by_name api
  refine ⟨fun h => ?_, by decide, by decide, hagain⟩
  obtain ⟨r, hr, hname⟩ := hall.mp h (handler "g" "Q" (some 0)) (by decide)
  revert r
  decide

end Switchboard
