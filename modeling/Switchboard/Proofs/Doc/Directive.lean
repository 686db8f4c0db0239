import Switchboard.Doc.Directive
import Switchboard.Proofs.Json.Grammar
import Switchboard.Proofs.Text.Pieces

/-!
# Reading a directive wherever it is written

A directive is written as an object behind a marker, and both leave much open: where the
marked line stands, how the object is laid out and spelled, in what order its members
come, and what members there are beside those of the directive. None of this counts. An
object is described as the grammar of JSON has it (`IsObjectOf`) and its members are read
one after the other onto a draft; what has been read so far is known from the names that
were passed (`draftOf`), whatever their order. A marker is found at the first line that
begins with it (`IsMarkedAt`), by the lines that are passed over.

Together they say that a directive is read as it was written, that the marker is missing
only where no line begins with it, and that nothing before the marker has an influence
(`directive_of_marked_text`).
-/

namespace Switchboard.Doc

open Json Text

/-! ## The object -/

/-- The members that a directive has. -/
def memberNames : List String := ["url", "auth", "method"]

/-- **A value of a member**: what the directive has under the name, or any value at all
where it has nothing under it. -/
inductive IsMemberValue (d : Directive) : String → List Char → Prop where
  | url {raw : List Char} : Spells raw d.url.toList → IsMemberValue d "url" ('"' :: (raw ++ ['"']))
  | auth : IsMemberValue d "auth" (if d.auth then "true".toList else "false".toList)
  | verb {raw : List Char} :
    Spells raw d.verb.toList → IsMemberValue d "method" ('"' :: (raw ++ ['"']))
  | other {name : String} {v : List Char} :
    name ∉ memberNames → IsValue v → IsMemberValue d name v

/-- **A member of a directive's object**, with its name. -/
inductive IsMemberOf (d : Directive) : String → List Char → Prop where
  | mk {name : String} {before raw middle lead v after : List Char} : AreBlanks before →
    Spells raw name.toList → AreBlanks middle → AreBlanks lead → IsMemberValue d name v →
    AreBlanks after →
    IsMemberOf d name (before ++ '"' :: (raw ++ '"' :: (middle ++ ':' :: (lead ++ (v ++ after)))))

/-- **The members of a directive's object**, with their names in order. -/
inductive AreMembersOf (d : Directive) : List String → List Char → Prop where
  | one {name : String} {cs : List Char} : IsMemberOf d name cs → AreMembersOf d [name] cs
  | more {name : String} {cs : List Char} {names : List String} {members : List Char} :
    IsMemberOf d name cs → AreMembersOf d names members →
    AreMembersOf d (name :: names) (cs ++ ',' :: members)

/-- **Names under which a directive is given in full**: none of its members is given
twice, and one that is left out is empty or false. -/
structure IsGivenBy (d : Directive) (names : List String) : Prop where
  /-- No member is given twice. -/
  once : ∀ name ∈ memberNames, names.count name ≤ 1
  /-- A path left out is empty. -/
  url : "url" ∉ names → d.url = ""
  /-- A flag left out is false. -/
  auth : "auth" ∉ names → d.auth = false
  /-- A verb left out is empty. -/
  verb : "method" ∉ names → d.verb = ""

/-- **An object that states a directive.** -/
def IsObjectOf (d : Directive) (cs : List Char) : Prop :=
  ∃ names members, AreMembersOf d names members ∧ IsGivenBy d names
    ∧ cs = '\x7b' :: (members ++ ['\x7d'])

/-! ## Reading an object -/

/-- **A directive of which the members of some names have been read**, in any order. -/
def draftOf (d : Directive) (seen : List String) : Draft :=
  ⟨if "url" ∈ seen then some d.url else none, if "auth" ∈ seen then some d.auth else none,
    if "method" ∈ seen then some d.verb else none⟩

/-- What stands before a member: nothing before the first, else a comma. -/
def IsLead (first : Bool) (lead : List Char) : Prop :=
  if first then lead = [] else ∃ ws, AreBlanks ws ∧ lead = ws ++ [',']

theorem nextName_lead {first : Bool} {lead before : List Char} (hlead : IsLead first lead)
    (hbefore : AreBlanks before) (rest : List Char) :
    nextName first (lead ++ (before ++ '"' :: rest)) = .ok (some rest) := by
  have hquote : skipBlanks (before ++ '"' :: rest) = '"' :: rest := skipBlanks_append hbefore _
  cases first with
  | true =>
    obtain rfl : lead = [] := hlead
    rw [nextName, List.nil_append, hquote]
    rfl
  | false =>
    obtain ⟨ws, hws, rfl⟩ := hlead
    have hcomma : skipBlanks (ws ++ [','] ++ (before ++ '"' :: rest))
        = ',' :: (before ++ '"' :: rest) := by
      rw [List.append_assoc]
      exact skipBlanks_append hws _
    rw [nextName, hcomma]
    simp [hquote]

theorem nextName_close {ws : List Char} (h : AreBlanks ws) (rest : List Char) :
    nextName false (ws ++ '\x7d' :: rest) = .ok none := by
  have hclose : skipBlanks (ws ++ '\x7d' :: rest) = '\x7d' :: rest := skipBlanks_append h _
  rw [nextName, hclose]
  rfl

theorem afterColon_append {middle : List Char} (h : AreBlanks middle) (rest : List Char) :
    afterColon (middle ++ ':' :: rest) = .ok rest := by
  have hcolon : skipBlanks (middle ++ ':' :: rest) = ':' :: rest := skipBlanks_append h _
  rw [afterColon, hcolon]
  rfl

theorem readText_append {lead raw s : List Char} (hlead : AreBlanks lead) (h : Spells raw s)
    (rest : List Char) :
    readText (lead ++ '"' :: (raw ++ '"' :: rest)) = .ok (String.ofList s, rest) := by
  have hquote : skipBlanks (lead ++ '"' :: (raw ++ '"' :: rest)) = '"' :: (raw ++ '"' :: rest) :=
    skipBlanks_append hlead _
  rw [readText, hquote]
  exact readString_of_spells h [] rest

theorem readFlag_append {lead : List Char} (hlead : AreBlanks lead) (b : Bool)
    (rest : List Char) :
    readFlag (lead ++ ((if b then "true".toList else "false".toList) ++ rest)) = .ok (b, rest) := by
  rw [readFlag, skipBlanks_append hlead]
  cases b with
  | true => exact bind_eq_ok.mpr ⟨rest, readWord_append ['r', 'u', 'e'] rest, rfl⟩
  | false => exact bind_eq_ok.mpr ⟨rest, readWord_append ['a', 'l', 's', 'e'] rest, rfl⟩

/-- Whether a member has been read already. -/
def Draft.has (d : Draft) (name : String) : Bool :=
  (name == "url" && d.url.isSome) || (name == "auth" && d.auth.isSome)
    || (name == "method" && d.verb.isSome)

/-- The value of a member read onto a draft, and then the members after it. -/
def readOntoDraft (n : Nat) (d : Draft) (name : String) (cs : List Char) : Reading Draft :=
  match name with
  | "url" => do
    let (v, rest) ← inPart (.member name) (readText cs)
    readDirectiveMembers n false { d with url := some v } rest
  | "auth" => do
    let (v, rest) ← inPart (.member name) (readFlag cs)
    readDirectiveMembers n false { d with auth := some v } rest
  | "method" => do
    let (v, rest) ← inPart (.member name) (readText cs)
    readDirectiveMembers n false { d with verb := some v } rest
  | _ => do
    let rest ← inPart (.member name) (skipValue (stepBound cs) cs)
    readDirectiveMembers n false d rest

/-- A member that is new is read up to its value. -/
theorem readDirectiveMembers_name {first : Bool} {d : Draft} {name : String}
    {raw middle value text : List Char} (n : Nat)
    (hnext : nextName first text = .ok (some (raw ++ '"' :: (middle ++ ':' :: value))))
    (hname : Spells raw name.toList) (hmiddle : AreBlanks middle) (hnew : d.has name = false) :
    readDirectiveMembers (n + 1) first d text = readOntoDraft n d name value := by
  have hread := readString_of_spells hname [] (middle ++ ':' :: value)
  rw [List.reverse_nil, List.nil_append, String.ofList_toList] at hread
  rw [Draft.has] at hnew
  rw [readDirectiveMembers, hnext]
  show (inPart .unknown (readString true 0 [] _) >>= _) = _
  rw [hread]
  show (if _ then _ else _) = _
  rw [if_neg (by rw [hnew]; exact Bool.false_ne_true)]
  show (inPart .whole (afterColon _) >>= _) = _
  rw [afterColon_append hmiddle]
  rfl

theorem has_draftOf {d : Directive} {name : String} {seen : List String}
    (h : name ∈ memberNames → name ∉ seen) : (draftOf d seen).has name = false := by
  simp only [Draft.has, draftOf, Bool.or_eq_false_iff, Bool.and_eq_false_imp, beq_iff_eq]
  refine ⟨⟨?_, ?_⟩, ?_⟩
  all_goals
    rintro rfl
    rw [if_neg (h (by decide))]
    rfl

/-- **The value of a member is read onto the draft** with its name. -/
theorem readOntoDraft_append {d : Directive} {name : String} {gap v after rest : List Char}
    (n : Nat) (seen : List String) (hgap : AreBlanks gap) (h : IsMemberValue d name v)
    (hafter : AreBlanks after) (hrest : Ends rest) :
    ∃ ws, AreBlanks ws ∧
      readOntoDraft n (draftOf d seen) name (gap ++ (v ++ (after ++ rest)))
        = readDirectiveMembers n false (draftOf d (name :: seen)) (ws ++ rest) := by
  cases h with
  | url hurl =>
    have hdraft : { draftOf d seen with url := some d.url } = draftOf d ("url" :: seen) := by
      simp [draftOf]
    refine ⟨after, hafter, ?_⟩
    simp only [List.cons_append, List.append_assoc, List.nil_append]
    rw [readOntoDraft, readText_append hgap hurl, String.ofList_toList, ← hdraft]
    rfl
  | auth =>
    have hdraft : { draftOf d seen with auth := some d.auth } = draftOf d ("auth" :: seen) := by
      simp [draftOf]
    refine ⟨after, hafter, ?_⟩
    rw [readOntoDraft, readFlag_append hgap, ← hdraft]
    rfl
  | verb hverb =>
    have hdraft : { draftOf d seen with verb := some d.verb } = draftOf d ("method" :: seen) := by
      simp [draftOf]
    refine ⟨after, hafter, ?_⟩
    simp only [List.cons_append, List.append_assoc, List.nil_append]
    rw [readOntoDraft, readText_append hgap hverb, String.ofList_toList, ← hdraft]
    rfl
  | other hother hvalue =>
    simp only [memberNames, List.mem_cons, List.not_mem_nil, or_false, not_or] at hother
    obtain ⟨hurl, hauth, hverb⟩ := hother
    have hdraft : draftOf d (name :: seen) = draftOf d seen := by
      simp [draftOf, Ne.symm hurl, Ne.symm hauth, Ne.symm hverb]
    obtain ⟨ws, hws, hskip⟩ := skipValue_stepBound (.mk hgap hvalue hafter) hrest
    rw [List.append_assoc, List.append_assoc] at hskip
    refine ⟨ws, hws, ?_⟩
    rw [readOntoDraft, hskip, hdraft]
    · rfl
    · exact hurl
    · exact hauth
    · exact hverb

/-- **A member is read onto the draft**, up to the blanks before what follows it. -/
theorem readDirectiveMembers_member {d : Directive} {name : String} {seen : List String}
    {first : Bool} {lead cs rest : List Char} (n : Nat) (h : IsMemberOf d name cs)
    (hnew : name ∈ memberNames → name ∉ seen) (hlead : IsLead first lead) (hrest : Ends rest) :
    ∃ ws, AreBlanks ws ∧
      readDirectiveMembers (n + 1) first (draftOf d seen) (lead ++ (cs ++ rest))
        = readDirectiveMembers n false (draftOf d (name :: seen)) (ws ++ rest) := by
  obtain @⟨before, raw, middle, gap, v, after, hbefore, hname, hmiddle, hgap, hvalue,
    hafter⟩ := h
  have hnext := nextName_lead hlead hbefore
    (raw ++ '"' :: (middle ++ ':' :: (gap ++ (v ++ (after ++ rest)))))
  simp only [List.append_assoc, List.cons_append]
  rw [readDirectiveMembers_name n hnext hname hmiddle (has_draftOf hnew)]
  exact readOntoDraft_append n seen hgap hvalue hafter hrest

theorem draftOf_congr (d : Directive) {names names' : List String}
    (h : ∀ name, name ∈ names ↔ name ∈ names') : draftOf d names = draftOf d names' := by
  simp only [draftOf, h]

/-- A name that is given once has not been seen before. -/
theorem notMem_of_count_le_one {name : String} {names seen : List String}
    (h : (name :: names ++ seen).count name ≤ 1) : name ∉ seen := by
  rw [List.cons_append, List.count_cons_self, List.count_append] at h
  exact List.count_eq_zero.mp (by omega)

/-- **The members of a directive are read onto the draft**, up to the closing brace. -/
theorem readDirectiveMembers_append {d : Directive} {names seen : List String} {first : Bool}
    {lead members : List Char} {n : Nat} (h : AreMembersOf d names members)
    (honce : ∀ name ∈ memberNames, (names ++ seen).count name ≤ 1) (hlead : IsLead first lead)
    (hn : names.length < n) (rest : List Char) :
    readDirectiveMembers n first (draftOf d seen) (lead ++ (members ++ '\x7d' :: rest))
      = .ok (draftOf d (names ++ seen)) := by
  -- along the members; the draft is known from the names seen, which grow by one each time
  induction h generalizing n seen first lead with
  | @one name cs hmember =>
    obtain ⟨k, rfl⟩ : ∃ k, n = k + 2 := Nat.exists_eq_add_of_le' hn
    have hends : Ends ('\x7d' :: rest) := ends_cons (by decide) rest
    obtain ⟨ws, hws, hread⟩ := readDirectiveMembers_member (k + 1) hmember
      (fun hmem => notMem_of_count_le_one (honce name hmem)) hlead hends
    rw [hread, readDirectiveMembers, nextName_close hws]
    rfl
  | @more name cs names members hmember _ ih =>
    obtain ⟨k, rfl⟩ : ∃ k, n = k + 1 := Nat.exists_eq_add_of_le' (Nat.zero_lt_of_lt hn)
    have hends : Ends (',' :: (members ++ '\x7d' :: rest)) := ends_cons (by decide) _
    obtain ⟨ws, hws, hread⟩ := readDirectiveMembers_member k hmember
      (fun hmem => notMem_of_count_le_one (honce name hmem)) hlead hends
    have hmiddle : (names ++ name :: seen).Perm (name :: names ++ seen) := List.perm_middle
    have honce' : ∀ name' ∈ memberNames, (names ++ name :: seen).count name' ≤ 1 := by
      intro name' hmem
      rw [hmiddle.count_eq]
      exact honce name' hmem
    have hcomma : IsLead false (ws ++ [',']) := ⟨ws, hws, rfl⟩
    have hrest := ih honce' hcomma (Nat.lt_of_succ_lt_succ hn)
    rw [List.append_assoc, List.singleton_append] at hrest
    rw [List.append_assoc, List.cons_append, hread, hrest,
      draftOf_congr d fun _ => hmiddle.mem_iff]

/-- Every member has a text. -/
theorem AreMembersOf.length_le {d : Directive} {names : List String} {members : List Char}
    (h : AreMembersOf d names members) : names.length ≤ members.length := by
  induction h with
  | one hmember =>
    obtain ⟨⟩ := hmember
    simp only [List.length_append, List.length_cons, List.length_nil]
    omega
  | more hmember _ ih =>
    simp only [List.length_append, List.length_cons]
    omega

/-- A draft of all members that are given is the directive. -/
theorem complete_draftOf {d : Directive} {names : List String} (h : IsGivenBy d names) :
    (draftOf d names).complete = d := by
  have hpart : ∀ {α : Type} {name : String} {a default : α}, (name ∉ names → a = default) →
      (if name ∈ names then some a else none).getD default = a := by
    intro α name a default hdefault
    by_cases hname : name ∈ names
    · rw [if_pos hname, Option.getD_some]
    · rw [if_neg hname, Option.getD_none, hdefault hname]
  rw [Draft.complete, draftOf, hpart h.url, hpart h.auth, hpart h.verb]

/-- **An object is read as the directive it states**, whatever follows it. -/
theorem readDirective_of_isObjectOf {d : Directive} {cs : List Char} (h : IsObjectOf d cs)
    (rest : List Char) : readDirective (cs ++ rest) = .ok d := by
  obtain ⟨names, members, hmembers, hgiven, rfl⟩ := h
  have hopening : skipBlanks ('\x7b' :: (members ++ '\x7d' :: rest))
      = '\x7b' :: (members ++ '\x7d' :: rest) := rfl
  have hlead : IsLead true [] := rfl
  have hsteps : names.length < ('\x7b' :: (members ++ '\x7d' :: rest)).length + 1 := by
    have hlength := hmembers.length_le
    simp only [List.length_cons, List.length_append]
    omega
  have honce : ∀ name ∈ memberNames, (names ++ []).count name ≤ 1 := by
    rw [List.append_nil]
    exact hgiven.once
  have hread := readDirectiveMembers_append hmembers honce hlead hsteps rest
  rw [List.append_nil] at hread
  rw [List.cons_append, List.append_assoc, List.singleton_append, readDirective, hopening]
  show (readDirectiveMembers _ true (draftOf d []) _ >>= fun draft => pure draft.complete) = _
  exact bind_eq_ok.mpr ⟨_, hread, congrArg Except.ok (complete_draftOf hgiven)⟩

/-! ## The marker -/

/-- **A line that begins with the marker**, blanks before it aside. -/
def IsMarkedLine (line : List Char) : Prop := directiveMarker.toList <+: trimStart line

instance : DecidablePred IsMarkedLine := fun line =>
  inferInstanceAs (Decidable (directiveMarker.toList <+: trimStart line))

/-- **A text whose first marked line has a certain text behind its marker.** Before it come
lines without a marker, and on the line itself blanks; line feeds among these make blank
lines of their own. -/
def IsMarkedAt (doc text : List Char) : Prop :=
  ∃ (lines : List (List Char)) (indent : List Char),
    (∀ line ∈ lines, '\n' ∉ line ∧ ¬ IsMarkedLine line) ∧ (∀ c ∈ indent, isBlank c = true)
      ∧ doc = lines.flatMap (· ++ ['\n']) ++ (indent ++ (directiveMarker.toList ++ text))

/-- The marker begins no text that a blank begins. -/
theorem not_marker_prefix {c : Char} (h : isBlank c = true) (rest : List Char) :
    directiveMarker.toList.isPrefixOf (c :: rest) = false := by
  rw [← Bool.not_eq_true, List.isPrefixOf_iff_prefix]
  rintro ⟨more, hmore⟩
  obtain rfl : 'a' = c := (List.cons.inj hmore).1
  exact absurd h (by decide)

/-- A line feed begins a new line. -/
theorem afterMarker?_newline (lineStart : Bool) (rest : List Char) :
    afterMarker? lineStart ('\n' :: rest) = afterMarker? true rest := by
  rw [afterMarker?, not_marker_prefix (by decide), Bool.and_false]
  rfl

theorem afterMarker?_blanks {indent : List Char} (h : ∀ c ∈ indent, isBlank c = true)
    (rest : List Char) : afterMarker? true (indent ++ rest) = afterMarker? true rest := by
  induction indent with
  | nil => rfl
  | cons c indent ih =>
    have hc := h c List.mem_cons_self
    rw [List.cons_append, afterMarker?, not_marker_prefix hc, Bool.and_false, if_neg (by simp),
      hc, Bool.true_and, ih fun c hmem => h c (List.mem_cons_of_mem _ hmem), ite_self]

theorem afterMarker?_marker (text : List Char) :
    afterMarker? true (directiveMarker.toList ++ text) = some text := rfl

/-- Behind anything but blanks no marker counts up to the end of the line. -/
theorem afterMarker?_false {line : List Char} (h : '\n' ∉ line) (rest : List Char) :
    afterMarker? false (line ++ rest) = afterMarker? false rest := by
  induction line with
  | nil => rfl
  | cons c line ih =>
    rw [List.mem_cons, not_or] at h
    rw [List.cons_append, afterMarker?, if_neg (by simp), if_neg (Ne.symm h.1), Bool.false_and,
      ih h.2]

/-- The marker does not reach over the end of a line. -/
theorem marker_prefix_of_append {line tail : List Char} (htail : ∀ c ∈ tail.head?, c = '\n')
    (h : directiveMarker.toList <+: line ++ tail) : directiveMarker.toList <+: line := by
  rcases List.prefix_or_prefix_of_prefix h (List.prefix_append line tail) with hline | ⟨more, hmore⟩
  · exact hline
  · obtain ⟨rest, hrest⟩ := h
    rw [← hmore, List.append_assoc, List.append_cancel_left_eq] at hrest
    cases more with
    | nil => exact ⟨[], by rw [← hmore, List.append_nil, List.append_nil]⟩
    | cons c more =>
      obtain rfl : c = '\n' := htail c (hrest ▸ rfl)
      have hmem : '\n' ∈ directiveMarker.toList := by simp [← hmore]
      exact absurd hmem (by decide)

/-- **A line without a marker is passed over**, whether another line follows or none. -/
theorem afterMarker?_line {line tail : List Char} (h : '\n' ∉ line)
    (hmarked : ¬ IsMarkedLine line) (htail : ∀ c ∈ tail.head?, c = '\n') :
    afterMarker? true (line ++ tail) = afterMarker? false tail := by
  rw [← takeWhile_append_trimStart line, List.append_assoc,
    afterMarker?_blanks fun c hc => List.mem_takeWhile_imp hc]
  cases hcore : trimStart line with
  | nil =>
    cases tail with
    | nil => rfl
    | cons c rest =>
      obtain rfl : c = '\n' := htail c rfl
      rw [List.nil_append, afterMarker?_newline, afterMarker?_newline]
  | cons c core =>
    have hmem : ∀ c' ∈ c :: core, c' ≠ '\n' := by
      rintro c' hc' rfl
      rw [← hcore] at hc'
      exact h ((List.dropWhile_suffix isBlank).subset hc')
    have hblank : isBlank c = false := by
      have hhead := List.head?_dropWhile_not isBlank line
      rw [show line.dropWhile isBlank = c :: core from hcore] at hhead
      exact Bool.eq_false_iff.mpr (by simpa using hhead)
    have hprefix : directiveMarker.toList.isPrefixOf (c :: (core ++ tail)) = false := by
      rw [← Bool.not_eq_true, List.isPrefixOf_iff_prefix, ← List.cons_append, ← hcore]
      exact fun hp => hmarked (marker_prefix_of_append htail hp)
    rw [List.cons_append, afterMarker?, hprefix, Bool.and_false, if_neg (by simp),
      if_neg (hmem c List.mem_cons_self), hblank, Bool.and_false]
    exact afterMarker?_false (fun hc => hmem _ (List.mem_cons_of_mem _ hc) rfl) tail

/-- **The text behind the first marker** is found. -/
theorem afterMarker?_of_isMarkedAt {doc text : List Char} (h : IsMarkedAt doc text) :
    afterMarker? true doc = some text := by
  obtain ⟨lines, indent, hlines, hindent, rfl⟩ := h
  induction lines with
  | nil =>
    rw [List.flatMap_nil, List.nil_append, afterMarker?_blanks hindent, afterMarker?_marker]
  | cons line lines ih =>
    obtain ⟨hline, hmarked⟩ := hlines line List.mem_cons_self
    rw [List.flatMap_cons, List.append_assoc, List.append_assoc,
      List.singleton_append, afterMarker?_line hline hmarked (by simp), afterMarker?_newline]
    exact ih fun line' hmem => hlines line' (List.mem_cons_of_mem _ hmem)

/-- A marked line marks the text it begins. -/
theorem exists_isMarkedAt_of_isMarkedLine {line : List Char} (h : IsMarkedLine line)
    (tail : List Char) : ∃ text, IsMarkedAt (line ++ tail) text := by
  obtain ⟨text, htext⟩ := h
  refine ⟨text ++ tail, [], line.takeWhile isBlank, by simp, fun c => List.mem_takeWhile_imp, ?_⟩
  rw [List.flatMap_nil, List.nil_append, ← List.append_assoc _ text, htext, ← List.append_assoc,
    takeWhile_append_trimStart]

/-- A line without a marker may stand before a marked text. -/
theorem IsMarkedAt.cons {line doc text : List Char} (hline : '\n' ∉ line)
    (hmarked : ¬ IsMarkedLine line) (h : IsMarkedAt doc text) :
    IsMarkedAt (line ++ '\n' :: doc) text := by
  obtain ⟨lines, indent, hlines, hindent, rfl⟩ := h
  exact ⟨line :: lines, indent, List.forall_mem_cons.mpr ⟨⟨hline, hmarked⟩, hlines⟩, hindent,
    by simp⟩

/-- **Every text with a marked line is marked somewhere**, and in every other text no
marker is found. -/
theorem isMarkedAt_or_eq_none (doc : List Char) :
    (∃ text, IsMarkedAt doc text) ∧ (∃ line ∈ pieces '\n' doc, IsMarkedLine line)
      ∨ afterMarker? true doc = none ∧ ∀ line ∈ pieces '\n' doc, ¬ IsMarkedLine line := by
  -- one line at a time, by the length of what is left
  induction hn : doc.length using Nat.strongRecOn generalizing doc with
  | ind n ih =>
    by_cases hfeed : '\n' ∈ doc
    · obtain ⟨line, rest, rfl, hline⟩ := List.eq_append_cons_of_mem hfeed
      rw [pieces_append_cons hline, List.exists_mem_cons_iff, List.forall_mem_cons]
      by_cases hmarked : IsMarkedLine line
      · exact .inl ⟨exists_isMarkedAt_of_isMarkedLine hmarked _, .inl hmarked⟩
      · rcases ih rest.length (by rw [← hn]; simp; omega) rest rfl with
          ⟨⟨text, htext⟩, hsome⟩ | ⟨hnone, hall⟩
        · exact .inl ⟨⟨text, htext.cons hline hmarked⟩, .inr hsome⟩
        · refine .inr ⟨?_, hmarked, hall⟩
          rw [afterMarker?_line hline hmarked (by simp), afterMarker?_newline, hnone]
    · rw [pieces_of_notMem hfeed, List.forall_mem_singleton]
      by_cases hmarked : IsMarkedLine doc
      · refine .inl ⟨?_, doc, List.mem_singleton_self doc, hmarked⟩
        have hmark := exists_isMarkedAt_of_isMarkedLine hmarked []
        rwa [List.append_nil] at hmark
      · refine .inr ⟨?_, hmarked⟩
        have hnone : afterMarker? true (doc ++ []) = none :=
          afterMarker?_line hfeed hmarked (by simp)
        rwa [List.append_nil] at hnone

/-- No marker is found where no line has one. -/
theorem afterMarker?_eq_none_iff {doc : List Char} :
    afterMarker? true doc = none ↔ ∀ line ∈ pieces '\n' doc, ¬ IsMarkedLine line := by
  rcases isMarkedAt_or_eq_none doc with ⟨⟨text, htext⟩, line, hline, hmarked⟩ | ⟨hnone, hall⟩
  · rw [afterMarker?_of_isMarkedAt htext]
    exact iff_of_false (by simp) fun h => h line hline hmarked
  · exact iff_of_true hnone hall

/-! ## A directive in its text -/

theorem directive_eq_missingMarker_iff {doc : String} :
    directive doc = .error .missingMarker ↔ afterMarker? true doc.toList = none := by
  rw [directive]
  cases afterMarker? true doc.toList with
  | none => exact iff_of_true rfl rfl
  | some text =>
    refine iff_of_false ?_ (by simp)
    dsimp only
    split
    · simp
    · split <;> simp

/-- **A directive is read where its text is marked.** -/
theorem directive_of_isMarkedAt {d : Directive} {doc : String} {ws object rest : List Char}
    (hurl : d.url ≠ "") (hobject : IsObjectOf d object) (hws : ∀ c ∈ ws, isBlank c = true)
    (hmark : IsMarkedAt doc.toList (ws ++ (object ++ rest))) : directive doc = .ok d := by
  have hbody : trimStart (ws ++ (object ++ rest)) = object ++ rest := by
    obtain ⟨_, _, _, _, rfl⟩ := hobject
    exact (List.dropWhile_append_of_pos hws).trans rfl
  rw [directive, afterMarker?_of_isMarkedAt hmark]
  dsimp only
  rw [hbody, readDirective_of_isObjectOf hobject]
  exact if_neg hurl

/-- **A directive is what its object states, wherever it stands.** Lines without the
marker may come before it, blanks before the marker, white space between the marker and the
object, and any text after it; the object may be laid out and spelled in any way that JSON
allows, with other members among its own. The marker is missing where no line begins with
it, blanks aside. In every other text only what stands behind the first marker counts. -/
theorem directive_of_marked_text :
    (∀ {d : Directive} {doc : String} {ws object rest : List Char}, d.url ≠ "" →
        IsObjectOf d object → (∀ c ∈ ws, isBlank c = true) →
        IsMarkedAt doc.toList (ws ++ (object ++ rest)) → directive doc = .ok d)
      ∧ (∀ {doc : String}, directive doc = .error .missingMarker
          ↔ ∀ line ∈ pieces '\n' doc.toList, ¬ IsMarkedLine line)
      ∧ (∀ {doc : String}, directive doc ≠ .error .missingMarker →
          ∃ text, IsMarkedAt doc.toList text)
      ∧ ∀ {doc doc' : String} {text : List Char}, IsMarkedAt doc.toList text →
          IsMarkedAt doc'.toList text → directive doc = directive doc' := by
  refine ⟨directive_of_isMarkedAt,
    directive_eq_missingMarker_iff.trans afterMarker?_eq_none_iff, fun {doc} h => ?_, ?_⟩
  · rcases isMarkedAt_or_eq_none doc.toList with ⟨hmark, -⟩ | ⟨hnone, -⟩
    · exact hmark
    · exact absurd (directive_eq_missingMarker_iff.mpr hnone) h
  · intro doc doc' text h h'
    rw [directive, directive, afterMarker?_of_isMarkedAt h, afterMarker?_of_isMarkedAt h']

/-- A directive behind a line that only mentions the marker, with escapes in the name and
the value of its path and a member that means nothing. -/
theorem directive_of_marked_text_of_layout :
    directive "On apigen:api\n\tapigen:api\n \x7b\"x\": [1, null], \"\\u0075rl\":\"\\/a\"\x7d etc."
        = .ok ⟨"/a", false, ""⟩
      ∧ directive "On apigen:api\n" = .error .missingMarker := by
  let d : Directive := ⟨"/a", false, ""⟩
  have hnone : AreBlanks [] := List.all_eq_true.mp rfl
  have hblank : AreBlanks [' '] := List.all_eq_true.mp rfl
  have hother : IsMemberOf d "x" "\"x\": [1, null]".toList := by
    have hname : Spells ['x'] ['x'] := spells_self (by simp)
    have hone : IsElement ['1'] := @IsElement.mk [] ['1'] [] hnone
      (.number (.inl ⟨['1'], [], [], .inr ⟨⟨by simp, by simp⟩, by simp⟩, .none, .none, rfl⟩))
      hnone
    have hnull : IsElement " null".toList := @IsElement.mk [' '] _ [] hblank .null hnone
    exact @IsMemberOf.mk d "x" [] ['x'] [] [' '] _ [] hnone hname hnone hblank
      (.other (by decide) (.array (.more hone (.one hnull)))) hnone
  have hurl : IsMemberOf d "url" " \"\\u0075rl\":\"\\/a\"".toList := by
    have hname : Spells "\\u0075rl".toList "url".toList :=
      .cons (@SpellsChar.number ['0', '0', '7', '5'] 'u' ⟨0, 0, 7, 5, by decide, by decide⟩)
        (@spells_self ['r', 'l'] (by simp))
    have hpath : Spells "\\/a".toList "/a".toList :=
      .cons (.letter (by decide)) (@spells_self ['a'] (by simp))
    exact @IsMemberOf.mk d "url" [' '] _ [] [] _ [] hblank hname hnone hnone (.url (d := d) hpath)
      hnone
  have hobject : IsObjectOf d "\x7b\"x\": [1, null], \"\\u0075rl\":\"\\/a\"\x7d".toList :=
    ⟨["x", "url"], _, .more hother (.one hurl), ⟨by decide, by decide, by decide, by decide⟩, rfl⟩
  exact ⟨@directive_of_marked_text.1 d _ ['\n', ' '] _ " etc.".toList (by decide) hobject
    (List.all_eq_true.mp rfl)
    ⟨["On apigen:api".toList], ['\t'], by decide, List.all_eq_true.mp rfl, rfl⟩,
    directive_of_marked_text.2.1.mpr (by decide)⟩

end Switchboard.Doc
