import Switchboard.Proofs.Api.Places
import Switchboard.Proofs.Generation
import Switchboard.Proofs.Text.Pieces

/-!
# The path of a source file in its code

The path of a source file is the only thing about the file, beside its text, that the code
shows: it names the file and the module in the banner, and the places that declarations carry
are not written. So all code of one source has the same lines below its banner, whatever the
path was (`SameBelowBanner`).

The banner opens a comment, and a comment goes up to the end of the line. The path is written
into it as it is, so a line break in the path ends the comment, and the rest of the path stands
on lines of its own. A path without line breaks stays in the comment, and its code differs below
the first line from that of another path exactly if the other one has a line break
(`code_below_banner`).
-/

namespace Switchboard

open Dispatch Files Text

/-! ## Banners -/

/-- **A banner begins as a comment**, and has a line more for each line break of the names in
it. -/
theorem exists_pieces_banner (moduleName label : String) :
    ∃ first rest, pieces '\n' (banner moduleName label).toList = ('/' :: '/' :: first) :: rest
      ∧ rest.length = label.toList.count '\n' + moduleName.toList.count '\n' := by
  obtain ⟨before, between, after, hbefore, hbetween, hafter, hbanner⟩ := exists_toList_banner
  have hslash : '/' ≠ '\n' := by decide
  have hlength := length_pieces '\n' (banner moduleName label).toList
  rw [hbanner] at hlength ⊢
  generalize hcs : before ++ (label.toList ++ (between ++ (moduleName.toList ++ after))) = cs
    at hlength ⊢
  have hcount : cs.count '\n' = label.toList.count '\n' + moduleName.toList.count '\n' := by
    simp only [← hcs, List.count_append, List.count_eq_zero.mpr hbefore,
      List.count_eq_zero.mpr hbetween, List.count_eq_zero.mpr hafter]
    omega
  -- the two slashes stand before whatever the first line goes on with
  obtain ⟨first, rest, -, hfirst⟩ := exists_pieces_cons hslash cs
  obtain ⟨_, _, hline, hslashes⟩ := exists_pieces_cons hslash ('/' :: cs)
  obtain ⟨rfl, rfl⟩ := List.cons.inj (hfirst.symm.trans hline)
  refine ⟨first, rest, hslashes, ?_⟩
  rw [hslashes, List.length_cons, List.count_cons_of_ne hslash, List.count_cons_of_ne hslash,
    hcount] at hlength
  exact Nat.succ.inj hlength

/-- **A banner is one line** exactly if neither name in it has a line break. -/
theorem tail_pieces_banner_eq_nil_iff {moduleName label : String} :
    (pieces '\n' (banner moduleName label).toList).tail = []
      ↔ '\n' ∉ label.toList ∧ '\n' ∉ moduleName.toList := by
  obtain ⟨first, rest, hpieces, hrest⟩ := exists_pieces_banner moduleName label
  rw [hpieces, List.tail_cons, ← List.length_eq_zero_iff, hrest, Nat.add_eq_zero_iff,
    List.count_eq_zero, List.count_eq_zero]

/-- The first line of a banner stays first, whatever follows it. -/
theorem tail_banner_append (moduleName label : String) (below : List (List Char)) :
    (pieces '\n' (banner moduleName label).toList ++ below).tail
      = (pieces '\n' (banner moduleName label).toList).tail ++ below := by
  obtain ⟨first, rest, hpieces, -⟩ := exists_pieces_banner moduleName label
  rw [hpieces, List.cons_append, List.tail_cons, List.tail_cons]

/-! ## Below the banner -/

/-- **An API with services is rendered**, its banner first and then what its services come
to. -/
theorem pieces_of_render {api : Api} {services : List Service} (h : api.services = .ok services)
    (label : String) :
    ∃ text, render api label = .ok text
      ∧ pieces '\n' text.toList
        = pieces '\n' (banner api.moduleName label).toList
          ++ pieces '\n' (belowBanner services) := by
  refine ⟨_, by rw [render, Output.emit, h], ?_⟩
  rw [← pieces_append_sep, toList_writeAll_moduleCode]

/-- **Texts that are the same below their banners**, each beginning as a comment. Whether they are
the same below their first lines, only the names in the banners decide. -/
structure SameBelowBanner (moduleName label text moduleName' label' text' : String) : Prop where
  /-- The first line of each is a comment. -/
  comment : ∀ t ∈ [text, text'], ∃ line lines,
    pieces '\n' t.toList = ('/' :: '/' :: line) :: lines
  /-- The banners stand above the same lines. -/
  below : ∃ below, pieces '\n' text.toList = pieces '\n' (banner moduleName label).toList ++ below
    ∧ pieces '\n' text'.toList = pieces '\n' (banner moduleName' label').toList ++ below
  /-- What the texts differ in below their first lines, the banners differ in. -/
  tail : (pieces '\n' text.toList).tail = (pieces '\n' text'.toList).tail
    ↔ (pieces '\n' (banner moduleName label).toList).tail
      = (pieces '\n' (banner moduleName' label').toList).tail
  /-- Where one banner is one line, this is a matter of line breaks in the names of the other. -/
  oneLine : '\n' ∉ moduleName.toList → '\n' ∉ label.toList →
    ((pieces '\n' text.toList).tail = (pieces '\n' text'.toList).tail
      ↔ '\n' ∉ label'.toList ∧ '\n' ∉ moduleName'.toList)

theorem sameBelowBanner {moduleName label text moduleName' label' text' : String}
    {below : List (List Char)}
    (h : pieces '\n' text.toList = pieces '\n' (banner moduleName label).toList ++ below)
    (h' : pieces '\n' text'.toList = pieces '\n' (banner moduleName' label').toList ++ below) :
    SameBelowBanner moduleName label text moduleName' label' text' where
  comment := by
    simp only [List.forall_mem_cons, h, h']
    refine ⟨?_, ?_, fun _ hnone => absurd hnone List.not_mem_nil⟩
    · obtain ⟨line, lines, hline, -⟩ := exists_pieces_banner moduleName label
      exact ⟨line, lines ++ below, by rw [hline, List.cons_append]⟩
    · obtain ⟨line, lines, hline, -⟩ := exists_pieces_banner moduleName' label'
      exact ⟨line, lines ++ below, by rw [hline, List.cons_append]⟩
  below := ⟨below, h, h'⟩
  tail := by
    rw [h, h', tail_banner_append, tail_banner_append, List.append_cancel_right_eq]
  oneLine hmodule hlabel := by
    rw [h, h', tail_banner_append, tail_banner_append,
      tail_pieces_banner_eq_nil_iff.mpr ⟨hlabel, hmodule⟩, List.nil_append,
      List.self_eq_append_left, tail_pieces_banner_eq_nil_iff]

/-- **A linked API has one code below the banner**, whatever its label and its module are called,
or one refusal. -/
theorem sameBelowBanner_of_render (api : Api) (moduleName label moduleName' label' : String) :
    (∃ e, render { api with moduleName := moduleName } label = .error e
      ∧ render { api with moduleName := moduleName' } label' = .error e)
    ∨ ∃ text text', render { api with moduleName := moduleName } label = .ok text
      ∧ render { api with moduleName := moduleName' } label' = .ok text'
      ∧ SameBelowBanner moduleName label text moduleName' label' text' := by
  have hnamed (name : String) : { api with moduleName := name }.services = api.services := rfl
  cases h : api.services with
  | error e =>
    refine .inl ⟨e, ?_, ?_⟩ <;> rw [render, Output.emit, hnamed, h]
  | ok services =>
    obtain ⟨text, htext, hpieces⟩ := pieces_of_render ((hnamed moduleName).trans h) label
    obtain ⟨text', htext', hpieces'⟩ := pieces_of_render ((hnamed moduleName').trans h) label'
    exact .inr ⟨text, text', htext, htext', sameBelowBanner hpieces hpieces'⟩

/-! ## Sources -/

/-- An endpoint in a file of another name. -/
def Endpoint.movedTo (file : String) (e : Endpoint) : Endpoint :=
  ⟨e.handler.movedTo file, e.record.movedTo file⟩

/-- A handler that leads to a record still does. -/
theorem Api.endpoint_movedTo {api : Api} {h : Handler} {e : Endpoint} (moduleName file : String)
    (he : api.endpoint h = .ok e) :
    (api.movedTo moduleName file).endpoint (h.movedTo file) = .ok (e.movedTo file) := by
  have hrecord : (api.movedTo moduleName file).linkedRecord? (h.movedTo file)
      = (api.linkedRecord? h).map (Record.movedTo file) := by
    rw [linkedRecord?, linkedRecord?, movedTo]
    show h.link.bind _ = (h.link.bind _).map _
    cases h.link with
    | none => rfl
    | some i => exact List.getElem?_map
  rw [endpoint] at he ⊢
  rw [hrecord]
  cases hlinked : api.linkedRecord? h with
  | none =>
    rw [hlinked] at he
    cases he
  | some r =>
    rw [hlinked] at he
    rw [← Except.ok.inj he]
    rfl

/-- **The services of an API keep their code** in a file of another name. -/
theorem Api.services_movedTo {api : Api} {es : List Endpoint} (moduleName file : String)
    (h : List.Forall₂ (fun h e => api.endpoint h = .ok e) api.handlers es) :
    (api.movedTo moduleName file).services = .ok (servicesOf (es.map (Endpoint.movedTo file))) := by
  refine services_eq_ok (List.forall₂_map_left_iff.mpr (List.forall₂_map_right_iff.mpr ?_))
  exact h.imp fun _ _ he => endpoint_movedTo moduleName file he

theorem belowBanner_movedTo (file : String) (es : List Endpoint) :
    belowBanner (servicesOf (es.map (Endpoint.movedTo file))) = belowBanner (servicesOf es) := by
  rw [belowBanner, belowBanner,
    servicesCode_map (Endpoint.movedTo file) (fun _ => rfl) (fun _ => rfl) (fun _ => rfl)]

/-- **A source has one code below the banner**, whatever its file and its module are called, or
one refusal. -/
theorem sameBelowBanner_of_generate (source moduleName file moduleName' file' : String) :
    (∃ e, generate source file moduleName = .error e
      ∧ generate source file' moduleName' = .error (e.movedTo file'))
    ∨ ∃ api text text', generate source file moduleName = .ok (api, text)
      ∧ generate source file' moduleName' = .ok (api.movedTo moduleName' file', text')
      ∧ SameBelowBanner moduleName file text moduleName' file' text' := by
  have hmoved := Api.ofSource_movedTo moduleName moduleName' source file file'
  cases h : Api.ofSource moduleName source file with
  | error e =>
    rw [h] at hmoved
    exact .inl ⟨e, generate_eq_error_iff.mpr h, generate_eq_error_iff.mpr hmoved⟩
  | ok api =>
    rw [h] at hmoved
    obtain ⟨hname, es, hes, -⟩ := Api.exists_endpoints_of_source h
    obtain ⟨text, htext, hpieces⟩ := pieces_of_render (Api.services_eq_ok hes) file
    obtain ⟨text', htext', hpieces'⟩ :=
      pieces_of_render (Api.services_movedTo moduleName' file' hes) file'
    rw [hname] at hpieces
    rw [belowBanner_movedTo] at hpieces'
    exact .inr ⟨api, text, text', generate_eq_ok.mpr ⟨h, htext⟩,
      generate_eq_ok.mpr ⟨hmoved, htext'⟩, sameBelowBanner hpieces hpieces'⟩

/-! ## Names of modules -/

/-- The parts of a path are steps of it. -/
theorem Files.Path.mem_steps_of_mem_parts {p : Path} {s : String} (h : s ∈ p.parts) :
    s ∈ p.steps := by
  rw [parts] at h
  split at h
  · next hsteps =>
    rw [hsteps]
    exact (List.mem_cons.mp h).elim (fun hs => hs ▸ List.mem_cons_self)
      fun hs => List.mem_cons_of_mem _ (List.mem_of_mem_filter hs)
  · exact List.mem_of_mem_filter h

theorem Files.Path.mem_steps_of_fileName? {p : Path} {name : String}
    (h : p.fileName? = some name) : name ∈ p.steps := by
  rw [fileName?, Option.filter_eq_some_iff] at h
  exact mem_steps_of_mem_parts (List.mem_of_getLast? h.1)

theorem Files.mem_of_mem_stemOf {name : String} {c : Char} (h : c ∈ (stemOf name).toList) :
    c ∈ name.toList := by
  rw [stemOf] at h
  split at h
  · exact h
  · exact h
  · next _ stem hstem =>
    rw [String.toList_ofList, List.mem_reverse] at h
    have hdropped : c ∈ name.toList.reverse.dropWhile (· ≠ '.') :=
      hstem ▸ List.mem_cons_of_mem _ h
    exact List.mem_reverse.mp ((List.dropWhile_sublist _).mem hdropped)

theorem Files.Path.mem_steps_of_parent? {p q : Path} {name : String} (hq : p.parent? = some q)
    (h : q.fileName? = some name) : name ∈ p.steps := by
  rw [parent?] at hq
  split_ifs at hq
  obtain rfl := Option.some.inj hq
  exact mem_steps_of_mem_parts (List.mem_of_mem_dropLast (mem_steps_of_fileName? h))

/-- **The name of a module is taken from the path**, so it has no line break where the path has
none. -/
theorem notMem_moduleName {input : String} (h : '\n' ∉ input.toList) :
    '\n' ∉ (moduleName (.ofText input)).toList := by
  have hstep : ∀ s ∈ (Path.ofText input).steps, '\n' ∉ s.toList := by
    intro s hs
    obtain ⟨p, hp, rfl⟩ := List.mem_map.mp hs
    rw [String.toList_ofList]
    exact fun hc => h (mem_of_mem_pieces (List.mem_of_mem_filter hp) hc)
  have hstem : '\n' ∉ (((Path.ofText input).fileName?.map stemOf).getD "").toList := by
    cases hname : (Path.ofText input).fileName? with
    | none => exact List.not_mem_nil
    | some name =>
      exact fun hc => hstep name (Path.mem_steps_of_fileName? hname) (mem_of_mem_stemOf hc)
  rw [moduleName]
  split_ifs
  · cases hparent : (Path.ofText input).parent?.bind Path.fileName? with
    | none => exact hstem
    | some name =>
      obtain ⟨q, hq, hname⟩ := Option.bind_eq_some_iff.mp hparent
      exact hstep name (Path.mem_steps_of_parent? hq hname)
  · decide
  · exact hstem

/-! ## What a path can do to the code -/

/-- **The code below the banner does not show the path**, as long as the path is one line.

A linked API is rendered to the same lines below the banner under any two labels and module names,
or refused in the same way; and so is a source under any two names of its file and its module, but
that the places name the file. Each text begins as a comment. From the second line on the texts are
the same exactly if the banners are, and when one label and module name have no line break, exactly
if the others have none. So the code of one source in two files, the path of one of which has no
line break, is the same from the second line on exactly if the path of the other has none. -/
theorem code_below_banner (api : Api) (source moduleName label moduleName' label' : String) :
    ((∃ e, render { api with moduleName := moduleName } label = .error e
        ∧ render { api with moduleName := moduleName' } label' = .error e)
      ∨ ∃ text text', render { api with moduleName := moduleName } label = .ok text
        ∧ render { api with moduleName := moduleName' } label' = .ok text'
        ∧ SameBelowBanner moduleName label text moduleName' label' text')
    ∧ ((∃ e, generate source label moduleName = .error e
        ∧ generate source label' moduleName' = .error (e.movedTo label'))
      ∨ ∃ built text text', generate source label moduleName = .ok (built, text)
        ∧ generate source label' moduleName' = .ok (built.movedTo moduleName' label', text')
        ∧ SameBelowBanner moduleName label text moduleName' label' text')
    ∧ ∀ (t t' : Tree) built built' text text',
      t.readText (.ofText label) = .ok source → t'.readText (.ofText label') = .ok source →
      generateFrom t label = .ok (built, text) → generateFrom t' label' = .ok (built', text') →
      '\n' ∉ label.toList →
        ((pieces '\n' text.toList).tail = (pieces '\n' text'.toList).tail
          ↔ '\n' ∉ label'.toList) := by
  refine ⟨sameBelowBanner_of_render api moduleName label moduleName' label',
    sameBelowBanner_of_generate source moduleName label moduleName' label', ?files⟩
  case files =>
    intro t t' built built' text text' hsource hsource' htext htext' hlabel
    obtain ⟨_, hread, htext⟩ := generateFrom_eq_ok.mp htext
    obtain rfl := Except.ok.inj (hsource.symm.trans hread)
    obtain ⟨_, hread', htext'⟩ := generateFrom_eq_ok.mp htext'
    obtain rfl := Except.ok.inj (hsource'.symm.trans hread')
    rcases sameBelowBanner_of_generate source (Switchboard.moduleName (.ofText label)) label
        (Switchboard.moduleName (.ofText label')) label'
      with ⟨e, he, -⟩ | ⟨_, _, _, hok, hok', hsame⟩
    · exact nomatch he.symm.trans htext
    · obtain ⟨-, rfl⟩ := Prod.mk.inj (Except.ok.inj (htext.symm.trans hok))
      obtain ⟨-, rfl⟩ := Prod.mk.inj (Except.ok.inj (htext'.symm.trans hok'))
      rw [hsame.oneLine (notMem_moduleName hlabel) hlabel]
      exact and_iff_left_of_imp notMem_moduleName

/-- A path with a line break that goes on like code. -/
def brokenPath : String := "a\nstruct Evil;//.rs"

/-- A tree with the source of `storedTree` at that path. -/
def brokenTree : Tree :=
  ⟨[(workingPlace, .directory), (["", "a\nstruct Evil;"], .directory),
    (["", "a\nstruct Evil;", ".rs"], .file (utf8 storedSource))]⟩

/-- The source is read at both paths. -/
theorem exists_generateFrom_brokenTree : ∃ text api text',
    generateFrom storedTree "s.rs" = .ok (storedApi, text)
      ∧ generateFrom brokenTree brokenPath = .ok (api, text')
      ∧ SameBelowBanner "s" "s.rs" text ".rs" brokenPath text' := by
  obtain ⟨text, htext⟩ := exists_generateFrom_storedTree
  have hread : storedTree.readText (.ofText "s.rs") = .ok storedSource := by decide +kernel
  have hbroken : brokenTree.readText (.ofText brokenPath) = .ok storedSource := by decide +kernel
  have hname : moduleName (.ofText "s.rs") = "s" := by decide +kernel
  have hbrokenName : moduleName (.ofText brokenPath) = ".rs" := by decide +kernel
  obtain ⟨_, hsource, hgenerate⟩ := generateFrom_eq_ok.mp htext
  obtain rfl := Except.ok.inj (hread.symm.trans hsource)
  rw [hname] at hgenerate
  rcases sameBelowBanner_of_generate storedSource "s" "s.rs" ".rs" brokenPath
    with ⟨e, he, -⟩ | ⟨api, _, text', hok, hok', hsame⟩
  · exact nomatch he.symm.trans hgenerate
  · obtain ⟨-, rfl⟩ := Prod.mk.inj (Except.ok.inj (hgenerate.symm.trans hok))
    exact ⟨text, _, text', htext,
      generateFrom_eq_ok.mpr ⟨storedSource, hbroken, hbrokenName ▸ hok'⟩, hsame⟩

/-- **A line break in a path adds code.** What stands behind it in the path begins the second
line of the code, and is no comment. -/
theorem line_break_in_path_adds_code : ∃ text api text',
    generateFrom storedTree "s.rs" = .ok (storedApi, text)
      ∧ generateFrom brokenTree brokenPath = .ok (api, text')
      ∧ (pieces '\n' text'.toList).tail
        = "struct Evil;//.rs (module \x60.rs\x60). DO NOT EDIT.".toList
          :: (pieces '\n' text.toList).tail := by
  obtain ⟨text, api, text', htext, htext', hsame⟩ := exists_generateFrom_brokenTree
  have hline : (pieces '\n' (banner "s" "s.rs").toList).tail = [] := by decide +kernel
  have hlines : (pieces '\n' (banner ".rs" brokenPath).toList).tail
      = ["struct Evil;//.rs (module \x60.rs\x60). DO NOT EDIT.".toList] := by decide +kernel
  obtain ⟨below, hpieces, hpieces'⟩ := hsame.below
  refine ⟨text, api, text', htext, htext', ?_⟩
  rw [hpieces, hpieces', tail_banner_append, tail_banner_append, hline, hlines,
    List.nil_append, List.singleton_append]

/-- Two paths without line breaks give code that is the same below its first line, and the path
with one gives other code. -/
theorem code_below_banner_of_paths : ∃ text named api broken,
    render storedApi "s.rs" = .ok text
      ∧ render { storedApi with moduleName := "t" } "src/t.rs" = .ok named
      ∧ (pieces '\n' text.toList).tail = (pieces '\n' named.toList).tail
      ∧ generateFrom storedTree "s.rs" = .ok (storedApi, text)
      ∧ generateFrom brokenTree brokenPath = .ok (api, broken)
      ∧ (pieces '\n' text.toList).tail ≠ (pieces '\n' broken.toList).tail := by
  obtain ⟨text, api, broken, htext, hbroken, -⟩ := exists_generateFrom_brokenTree
  have hread : storedTree.readText (.ofText "s.rs") = .ok storedSource := by decide +kernel
  have hread' : brokenTree.readText (.ofText brokenPath) = .ok storedSource := by decide +kernel
  obtain ⟨_, -, hgenerate⟩ := generateFrom_eq_ok.mp htext
  have hrender : render storedApi "s.rs" = .ok text := (generate_eq_ok.mp hgenerate).2
  rcases (code_below_banner storedApi storedSource "s" "s.rs" "t" "src/t.rs").1
    with ⟨e, he, -⟩ | ⟨_, named, hok, hnamed, hsame⟩
  · exact nomatch he.symm.trans hrender
  · obtain rfl := Except.ok.inj (hrender.symm.trans hok)
    refine ⟨text, named, api, broken, hrender, hnamed, ?_, htext, hbroken, fun htail => ?_⟩
    · exact (hsame.oneLine (by decide) (by decide)).mpr ⟨by decide, by decide⟩
    · have hnone := ((code_below_banner storedApi storedSource "s" "s.rs" ".rs" brokenPath).2.2
        storedTree brokenTree _ _ _ _ hread hread' htext hbroken (by decide)).mp htail
      exact hnone (by decide)

end Switchboard
