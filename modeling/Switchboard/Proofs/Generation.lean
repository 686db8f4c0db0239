import Switchboard.Generation
import Switchboard.Proofs.Dispatch.Resolution
import Switchboard.Proofs.Files.Tree

/-!
# All or nothing

Everything that can be refused about a source is refused before the first file is
touched: reading, parsing, the rules, the links and the text of the code come
first. What can still fail is saving the text, and a save that fails leaves at most
directories towards the output behind.

A run that succeeds leaves the text of the code in the output file. Done again it
reads the same source, unless the two files are one, and so comes to the same text,
and it finds both the directories and the file as it would leave them.
-/

namespace Switchboard

open Files Files.Tree Text

theorem generate_eq_ok {source file moduleName text : String} {api : Api} :
    generate source file moduleName = .ok (api, text)
      ↔ Api.ofSource moduleName source file = .ok api
        ∧ Dispatch.render api file = .ok text := by
  rw [generate, bind_eq_ok]
  constructor
  · rintro ⟨a, ha, h⟩
    obtain ⟨b, hb, h⟩ := bind_eq_ok.mp h
    obtain ⟨rfl, rfl⟩ := Prod.mk.inj (Except.ok.inj h)
    exact ⟨ha, hb⟩
  · rintro ⟨ha, hb⟩
    exact ⟨api, ha, bind_eq_ok.mpr ⟨text, hb, rfl⟩⟩

theorem generateFrom_eq_ok {t : Tree} {input : String} {made : Api × String} :
    generateFrom t input = .ok made
      ↔ ∃ source, t.readText (.ofText input) = .ok source
        ∧ generate source input (moduleName (.ofText input)) = .ok made := by
  rw [generateFrom, bind_eq_ok]
  simp only [mapError_eq_ok]

/-- **The ways a run goes**: it is refused before it touches a file, or it saves the
text it made, and that is refused or goes through. -/
theorem generateFile_cases {t t' : Tree} {input output : String}
    {result : Except GenerationError Api} (h : generateFile t input output = (t', result)) :
    (∃ e, generateFrom t input = .error e ∧ t' = t ∧ result = .error e)
      ∨ ∃ api text, generateFrom t input = .ok (api, text)
        ∧ ((∃ e, t.save (.ofText output) (utf8 text) = (t', some e)
            ∧ result = .error (.write output e))
          ∨ (t.save (.ofText output) (utf8 text) = (t', none) ∧ result = .ok api)) := by
  rw [generateFile] at h
  split at h
  · next hfrom =>
    obtain ⟨rfl, rfl⟩ := Prod.mk.inj h
    exact .inl ⟨_, hfrom, rfl, rfl⟩
  · next hfrom =>
    refine .inr ⟨_, _, hfrom, ?_⟩
    split at h
    · next hsave =>
      obtain ⟨rfl, rfl⟩ := Prod.mk.inj h
      exact .inr ⟨hsave, rfl⟩
    · next hsave =>
      obtain ⟨rfl, rfl⟩ := Prod.mk.inj h
      exact .inl ⟨_, hsave, rfl⟩

theorem generateFile_eq_ok {t t' : Tree} {input output : String} {api : Api} :
    generateFile t input output = (t', .ok api)
      ↔ ∃ text, generateFrom t input = .ok (api, text)
        ∧ t.save (.ofText output) (utf8 text) = (t', none) := by
  constructor
  · intro h
    rcases generateFile_cases h with ⟨e, _, _, h⟩ | ⟨a, text, hfrom, ⟨e, _, h⟩ | ⟨hsave, h⟩⟩
    · exact nomatch h
    · exact nomatch h
    · obtain rfl := Except.ok.inj h
      exact ⟨text, hfrom, hsave⟩
  · rintro ⟨text, hfrom, hsave⟩
    rw [generateFile, hfrom]
    dsimp only
    rw [hsave]

/-- **A run leaves all or nothing.** When anything but the writing is refused, the
tree is as it was. When the writing is, every place is as it was or has a directory
made towards the output. A run that succeeds returns the API of the source and leaves
its code in the output file, where no directory was; it makes directories towards that
file and touches nothing else, and if the source is another file, the same run again
returns the same and changes nothing. -/
theorem generateFile_all_or_nothing (t t' : Tree) (input output : String) :
    (∀ e, generateFile t input output = (t', .error e) →
      (∀ file cause, e ≠ .write file cause) → t' = t)
    ∧ (∀ file cause, generateFile t input output = (t', .error (.write file cause)) →
      ∀ place, t'.node? place = t.node? place ∨ MadeTowards t t' (.ofText output) place)
    ∧ ∀ api, generateFile t input output = (t', .ok api) →
      ∃ source text place, t.readText (.ofText input) = .ok source
        ∧ Api.ofSource (moduleName (.ofText input)) source input = .ok api
        ∧ generate source input (moduleName (.ofText input)) = .ok (api, text)
        ∧ SavedAt t t' (.ofText output) (utf8 text) place
        ∧ (t'.walk (.ofText input) ≠ .ok place →
          generateFile t' input output = (t', .ok api)) := by
  refine ⟨fun e h hother => ?_, fun file cause h place => ?_, fun api h => ?_⟩
  · rcases generateFile_cases h with ⟨_, _, ht, _⟩ | ⟨_, _, _, ⟨c, _, he⟩ | ⟨_, he⟩⟩
    · exact ht
    · exact absurd (Except.error.inj he) (hother output c)
    · exact nomatch he
  · rcases generateFile_cases h with ⟨_, _, ht, _⟩ | ⟨_, _, _, ⟨_, hsave, _⟩ | ⟨_, he⟩⟩
    · exact .inl (congrArg (·.node? place) ht)
    · exact node?_of_save_error hsave place
    · exact nomatch he
  · obtain ⟨text, hfrom, hsave⟩ := generateFile_eq_ok.mp h
    obtain ⟨source, hread, hgenerate⟩ := generateFrom_eq_ok.mp hfrom
    obtain ⟨place, hsaved, hagain⟩ := savedAt_of_save hsave
    refine ⟨source, text, place, hread, (generate_eq_ok.mp hgenerate).1, hgenerate,
      hsaved, fun hinput => ?_⟩
    -- the same source makes the same text, and saving it again changes nothing
    exact generateFile_eq_ok.mpr ⟨text,
      generateFrom_eq_ok.mpr ⟨source, hsaved.readText hinput hread, hgenerate⟩, hagain⟩

/-- A source with one handler. -/
def storedSource : String := join "\n" [
  "struct P \x7b", "/// apivalidator:\"required\"", "t: String", "\x7d",
  "impl S \x7b", "/// apigen:api \x7b\"url\": \"/a\"\x7d",
  "fn f(&self, p: &P) -> Result<P, E> \x7b\x7d", "\x7d"]

/-- The API of that source. -/
def storedApi : Api :=
  ⟨"s", [⟨"S", "f", "p", "P", true, none, "P", ⟨"/a", false, ""⟩, some 0, ⟨"s.rs", 7, 4⟩⟩],
    [⟨"P", [⟨"t", .string, "apivalidator:\"required\"",
      ⟨true, true, "", [], "", none, none⟩⟩], false, ⟨"s.rs", 1, 8⟩⟩]⟩

/-- A tree with that source in a file. -/
def storedTree : Tree :=
  ⟨[(workingPlace, .directory), (["", "s.rs"], .file (utf8 storedSource))]⟩

theorem exists_generateFrom_storedTree :
    ∃ text, generateFrom storedTree "s.rs" = .ok (storedApi, text) := by
  have hapi : Api.ofSource "s" storedSource "s.rs" = .ok storedApi := by
    rw [Api.ofSource, Source.declarations, Source.fileTokens, storedSource, join,
      String.toList_intercalate]
    simp only [List.map_cons, List.map_nil]
    repeat rewrite [String.toList_ofList]
    decide +kernel
  have hread : storedTree.readText (.ofText "s.rs") = .ok storedSource := by decide +kernel
  have hname : moduleName (.ofText "s.rs") = "s" := by decide +kernel
  cases hgenerate : generate storedSource "s.rs" "s" with
  | error e => exact nomatch hapi.symm.trans (generate_eq_error_iff.mp hgenerate)
  | ok made =>
    obtain ⟨api, text⟩ := made
    obtain rfl := Except.ok.inj (hapi.symm.trans (generate_eq_ok.mp hgenerate).1)
    exact ⟨text, generateFrom_eq_ok.mpr ⟨storedSource, hread, hname ▸ hgenerate⟩⟩

/-- A run that reads nothing, one that saves below a new directory and is done again,
and one whose output is a directory made on the way. -/
theorem generateFile_all_or_nothing_of_stored_source :
    generateFile storedTree "t.rs" "new/d.rs" = (storedTree, .error (.read "t.rs" .missing))
      ∧ (∃ t, generateFile storedTree "s.rs" "new/d.rs" = (t, .ok storedApi)
        ∧ storedTree.node? ["", "new"] = none ∧ t.node? ["", "new"] = some .directory
        ∧ generateFile t "s.rs" "new/d.rs" = (t, .ok storedApi))
      ∧ ∃ t, generateFile storedTree "s.rs" "new/sub/.."
          = (t, .error (.write "new/sub/.." .isADirectory))
        ∧ t.node? ["", "new", "sub"] = some .directory
        ∧ t.node? ["", "s.rs"] = some (.file (utf8 storedSource)) := by
  obtain ⟨text, hfrom⟩ := exists_generateFrom_storedTree
  have hoff : Path.ofText "new/d.rs" = ⟨false, ["new", "d.rs"], false⟩ := by decide +kernel
  have hup : Path.ofText "new/sub/.." = ⟨false, ["new", "sub", ".."], false⟩ := by
    decide +kernel
  have hin : Path.ofText "s.rs" = ⟨false, ["s.rs"], false⟩ := by decide +kernel
  refine ⟨?_, ?_, ?_⟩
  · cases hrun : generateFile storedTree "t.rs" "new/d.rs" with
    | mk t result =>
      have hresult : result = .error (.read "t.rs" .missing) := by
        have hfrom : generateFrom storedTree "t.rs" = .error (.read "t.rs" .missing) := by
          decide +kernel
        rw [generateFile, hfrom] at hrun
        exact (Prod.mk.inj hrun).2.symm
      subst hresult
      rw [(generateFile_all_or_nothing _ _ _ _).1 _ hrun (by simp)]
  · let t : Tree := ⟨[(workingPlace, .directory),
      (["", "s.rs"], .file (utf8 storedSource)), (["", "new"], .directory),
      (["", "new", "d.rs"], .file (utf8 text))]⟩
    have hsave : storedTree.save ⟨false, ["new", "d.rs"], false⟩ (utf8 text) = (t, none) :=
      rfl
    have hrun : generateFile storedTree "s.rs" "new/d.rs" = (t, .ok storedApi) :=
      generateFile_eq_ok.mpr ⟨text, hfrom, hoff ▸ hsave⟩
    obtain ⟨_, _, place, -, -, -, hsaved, hagain⟩ :=
      (generateFile_all_or_nothing _ _ _ _).2.2 _ hrun
    have hplace : place = ["", "new", "d.rs"] :=
      Except.ok.inj (hsaved.leads.symm.trans (hoff ▸ rfl))
    have hsource : t.walk ⟨false, ["s.rs"], false⟩ = .ok ["", "s.rs"] := rfl
    refine ⟨t, hrun, rfl, rfl, hagain ?_⟩
    rw [hplace, hin, hsource]
    decide
  · let t : Tree := ⟨[(workingPlace, .directory),
      (["", "s.rs"], .file (utf8 storedSource)), (["", "new"], .directory),
      (["", "new", "sub"], .directory)]⟩
    have hsave : storedTree.save ⟨false, ["new", "sub", ".."], false⟩ (utf8 text)
        = (t, some .isADirectory) := rfl
    have hrun : generateFile storedTree "s.rs" "new/sub/.."
        = (t, .error (.write "new/sub/.." .isADirectory)) := by
      rw [generateFile, hfrom]
      dsimp only
      rw [hup, hsave]
    refine ⟨t, hrun, rfl, ?_⟩
    rcases (generateFile_all_or_nothing _ _ _ _).2.1 _ _ hrun ["", "s.rs"] with
      hsame | hmade
    · exact hsame
    · exact absurd hmade (not_madeTowards rfl)

end Switchboard
