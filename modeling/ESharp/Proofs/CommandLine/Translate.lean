import ESharp.CommandLine.Run
import ESharp.Proofs.CommandLine.Grammar
import ESharp.Proofs.Files.Writing

/-!
# Translations change all or nothing

A translation loads its configuration, reads its script and writes it in a format before it opens any
file. Main statement: a translation that fails leaves everything as it was and prints nothing, and one
that succeeds delivers the text it was asked for, and does nothing else.
-/

namespace ESharp.CommandLine

/-- The text that a translation is to deliver. The configuration has to be good, the script readable, and
the format known. -/
def Translates (d : Directory) (i : Invocation) (path format t : Text) : Prop :=
  ∃ c source, Config.load d (layers i) = .ok c ∧ d.read path = .ok source ∧
    Registry.standard.process c.program format source = .ok t

lemma Translates.unique {d : Directory} {i : Invocation} {path format t t' : Text}
    (h : Translates d i path format t) (h' : Translates d i path format t') : t = t' := by
  obtain ⟨c,source,hload,hread,hprocess⟩ := h
  obtain ⟨c',source',hload',hread',hprocess'⟩ := h'
  obtain rfl : c = c' := Except.ok.inj (hload.symm.trans hload')
  obtain rfl : source = source' := Except.ok.inj (hread.symm.trans hread')
  exact Except.ok.inj (hprocess.symm.trans hprocess')

/-- The text is printed and no file changes, or it is stored in a file, which holds it then, and nothing
is printed. -/
def Delivers (d : Directory) (t : Text) (after : Directory) (printed : Text) : Option Text → Prop
  | none => printed = t ∧ after = d
  | some goal =>
    printed = [] ∧ ∃ place, d.Opens goal place ∧ d.Stores place (.text t) after ∧
      (d.Keeps place → after.read goal = .ok t)

/-- The output of a translation can be opened, if there is one. -/
def CanOpen (d : Directory) (output : Option Text) : Prop := ∀ goal ∈ output, ∃ place, d.Opens goal place

/-- The run failed and did nothing. -/
structure Report.Fails (r : Report) (d : Directory) : Prop where
  code : r.code = 1
  directory : r.directory = d
  output : r.output = []

lemma fails_fail (d : Directory) (message : Text) (events : List Event) :
    (fail d message events).Fails d := ⟨rfl, rfl, rfl⟩

lemma process_cases (c : Config) (d : Directory) (path format : Text) :
    (∃ source t events, d.read path = .ok source ∧
      Registry.standard.process c.program format source = .ok t ∧
      Source.process .standard c.program d path format = ⟨.ok t, events⟩) ∨
    (¬∃ source t, d.read path = .ok source ∧
      Registry.standard.process c.program format source = .ok t) ∧
      ∃ e events, Source.process .standard c.program d path format = ⟨.error e, events⟩ := by
  cases hread : d.read path with
  | error e => simp [Source.process, Source.read, hread]
  | ok source =>
    cases hprocess : Registry.standard.process c.program format source with
    | error e => simp [Source.process, Source.read, hread, hprocess]
    | ok t => simp [Source.process, Source.read, hread, hprocess]

lemma translate_of_process_error {c : Config} {d : Directory} {path format : Text} {e : SourceError}
    {events : List Event} (h : Source.process .standard c.program d path format = ⟨.error e, events⟩)
    (output : Option Text) : (translate c d path output format).Fails d := by
  simp only [translate, h]
  exact fails_fail d e.message events

lemma translate_of_process_ok {c : Config} {d : Directory} {path format t : Text} {events : List Event}
    (h : Source.process .standard c.program d path format = ⟨.ok t, events⟩) (output : Option Text) :
    let r := translate c d path output format
    CanOpen d output ∧ r.code = 0 ∧ Delivers d t r.directory r.output output ∨
      ¬CanOpen d output ∧ r.Fails d := by
  intro r
  cases output with
  | none =>
    have hr : r = { directory := d, output := t, events } := by simp only [r, translate, h]
    rw [hr]
    exact .inl ⟨by simp [CanOpen], rfl, rfl, rfl⟩
  | some goal =>
    rcases d.writeContent_cases goal (.text t) with
      ⟨place,after,hopens,hwrite,hstores⟩ | ⟨hopens,e,hwrite⟩
    · have hr : ∃ events, r = { directory := after, events } := by
        simp [r, translate, h, Source.write, Directory.write, hwrite]
      obtain ⟨events,hr⟩ := hr
      rw [hr]
      refine .inl ⟨by simpa [CanOpen] using ⟨place, hopens⟩, rfl, rfl, place, hopens, hstores, ?_⟩
      exact hstores.read hopens
    · have hr : ∃ message events, r = fail d message events := by
        simp [r, translate, h, Source.write, Directory.write, hwrite]
      obtain ⟨message,events,hr⟩ := hr
      rw [hr]
      exact .inr ⟨by simpa [CanOpen] using hopens, fails_fail d message events⟩

lemma execute_translate (d : Directory) {i : Invocation} {path format : Text} {output : Option Text}
    (hcommand : i.command = .translate path output format) :
    let r := execute d i
    (∃ t, Translates d i path format t ∧ CanOpen d output ∧ r.code = 0 ∧
        Delivers d t r.directory r.output output) ∨
      (¬∃ t, Translates d i path format t ∧ CanOpen d output) ∧ r.Fails d := by
  intro r
  cases hload : Config.load d (layers i) with
  | error e =>
    refine .inr ⟨by simp [Translates, hload], ?_⟩
    change (execute d i).Fails d
    rw [execute, hload]
    exact fails_fail d e.message []
  | ok c =>
    have hr : r = translate c d path output format := by
      change execute d i = _
      rw [execute, hload]
      simp only [hcommand]
    rw [hr]
    rcases process_cases c d path format with ⟨source,t,events,hread,hprocess,h⟩ | ⟨hnone,e,events,h⟩
    · have ht : Translates d i path format t := ⟨c, source, hload, hread, hprocess⟩
      rcases translate_of_process_ok h output with ⟨hopen,hcode,hdelivers⟩ | ⟨hopen,hfails⟩
      · exact .inl ⟨t, ht, hopen, hcode, hdelivers⟩
      · exact .inr ⟨fun ⟨_,_,h⟩ => hopen h, hfails⟩
    · refine .inr ⟨?_, translate_of_process_error h output⟩
      rintro ⟨t,⟨c',source,hload',hread,hprocess⟩,-⟩
      obtain rfl : c = c' := Except.ok.inj (hload.symm.trans hload')
      exact hnone ⟨source, t, hread, hprocess⟩

/-- A translation ends with zero if its text can be made and its output can be opened, and with one
otherwise. With one it has changed no file and printed nothing, and with zero it has delivered the text. -/
theorem translation_all_or_nothing (d : Directory) {args : List Text} {i : Invocation}
    {path format : Text} {output : Option Text} (hline : TranslationLine args i)
    (hcommand : i.command = .translate path output format) :
    let r := run d args
    (r.code = 0 ∨ r.code = 1) ∧
      (r.code = 0 ↔ ∃ t, Translates d i path format t ∧ CanOpen d output) ∧
      (r.code = 1 → r.directory = d ∧ r.output = []) ∧
      (r.code = 0 → ∃ t, Translates d i path format t ∧ Delivers d t r.directory r.output output) := by
  intro r
  have hr : r = (execute d i).filterEvents i.verbose := by
    change run d args = _
    rw [run, (translationLine_iff.mp hline).1]
  rw [hr]
  rcases execute_translate d hcommand with ⟨t,ht,hopen,hcode,hdelivers⟩ | ⟨hnone,hcode,hdirectory,houtput⟩
  · have hzero : ((execute d i).filterEvents i.verbose).code = 0 := hcode
    refine ⟨.inl hzero, ⟨fun _ => ⟨t, ht, hopen⟩, fun _ => hzero⟩, ?_, fun _ => ⟨t, ht, hdelivers⟩⟩
    intro hone
    omega
  · have hone : ((execute d i).filterEvents i.verbose).code = 1 := hcode
    refine ⟨.inr hone, ⟨?_, fun h => absurd h hnone⟩, fun _ => ⟨hdirectory, houtput⟩, ?_⟩
    · intro hzero
      omega
    · intro hzero
      omega

/-- A translation over its own script succeeds, and one to a directory fails. -/
theorem translation_over_script_or_directory :
    let d : Directory := { entries :=
      [(["a.es".toList], .file (.text "import A".toList) true), (["b".toList], .directory)] }
    let line (goal : Text) : List Text :=
      ["--class-name".toList, "App".toList, "translate".toList, "-vo".toList, goal, "a.es".toList]
    let i (goal : Text) : Invocation :=
      { className := some "App".toList, verbose := true,
        command := .translate "a.es".toList (some goal) "csharp".toList }
    let text : Text := "using A;\n\npublic class App\n\x7b\n".toList ++
      "    private static void Main(string[] args)\n    \x7b\n    \x7d\n\x7d\n".toList
    let good := run d (line "a.es".toList)
    let bad := run d (line "b".toList)
    (TranslationLine (line "a.es".toList) (i "a.es".toList) ∧ good.code = 0 ∧ good.output = [] ∧
      good.directory.read "a.es".toList = .ok text) ∧
      TranslationLine (line "b".toList) (i "b".toList) ∧ bad.code = 1 ∧ bad.directory = d ∧
        bad.output = [] := by
  intro d line i text good bad
  have hgood : TranslationLine (line "a.es".toList) (i "a.es".toList) :=
    translationLine_iff.mpr ⟨rfl, _, _, _, rfl⟩
  have hbad : TranslationLine (line "b".toList) (i "b".toList) :=
    translationLine_iff.mpr ⟨rfl, _, _, _, rfl⟩
  have hplace : d.Opens "a.es".toList ["a.es".toList] := ⟨rfl, rfl, by decide⟩
  refine ⟨⟨hgood, ?_⟩, hbad, ?_⟩
  · obtain ⟨-,hzero,-,hdelivers⟩ := translation_all_or_nothing d hgood rfl
    have ht : Translates d (i "a.es".toList) "a.es".toList "csharp".toList text :=
      ⟨⟨{ className := "App".toList }, ⟨"csc".toList,
        ["\x7bsource\x7d".toList, "/out:\x7boutput\x7d".toList], [], ["\x7bsource\x7d".toList]⟩⟩,
        "import A".toList, by decide +kernel, rfl, by decide +kernel⟩
    have hcode : good.code = 0 := hzero.mpr ⟨_, ht, by simpa [CanOpen] using ⟨_, hplace⟩⟩
    obtain ⟨t,ht',hprinted,place,hopens,-,hread⟩ := hdelivers hcode
    obtain rfl := ht.unique ht'
    obtain rfl : place = ["a.es".toList] := Except.ok.inj (hopens.leads.symm.trans hplace.leads)
    have hkeeps : d.get? ["a.es".toList] ≠ some .void := by decide
    exact ⟨hcode, hprinted, hread hkeeps⟩
  · obtain ⟨hcode,hzero,hfails,-⟩ := translation_all_or_nothing d hbad rfl
    have hdirectory : ¬CanOpen d (some "b".toList) := by
      intro hopen
      obtain ⟨place,hopens⟩ := hopen _ rfl
      obtain rfl : ["b".toList] = place := Except.ok.inj hopens.leads
      exact hopens.not_directory rfl
    have hone : bad.code = 1 :=
      hcode.resolve_left fun h => (hzero.mp h).elim fun _ ht => hdirectory ht.2
    exact ⟨hone, hfails hone⟩

end ESharp.CommandLine
