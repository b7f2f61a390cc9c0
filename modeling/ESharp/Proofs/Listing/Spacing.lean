import ESharp.Proofs.Listing.Numbers
import ESharp.Proofs.Program.Collecting
import ESharp.Proofs.Text.Trim

/-!
# Spacing of a script

The same lines can be written down in many ways: with blanks at their ends, with blank lines around
them, and with either kind of line end, which the last line may lack. Main statement: none of this
shows in the program or in the listing, apart from the numbers, and those are places in the text.
-/

namespace ESharp

/-- No line end starts inside the text. -/
def Text.InLine (t : Text) : Prop := '\r' ∉ t ∧ '\n' ∉ t

/-- What can end a line. -/
def Text.lineEnds : List Text := [['\n'], ['\r', '\n']]

/-- The text has these lines, each with a line end after it. Only the last one may lack it. -/
inductive Text.Ended : List Text → Text → Prop
  | nil : Ended [] []
  | last (l : Text) : Ended [l] l
  | cons {l stop t : Text} {ls : List Text} (hstop : stop ∈ lineEnds) (rest : Ended ls t) :
      Ended (l :: ls) (l ++ (stop ++ t))

/-- The second lines are the first with blanks put at their ends and blank lines put around them. -/
inductive Script.Padded : List Text → List Text → Prop
  | nil : Padded [] []
  | blank {b : Text} {ls ps : List Text} (hb : Text.Blank b) (rest : Padded ls ps) :
      Padded ls (b :: ps)
  | line {a b l : Text} {ls ps : List Text} (ha : Text.Blank a) (hb : Text.Blank b)
      (rest : Padded ls ps) : Padded (l :: ls) ((a ++ (l ++ b)) :: ps)

namespace Text

lemma Blank.inLine {b : Text} (hb : Blank b) : InLine b :=
  ⟨fun h => absurd (hb _ h) (by decide), fun h => absurd (hb _ h) (by decide)⟩

lemma inLine_append {t u : Text} : InLine (t ++ u) ↔ InLine t ∧ InLine u := by
  simp only [InLine, List.mem_append]
  tauto

lemma inLine_cons {c : Char} {t : Text} : InLine (c :: t) ↔ (c ≠ '\r' ∧ c ≠ '\n') ∧ InLine t := by
  simp only [InLine, List.mem_cons]
  tauto

lemma lines_cons_of_ne {c : Char} (hr : c ≠ '\r') (hn : c ≠ '\n') {t l : Text} {ls : List Text}
    (h : lines t = l :: ls) : lines (c :: t) = (c :: l) :: ls := by
  rw [lines, h]
  · exact hn
  · rintro u rfl
    exact absurd rfl hr

/-- A line is read up to its line end. -/
lemma lines_append_stop {l stop : Text} (hl : InLine l) (hstop : stop ∈ lineEnds) (t : Text) :
    lines (l ++ (stop ++ t)) = l :: lines t := by
  induction l with
  | nil =>
    rcases List.mem_pair.mp hstop with rfl | rfl <;> rfl
  | cons c l ih =>
    obtain ⟨⟨hr,hn⟩,hl⟩ := inLine_cons.mp hl
    exact lines_cons_of_ne hr hn (ih hl)

lemma lines_of_inLine {l : Text} (hl : InLine l) (hne : l ≠ []) : lines l = [l] := by
  induction l with
  | nil => exact absurd rfl hne
  | cons c l ih =>
    obtain ⟨⟨hr,hn⟩,hl⟩ := inLine_cons.mp hl
    cases l with
    | nil => rw [lines] <;> simp_all
    | cons d l => exact lines_cons_of_ne hr hn (ih hl (by simp))

/-- Reading finds the lines again. One empty line is lost where the text ends without a line end. -/
theorem Ended.eq_lines_append {ls : List Text} {t : Text} (h : Ended ls t)
    (hls : ∀ l ∈ ls, InLine l) : ∃ rest, ls = lines t ++ rest ∧ ∀ l ∈ rest, l = [] := by
  induction h with
  | nil => exact ⟨[], rfl, by simp⟩
  | last l =>
    by_cases hne : l = []
    · exact ⟨[l], by simp [hne], by simpa using hne⟩
    · exact ⟨[], by simp [lines_of_inLine (hls l (by simp)) hne], by simp⟩
  | @cons l stop t ls hstop rest ih =>
    obtain ⟨hl,hls⟩ := List.forall_mem_cons.mp hls
    obtain ⟨last,hrest,hlast⟩ := ih hls
    exact ⟨last, by rw [lines_append_stop hl hstop, List.cons_append, ← hrest], hlast⟩

end Text

namespace Script
variable {ls ps : List Text}

lemma Padded.inLine (h : Padded ls ps) (hls : ∀ l ∈ ls, Text.InLine l) :
    ∀ p ∈ ps, Text.InLine p := by
  induction h with
  | nil => simp
  | blank hb rest ih => exact List.forall_mem_cons.mpr ⟨hb.inLine, ih hls⟩
  | line ha hb rest ih =>
    obtain ⟨hl,hls⟩ := List.forall_mem_cons.mp hls
    refine List.forall_mem_cons.mpr ⟨?_, ih hls⟩
    exact Text.inLine_append.mpr ⟨ha.inLine, Text.inLine_append.mpr ⟨hl, hb.inLine⟩⟩

lemma Padded.nonblank_eq (h : Padded ls ps) : Listing.nonblank ps = Listing.nonblank ls := by
  induction h with
  | nil => rfl
  | blank hb rest ih =>
    have hblank : Text.trim _ = [] := Text.trim_eq_nil_iff.mpr hb
    simpa [Listing.nonblank, hblank] using ih
  | @line a b l ls ps ha hb rest ih =>
    have htrim : Text.trim (a ++ (l ++ b)) = Text.trim l := by
      rw [Text.trim_blanks_append _ ha, Text.trim_append_blanks _ hb]
    rw [Listing.nonblank_cons, Listing.nonblank_cons l, ih]
    simp [Listing.nonblank, htrim]

end Script

/-- What an entry says, without its place. -/
def Entry.content (e : Entry) : Text × Directive := (e.source, e.directive)

namespace Listing

lemma map_content_ofLines (ls : List Text) :
    (ofLines ls).map Entry.content = (nonblank ls).map fun t => (t, Directive.classify t) := by
  rw [← map_snd_numberedFrom 1, ofLines, List.map_map, List.map_map]
  rfl

/-- The numbers go up, and each is the place of a line that is the source but for its padding. -/
structure Placed (ls : List Text) (es : List Entry) : Prop where
  increasing : es.Pairwise fun a b => a.number < b.number
  place : ∀ e ∈ es, 1 ≤ e.number ∧ ∃ l, ls[e.number - 1]? = some l ∧ Text.trim l = e.source

lemma placed_ofLines_append (ls rest : List Text) : Placed (ls ++ rest) (ofLines ls) where
  increasing := pairwise_ofLines ls
  place := by
    intro e he
    obtain ⟨hn,-,⟨l,hl,htrim⟩,-⟩ := mem_ofLines_iff.mp he
    refine ⟨hn, l, ?_, htrim⟩
    rw [List.getElem?_append_left (List.getElem?_eq_some_iff.mp hl).1, hl]

end Listing

/-- Only what the nonblank lines are makes a difference to the program. -/
lemma Program.ofLines_congr {layout : Layout} {ls ks : List Text}
    (h : Listing.nonblank ls = Listing.nonblank ks) : ofLines layout ls = ofLines layout ks := by
  have hdirectives : ∀ ls, (Listing.ofLines ls).map Entry.directive =
      (Listing.nonblank ls).map Directive.classify := by
    intro ls
    have hcontent := congrArg (List.map Prod.snd) (Listing.map_content_ofLines ls)
    simpa [Entry.content, Function.comp_def] using hcontent
  rw [ofLines_eq_ofDirectives, ofLines_eq_ofDirectives, ← Listing.map_directive_ofLines,
    ← Listing.map_directive_ofLines, hdirectives, hdirectives, h]

namespace Script

/-- However lines are written down, reading finds them all and adds none but blank ones. -/
lemma Padded.nonblank_lines {ls ps : List Text} {t : Text} (h : Padded ls ps) (ht : Text.Ended ps t)
    (hls : ∀ l ∈ ls, Text.InLine l) :
    Listing.nonblank (Text.lines t) = Listing.nonblank ls ∧
      Listing.Placed ps (Listing.ofSource t) := by
  obtain ⟨rest,hps,hrest⟩ := ht.eq_lines_append (h.inLine hls)
  have hblank : Listing.nonblank rest = [] := by
    simp only [Listing.nonblank, List.filter_eq_nil_iff, List.forall_mem_map]
    intro l hl
    simp [hrest l hl]
  constructor
  · rw [← h.nonblank_eq, hps, Listing.nonblank_append, hblank, List.append_nil]
  · have hplaced := Listing.placed_ofLines_append (Text.lines t) rest
    rwa [← hps] at hplaced

/-- Two texts that write the same lines down make the same program, and their listings say the same,
which is what the lines say. The numbers are places among the lines of each text. -/
theorem spacing_ignored (layout : Layout) {ls ps qs : List Text} {t u : Text}
    (hls : ∀ l ∈ ls, '\r' ∉ l ∧ '\n' ∉ l) (hps : Padded ls ps) (ht : Text.Ended ps t)
    (hqs : Padded ls qs) (hu : Text.Ended qs u) :
    Program.translate layout (Text.lines t) = Program.translate layout (Text.lines u) ∧
      Program.translate layout (Text.lines t) = Program.translate layout ls ∧
      (Listing.ofSource t).map Entry.content = (Listing.ofSource u).map Entry.content ∧
      (Listing.ofSource t).map Entry.content = (Listing.ofLines ls).map Entry.content ∧
      Listing.Placed ps (Listing.ofSource t) ∧ Listing.Placed qs (Listing.ofSource u) := by
  obtain ⟨hlines,hplaced⟩ := hps.nonblank_lines ht hls
  obtain ⟨hlines',hplaced'⟩ := hqs.nonblank_lines hu hls
  have hprogram : ∀ {ks}, Listing.nonblank ks = Listing.nonblank ls →
      Program.translate layout ks = Program.translate layout ls := by
    intro ks h
    rw [Program.translate, Program.translate, Program.ofLines_congr h]
  have hcontent : ∀ {ks}, Listing.nonblank ks = Listing.nonblank ls →
      (Listing.ofLines ks).map Entry.content = (Listing.ofLines ls).map Entry.content := by
    intro ks h
    rw [Listing.map_content_ofLines, Listing.map_content_ofLines, h]
  exact ⟨(hprogram hlines).trans (hprogram hlines').symm, hprogram hlines,
    (hcontent hlines).trans (hcontent hlines').symm, hcontent hlines, hplaced, hplaced'⟩

theorem spacing_ignored_mixed :
    let ls := ["import System".toList, "print x, y".toList]
    let qs := ["\t import System".toList, [], "print x, y  ".toList]
    let t := "import System\nprint x, y\n".toList
    let u := "\t import System\r\n\nprint x, y  ".toList
    Text.Ended ls t ∧ Padded ls qs ∧ Text.Ended qs u ∧
      Program.translate {} (Text.lines t) = Program.translate {} (Text.lines u) ∧
      (Listing.ofSource t).map Entry.content = (Listing.ofSource u).map Entry.content ∧
      Listing.Placed qs (Listing.ofSource u) := by
  intro ls qs t u
  have hls : ∀ l ∈ ls, '\r' ∉ l ∧ '\n' ∉ l := by decide
  have hpad : Padded ls ls :=
    .line (a := []) (b := []) (by simp) (by simp) (.line (a := []) (b := []) (by simp) (by simp) .nil)
  have hend : Text.Ended ls ("import System".toList ++
      (['\n'] ++ ("print x, y".toList ++ (['\n'] ++ [])))) :=
    .cons (by decide) (.cons (by decide) .nil)
  have hpad' : Padded ls qs :=
    .line (a := "\t ".toList) (b := []) (by simp [Text.isBlank]) (by simp) (.blank (by simp)
      (.line (a := []) (b := "  ".toList) (by simp) (by simp [Text.isBlank]) .nil))
  have hend' : Text.Ended qs ("\t import System".toList ++
      (['\r', '\n'] ++ ([] ++ (['\n'] ++ "print x, y  ".toList)))) :=
    .cons (by decide) (.cons (by decide) (.last _))
  obtain ⟨hprogram,-,hcontent,-,-,hplaced⟩ := spacing_ignored {} hls hpad hend hpad' hend'
  exact ⟨hend, hpad', hend', hprogram, hcontent, hplaced⟩

end Script
end ESharp
