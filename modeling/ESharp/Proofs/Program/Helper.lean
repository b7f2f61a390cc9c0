import ESharp.Proofs.Program.Written

/-!
# The helper

The helper is declared once, after the entry point, when a line of the script is an assertion, and
else not at all. Code of a script that looks like the declaration is not one: it is indented deeper.
-/

namespace ESharp

lemma Text.newline_notMem_lines (source : Text) : ∀ l ∈ Text.lines source, '\n' ∉ l := by
  fun_induction Text.lines source with
  | case1 => simp
  | case2 t ih => exact List.forall_mem_cons.mpr ⟨by simp, ih⟩
  | case3 t ih => exact List.forall_mem_cons.mpr ⟨by simp, ih⟩
  | case4 c t hc hr hls ih => simpa [eq_comm] using hc
  | case5 c t hc hr l ls hls ih =>
    rw [hls, List.forall_mem_cons] at ih
    refine List.forall_mem_cons.mpr ⟨?_, ih.2⟩
    simpa [eq_comm] using ⟨hc, ih.1⟩

/-- The text does not start with a blank. -/
def Text.Flush (t : Text) : Prop := t.head?.all fun c => !isBlank c

namespace Program
variable {layout : Layout}

/-- A script without line feeds makes a program without line feeds. -/
lemma newline_notMem_ofLines (hl : layout.Without Text.isNewline) {ls : List Text}
    (h : ∀ l ∈ ls, '\n' ∉ l) :
    ∀ t ∈ (ofLines layout ls).imports ++ (ofLines layout ls).body, '\n' ∉ t := by
  obtain ⟨himports,hbody⟩ := filter_ofLines passesThrough_isNewline hl.assertHelper ls
  -- line feeds pass through, so those of the program are those of the script: none
  simp only [← Text.filter_isNewline_eq_nil_iff] at h ⊢
  rw [← List.flatMap_eq_nil_iff, List.flatMap_append, himports, hbody, List.append_eq_nil_iff,
    List.flatMap_eq_nil_iff, List.flatMap_eq_nil_iff]
  constructor
  · intro l hmem
    exact h l (List.mem_filter.mp hmem).1
  · intro l hmem
    simp [h l (List.mem_filter.mp hmem).1]

lemma lines_append_nil (layout : Layout) (p : Program) : lines layout p ++ [[]] =
    linesBefore layout p ++ (linesOfEntry layout p ++
      indented layout 1 ['}'] :: (linesAfter layout p ++ [[]])) := by
  simp [lines_eq]

lemma flush_of_mem_linesBefore {p : Program} {l : Text} (h : l ∈ linesBefore layout p) :
    Text.Flush l := by
  rcases List.mem_append.mp h with h | h
  · cases hp : p.imports with
    | nil => simp [hp, usingLines] at h
    | cons name names =>
      rw [hp] at h
      rcases List.mem_append.mp h with h | h
      · obtain ⟨n,-,rfl⟩ := List.mem_map.mp h
        rfl
      · obtain rfl := List.mem_singleton.mp h
        rfl
  · rcases List.mem_pair.mp h with rfl | rfl <;> rfl

lemma entryLine_ne_helperLine (layout : Layout) : entryLine layout ≠ helperLine layout := by
  intro h
  unfold entryLine helperLine at h
  -- names can be alike, so the parameters are compared from their end
  have hreverse := congrArg List.reverse h
  simp at hreverse

lemma flush_helperLine (layout : Layout) : Text.Flush (helperLine layout) := rfl

lemma indented_sign_ne_helperLine {c : Char} (hc : c ≠ 'p') :
    indented layout 1 [c] ≠ indented layout 1 (helperLine layout) :=
  fun h => hc (List.cons.inj (indented_injective layout 1 h)).1

section Depth
variable (hne : layout.indent ≠ []) (hblank : Text.Blank layout.indent)
include hne hblank

lemma indented_ne_of_flush (depth : Nat) (code : Text) {l : Text} (hl : Text.Flush l) :
    indented layout (depth + 1) code ≠ l := by
  rintro rfl
  obtain ⟨b,t,hindent⟩ := List.exists_cons_of_ne_nil hne
  have hb : Text.isBlank b := hblank b (by simp [hindent])
  simp [Text.Flush, indented, hindent, hb] at hl

/-- Code that starts with no blank, indented once, is no code that is indented deeper. -/
lemma indented_one_ne_indented {code : Text} (hcode : Text.Flush code) (depth : Nat) (other : Text) :
    indented layout 1 code ≠ indented layout (depth + 2) other := by
  intro h
  exact indented_ne_of_flush hne hblank depth other hcode (List.append_cancel_left h).symm

lemma indented_notMem_linesBefore (depth : Nat) (code : Text) (p : Program) :
    indented layout (depth + 1) code ∉ linesBefore layout p :=
  fun hmem => indented_ne_of_flush hne hblank depth code (flush_of_mem_linesBefore hmem) rfl

lemma indented_notMem_linesOfEntry {code : Text} (hcode : Text.Flush code)
    (hentry : code ≠ entryLine layout) (hopen : code ≠ ['{']) (p : Program) :
    indented layout 1 code ∉ linesOfEntry layout p := by
  intro hmem
  rcases List.mem_cons.mp hmem with h | hmem
  · exact hentry (indented_injective layout 1 h)
  rcases List.mem_cons.mp hmem with h | hmem
  · exact hopen (indented_injective layout 1 h)
  obtain ⟨st,-,hst⟩ := List.mem_map.mp hmem
  exact indented_one_ne_indented hne hblank hcode 0 st hst.symm

lemma helperLine_notMem_linesOfEntry (p : Program) :
    indented layout 1 (helperLine layout) ∉ linesOfEntry layout p := by
  refine indented_notMem_linesOfEntry hne hblank (flush_helperLine layout)
    (entryLine_ne_helperLine layout).symm ?_ p
  exact fun h => absurd (List.cons.inj h).1 (by decide)

lemma count_linesAfter (p : Program) :
    (linesAfter layout p ++ [[]]).count (indented layout 1 (helperLine layout)) =
      if p.assertNeeded then 1 else 0 := by
  have hflush : ∀ {l}, Text.Flush l → l ≠ indented layout 1 (helperLine layout) :=
    fun hl => (indented_ne_of_flush hne hblank 0 _ hl).symm
  have hnil := hflush (show Text.Flush [] from rfl)
  have hend := hflush (show Text.Flush ['}'] from rfl)
  have hdeeper : ∀ depth code,
      indented layout (depth + 2) code ≠ indented layout 1 (helperLine layout) :=
    fun depth code => (indented_one_ne_indented hne hblank (flush_helperLine layout) depth code).symm
  have hopen : indented layout 1 ['{'] ≠ _ := indented_sign_ne_helperLine (by decide)
  have hclose : indented layout 1 ['}'] ≠ _ := indented_sign_ne_helperLine (by decide)
  unfold linesAfter
  split_ifs
  · simp [helperLines, hnil, hend, hopen, hclose, hdeeper 0, hdeeper 1]
  · simp [hnil, hend]

theorem count_helperLine (p : Program) :
    (lines layout p ++ [[]]).count (indented layout 1 (helperLine layout)) =
      if p.assertNeeded then 1 else 0 := by
  have hclose : indented layout 1 ['}'] ≠ _ := indented_sign_ne_helperLine (by decide)
  rw [lines_append_nil, List.count_append, List.count_append, List.count_cons_of_ne hclose,
    List.count_eq_zero_of_not_mem (indented_notMem_linesBefore hne hblank 0 _ p),
    List.count_eq_zero_of_not_mem (helperLine_notMem_linesOfEntry hne hblank p),
    count_linesAfter hne hblank, Nat.zero_add, Nat.zero_add]

lemma idxOf_entryLine (p : Program) :
    (lines layout p ++ [[]]).idxOf (indented layout 1 (entryLine layout)) =
      (linesBefore layout p).length := by
  rw [lines_append_nil, List.idxOf_append_of_notMem (indented_notMem_linesBefore hne hblank 0 _ p),
    linesOfEntry, List.cons_append, List.idxOf_cons_self, Nat.add_zero]

lemma idxOf_close (p : Program) :
    (lines layout p ++ [[]]).idxOf (indented layout 1 ['}']) =
      (linesBefore layout p).length + (linesOfEntry layout p).length := by
  have hentry : ['}'] ≠ entryLine layout := fun h => absurd (List.cons.inj h).1 (by decide)
  have hflush : Text.Flush ['}'] := rfl
  have hmem := indented_notMem_linesOfEntry hne hblank hflush hentry (by decide) p
  rw [lines_append_nil, List.idxOf_append_of_notMem (indented_notMem_linesBefore hne hblank 0 _ p),
    List.idxOf_append_of_notMem hmem, List.idxOf_cons_self, Nat.add_zero]

lemma lt_idxOf_helperLine (p : Program) :
    (linesBefore layout p).length + (linesOfEntry layout p).length <
      (lines layout p ++ [[]]).idxOf (indented layout 1 (helperLine layout)) := by
  have hclose : indented layout 1 ['}'] ≠ _ := indented_sign_ne_helperLine (by decide)
  rw [lines_append_nil, List.idxOf_append_of_notMem (indented_notMem_linesBefore hne hblank 0 _ p),
    List.idxOf_append_of_notMem (helperLine_notMem_linesOfEntry hne hblank p),
    List.idxOf_cons_ne _ hclose]
  omega

end Depth

/-- The helper is declared in one line of the written program if some line of the script is an
assertion, and in none otherwise, whatever the script says. The declaration comes after the line that
closes the entry point, which is the one right after its statements. -/
theorem helper_declared_once (layout : Layout) (hnames : layout.Named) (hne : layout.indent ≠ [])
    (hblank : Text.Blank layout.indent) (source : Text) :
    let out := List.splitOn '\n' (translate layout (Text.lines source))
    let opening := layout.indent ++
      ("private static void ".toList ++ layout.entryPoint ++ "(string[] args)".toList)
    let closing := layout.indent ++ ['}']
    let declaration := layout.indent ++ ("private static void ".toList ++ layout.assertHelper ++
      "(bool condition, string expression)".toList)
    out.count declaration = (if (Text.lines source).any Script.isAssert then 1 else 0) ∧
      (declaration ∈ out →
        out.idxOf closing =
            out.idxOf opening + 2 + (ofLines layout (Text.lines source)).body.length ∧
          out.idxOf closing < out.idxOf declaration) := by
  intro out opening closing declaration
  have hindent : '\n' ∉ layout.indent := fun hmem => absurd (hblank _ hmem) (by decide)
  have hlayout := hnames.without_isNewline hindent
  have hout : out = lines layout (ofLines layout (Text.lines source)) ++ [[]] :=
    splitOn_render hlayout (newline_notMem_ofLines hlayout (Text.newline_notMem_lines source))
  have hclosing : closing = indented layout 1 ['}'] := rfl
  have hopening : opening = indented layout 1 (entryLine layout) := rfl
  have hdeclaration : declaration = indented layout 1 (helperLine layout) := rfl
  rw [hout, hclosing, hopening, hdeclaration, idxOf_close hne hblank, idxOf_entryLine hne hblank,
    count_helperLine hne hblank, assertNeeded_ofLines]
  refine ⟨rfl, fun _ => ⟨?_, lt_idxOf_helperLine hne hblank _⟩⟩
  simp only [linesOfEntry, List.length_cons, List.length_map]
  omega

theorem helper_declared_once_beside_copy :
    let layout : Layout := { assertHelper := "Check".toList, indent := "\t".toList }
    let source :=
      "private static void Check(bool condition, string expression)\n assert x\nassert y".toList
    let out := List.splitOn '\n' (translate layout (Text.lines source))
    let declaration := layout.indent ++ ("private static void ".toList ++ layout.assertHelper ++
      "(bool condition, string expression)".toList)
    layout.Named ∧ layout.indent ≠ [] ∧ Text.Blank layout.indent ∧ out.count declaration = 1 ∧
      out.idxOf (layout.indent ++ ['}']) < out.idxOf declaration := by
  intro layout source out declaration
  have hnames : layout.Named := ⟨by decide, by decide, by decide⟩
  have hne : layout.indent ≠ [] := by decide
  have hblank : Text.Blank layout.indent := by simp [layout, Text.isBlank]
  have hassert : (Text.lines source).any Script.isAssert := by decide +kernel
  obtain ⟨hcount,hplace⟩ := helper_declared_once layout hnames hne hblank source
  rw [if_pos hassert] at hcount
  have hmem : declaration ∈ out := List.count_pos_iff.mp (hcount ▸ Nat.one_pos)
  exact ⟨hnames, hne, hblank, hcount, (hplace hmem).2⟩

end Program
end ESharp
