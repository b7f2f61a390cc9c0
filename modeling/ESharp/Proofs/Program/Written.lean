import ESharp.Config.Basic
import ESharp.Proofs.Program.PassingThrough

/-!
# Reading a written program back

A program that is written line by line can be told from its text. Its lines are found again by
splitting, since none of them has a line feed. The lines that use namespaces come first and look like
no other line, and an empty line after the class is opened stands before the helper and nowhere else.
-/

namespace ESharp

/-- Splitting finds the lines again, and the empty text after the last line feed. -/
theorem Text.splitOn_unlines {ls : List Text} (h : ∀ l ∈ ls, '\n' ∉ l) :
    List.splitOn '\n' (unlines ls) = ls ++ [[]] := by
  induction ls with
  | nil => rfl
  | cons l ls ih =>
    have hl : ∀ c ∈ l, (c == '\n') = false := by
      intro c hc
      rw [beq_eq_false_iff_ne]
      rintro rfl
      exact h l (by simp) hc
    have hls := ih fun k hk => h k (by simp [hk])
    rw [List.splitOn_eq_splitOnP] at hls ⊢
    rw [unlines_cons, List.splitOnP_append_cons_of_forall_mem hl '\n' (by decide), hls]
    rfl

/-- The names of the layout can be declared. -/
structure Layout.Named (layout : Layout) : Prop where
  className : Identifier.isValid layout.className
  entryPoint : Identifier.isValid layout.entryPoint
  assertHelper : Identifier.isValid layout.assertHelper

lemma Config.named_of_check {c : Config} (h : c.check = .ok c) : c.program.Named := by
  have hnames : Config.badName? c.program = none := by
    unfold Config.check at h
    split at h
    · simp at h
    · assumption
  simp only [badName?, List.find?_eq_none, List.forall_mem_cons, Bool.not_eq_true,
    Bool.not_eq_false'] at hnames
  exact ⟨hnames.1, hnames.2.1, hnames.2.2.1⟩

lemma Identifier.newline_notMem {name : Text} (h : Identifier.isValid name) : '\n' ∉ name := by
  intro hc
  rcases Identifier.eq_at_or_isPart_of_mem h hc with hat | hpart
  · exact absurd hat (by decide)
  · exact absurd hpart (by decide)

def Text.isNewline (c : Char) : Bool := c == '\n'

lemma Text.filter_isNewline_eq_nil_iff {t : Text} : t.filter isNewline = [] ↔ '\n' ∉ t := by
  simp only [List.filter_eq_nil_iff, isNewline, beq_iff_eq]
  exact ⟨fun h hmem => h _ hmem rfl, fun h c hc heq => h (heq ▸ hc)⟩

lemma passesThrough_isNewline : PassesThrough Text.isNewline := by
  intro c hc
  obtain rfl : c = '\n' := by simpa [Text.isNewline] using hc
  decide

lemma Layout.Named.without_isNewline {layout : Layout} (h : layout.Named)
    (hindent : '\n' ∉ layout.indent) : layout.Without Text.isNewline where
  className := Text.filter_isNewline_eq_nil_iff.mpr (Identifier.newline_notMem h.className)
  entryPoint := Text.filter_isNewline_eq_nil_iff.mpr (Identifier.newline_notMem h.entryPoint)
  assertHelper := Text.filter_isNewline_eq_nil_iff.mpr (Identifier.newline_notMem h.assertHelper)
  indent := Text.filter_isNewline_eq_nil_iff.mpr hindent

namespace Program
variable {layout : Layout} {p : Program}

/-- A program of texts without line feeds is written in lines without line feeds. -/
theorem newline_notMem_lines (hl : layout.Without Text.isNewline)
    (hp : ∀ t ∈ p.imports ++ p.body, '\n' ∉ t) : ∀ l ∈ lines layout p, '\n' ∉ l := by
  simp only [← Text.filter_isNewline_eq_nil_iff] at hp ⊢
  rw [← List.flatMap_eq_nil_iff, List.flatMap_append, List.append_eq_nil_iff] at hp
  rw [← List.flatMap_eq_nil_iff, filter_lines passesThrough_isNewline hl, hp.1, hp.2]
  cases p.assertNeeded <;> rfl

theorem splitOn_render (hl : layout.Without Text.isNewline)
    (hp : ∀ t ∈ p.imports ++ p.body, '\n' ∉ t) :
    List.splitOn '\n' (p.render layout) = lines layout p ++ [[]] :=
  Text.splitOn_unlines (newline_notMem_lines hl hp)

section Parts

/-- The lines before the entry point is declared. -/
def linesBefore (layout : Layout) (p : Program) : List Text :=
  usingLines p.imports ++ [classLine layout, ['{']]

/-- The entry point without the line that closes it. -/
def linesOfEntry (layout : Layout) (p : Program) : List Text :=
  indented layout 1 (entryLine layout) :: indented layout 1 ['{'] :: p.body.map (indented layout 2)

/-- The lines after the one that closes the entry point. -/
def linesAfter (layout : Layout) (p : Program) : List Text :=
  (if p.assertNeeded then helperLines layout else []) ++ [['}']]

lemma lines_eq (layout : Layout) (p : Program) :
    lines layout p = linesBefore layout p ++
      (linesOfEntry layout p ++ indented layout 1 ['}'] :: linesAfter layout p) := by
  simp [lines, linesBefore, linesOfEntry, linesAfter]

end Parts

lemma usingLine_injective : Function.Injective usingLine := by
  intro s t h
  unfold usingLine at h
  exact List.append_cancel_left (List.append_cancel_right h)

lemma usingLine_ne_classLine (name : Text) : usingLine name ≠ classLine layout := by
  intro h
  exact absurd (List.cons.inj h).1 (by decide)

lemma map_usingLine_append_inj {xs ys : List Text} {a b : List Text}
    (h : xs.map usingLine ++ [] :: a = ys.map usingLine ++ [] :: b) : xs = ys ∧ a = b := by
  have hne : ∀ name, usingLine name ≠ [] := fun name => List.cons_ne_nil _ _
  induction xs generalizing ys with
  | nil =>
    cases ys with
    | nil => exact ⟨rfl, (List.cons.inj h).2⟩
    | cons y ys => exact absurd (List.cons.inj h).1.symm (hne y)
  | cons x xs ih =>
    cases ys with
    | nil => exact absurd (List.cons.inj h).1 (hne x)
    | cons y ys =>
      obtain ⟨hx,hxs⟩ := List.cons.inj h
      obtain ⟨rfl,rfl⟩ := ih hxs
      exact ⟨congrArg (· :: xs) (usingLine_injective hx), rfl⟩

/-- The lines that use namespaces end where the class is declared. -/
lemma linesBefore_append_inj {l m : Layout} {p q : Program} {a b : List Text}
    (h : linesBefore l p ++ a = linesBefore m q ++ b) :
    p.imports = q.imports ∧ l.className = m.className ∧ a = b := by
  have hclass : ∀ {a b : List Text}, classLine l :: ['{'] :: a = classLine m :: ['{'] :: b →
      l.className = m.className ∧ a = b := by
    intro a b h
    obtain ⟨hline,hrest⟩ := List.cons.inj h
    exact ⟨List.append_cancel_left hline, (List.cons.inj hrest).2⟩
  unfold linesBefore at h
  rw [List.append_assoc, List.append_assoc] at h
  generalize p.imports = xs, q.imports = ys at h ⊢
  cases xs with
  | nil =>
    cases ys with
    | nil => exact ⟨rfl, hclass h⟩
    | cons y ys => exact absurd (List.cons.inj h).1.symm (usingLine_ne_classLine y)
  | cons x xs =>
    cases ys with
    | nil => exact absurd (List.cons.inj h).1 (usingLine_ne_classLine x)
    | cons y ys =>
      simp only [usingLines, List.append_assoc, List.singleton_append] at h
      obtain ⟨hnames,hrest⟩ := map_usingLine_append_inj h
      exact ⟨hnames, hclass hrest⟩

lemma indented_congr {l m : Layout} (h : l.indent = m.indent) : indented l = indented m := by
  funext depth code
  induction depth with
  | zero => rfl
  | succ depth ih => rw [indented, indented, h, ih]

lemma indented_injective (layout : Layout) (depth : Nat) :
    Function.Injective (indented layout depth) := by
  induction depth with
  | zero => exact fun _ _ h => h
  | succ depth ih => exact fun _ _ h => ih (List.append_cancel_left h)

lemma eq_of_indented_eq {l m : Layout} (hindent : l.indent = m.indent) {depth : Nat} {s t : Text}
    (h : indented l depth s = indented m depth t) : s = t := by
  rw [← indented_congr hindent] at h
  exact indented_injective l depth h

/-- After the class is opened, an empty line stands before the helper only: a statement has its
indentation at least. -/
lemma nil_mem_iff_assertNeeded (hindent : layout.indent ≠ []) :
    [] ∈ p.body.map (indented layout 2) ++ indented layout 1 ['}'] :: linesAfter layout p ↔
      p.assertNeeded := by
  have hne : ∀ depth code, indented layout (depth + 1) code ≠ [] := by
    intro depth code
    simp [indented, hindent]
  have hstatement : [] ∉ p.body.map (indented layout 2) := by
    intro hmem
    obtain ⟨st,-,hst⟩ := List.mem_map.mp hmem
    exact hne 1 st hst
  cases hp : p.assertNeeded
  · simp [linesAfter, hp, hstatement, (hne 0 _).symm]
  · simp [linesAfter, hp, helperLines]

/-- The lines from the first statement on tell the statements and the helper. -/
lemma statements_append_inj {l m : Layout} {p q : Program} (hindent : l.indent = m.indent)
    (hne : l.indent ≠ [])
    (h : p.body.map (indented l 2) ++ indented l 1 ['}'] :: linesAfter l p =
      q.body.map (indented m 2) ++ indented m 1 ['}'] :: linesAfter m q) :
    p.body = q.body ∧ p.assertNeeded = q.assertNeeded ∧
      (p.assertNeeded → l.assertHelper = m.assertHelper) := by
  have hneeded : p.assertNeeded = q.assertNeeded := by
    rw [Bool.eq_iff_iff, ← nil_mem_iff_assertNeeded hne, h, nil_mem_iff_assertNeeded (hindent ▸ hne)]
  -- the helper has as many lines whatever its name, so the statements end at one place
  have hlength : (indented l 1 ['}'] :: linesAfter l p).length =
      (indented m 1 ['}'] :: linesAfter m q).length := by
    unfold linesAfter
    rw [hneeded]
    cases q.assertNeeded <;> rfl
  obtain ⟨hbody,hrest⟩ := List.append_inj' h hlength
  rw [← indented_congr hindent] at hbody
  refine ⟨List.map_injective_iff.mpr (indented_injective l 2) hbody, hneeded, fun hp => ?_⟩
  have hafter := (List.cons.inj hrest).2
  unfold linesAfter at hafter
  rw [← hneeded, hp, if_pos rfl, if_pos rfl] at hafter
  have hline : indented l 1 (helperLine l) = indented m 1 (helperLine m) :=
    (List.cons.inj (List.cons.inj (List.append_cancel_right hafter)).2).1
  have hhelper : helperLine l = helperLine m := eq_of_indented_eq hindent hline
  unfold helperLine at hhelper
  exact List.append_cancel_left (List.append_cancel_right hhelper)

/-- A written program tells what it was written from: the namespaces, the statements, whether there is
a helper, and each name that is declared. -/
theorem render_determines (c e : Config) (hc : c.check = .ok c) (he : e.check = .ok e)
    (hindent : c.program.indent = e.program.indent) (hne : c.program.indent ≠ [])
    (hnewline : '\n' ∉ c.program.indent) (p q : Program)
    (hp : ∀ t ∈ p.imports ++ p.body, '\n' ∉ t) (hq : ∀ t ∈ q.imports ++ q.body, '\n' ∉ t)
    (h : p.render c.program = q.render e.program) :
    p = q ∧ c.program.className = e.program.className ∧
      c.program.entryPoint = e.program.entryPoint ∧
      (p.assertNeeded → c.program.assertHelper = e.program.assertHelper) := by
  have hlines : lines c.program p = lines e.program q := by
    have hsplit := congrArg (List.splitOn '\n') h
    rw [splitOn_render ((Config.named_of_check hc).without_isNewline hnewline) hp,
      splitOn_render ((Config.named_of_check he).without_isNewline (hindent ▸ hnewline)) hq] at hsplit
    exact List.append_cancel_right hsplit
  rw [lines_eq, lines_eq] at hlines
  obtain ⟨himports,hname,hrest⟩ := linesBefore_append_inj hlines
  obtain ⟨hentry,hopen⟩ := List.cons.inj hrest
  obtain ⟨hbody,hneeded,hhelper⟩ := statements_append_inj hindent hne (List.cons.inj hopen).2
  have hmain : c.program.entryPoint = e.program.entryPoint := by
    have hline : entryLine c.program = entryLine e.program := eq_of_indented_eq hindent hentry
    unfold entryLine at hline
    exact List.append_cancel_left (List.append_cancel_right hline)
  have hpq : p = q := by
    cases p
    cases q
    simp_all
  exact ⟨hpq, hname, hmain, hhelper⟩

theorem render_determines_without_helper :
    let tools : Tools := ⟨[], [], [], []⟩
    let c : Config := ⟨{}, tools⟩
    let e : Config := ⟨{ assertHelper := "Check".toList }, tools⟩
    let p : Program := { imports := ["A".toList], body := ["\x7d;".toList, "Check(x);".toList] }
    let q := ofLines {} ["\x7d".toList, "import A".toList, "Check(x)".toList]
    c.check = .ok c ∧ e.check = .ok e ∧ (∀ t ∈ p.imports ++ p.body, '\n' ∉ t) ∧
      (∀ t ∈ q.imports ++ q.body, '\n' ∉ t) ∧ p.render c.program = q.render e.program ∧
      p = q ∧ c.program.className = e.program.className ∧
      c.program.entryPoint = e.program.entryPoint := by
  intro tools c e p q
  have hc : c.check = .ok c := by decide
  have he : e.check = .ok e := by decide
  have hp : ∀ t ∈ p.imports ++ p.body, '\n' ∉ t := by decide
  have hq : ∀ t ∈ q.imports ++ q.body, '\n' ∉ t := by decide
  have h : p.render c.program = q.render e.program := by decide +kernel
  obtain ⟨hpq,hname,hmain,-⟩ :=
    render_determines c e hc he rfl (by decide) (by decide) p q hp hq h
  exact ⟨hc, he, hp, hq, h, hpq, hname, hmain⟩

end Program
end ESharp
