import ESharp.Proofs.Directive.Reading
import ESharp.Proofs.Program.Collecting

/-!
# Imports and statements

A line of a script is blank, an import or a statement, and it adds to a program on its own. So the
program of a script in two halves is put together from the programs of the halves, and imports may
stand anywhere among the statements: only the order within either kind counts.
-/

namespace ESharp

namespace Script

/-- Whether a line is an import: blanks aside, it starts with the keyword and a space. -/
def isImport (line : Text) : Bool := "import ".toList.isPrefixOf (Text.trim line)

/-- Whether a line is an assertion: blanks aside, it starts with the keyword and a space. -/
def isAssert (line : Text) : Bool := "assert ".toList.isPrefixOf (Text.trim line)

/-- Whether a line becomes a statement: it is neither blank nor an import. -/
def isStatement (line : Text) : Bool := !(Text.trim line).isEmpty && !isImport line

lemma isImport_of_blank {line : Text} (h : Text.trim line = []) : isImport line = false := by
  simp [isImport, h]

lemma isStatement_of_blank {line : Text} (h : Text.trim line = []) : isStatement line = false := by
  simp [isStatement, h]

lemma isStatement_of_isImport {line : Text} (h : isImport line) : isStatement line = false := by
  simp [isStatement, h]

lemma isImport_of_isStatement {line : Text} (h : isStatement line) : isImport line = false := by
  simpa using (Bool.and_eq_true_iff.mp h).2

lemma isAssert_of_blank {line : Text} (h : Text.trim line = []) : isAssert line = false := by
  simp [isAssert, h]

lemma isAssert_of_isImport {line : Text} (h : isImport line) : isAssert line = false := by
  obtain ⟨rest,hrest⟩ := List.isPrefixOf_iff_prefix.mp h
  rw [isAssert, ← hrest]
  rfl

end Script

namespace Directive

/-- The keyword of an import or an assertion is enough to tell the kind of a line. -/
lemma Says.kind_eq_iff {line : Text} {d : Directive} (h : Says line d) {k : Kind} {start : Text}
    (hk : k = .imports ∧ start = "import ".toList ∨ k = .assert ∧ start = "assert ".toList) :
    d.kind = k ↔ start <+: line := by
  cases h with
  | imports | assert | print | forHeader =>
    rcases hk with ⟨rfl,rfl⟩ | ⟨rfl,rfl⟩ <;> simp [kind]
  | regular noImport noAssert =>
    have hnone : ¬ start <+: line := by
      rintro ⟨rest,hrest⟩
      rcases hk with ⟨rfl,rfl⟩ | ⟨rfl,rfl⟩
      · exact noImport rest hrest.symm
      · exact noAssert rest hrest.symm
    refine iff_of_false ?_ hnone
    rcases hk with ⟨rfl,-⟩ | ⟨rfl,-⟩ <;> simp [kind]

end Directive

namespace Script
variable {line : Text} {d : Directive}

lemma isImport_eq_of_says (h : Directive.Says (Text.trim line) d) :
    isImport line = (d.kind == .imports) := by
  rw [isImport, Bool.eq_iff_iff, List.isPrefixOf_iff_prefix, beq_iff_eq,
    h.kind_eq_iff (.inl ⟨rfl, rfl⟩)]

lemma isAssert_eq_of_says (h : Directive.Says (Text.trim line) d) :
    isAssert line = (d.kind == .assert) := by
  rw [isAssert, Bool.eq_iff_iff, List.isPrefixOf_iff_prefix, beq_iff_eq,
    h.kind_eq_iff (.inr ⟨rfl, rfl⟩)]

end Script

namespace Program

/-- What one line adds to a program. -/
inductive Adds (helper : Text) : Text → Program → Prop
  | blank {line : Text} (blank : Text.trim line = []) : Adds helper line {}
  | imports {line : Text} {names : List Text} (isImport : Script.isImport line)
      (reads : Directive.Says (Text.trim line) (.imports names)) :
      Adds helper line { imports := names }
  | statement {line : Text} {d : Directive} {st : Text} (isStatement : Script.isStatement line)
      (reads : Directive.Says (Text.trim line) d)
      (writes : Statement.ofDirective? helper d = some st) :
      Adds helper line { body := [st], assertNeeded := Script.isAssert line }

/-- Two programs as one, the first before the second. -/
def combine (p q : Program) : Program where
  imports := p.imports ++ q.imports
  body := p.body ++ q.body
  assertNeeded := p.assertNeeded || q.assertNeeded

lemma addAll_eq_combine (layout : Layout) (p : Program) (ds : List Directive) :
    p.addAll layout ds = p.combine (ofDirectives layout ds) := by
  rw [ofDirectives, addAll_eq, addAll_eq]
  simp [combine]

theorem ofLines_append (layout : Layout) (xs ys : List Text) :
    ofLines layout (xs ++ ys) = (ofLines layout xs).combine (ofLines layout ys) := by
  simp only [ofLines_eq_ofDirectives, List.filterMap_append]
  rw [ofDirectives, addAll_append, addAll_eq_combine]
  rfl

lemma ofLines_cons (layout : Layout) (line : Text) (ls : List Text) :
    ofLines layout (line :: ls) = (ofLines layout [line]).combine (ofLines layout ls) :=
  ofLines_append layout [line] ls

/-- A line adds the program that it is alone. -/
theorem adds_ofLines (layout : Layout) (line : Text) :
    Adds layout.assertHelper line (ofLines layout [line]) := by
  have hline : ofLines layout [line] = addAll layout {} (Directive.ofLine? line).toList :=
    addLine_eq layout {} line
  rw [hline]
  by_cases hblank : Text.trim line = []
  · have hnone : Directive.ofLine? line = none := by simp [Directive.ofLine?, hblank]
    rw [hnone]
    exact .blank hblank
  have hreads := Directive.says_classify (Text.trim line)
  rw [Directive.ofLine?_of_trim_ne_nil hblank]
  generalize Directive.classify (Text.trim line) = d at hreads
  have himport := Script.isImport_eq_of_says hreads
  have hassert := Script.isAssert_eq_of_says hreads
  cases d with
  | imports names => exact .imports himport hreads
  | _ =>
    have hstatement : Script.isStatement line := by
      rw [Script.isStatement, himport, Bool.and_eq_true_iff]
      exact ⟨by simpa using hblank, rfl⟩
    have hadds : Adds layout.assertHelper line _ := .statement hstatement hreads rfl
    rw [hassert] at hadds
    exact hadds

/-- Imports and statements are collected apart from each other. -/
theorem ofLines_eq_of_kinds (layout : Layout) (ls : List Text) :
    ofLines layout ls =
      { imports := (ofLines layout (ls.filter Script.isImport)).imports
        body := (ofLines layout (ls.filter Script.isStatement)).body
        assertNeeded := (ofLines layout (ls.filter Script.isStatement)).assertNeeded } := by
  induction ls with
  | nil => rfl
  | cons line ls ih =>
    have hline := adds_ofLines layout line
    rw [ofLines_cons, ih]
    generalize hp : ofLines layout [line] = p at hline
    cases hline with
    | blank blank =>
      simp [Script.isImport_of_blank blank, Script.isStatement_of_blank blank, combine]
    | imports isImport =>
      have hstatement := Script.isStatement_of_isImport isImport
      rw [List.filter_cons_of_pos isImport, List.filter_cons_of_neg (by simp [hstatement]),
        ofLines_cons _ line, hp]
      rfl
    | statement isStatement =>
      have himport := Script.isImport_of_isStatement isStatement
      rw [List.filter_cons_of_pos isStatement, List.filter_cons_of_neg (by simp [himport]),
        ofLines_cons _ line, hp]
      rfl

/-- The helper is needed when some line is an assertion. -/
theorem assertNeeded_ofLines (layout : Layout) (ls : List Text) :
    (ofLines layout ls).assertNeeded = ls.any Script.isAssert := by
  induction ls with
  | nil => rfl
  | cons line ls ih =>
    have hline := adds_ofLines layout line
    rw [ofLines_cons, List.any_cons, ← ih]
    generalize ofLines layout [line] = p at hline
    cases hline with
    | blank blank => rw [Script.isAssert_of_blank blank]; rfl
    | imports isImport => rw [Script.isAssert_of_isImport isImport]; rfl
    | statement => rfl

/-- Each directive that is no import becomes one statement. -/
lemma forall₂_statements (helper : Text) (ds : List Directive) :
    List.Forall₂ (fun d st => Statement.ofDirective? helper d = some st)
      (ds.filter (·.kind != .imports)) (ds.filterMap (Statement.ofDirective? helper)) := by
  induction ds with
  | nil => exact .nil
  | cons d ds ih =>
    cases d with
    | imports names => exact ih
    | _ => exact .cons rfl ih

/-- Collecting directives keeps what is there and adds to each part in order: all namespaces of the
imports, one statement for each other directive, the need of the helper for an assertion. So the
program of a script is combined from the programs of its halves, and a script may be mixed anew from
its imports and its statements. -/
theorem collects_in_order (layout : Layout) :
    (∀ (p : Program) (ds : List Directive), ∃ sts,
      p.addAll layout ds =
          { imports := p.imports ++ ds.flatMap Directive.importedNames
            body := p.body ++ sts
            assertNeeded := p.assertNeeded || ds.any (·.kind == .assert) } ∧
        List.Forall₂ (fun d st => Statement.ofDirective? layout.assertHelper d = some st)
          (ds.filter (·.kind != .imports)) sts) ∧
    (∀ xs ys : List Text,
      ofLines layout (xs ++ ys) = (ofLines layout xs).combine (ofLines layout ys)) ∧
    (∀ xs ys : List Text, xs.filter Script.isImport = ys.filter Script.isImport →
      xs.filter Script.isStatement = ys.filter Script.isStatement →
      translate layout xs = translate layout ys) := by
  refine ⟨fun p ds => ?_, ofLines_append layout, fun xs ys himports hstatements => ?_⟩
  · exact ⟨_, addAll_eq layout p ds, forall₂_statements layout.assertHelper ds⟩
  · rw [translate, translate, ofLines_eq_of_kinds, himports, hstatements, ← ofLines_eq_of_kinds]

theorem collects_in_order_mixed :
    let xs := ["import A, B".toList, "assert x".toList, "".toList, " import C".toList,
      "print x, y".toList]
    let ys := ["assert x".toList, "print x, y".toList, "import A, B".toList, " import C".toList]
    xs.filter Script.isImport = ys.filter Script.isImport ∧
      xs.filter Script.isStatement = ys.filter Script.isStatement ∧
      translate {} xs = translate {} ys := by
  intro xs ys
  have himports : xs.filter Script.isImport = ys.filter Script.isImport := by decide
  have hstatements : xs.filter Script.isStatement = ys.filter Script.isStatement := by decide
  exact ⟨himports, hstatements, (collects_in_order {}).2.2 xs ys himports hstatements⟩

end Program
end ESharp
