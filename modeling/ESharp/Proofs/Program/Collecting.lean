import ESharp.Listing
import Mathlib.Tactic.Common

/-!
# What a program collects

A program is collected line by line, but each of its three parts can be read off the whole list of
directives at once. A line is one directive or none, so the program of the lines is the program of
their directives.
-/

namespace ESharp

namespace Directive

/-- What a line of a script says, unless it is blank. -/
def ofLine? (line : Text) : Option Directive :=
  match Text.trim line with
  | [] => none
  | c :: t => some (classify (c :: t))

lemma ofLine?_of_trim_ne_nil {line : Text} (h : Text.trim line ≠ []) :
    ofLine? line = some (classify (Text.trim line)) := by
  unfold ofLine?
  split
  · contradiction
  · rename_i ht
    rw [ht]

lemma ofLine?_eq_some_iff {line : Text} {d : Directive} :
    ofLine? line = some d ↔ Text.trim line ≠ [] ∧ classify (Text.trim line) = d := by
  constructor
  · intro h
    have hne : Text.trim line ≠ [] := by
      intro hnil
      simp [ofLine?, hnil] at h
    rw [ofLine?_of_trim_ne_nil hne] at h
    exact ⟨hne, Option.some.inj h⟩
  · rintro ⟨hne,rfl⟩
    exact ofLine?_of_trim_ne_nil hne

/-- The namespaces that a directive asks for. -/
def importedNames : Directive → List Text
  | imports names => names
  | _ => []

end Directive

namespace Program

/-- One more directive adds to each of the three parts of a program on its own. -/
lemma add_eq (layout : Layout) (p : Program) (d : Directive) :
    p.add layout d =
      { imports := p.imports ++ d.importedNames
        body := p.body ++ (Statement.ofDirective? layout.assertHelper d).toList
        assertNeeded := p.assertNeeded || d.kind == .assert } := by
  cases d <;> simp [add, Directive.importedNames]

/-- Directives add to each of the three parts of a program on its own, in their order. -/
theorem addAll_eq (layout : Layout) (p : Program) (ds : List Directive) :
    p.addAll layout ds =
      { imports := p.imports ++ ds.flatMap Directive.importedNames
        body := p.body ++ ds.filterMap (Statement.ofDirective? layout.assertHelper)
        assertNeeded := p.assertNeeded || ds.any (·.kind == .assert) } := by
  induction ds generalizing p with
  | nil => simp
  | cons d ds ih =>
    rw [addAll_cons, ih, add_eq]
    cases h : Statement.ofDirective? layout.assertHelper d <;> simp [h, Bool.or_assoc]

lemma addLine_eq (layout : Layout) (p : Program) (line : Text) :
    p.addLine layout line = p.addAll layout (Directive.ofLine? line).toList := by
  unfold addLine Directive.ofLine?
  cases Text.trim line <;> rfl

/-- The lines of a script make the program of what they say. -/
theorem ofLines_eq_ofDirectives (layout : Layout) (ls : List Text) :
    ofLines layout ls = ofDirectives layout (ls.filterMap Directive.ofLine?) := by
  have h : ∀ p, ls.foldl (addLine layout) p = p.addAll layout (ls.filterMap Directive.ofLine?) := by
    induction ls with
    | nil => exact fun p => rfl
    | cons l ls ih =>
      intro p
      rw [List.foldl_cons, ih, addLine_eq, ← addAll_append]
      cases hl : Directive.ofLine? l <;> simp [hl]
  exact h {}

lemma body_ofLines (layout : Layout) (ls : List Text) :
    (ofLines layout ls).body = (ls.filterMap Directive.ofLine?).filterMap
      (Statement.ofDirective? layout.assertHelper) := by
  rw [ofLines_eq_ofDirectives, ofDirectives, addAll_eq]
  simp

end Program

namespace Listing

/-- A listing has what the lines say, in their order. -/
theorem map_directive_ofLines (ls : List Text) :
    (ofLines ls).map Entry.directive = ls.filterMap Directive.ofLine? := by
  have h : ∀ n, ((numberedFrom n ls).map entry).map Entry.directive =
      ls.filterMap Directive.ofLine? := by
    induction ls with
    | nil => exact fun n => rfl
    | cons l ls ih =>
      intro n
      unfold numberedFrom
      split
      · rename_i hl
        rw [ih (n + 1), List.filterMap_cons_none (by simp [Directive.ofLine?, hl])]
      · rename_i c t hl
        rw [List.map_cons, List.map_cons, ih (n + 1)]
        simp [Directive.ofLine?, hl, entry]
  exact h 1

end Listing
end ESharp
