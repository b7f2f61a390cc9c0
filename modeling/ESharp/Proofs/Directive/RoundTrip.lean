import ESharp.Proofs.Directive.LoopHeader

/-!
# Directives written back

A directive that was read from a line can be written as a line again, and that line is read as the
same directive. Only spacing is lost: the blanks around an argument and around its values.
-/

namespace ESharp.Directive

/-- What a directive that was read is written as says the directive. -/
theorem says_unparse {line : Text} {d : Directive} (h : Says line d) : Says d.unparse d := by
  cases h with
  | imports split =>
    subst split
    exact .imports (Values.commaSplit_join_commaSplit _)
  | assert trim =>
    subst trim
    exact .assert (Text.trim_trim _)
  | print split =>
    subst split
    exact .print (Values.commaSplit_join_commaSplit _)
  | @forHeader rest item collection header =>
    have hh : IsHeader item collection := isHeader_of_loopHeader? (Text.trimmed_trim rest) header
    have hline : unparse (forHeader item collection) =
        "for ".toList ++ (item ++ " in ".toList ++ collection) := by
      change "for ".toList ++ item ++ " in ".toList ++ collection = _
      simp
    rw [hline]
    exact .forHeader (by rw [hh.trimmed.trim_eq, hh.loopHeader?_eq])
  | regular noImport noAssert noPrint noHeader =>
    exact .regular noImport noAssert noPrint noHeader

/-- Reading, writing and reading again is reading. -/
theorem classify_unparse_classify (line : Text) :
    classify (unparse (classify line)) = classify line :=
  (says_unparse (says_classify line)).classify_eq

end ESharp.Directive
