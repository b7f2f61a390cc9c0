import ESharp.Directive
import ESharp.Proofs.Values.Apart

/-!
# How lines are read

The lines that each directive has, as a relation with one rule for a kind of directive. It is the
graph of the reading, so what holds of every line read is checked rule by rule.
-/

namespace ESharp.Directive

theorem argument?_eq_some_iff {keyword line a : Text} :
    argument? keyword line = some a ↔ ∃ rest, line = keyword ++ ' ' :: rest ∧ Text.trim rest = a := by
  unfold argument?
  constructor
  · intro h
    split at h
    · rename_i rest hr
      exact ⟨rest, Text.after?_eq_some_iff.mp hr, Option.some.inj h⟩
    · simp at h
  · rintro ⟨rest,rfl,rfl⟩
    rw [Text.after?_eq_some_iff.mpr rfl]
    rfl

lemma argument?_eq_none_iff {keyword line : Text} :
    argument? keyword line = none ↔ ∀ rest, line ≠ keyword ++ ' ' :: rest := by
  rw [Option.eq_none_iff_forall_not_mem]
  constructor
  · intro h rest hr
    exact h _ (argument?_eq_some_iff.mpr ⟨rest, hr, rfl⟩)
  · intro h a ha
    obtain ⟨rest,hr,-⟩ := argument?_eq_some_iff.mp ha
    exact h rest hr

/-- The line says the directive. -/
inductive Says : Text → Directive → Prop
  | imports {rest : Text} {names : List Text} (split : Values.commaSplit (Text.trim rest) = names) :
      Says ("import ".toList ++ rest) (.imports names)
  | assert {rest condition : Text} (trim : Text.trim rest = condition) :
      Says ("assert ".toList ++ rest) (.assert condition)
  | print {rest : Text} {values : List Text}
      (split : Values.commaSplit (Text.trim rest) = values) :
      Says ("print ".toList ++ rest) (.print values)
  | forHeader {rest item collection : Text}
      (header : loopHeader? (Text.trim rest) = some (item, collection)) :
      Says ("for ".toList ++ rest) (.forHeader item collection)
  /-- No keyword starts the line, or only a `for` that makes no loop header. -/
  | regular {line : Text} (noImport : ∀ rest, line ≠ "import ".toList ++ rest)
      (noAssert : ∀ rest, line ≠ "assert ".toList ++ rest)
      (noPrint : ∀ rest, line ≠ "print ".toList ++ rest)
      (noHeader : ∀ rest, line = "for ".toList ++ rest → loopHeader? (Text.trim rest) = none) :
      Says line (.regular line)

theorem says_classify (line : Text) : Says line (classify line) := by
  unfold classify
  split
  · rename_i a ha
    obtain ⟨rest,rfl,rfl⟩ := argument?_eq_some_iff.mp ha
    exact .imports rfl
  rename_i hi
  split
  · rename_i a ha
    obtain ⟨rest,rfl,rfl⟩ := argument?_eq_some_iff.mp ha
    exact .assert rfl
  rename_i ha
  split
  · rename_i a hp
    obtain ⟨rest,rfl,rfl⟩ := argument?_eq_some_iff.mp hp
    exact .print rfl
  rename_i hp
  split
  · rename_i item collection hf
    obtain ⟨a,hfor,hheader⟩ := Option.bind_eq_some_iff.mp hf
    obtain ⟨rest,rfl,rfl⟩ := argument?_eq_some_iff.mp hfor
    exact .forHeader hheader
  · rename_i hf
    refine .regular (argument?_eq_none_iff.mp hi) (argument?_eq_none_iff.mp ha)
      (argument?_eq_none_iff.mp hp) fun rest hr => ?_
    have hfor : argument? "for".toList line = some (Text.trim rest) :=
      argument?_eq_some_iff.mpr ⟨rest, hr, rfl⟩
    rwa [hfor] at hf

/-- A line says one thing only: what it is read as. -/
theorem Says.classify_eq {line : Text} {d : Directive} (h : Says line d) : classify line = d := by
  cases h with
  | imports split => subst split; rfl
  | assert trim => subst trim; rfl
  | print split => subst split; rfl
  | @forHeader rest item collection header =>
    have hi : argument? "import".toList ("for ".toList ++ rest) = none := rfl
    have ha : argument? "assert".toList ("for ".toList ++ rest) = none := rfl
    have hp : argument? "print".toList ("for ".toList ++ rest) = none := rfl
    have hf : argument? "for".toList ("for ".toList ++ rest) = some (Text.trim rest) := rfl
    simp only [classify, hi, ha, hp, hf, Option.bind_some, header]
  | regular noImport noAssert noPrint noHeader =>
    have hi : argument? "import".toList line = none := argument?_eq_none_iff.mpr noImport
    have ha : argument? "assert".toList line = none := argument?_eq_none_iff.mpr noAssert
    have hp : argument? "print".toList line = none := argument?_eq_none_iff.mpr noPrint
    have hf : (argument? "for".toList line).bind loopHeader? = none := by
      rw [Option.bind_eq_none_iff]
      intro a hfor
      obtain ⟨rest,hr,rfl⟩ := argument?_eq_some_iff.mp hfor
      exact noHeader rest hr
    simp only [classify, hi, ha, hp, hf]

end ESharp.Directive
