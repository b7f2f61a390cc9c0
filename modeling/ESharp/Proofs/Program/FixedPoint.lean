import ESharp.Identifier
import ESharp.Proofs.Directive.LoopHeader
import ESharp.Proofs.Program.Collecting

/-!
# Statements read again

A statement of a program, taken as a line of a script, is code that passes through: it is trimmed, no
keyword starts it, and it has the end it needs. So translating the body of a program gives the body
again and nothing else.
-/

namespace ESharp

/-- A name has no blanks. -/
lemma Identifier.isBlank_eq_false {name : Text} (h : Identifier.isValid name) {c : Char}
    (hc : c ∈ name) : Text.isBlank c = false := by
  rcases Identifier.eq_at_or_isPart_of_mem h hc with rfl | hpart
  · decide
  by_contra hb
  rw [Bool.not_eq_false] at hb
  have hcases : c = ' ' ∨ c = '\t' := by simpa [Text.isBlank] using hb
  rcases hcases with rfl | rfl <;> exact absurd hpart (by decide)

lemma Identifier.ne_nil {name : Text} (h : Identifier.isValid name) : name ≠ [] := by
  rintro rfl
  exact absurd h (by decide)

namespace Statement

/-- A statement that stands as it is when it is read as a line of a script. -/
structure Settled (st : Text) : Prop where
  ne_nil : st ≠ []
  trimmed : Text.Trimmed st
  regular : Directive.Says st (.regular st)
  final : isFinal st

/-- A semicolon settles a line of code that starts with no blank. -/
lemma settled_semicolon {t : Text} (ht : Text.Trimmed t) (hne : t ≠ []) (m : Text)
    (h : Directive.Says (t ++ m ++ [';']) (.regular (t ++ m ++ [';']))) :
    Settled (t ++ m ++ [';']) where
  ne_nil := by simp
  trimmed := ht.append_append (Text.trim_eq_self_iff.mp (by decide)) hne (by decide) m
  regular := h
  final := by simp [isFinal]

/-- A line that starts with none of the first letters of the keywords says nothing but itself. -/
lemma says_regular_of_head {c : Char} {t : Text} (hi : c ≠ 'i') (ha : c ≠ 'a') (hp : c ≠ 'p')
    (hf : c ≠ 'f') : Directive.Says (c :: t) (.regular (c :: t)) := by
  refine .regular (fun rest h => ?_) (fun rest h => ?_) (fun rest h => ?_) (fun rest h => ?_)
  · exact hi (List.cons.inj h).1
  · exact ha (List.cons.inj h).1
  · exact hp (List.cons.inj h).1
  · exact absurd (List.cons.inj h).1 hf

theorem settled_print (vs : List Text) : Settled (print vs) := by
  have hprint : print vs = "System.Console.WriteLine(".toList ++ (printed vs ++ [')']) ++ [';'] := by
    unfold print
    simp
  rw [hprint]
  have hstart : Text.Trimmed "System.Console.WriteLine(".toList := Text.trim_eq_self_iff.mp (by decide)
  refine settled_semicolon hstart (by decide) _ ?_
  exact says_regular_of_head (by decide) (by decide) (by decide) (by decide)

theorem settled_forHeader (item collection : Text) : Settled (forHeader item collection) := by
  have hheader : forHeader item collection =
      "foreach".toList ++ (" (var ".toList ++ item ++ " in ".toList ++ collection) ++ [')'] := by
    unfold forHeader
    simp
  rw [hheader]
  have hstart : Text.Trimmed "foreach".toList := Text.trim_eq_self_iff.mp (by decide)
  have hend : Text.Trimmed [')'] := Text.trim_eq_self_iff.mp (by decide)
  refine ⟨by simp, hstart.append_append hend (by decide) (by decide) _, ?_, ?_⟩
  · refine .regular (fun rest h => ?_) (fun rest h => ?_) (fun rest h => ?_) (fun rest h => ?_) <;>
      simp at h
  · have hword : startsWithWord ("foreach".toList ++ (" (var ".toList ++ item ++ " in ".toList ++
        collection) ++ [')']) "foreach".toList := rfl
    simp only [isFinal, opensBlock, blockWords, List.any_cons, hword, Bool.true_or, Bool.or_true]

/-- A name before a parenthesis is no keyword before a space. -/
lemma name_append_ne_keyword_append {name : Text} (hname : ' ' ∉ name) (keyword : Text)
    (hkeyword : '(' ∉ keyword) (t rest : Text) : name ++ '(' :: t ≠ keyword ++ ' ' :: rest := by
  intro h
  rcases List.append_eq_append_iff.mp h with ⟨m,hm,ht⟩ | ⟨m,hm,ht⟩
  · cases m with
    | nil => simp at ht
    | cons c m =>
      obtain ⟨rfl,-⟩ := List.cons.inj ht
      exact hkeyword (by simp [hm])
  · cases m with
    | nil => simp at ht
    | cons c m =>
      obtain ⟨rfl,-⟩ := List.cons.inj ht
      exact hname (by simp [hm])

theorem settled_assert {helper : Text} (hh : Identifier.isValid helper) (condition : Text) :
    Settled (assert helper condition) := by
  have hassert : assert helper condition =
      helper ++ ('(' :: condition ++ ", ".toList ++ quote condition ++ [')']) ++ [';'] := by
    unfold assert
    simp
  have hblank : ∀ c ∈ helper, Text.isBlank c = false := fun c => Identifier.isBlank_eq_false hh
  have hspace : ' ' ∉ helper := fun h => absurd (hblank _ h) (by decide)
  have hstart : Text.Trimmed helper :=
    ⟨fun c hc => hblank c (List.mem_of_mem_head? hc), fun c hc => hblank c (List.mem_of_getLast? hc)⟩
  rw [hassert]
  refine settled_semicolon hstart (Identifier.ne_nil hh) _ ?_
  rw [List.append_assoc]
  refine .regular (fun rest => ?_) (fun rest => ?_) (fun rest => ?_) (fun rest h => ?_)
  · exact name_append_ne_keyword_append hspace "import".toList (by decide) _ rest
  · exact name_append_ne_keyword_append hspace "assert".toList (by decide) _ rest
  · exact name_append_ne_keyword_append hspace "print".toList (by decide) _ rest
  · exact absurd h (name_append_ne_keyword_append hspace "for".toList (by decide) _ rest)

/-- A semicolon at the end starts no line with a word that has none. -/
lemma concat_semicolon_ne {line word : Text} (hword : ';' ∉ word) (h : ∀ rest, line ≠ word ++ rest)
    (rest : Text) : line ++ [';'] ≠ word ++ rest := by
  intro heq
  rcases List.eq_nil_or_concat' rest with rfl | ⟨r,c,rfl⟩
  · exact hword (by rw [← List.append_nil word, ← heq]; simp)
  · rw [← List.append_assoc] at heq
    exact h r (List.append_inj_left' heq rfl)

/-- Code stays code when a semicolon ends it. The delicate line is one that starts like a loop
header: its argument gets the semicolon, and no header comes of it. -/
theorem says_regular_concat_semicolon {line : Text} (ht : Text.Trimmed line)
    (h : Directive.Says line (.regular line)) :
    Directive.Says (line ++ [';']) (.regular (line ++ [';'])) := by
  cases h with
  | regular noImport noAssert noPrint noHeader =>
    refine .regular (concat_semicolon_ne (by decide) noImport)
      (concat_semicolon_ne (by decide) noAssert) (concat_semicolon_ne (by decide) noPrint)
      fun rest hrest => ?_
    rcases List.eq_nil_or_concat' rest with rfl | ⟨r,c,rfl⟩
    · have hlast := congrArg List.getLast? hrest
      simp at hlast
    · rw [← List.append_assoc] at hrest
      obtain ⟨rfl,hc⟩ := List.append_inj' hrest rfl
      obtain rfl : ';' = c := by simpa using hc
      -- the argument ends where the trimmed line ends, so trimming keeps the semicolon beside it
      have hlast : ∀ e, r.getLast? = some e → Text.isBlank e = false := by
        intro e he
        exact ht.last e (by rw [List.getLast?_append, he, Option.some_or])
      rw [Text.trim_concat (by decide) hlast]
      exact Directive.loopHeader?_concat_eq_none (by decide) (noHeader r rfl)

theorem settled_terminate {line : Text} (hne : line ≠ []) (ht : Text.Trimmed line)
    (h : Directive.Says line (.regular line)) : Settled (terminate line) := by
  unfold terminate
  split_ifs with hfinal
  · exact ⟨hne, ht, h, hfinal⟩
  · have hsays := says_regular_concat_semicolon ht h
    simpa using settled_semicolon ht hne [] (by simpa using hsays)

/-- Whatever a line says, its statement is settled. -/
theorem settled_of_says {helper line st : Text} {d : Directive} (hh : Identifier.isValid helper)
    (hne : line ≠ []) (ht : Text.Trimmed line) (h : Directive.Says line d)
    (hst : ofDirective? helper d = some st) : Settled st := by
  cases d with
  | imports names => simp [ofDirective?] at hst
  | assert condition =>
    obtain rfl := Option.some.inj hst
    exact settled_assert hh condition
  | print vs =>
    obtain rfl := Option.some.inj hst
    exact settled_print vs
  | forHeader item collection =>
    obtain rfl := Option.some.inj hst
    exact settled_forHeader item collection
  | regular code =>
    obtain rfl := Option.some.inj hst
    obtain rfl : code = line := by cases h; rfl
    exact settled_terminate hne ht h

lemma Settled.ofLine?_eq {st : Text} (h : Settled st) :
    Directive.ofLine? st = some (.regular st) := by
  rw [Directive.ofLine?_eq_some_iff, h.trimmed.trim_eq]
  exact ⟨h.ne_nil, h.regular.classify_eq⟩

lemma Settled.ofDirective?_eq {st : Text} (h : Settled st) (helper : Text) :
    ofDirective? helper (.regular st) = some st := by
  simp [ofDirective?, terminate, h.final]

end Statement

namespace Program

theorem settled_of_mem_body {layout : Layout} (hh : Identifier.isValid layout.assertHelper)
    {ls : List Text} {st : Text} (h : st ∈ (ofLines layout ls).body) : Statement.Settled st := by
  rw [body_ofLines] at h
  obtain ⟨d,hd,hst⟩ := List.mem_filterMap.mp h
  obtain ⟨line,-,hline⟩ := List.mem_filterMap.mp hd
  obtain ⟨hne,hclassify⟩ := Directive.ofLine?_eq_some_iff.mp hline
  have hsays := Directive.says_classify (Text.trim line)
  rw [hclassify] at hsays
  exact Statement.settled_of_says hh hne (Text.trimmed_trim line) hsays hst

/-- Settled statements make a program of themselves and of nothing else. -/
theorem ofLines_of_settled (layout : Layout) {sts : List Text}
    (h : ∀ st ∈ sts, Statement.Settled st) :
    ofLines layout sts = { imports := [], body := sts, assertNeeded := false } := by
  induction sts using List.reverseRecOn with
  | nil => rfl
  | append_singleton sts st ih =>
    have hst := h st (by simp)
    have hlast : ofLines layout (sts ++ [st]) = (ofLines layout sts).addLine layout st := by
      simp [ofLines]
    rw [hlast, ih fun s hs => h s (by simp [hs]), addLine_eq, hst.ofLine?_eq]
    simp [addAll_eq, hst.ofDirective?_eq, Directive.importedNames, Directive.kind]

/-- The body of a program, read as a script, is the program with that body: no statement is trimmed,
taken for a directive or ended again. -/
theorem ofLines_body_ofLines (layout : Layout) (ls : List Text)
    (h : Identifier.isValid layout.assertHelper) :
    ofLines layout (ofLines layout ls).body =
      { imports := [], body := (ofLines layout ls).body, assertNeeded := false } :=
  ofLines_of_settled layout fun _ hst => settled_of_mem_body h hst

theorem ofLines_body_ofLines_script :
    let p := ofLines {} ["import System".toList, " assert x > y".toList, "print x, y".toList,
      "for v in xs".toList, "for v of xs".toList]
    Identifier.isValid ({} : Layout).assertHelper ∧
      p.body = ["EasySharpAssert(x > y, \"x > y\");".toList,
        "System.Console.WriteLine((x) + \" \" + (y));".toList, "foreach (var v in xs)".toList,
        "for v of xs;".toList] ∧
      ofLines {} p.body = { imports := [], body := p.body, assertNeeded := false } := by
  have h : Identifier.isValid ({} : Layout).assertHelper := by decide
  exact ⟨h, by decide, ofLines_body_ofLines _ _ h⟩

end Program
end ESharp
