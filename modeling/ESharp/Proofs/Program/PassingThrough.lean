import ESharp.Proofs.Directive.LoopHeader
import ESharp.Proofs.Program.Interleaving

/-!
# Characters that pass through

Reading a line drops its keyword, commas and blanks, and a program is written with a fixed stock of
letters and signs. All other characters of a script pass through: the program has the same ones in the
same order, twice over for an assertion, whose condition is also its message.
-/

namespace ESharp

/-- The letters and signs with which a program is written, braces apart. Whatever reading a line drops
is among them. -/
def isInk (c : Char) : Bool := c.isAlpha || " \t,;()[]+\"\\.!:-1".toList.contains c

/-- Characters of which none is ink. -/
def PassesThrough (p : Char → Bool) : Prop := ∀ c, p c → isInk c = false

namespace PassesThrough
variable {p : Char → Bool}

lemma eq_false (hp : PassesThrough p) {c : Char} (hc : isInk c) : p c = false := by
  by_contra h
  simp [hp c (by simpa using h)] at hc

lemma filter_eq_nil (hp : PassesThrough p) {t : Text} (ht : t.all isInk) : t.filter p = [] := by
  simpa using fun c hc => hp.eq_false (List.all_eq_true.mp ht c hc)

lemma filter_append_ink (hp : PassesThrough p) {t : Text} (ht : t.all isInk) (u : Text) :
    (t ++ u).filter p = u.filter p := by
  rw [List.filter_append, hp.filter_eq_nil ht, List.nil_append]

lemma filter_blanks (hp : PassesThrough p) {b : Text} (hb : Text.Blank b) : b.filter p = [] := by
  refine hp.filter_eq_nil (List.all_eq_true.mpr fun c hc => ?_)
  have hcases : c = ' ' ∨ c = '\t' := by simpa [Text.isBlank] using hb c hc
  rcases hcases with rfl | rfl <;> decide

lemma filter_trim (hp : PassesThrough p) (t : Text) : (Text.trim t).filter p = t.filter p := by
  obtain ⟨a,b,ha,hb,ht⟩ := Text.exists_blanks_around_trim t
  have h := congrArg (List.filter p) ht
  simpa [hp.filter_blanks ha, hp.filter_blanks hb] using h.symm

lemma filter_join (hp : PassesThrough p) {sep : Text} (hsep : sep.all isInk)
    (ts : List Text) : (Text.join sep ts).filter p = ts.flatMap (List.filter p) := by
  induction ts with
  | nil => rfl
  | cons t ts ih =>
    cases ts with
    | nil => simp
    | cons u ts =>
      rw [Text.join_cons _ _ (by simp), List.filter_append, hp.filter_append_ink hsep, ih]
      rfl

lemma filter_commaSplit (hp : PassesThrough p) (t : Text) :
    (Values.commaSplit t).flatMap (List.filter p) = t.filter p := by
  have hjoin : Text.join [','] (Values.pieces ',' 0 t) = t := (Values.parts_pieces ',' 0 t).join
  have htrim : ∀ u : Text, (Text.trim u).filter p = u.filter p := hp.filter_trim
  have hcomma : [','].all isInk := by decide
  rw [Values.commaSplit, Values.split, List.flatMap_map]
  simp only [htrim]
  rw [← hp.filter_join hcomma, hjoin]

lemma filter_escape (hp : PassesThrough p) (t : Text) :
    (Statement.escape t).filter p = t.filter p := by
  have hbackslash : p '\\' = false := hp.eq_false (by decide)
  have hquote : p '"' = false := hp.eq_false (by decide)
  induction t with
  | nil => rfl
  | cons c t ih =>
    have hc : (Statement.escapeChar c).filter p = [c].filter p := by
      unfold Statement.escapeChar
      split_ifs with hb hq
      · simp [hb, hbackslash]
      · simp [hq, hbackslash, hquote]
      · rfl
    rw [Statement.escape_cons, List.filter_append, hc, ih, ← List.filter_append,
      List.singleton_append]

lemma filter_quote (hp : PassesThrough p) (t : Text) : (Statement.quote t).filter p = t.filter p := by
  have hquote : p '"' = false := hp.eq_false (by decide)
  simp [Statement.quote, hquote, hp.filter_escape]

lemma filter_parenthesize (hp : PassesThrough p) (v : Text) :
    (Statement.parenthesize v).filter p = v.filter p := by
  have hopen : p '(' = false := hp.eq_false (by decide)
  have hclose : p ')' = false := hp.eq_false (by decide)
  simp [Statement.parenthesize, hopen, hclose]

lemma filter_printed (hp : PassesThrough p) (vs : List Text) :
    (Statement.printed vs).filter p = vs.flatMap (List.filter p) := by
  unfold Statement.printed
  split
  · simp
  · have hsep : " + \" \" + ".toList.all isInk := by decide
    rw [hp.filter_join hsep, List.flatMap_map]
    simp only [hp.filter_parenthesize]

lemma filter_print (hp : PassesThrough p) (vs : List Text) :
    (Statement.print vs).filter p = vs.flatMap (List.filter p) := by
  have hstart : "System.Console.WriteLine(".toList.all isInk := by decide
  have hend : ");".toList.all isInk := by decide
  unfold Statement.print
  rw [List.append_assoc, hp.filter_append_ink hstart, List.filter_append, hp.filter_printed,
    hp.filter_eq_nil hend, List.append_nil]

lemma filter_assert (hp : PassesThrough p) {helper : Text} (hh : helper.filter p = [])
    (condition : Text) :
    (Statement.assert helper condition).filter p = condition.filter p ++ condition.filter p := by
  have hopen : p '(' = false := hp.eq_false (by decide)
  have hcomma : ", ".toList.filter p = [] := hp.filter_eq_nil (by decide)
  have hend : ");".toList.filter p = [] := hp.filter_eq_nil (by decide)
  unfold Statement.assert
  simp only [List.filter_append, List.filter_cons, hh, hopen, hcomma, hend, hp.filter_quote,
    Bool.false_eq_true, if_false, List.nil_append, List.append_nil]

lemma filter_forHeader (hp : PassesThrough p) (item collection : Text) :
    (Statement.forHeader item collection).filter p = item.filter p ++ collection.filter p := by
  have hstart : "foreach (var ".toList.filter p = [] := hp.filter_eq_nil (by decide)
  have hword : " in ".toList.filter p = [] := hp.filter_eq_nil (by decide)
  have hend : [')'].filter p = [] := hp.filter_eq_nil (by decide)
  unfold Statement.forHeader
  simp only [List.filter_append, hstart, hword, hend, List.nil_append, List.append_nil]

lemma filter_terminate (hp : PassesThrough p) (line : Text) :
    (Statement.terminate line).filter p = line.filter p := by
  have hend : [';'].filter p = [] := hp.filter_eq_nil (by decide)
  unfold Statement.terminate
  split_ifs
  · rfl
  · rw [List.filter_append, hend, List.append_nil]

/-- The namespaces of an import have what passes through its line. -/
lemma filter_names (hp : PassesThrough p) {line : Text} {names : List Text}
    (h : Directive.Says line (.imports names)) : names.flatMap (List.filter p) = line.filter p := by
  cases h with
  | imports split =>
    have hword : "import ".toList.all isInk := by decide
    rw [← split, hp.filter_commaSplit, hp.filter_trim, hp.filter_append_ink hword]

/-- The word `in` and the spaces around it are all that a loop header loses. -/
lemma filter_loopHeader (hp : PassesThrough p) {a item collection : Text}
    (h : Directive.loopHeader? a = some (item, collection)) :
    item.filter p ++ collection.filter p = a.filter p := by
  obtain ⟨x,y,z,hpieces,rfl,hy,rfl⟩ := Directive.loopHeader?_eq_some_iff.mp h
  obtain ⟨rfl,-⟩ := Directive.pieces_space_iff.mp hpieces
  have hspace : p ' ' = false := hp.eq_false (by decide)
  have hword : y.filter p = [] := by
    rw [← hp.filter_trim, hy]
    exact hp.filter_eq_nil (by decide)
  simp [hp.filter_trim, hword, hspace]

/-- The statement of a line has what passes through the line, an assertion has it twice. -/
theorem filter_statement (hp : PassesThrough p) {helper line st : Text} {d : Directive}
    (hh : helper.filter p = []) (h : Directive.Says line d)
    (hst : Statement.ofDirective? helper d = some st) :
    st.filter p = if d.kind = .assert then line.filter p ++ line.filter p else line.filter p := by
  cases h with
  | imports split => simp [Statement.ofDirective?] at hst
  | assert trim =>
    obtain rfl := Option.some.inj hst
    have hword : "assert ".toList.all isInk := by decide
    rw [hp.filter_assert hh, ← trim, hp.filter_trim, hp.filter_append_ink hword]
    rfl
  | print split =>
    obtain rfl := Option.some.inj hst
    have hword : "print ".toList.all isInk := by decide
    rw [hp.filter_print, ← split, hp.filter_commaSplit, hp.filter_trim, hp.filter_append_ink hword]
    rfl
  | forHeader header =>
    obtain rfl := Option.some.inj hst
    have hword : "for ".toList.all isInk := by decide
    rw [hp.filter_forHeader, hp.filter_loopHeader header, hp.filter_trim,
      hp.filter_append_ink hword]
    rfl
  | regular =>
    obtain rfl := Option.some.inj hst
    exact hp.filter_terminate line

end PassesThrough

/-- No text of the layout has a character of the kind. -/
structure Layout.Without (p : Char → Bool) (layout : Layout) : Prop where
  className : layout.className.filter p = []
  entryPoint : layout.entryPoint.filter p = []
  assertHelper : layout.assertHelper.filter p = []
  indent : layout.indent.filter p = []

namespace Program
variable {p : Char → Bool}

/-- What passes through a script is in the namespaces and statements of its program, line by line. -/
theorem filter_ofLines (hp : PassesThrough p) {layout : Layout}
    (hh : layout.assertHelper.filter p = []) (ls : List Text) :
    (ofLines layout ls).imports.flatMap (List.filter p) =
        (ls.filter Script.isImport).flatMap (List.filter p) ∧
      (ofLines layout ls).body.flatMap (List.filter p) =
        (ls.filter Script.isStatement).flatMap fun line =>
          if Script.isAssert line then line.filter p ++ line.filter p else line.filter p := by
  induction ls with
  | nil => exact ⟨rfl, rfl⟩
  | cons line ls ih =>
    obtain ⟨himports,hbody⟩ := ih
    have hline := adds_ofLines layout line
    rw [ofLines_cons]
    generalize ofLines layout [line] = q at hline
    cases hline with
    | blank blank =>
      have himport := Script.isImport_of_blank blank
      have hstatement := Script.isStatement_of_blank blank
      simp [combine, himport, hstatement, himports, hbody]
    | imports isImport reads =>
      have hstatement := Script.isStatement_of_isImport isImport
      have hnames := hp.filter_names reads
      rw [hp.filter_trim] at hnames
      simp [combine, isImport, hstatement, himports, hbody, hnames]
    | statement isStatement reads writes =>
      have himport := Script.isImport_of_isStatement isStatement
      have hst := hp.filter_statement hh reads writes
      rw [hp.filter_trim] at hst
      have hassert := Script.isAssert_eq_of_says reads
      simp [combine, isStatement, himport, himports, hbody, hst, hassert]

section Written
variable {layout : Layout}

lemma filter_indented (hl : layout.Without p) (depth : Nat) (code : Text) :
    (indented layout depth code).filter p = code.filter p := by
  induction depth with
  | zero => rfl
  | succ depth ih => rw [indented, List.filter_append, hl.indent, ih, List.nil_append]

lemma filter_usingLines (hp : PassesThrough p) (names : List Text) :
    (usingLines names).flatMap (List.filter p) = names.flatMap (List.filter p) := by
  have hstart : "using ".toList.all isInk := by decide
  have hend : [';'].all isInk := by decide
  have hline : ∀ name, (usingLine name).filter p = name.filter p := by
    intro name
    unfold usingLine
    rw [List.append_assoc, hp.filter_append_ink hstart, List.filter_append, hp.filter_eq_nil hend,
      List.append_nil]
  cases names with
  | nil => rfl
  | cons name names => simp [usingLines, List.flatMap_map, hline]

lemma filter_classLine (hp : PassesThrough p) (hl : layout.Without p) :
    (classLine layout).filter p = [] := by
  have hstart : "public class ".toList.all isInk := by decide
  unfold classLine
  rw [hp.filter_append_ink hstart, hl.className]

/-- A method is declared with its name and ink. -/
lemma filter_method (hp : PassesThrough p) {name parameters : Text} (hname : name.filter p = [])
    (hparameters : parameters.all isInk) :
    ("private static void ".toList ++ name ++ parameters).filter p = [] := by
  have hstart : "private static void ".toList.all isInk := by decide
  rw [List.append_assoc, hp.filter_append_ink hstart, List.filter_append, hname,
    hp.filter_eq_nil hparameters]
  rfl

lemma filter_helperLines (hp : PassesThrough p) (hl : layout.Without p) :
    (helperLines layout).flatMap (List.filter p) = ['{', '{', '}', '}'].filter p := by
  have hhelper : (helperLine layout).filter p = [] := filter_method hp hl.assertHelper (by decide)
  have hfailure : failureLine.filter p = [] := hp.filter_eq_nil (by decide +kernel)
  have hcondition : "if (!condition)".toList.filter p = [] := hp.filter_eq_nil (by decide)
  have hread : "System.Console.ReadLine();".toList.filter p = [] := hp.filter_eq_nil (by decide)
  have hexit : "System.Environment.Exit(-1);".toList.filter p = [] := hp.filter_eq_nil (by decide)
  unfold helperLines
  simp only [List.flatMap_cons, List.flatMap_nil, filter_indented hl, hhelper, hfailure, hcondition,
    hread, hexit, List.filter_nil, List.nil_append, List.append_nil, ← List.filter_append]
  rfl

/-- What passes through the namespaces and statements of a program is written, with its braces. -/
theorem filter_lines (hp : PassesThrough p) (hl : layout.Without p) (q : Program) :
    (lines layout q).flatMap (List.filter p) =
      q.imports.flatMap (List.filter p) ++ ['{', '{'].filter p ++ q.body.flatMap (List.filter p) ++
        ['}'].filter p ++ (if q.assertNeeded then ['{', '{', '}', '}'].filter p else []) ++
        ['}'].filter p := by
  have hentry : (entryLine layout).filter p = [] := filter_method hp hl.entryPoint (by decide)
  have hopen : ['{', '{'].filter p = ['{'].filter p ++ ['{'].filter p :=
    List.filter_append ['{'] ['{']
  have hhelper : (if q.assertNeeded then helperLines layout else []).flatMap (List.filter p) =
      if q.assertNeeded then ['{', '{', '}', '}'].filter p else [] := by
    split_ifs
    · exact filter_helperLines hp hl
    · rfl
  rw [lines, hopen]
  simp only [List.flatMap_append, List.flatMap_cons, List.flatMap_nil, List.flatMap_map,
    filter_usingLines hp, filter_classLine hp hl, filter_indented hl, hentry, hhelper,
    List.nil_append, List.append_nil, List.append_assoc]

end Written

end Program
end ESharp
