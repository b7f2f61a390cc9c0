import ESharp.Proofs.Directive.Reading
import ESharp.Proofs.Program.Collecting
import Mathlib.Data.List.Infix

/-!
# Operands of a printed sum

Several values are printed as a sum in which every value stands in parentheses. A value that closes
all it opens, and nothing else, cannot get out of them: no sign of its own separates at the top of the
sum. The values of a balanced text are such values, so the operands of the sum are exactly the values,
with a space between any two.
-/

namespace ESharp

namespace Values
variable {d : Char}

/-- The text closes every literal and bracket that it opens, and no bracket before one is open. -/
structure Balanced (t : Text) : Prop where
  nonneg : ∀ u, u <+: t → 0 ≤ (Scan.run {} u).depth
  top : (Scan.run {} t).atTop

instance (t : Text) : Decidable (Balanced t) :=
  decidable_of_iff ((∀ u ∈ t.inits, 0 ≤ (Scan.run {} u).depth) ∧ (Scan.run {} t).atTop)
    ⟨fun ⟨hn, ht⟩ => ⟨fun u hu => hn u ((List.mem_inits u t).mpr hu), ht⟩,
     fun ⟨hn, ht⟩ => ⟨fun u hu => hn u ((List.mem_inits u t).mp hu), ht⟩⟩

namespace Scan

/-- The scan with one more bracket open around it. -/
def inside (s : Scan) : Scan := { s with depth := s.depth + 1 }

lemma next_inside (s : Scan) (c : Char) : s.inside.next c = (s.next c).inside := by
  have ht : s.inside.toggles c = s.toggles c := rfl
  have hl : s.inside.inLiteral = s.inLiteral := rfl
  unfold next
  rw [ht, hl]
  split_ifs
  · rfl
  · rfl
  · simp [inside, Int.add_right_comm]

lemma run_inside (s : Scan) (t : Text) : s.inside.run t = (s.run t).inside := by
  induction t generalizing s with
  | nil => rfl
  | cons c t ih => rw [run_cons, run_cons, next_inside, ih]

lemma alike_inside : Alike (next {} '(') (inside {}) := ⟨rfl, rfl, by decide⟩

end Scan

lemma separators_bracket (s : Scan) {c : Char} (hc : nesting c ≠ 0) : separators d s [c] = 0 := by
  rw [separators_cons, if_neg, separators_nil]
  intro h
  exact hc (Scan.separates_iff.mp h).2.2.1

/-- Inside a bracket nothing separates, as long as the bracket stays open. -/
lemma separators_inside {s : Scan} {t : Text} (h : ∀ u, u <+: t → 0 ≤ (s.run u).depth) :
    separators d s.inside t = 0 := by
  induction t generalizing s with
  | nil => rfl
  | cons c t ih =>
    have hs : 0 ≤ s.depth := h [] List.nil_prefix
    -- seen from inside the depth is at least one, so this is never the top
    have hc : ¬ s.inside.separates d c := by
      intro hsep
      obtain ⟨-,-,-,-,hdepth⟩ := Scan.separates_iff.mp hsep
      change s.depth + 1 = 0 at hdepth
      omega
    rw [separators_cons, if_neg hc, Scan.next_inside, ih]
    intro u hu
    exact h (c :: u) (List.cons_prefix_cons.mpr ⟨rfl, hu⟩)

namespace Balanced
variable {t p u : Text}

/-- A separator leaves a balanced text on either side. -/
lemma of_separates (hd : d ≠ '\\') (h : Balanced (p ++ d :: u))
    (hsep : (Scan.run {} p).separates d d) : Balanced p ∧ Balanced u := by
  -- behind the separator every depth is one that the whole text has further on
  have hrun : ∀ w, (Scan.run {} (p ++ d :: w)).Alike (Scan.run {} w) := by
    intro w
    rw [Scan.run_append, Scan.run_cons]
    exact (Scan.alike_next_of_separates hd hsep).run w
  constructor
  · exact ⟨fun w hw => h.nonneg _ (hw.trans (List.prefix_append _ _)), Scan.atTop_of_separates hsep⟩
  · refine ⟨fun w hw => ?_, ?_⟩
    · rw [← (hrun w).depth]
      apply h.nonneg
      exact (List.prefix_append_right_inj p).mpr (List.cons_prefix_cons.mpr ⟨rfl, hw⟩)
    · rw [← (hrun u).atTop]
      exact h.top

lemma trim (h : Balanced p) : Balanced (Text.trim p) := by
  obtain ⟨a,b,ha,-,hp⟩ := Text.exists_blanks_around_trim p
  refine ⟨fun w hw => ?_, (atTop_run_trim p).trans h.top⟩
  have hrun : (Scan.run {} (a ++ w)).Alike (Scan.run {} w) := by
    rw [Scan.run_append]
    exact (Scan.alike_run_blanks ha).run w
  have hprefix : a ++ w <+: p := by
    rw [hp]
    exact (List.prefix_append_right_inj a).mpr (hw.trans (List.prefix_append _ _))
  rw [← hrun.depth]
  exact h.nonneg _ hprefix

/-- In parentheses a balanced text is in one piece, whatever the delimiter. -/
lemma separators_parenthesize (h : Balanced t) (d : Char) :
    separators d {} (Statement.parenthesize t) = 0 := by
  have hopen : ¬ Scan.separates {} d '(' := fun hs =>
    absurd (Scan.separates_iff.mp hs).2.2.1 (by decide)
  have hinside : separators d (Scan.inside {}) t = 0 := separators_inside h.nonneg
  rw [Statement.parenthesize, List.cons_append, separators_cons, if_neg hopen,
    Scan.alike_inside.separators, separators_append, hinside, separators_bracket _ (by decide)]

lemma atTop_parenthesize (h : Balanced t) : (Scan.run {} (Statement.parenthesize t)).atTop := by
  have hrun : (Scan.run (Scan.next {} '(') t).Alike (Scan.run {} t).inside := by
    rw [← Scan.run_inside]
    exact Scan.alike_inside.run t
  have htop : (Scan.run {} t).inLiteral = false ∧ (Scan.run {} t).depth = 0 := by
    simpa [Scan.atTop] using h.top
  have hclose : Scan.run {} (Statement.parenthesize t) = ((Scan.run {} t).next ')').inside := by
    rw [Statement.parenthesize, List.cons_append, Scan.run_cons, Scan.run_append, Scan.run_cons,
      hrun.next, Scan.next_inside, Scan.run_nil]
  have hdepth : ((Scan.run {} t).next ')').depth = -1 := by
    rw [Scan.depth_next, htop.1, htop.2]
    rfl
  have hlit : ((Scan.run {} t).next ')').inLiteral = false := by
    rw [Scan.inLiteral_next, Scan.toggles_of_ne _ (by decide), htop.1]
    rfl
  rw [hclose]
  simp [Scan.atTop, Scan.inside, hdepth, hlit]

end Balanced

/-- The parts of a balanced text are balanced. -/
lemma Parts.balanced (hd : d ≠ '\\') {limit : Option Nat} {s : Scan} {t : Text} {ps : List Text}
    (h : Parts d limit s t ps) (hs : s.Alike {}) (ht : Balanced t) : ∀ p ∈ ps, Balanced p := by
  induction h with
  | last h => simpa using ht
  | @cons limit s p u ps hl hp hsep rest ih =>
    obtain ⟨hbp,hbu⟩ := ht.of_separates hd (by rwa [← (hs.run p).separates])
    simpa using ⟨hbp, ih (Scan.alike_next_of_separates hd hsep) hbu⟩

lemma balanced_of_mem_split (hd : d ≠ '\\') {max : Nat} {t v : Text} (ht : Balanced t)
    (hv : v ∈ split d max t) : Balanced v := by
  obtain ⟨p,hp,rfl⟩ := List.mem_map.mp hv
  exact ((parts_pieces d max t).balanced hd (.refl _) ht p hp).trim

end Values

lemma eq_or_mem_of_mem_intersperse {x m : Text} {vs : List Text} (h : x ∈ vs.intersperse m) :
    x = m ∨ x ∈ vs := by
  induction vs with
  | nil => simp at h
  | cons v vs ih =>
    cases vs with
    | nil => exact .inr h
    | cons w ws =>
      rw [List.intersperse_cons_cons, List.mem_cons, List.mem_cons] at h
      rcases h with rfl | rfl | h
      · exact .inr (by simp)
      · exact .inl rfl
      · exact (ih h).imp_right (List.mem_cons_of_mem v)

lemma Text.join_append_append (sep m : Text) (ts : List Text) :
    Text.join (sep ++ m ++ sep) ts = Text.join sep (ts.intersperse m) := by
  induction ts with
  | nil => rfl
  | cons t ts ih =>
    cases ts with
    | nil => rfl
    | cons u us =>
      rw [List.intersperse_cons_cons, Text.join_cons _ t (by simp), ih, Text.join_cons _ t (by simp),
        Text.join_cons _ m (by cases us <;> simp)]
      simp

namespace Statement

lemma trim_parenthesize (v : Text) : Text.trim (parenthesize v) = parenthesize v := by
  have hopen : Text.Trimmed ['('] := Text.trim_eq_self_iff.mp (by decide)
  have hclose : Text.Trimmed [')'] := Text.trim_eq_self_iff.mp (by decide)
  exact (hopen.append_append hclose (by simp) (by simp) v).trim_eq

/-- The operands of a sum that prints values: each in parentheses, and the literal of a space between
any two. -/
def operands (vs : List Text) : List Text := (vs.map parenthesize).intersperse "\" \"".toList

lemma printed_eq_join {vs : List Text} (hmany : 2 ≤ vs.length) :
    printed vs = Text.join " + ".toList (operands vs) := by
  rw [operands, ← Text.join_append_append]
  match vs, hmany with
  | _ :: _ :: _, _ => rfl

theorem split_printed {vs : List Text} (hmany : 2 ≤ vs.length) (hvs : ∀ v ∈ vs, Values.Balanced v) :
    Values.split '+' 0 (printed vs) = operands vs := by
  have hops : ∀ x ∈ operands vs, Values.separators '+' {} x = 0 ∧ (Values.Scan.run {} x).atTop ∧
      Text.trim x = x := by
    intro x hx
    rcases eq_or_mem_of_mem_intersperse hx with rfl | hx
    · decide
    · obtain ⟨v,hv,rfl⟩ := List.mem_map.mp hx
      have hb : Values.Balanced v := hvs v hv
      exact ⟨hb.separators_parenthesize '+', hb.atTop_parenthesize, trim_parenthesize v⟩
  have happart : Values.Apart '+' (operands vs) := by
    refine ⟨?_, fun x hx => (hops x hx).1, fun x hx => (hops x (List.mem_of_mem_dropLast hx)).2.1⟩
    apply List.ne_nil_of_length_pos
    rw [operands, List.length_intersperse, List.length_map]
    omega
  calc Values.split '+' 0 (printed vs)
      = Values.split '+' 0 (Text.join ([' '] ++ '+' :: [' ']) (operands vs)) := by
        rw [printed_eq_join hmany]
        rfl
    _ = (operands vs).map Text.trim := by
        have hblank : Text.Blank [' '] := by simp [Text.isBlank]
        exact Values.split_join_spaced ⟨by decide, by decide, by decide⟩ (by decide) hblank hblank
          happart
    _ = operands vs := by
        rw [List.map_congr_left fun x hx => (hops x hx).2.2, List.map_id']

end Statement

/-- A line that prints something is read the same with the blanks at its end and without them. -/
lemma Directive.ofLine?_print {a : Text} (ha : Text.trim a ≠ []) :
    ofLine? ("print ".toList ++ a) = some (.print (Values.commaSplit (Text.trim a))) := by
  obtain ⟨b,e,hb,he,hsplit⟩ := Text.exists_blanks_around_trim a
  have hword : Text.Trimmed "print".toList := Text.trim_eq_self_iff.mp (by decide)
  have htrimmed : Text.Trimmed ("print".toList ++ (' ' :: b) ++ Text.trim a) :=
    hword.append_append (Text.trimmed_trim a) (by decide) ha _
  have hline : Text.trim ("print ".toList ++ a) = "print ".toList ++ (b ++ Text.trim a) := by
    calc Text.trim ("print ".toList ++ a)
        = Text.trim ("print".toList ++ (' ' :: b) ++ Text.trim a ++ e) := by
          conv_lhs => rw [hsplit]
          simp
      _ = "print ".toList ++ (b ++ Text.trim a) := by
          rw [Text.trim_append_blanks _ he, htrimmed.trim_eq]
          simp
  rw [ofLine?_eq_some_iff, hline]
  refine ⟨by simp, Says.classify_eq (.print ?_)⟩
  rw [Text.trim_blanks_append _ hb, Text.trim_trim]

namespace Program

/-- Printed values never run into each other. Wherever a line prints several values of a balanced
text, the statement it adds prints a sum, and the operands of that sum are the values. -/
theorem print_operands_stay_apart (layout : Layout) (before after : List Text) (a : Text)
    (hbalanced : Values.Balanced (Text.trim a))
    (hmany : 2 ≤ (Values.commaSplit (Text.trim a)).length) :
    ∃ x, (ofLines layout (before ++ ("print ".toList ++ a) :: after)).body =
        (ofLines layout before).body ++
          ("System.Console.WriteLine(".toList ++ x ++ ");".toList) :: (ofLines layout after).body ∧
      Values.split '+' 0 x = Statement.operands (Values.commaSplit (Text.trim a)) ∧
      (Values.split '+' 0 x).length = 2 * (Values.commaSplit (Text.trim a)).length - 1 := by
  have hne : Text.trim a ≠ [] := by
    intro hnil
    rw [hnil] at hmany
    exact absurd hmany (by decide)
  have hoperands := Statement.split_printed hmany fun v hv =>
    Values.balanced_of_mem_split (by decide) hbalanced hv
  refine ⟨Statement.printed (Values.commaSplit (Text.trim a)), ?_, hoperands, ?_⟩
  · rw [body_ofLines, body_ofLines, body_ofLines, List.filterMap_append, List.filterMap_append,
      List.filterMap_cons_some (Directive.ofLine?_print hne)]
    rfl
  · rw [hoperands, Statement.operands, List.length_intersperse, List.length_map]

/-- Signs and commas inside literals and brackets, an escaped quote, and a backslash at the end. -/
theorem print_operands_stay_apart_mixed :
    let a := " f(x, y+1) , \"+,\\\"\" + z, [1]\\ ".toList
    Values.Balanced (Text.trim a) ∧ Values.commaSplit (Text.trim a) =
      ["f(x, y+1)".toList, "\"+,\\\"\" + z".toList, "[1]\\".toList] ∧
    ∃ x, (ofLines {} ["x = 1".toList, "print ".toList ++ a]).body =
        ["x = 1;".toList, "System.Console.WriteLine(".toList ++ x ++ ");".toList] ∧
      Values.split '+' 0 x = ["(f(x, y+1))".toList, "\" \"".toList, "(\"+,\\\"\" + z)".toList,
        "\" \"".toList, "([1]\\)".toList] := by
  intro a
  have hbalanced : Values.Balanced (Text.trim a) := by decide
  refine ⟨hbalanced, by decide, ?_⟩
  obtain ⟨x,hbody,hsplit,-⟩ :=
    print_operands_stay_apart {} ["x = 1".toList] [] a hbalanced (by decide)
  exact ⟨x, hbody, hsplit.trans (by decide)⟩

end Program
end ESharp
