import ESharp.Text.Values
import ESharp.Proofs.Text.Trim

/-!
# Scans

What a scan remembers of the text behind it is little: whether it is in a literal, how deep it is
in brackets, and whether the character just passed is a backslash. Blanks change neither of the
first two, and scans that agree on all three go on alike.
-/

namespace ESharp.Values

/-- A delimiter that has no other meaning in a list of values. -/
structure Plain (d : Char) : Prop where
  noQuote : d ≠ '"'
  noBracket : nesting d = 0
  noEscape : d ≠ '\\'

lemma plain_comma : Plain ',' := ⟨by decide, by decide, by decide⟩

lemma plain_space : Plain ' ' := ⟨by decide, by decide, by decide⟩

lemma nesting_of_isBlank {c : Char} (h : Text.isBlank c) : nesting c = 0 := by
  have hc : c = ' ' ∨ c = '\t' := by simpa [Text.isBlank] using h
  rcases hc with rfl | rfl <;> decide

namespace Scan

lemma run_append (s : Scan) (t u : Text) : s.run (t ++ u) = (s.run t).run u := by simp [run]

lemma toggles_of_ne (s : Scan) {c : Char} (h : c ≠ '"') : s.toggles c = false := by
  simp [toggles, h]

@[simp] lemma last_next (s : Scan) (c : Char) : (s.next c).last = some c := by
  unfold next
  split_ifs <;> rfl

lemma inLiteral_next (s : Scan) (c : Char) :
    (s.next c).inLiteral = (s.inLiteral ^^ s.toggles c) := by
  unfold next
  split_ifs with ht hl
  · simp [ht]
  · simp [ht]
  · simp [ht]

/-- Brackets count outside literals only. A quote is no bracket, so it need not be told apart. -/
lemma depth_next (s : Scan) (c : Char) :
    (s.next c).depth = s.depth + if s.inLiteral then 0 else nesting c := by
  unfold next
  split_ifs with ht hl
  · simp
  · obtain rfl : c = '"' := by
      by_contra hc
      simp [s.toggles_of_ne hc] at ht
    simp [nesting]
  · simp
  · rfl

lemma separates_iff {s : Scan} {d c : Char} : s.separates d c ↔
    c = d ∧ s.toggles c = false ∧ nesting c = 0 ∧ s.inLiteral = false ∧ s.depth = 0 := by
  simp [separates, atTop, and_assoc]

lemma separates_of_plain (s : Scan) {d : Char} (hd : Plain d) : s.separates d d = s.atTop := by
  simp [separates, s.toggles_of_ne hd.noQuote, hd.noBracket]

/-- A separator is passed at the top, and the scan stays there. -/
lemma next_of_separates {s : Scan} {d c : Char} (h : s.separates d c) :
    s.next c = { last := some d } := by
  obtain ⟨rfl,ht,hn,hl,hd⟩ := separates_iff.mp h
  simp [next, ht, hn, hl, hd]

lemma next_of_isBlank (s : Scan) {c : Char} (h : Text.isBlank c) :
    s.next c = { s with last := some c } := by
  have hq : c ≠ '"' := by rintro rfl; exact absurd h (by decide)
  by_cases hl : s.inLiteral <;> simp [next, s.toggles_of_ne hq, nesting_of_isBlank h, hl]

/-- Two scans that no further text can tell apart. -/
structure Alike (s r : Scan) : Prop where
  inLiteral : s.inLiteral = r.inLiteral
  depth : s.depth = r.depth
  escape : s.last = some '\\' ↔ r.last = some '\\'

namespace Alike
variable {s r : Scan}

lemma refl (s : Scan) : Alike s s := ⟨rfl, rfl, Iff.rfl⟩

lemma toggles (h : Alike s r) (c : Char) : s.toggles c = r.toggles c := by
  have he : (s.last != some '\\') = (r.last != some '\\') := by
    rw [Bool.eq_iff_iff, bne_iff_ne, bne_iff_ne, not_iff_not]
    exact h.escape
  rw [Scan.toggles, Scan.toggles, he]

lemma next (h : Alike s r) (c : Char) : s.next c = r.next c := by
  simp [Scan.next, h.toggles c, h.inLiteral, h.depth]

lemma separates (h : Alike s r) (d c : Char) : s.separates d c = r.separates d c := by
  simp [Scan.separates, Scan.atTop, h.toggles c, h.inLiteral, h.depth]

lemma atTop (h : Alike s r) : s.atTop = r.atTop := by
  simp [Scan.atTop, h.inLiteral, h.depth]

lemma run (h : Alike s r) (t : Text) : Alike (s.run t) (r.run t) := by
  cases t with
  | nil => exact h
  | cons c t => rw [run_cons, run_cons, h.next c]; exact refl _

lemma separators (h : Alike s r) (d : Char) (t : Text) : separators d s t = separators d r t := by
  cases t with
  | nil => rfl
  | cons c t => simp only [Values.separators, h.separates, h.next]

end Alike

/-- After a separator a scan goes on as at the start, unless the separator escapes a quote. -/
lemma alike_start {d : Char} (hd : d ≠ '\\') : Alike { last := some d } {} :=
  ⟨rfl, rfl, by simp [hd]⟩

lemma alike_next_of_separates {s : Scan} {d c : Char} (hd : d ≠ '\\') (h : s.separates d c) :
    (s.next c).Alike {} := by
  rw [next_of_separates h]
  exact alike_start hd

lemma atTop_of_separates {s : Scan} {d c : Char} (h : s.separates d c) : s.atTop := by
  obtain ⟨-,-,-,hlit,hdepth⟩ := separates_iff.mp h
  simp [atTop, hlit, hdepth]

lemma run_blanks (s : Scan) {b : Text} (hb : Text.Blank b) :
    (s.run b).inLiteral = s.inLiteral ∧ (s.run b).depth = s.depth := by
  induction b generalizing s with
  | nil => exact ⟨rfl, rfl⟩
  | cons c b ih =>
    obtain ⟨hc,hb⟩ := (Text.blank_cons c b).mp hb
    rw [run_cons, next_of_isBlank s hc]
    exact ih _ hb

@[simp] lemma atTop_run_blanks (s : Scan) {b : Text} (hb : Text.Blank b) :
    (s.run b).atTop = s.atTop := by
  simp [atTop, s.run_blanks hb]

/-- Blanks at the start are forgotten. -/
lemma alike_run_blanks {b : Text} (hb : Text.Blank b) : Alike (run {} b) {} := by
  refine ⟨(run_blanks {} hb).1, (run_blanks {} hb).2, ?_⟩
  induction b using List.reverseRecOn with
  | nil => rfl
  | append_singleton b c =>
    have hc : Text.isBlank c := hb c (by simp)
    have hne : c ≠ '\\' := by rintro rfl; exact absurd hc (by decide)
    rw [run_append, run_cons, next_of_isBlank _ hc]
    simp [hne]

end Scan
end ESharp.Values
