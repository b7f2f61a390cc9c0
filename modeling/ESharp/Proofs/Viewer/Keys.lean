import ESharp.Proofs.Viewer.Session

/-!
# What a key reports

A key answers whether it did something. Main statement: as long as the viewer runs, the answer is true
exactly when the state is another one, and only the focus, the cursor of the focused pane and the wish to
quit can be other than before.
-/

namespace ESharp.Viewer

lemma Focus.other_ne (f : Focus) : f.other ≠ f := by cases f <;> decide

namespace Key

lemma quits_iff (k : Key) (m : Modifiers) :
    k.quits m = true ↔ (k = .char 'q' ∧ m = {}) ∨ (k = .char 'c' ∧ m.control = true) := by
  simp [quits]

lemma delta?_ne_zero {k : Key} {delta : Int} (h : k.delta? = some delta) : delta ≠ 0 := by
  unfold delta? at h
  split at h <;> cases h <;> decide

end Key

namespace Pane

/-- A move is absorbed at the end of the text to which it goes, and nowhere else. -/
lemma moveBy_eq_self_iff (p : Pane) {delta : Int} (h : delta ≠ 0) (count : Nat) :
    p.moveBy delta count = p ↔
      p.cursor = if 0 < delta then min maxCursor (count - 1) else 0 := by
  have hcursor : p.moveBy delta count = p ↔
      min (min ((p.cursor : Int) + delta).toNat maxCursor) (count - 1) = p.cursor := by
    cases p
    simp [moveBy]
  rw [hcursor]
  split_ifs <;> omega

end Pane

namespace State

lemma eq_iff {r s : State} : r = s ↔
    r.model = s.model ∧ r.focus = s.focus ∧ (∀ f, r.pane f = s.pane f) ∧ r.quit = s.quit := by
  constructor
  · rintro rfl
    exact ⟨rfl, rfl, fun _ => rfl, rfl⟩
  · rintro ⟨hmodel,hfocus,hpane,hquit⟩
    have hsource : r.source = s.source := hpane .source
    have hgenerated : r.generated = s.generated := hpane .generated
    cases r
    cases s
    simp_all

section Press
variable (s : State) (k : Key) (m : Modifiers)

lemma pane_press (f : Focus) :
    (s.press k m).1.pane f =
      match k.delta? with
      | some delta => if s.focus = f then (s.pane f).moveBy delta (s.lineCount f) else s.pane f
      | none => s.pane f := by
  have hact := pane_act s (.key k m) f
  simp only [act, Action.height?, Action.delta?] at hact
  rw [hact]
  cases k.delta? <;> rfl

lemma pane_press_eq_iff : (∀ f, (s.press k m).1.pane f = s.pane f) ↔ ∀ delta, k.delta? = some delta →
    (s.pane s.focus).moveBy delta (s.lineCount s.focus) = s.pane s.focus := by
  simp only [pane_press]
  cases k.delta? with
  | none => simp
  | some delta =>
    constructor
    · rintro h _ ⟨⟩
      simpa using h s.focus
    · intro h f
      by_cases hf : s.focus = f
      · simpa [hf] using h delta rfl
      · simp [hf]

lemma focus_press_ne_iff : (s.press k m).1.focus ≠ s.focus ↔ k = .tab := by
  have hact := focus_act s (.key k m)
  simp only [act, Action.switches, decide_eq_true_eq] at hact
  rw [hact]
  split_ifs with ht <;> simp [ht, Focus.other_ne]

lemma quit_press : (s.press k m).1.quit = (k.quits m || s.quit) := by
  unfold press
  split_ifs with hq ht
  · simp [hq]
  · simp [hq, toggle]
  · cases k.delta? with
    | none => simp [hq]
    | some delta =>
      simp only [move, setFocused]
      split <;> simp [hq]

/-- What a key reports: the change of the focus and quitting always, a move when it is not absorbed. -/
lemma press_snd_iff :
    (s.press k m).2 = true ↔ k = .tab ∨
      (∃ delta, k.delta? = some delta ∧
        (s.pane s.focus).moveBy delta (s.lineCount s.focus) ≠ s.pane s.focus) ∨
      k.quits m = true := by
  unfold press
  split_ifs with hq ht
  · simp [hq]
  · simp [ht]
  · cases k.delta? <;> simp [hq, ht, move]

/-- The three things that a key can report are the three ways in which a state can differ. -/
theorem press_snd_iff_ne {s : State} (hs : s.quit = false) :
    (s.press k m).2 = true ↔ (s.press k m).1 ≠ s := by
  have hmodel : (s.press k m).1.model = s.model := model_act s (.key k m)
  have hquit : (s.press k m).1.quit = s.quit ↔ k.quits m ≠ true := by
    rw [quit_press, hs]
    simp
  rw [press_snd_iff, Ne, eq_iff, (focus_press_ne_iff s k m).not_right, pane_press_eq_iff, hquit]
  simp only [hmodel, true_and, not_and_or, not_forall, Ne, not_not, exists_prop]

end Press

/-- As long as the viewer runs, a key answers whether the state is another one. The texts, both windows and
the pane without the focus stay as they are, only the tabulator changes the focus, and only `q` alone and
`c` with control end the viewer. A move does nothing when the cursor is already at the end to which it
goes. -/
theorem press_answers_change (s : State) (hs : s.quit = false) (k : Key) (m : Modifiers) :
    let r := s.press k m
    (r.2 = true ↔ r.1 ≠ s) ∧
      r.1.model = s.model ∧
      (∀ f, (r.1.pane f).scroll = (s.pane f).scroll) ∧
      r.1.pane s.focus.other = s.pane s.focus.other ∧
      (r.1.focus ≠ s.focus ↔ k = .tab) ∧
      (r.1.quit = true ↔ (k = .char 'q' ∧ m = {}) ∨ (k = .char 'c' ∧ m.control = true)) ∧
      ∀ delta, k.delta? = some delta → (r.2 = false ↔ (s.pane s.focus).cursor =
        if 0 < delta then min maxCursor (s.lineCount s.focus - 1) else 0) := by
  intro r
  refine ⟨press_snd_iff_ne k m hs, model_act s (.key k m), ?_, ?_, focus_press_ne_iff s k m, ?_, ?_⟩
  · intro f
    rw [pane_press]
    split
    · split_ifs <;> rfl
    · rfl
  · rw [pane_press]
    split
    · rw [if_neg (Focus.other_ne s.focus).symm]
    · rfl
  · rw [quit_press, hs, Bool.or_false, Key.quits_iff]
  · intro delta hd
    have hquits : k.quits m ≠ true := fun hq => by simp [Key.delta?_of_quits hq] at hd
    have htab : k ≠ .tab := by
      rintro rfl
      cases hd
    rw [← Pane.moveBy_eq_self_iff _ (Key.delta?_ne_zero hd), ← Bool.not_eq_true, press_snd_iff]
    simp [hquits, htab, hd]

theorem press_answers_change_last_line :
    let s : State := { start (Model.ofSource {} "a\nb".toList) with source := { cursor := 1 } }
    s.quit = false ∧ (s.press .down { shift := true }).2 = false ∧
      (s.press .down { shift := true }).1 = s ∧ (s.press (.char 'c') { control := true }).1.quit := by
  intro s
  have hs : s.quit = false := rfl
  obtain ⟨hchange,-,-,-,-,-,habsorbed⟩ := press_answers_change s hs .down { shift := true }
  obtain ⟨-,-,-,-,-,hquit,-⟩ := press_answers_change s hs (.char 'c') { control := true }
  have hstay : (s.press .down { shift := true }).2 = false := (habsorbed 1 rfl).mpr (by decide)
  refine ⟨hs, hstay, ?_, hquit.mpr (.inr ⟨rfl, rfl⟩)⟩
  by_contra hne
  rw [hchange.mpr hne] at hstay
  cases hstay

end State
end ESharp.Viewer
