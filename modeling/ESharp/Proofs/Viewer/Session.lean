import ESharp.Viewer.Drawing
import Mathlib.Tactic.Common

/-!
# Sessions of the viewer

A session is a list of keys, changes of the focus and drawings. What one of them does is said once,
pane by pane, and the rest follows from that. Main statement: no session leads a cursor or a window
out of its text, and each drawing shows the cursor by the shortest move of the window.
-/

namespace ESharp.Viewer

/-- What can happen to the viewer. -/
inductive Action
  | key (k : Key) (m : Modifiers)
  | toggle
  /-- Both panes get a window of some lines, whatever the screen is like. -/
  | window (height : Nat)
  | draw (width height : Nat)
  deriving DecidableEq, Repr

namespace Action

/-- How far the focused cursor is asked to move. -/
def delta? : Action → Option Int
  | key k _ => k.delta?
  | _ => none

/-- The lines of the windows that the panes get. A narrow screen gives them none. -/
def height? : Action → Option Nat
  | window height => some height
  | draw width height => if width < minWidth then none else some (innerHeight height)
  | _ => none

/-- Whether the focus goes to the other pane. -/
def switches : Action → Bool
  | key k _ => k = .tab
  | toggle => true
  | _ => false

end Action

lemma Key.delta?_of_quits {k : Key} {m : Modifiers} (h : k.quits m) : k.delta? = none := by
  have hk : k = .char 'q' ∨ k = .char 'c' := by
    simp only [Key.quits, Bool.or_eq_true, Bool.and_eq_true, decide_eq_true_eq] at h
    tauto
  rcases hk with rfl | rfl <;> rfl

lemma Key.quits_tab (m : Modifiers) : Key.tab.quits m = false := by simp [Key.quits]

namespace State

/-- The state after an action. -/
def act (s : State) : Action → State
  | .key k m => (s.press k m).1
  | .toggle => s.toggle
  | .window height => s.scrollIntoView height
  | .draw width height => s.place width height

/-- The state after a session. -/
def run (s : State) (as : List Action) : State := as.foldl act s

@[simp] lemma run_nil (s : State) : s.run [] = s := rfl

@[simp] lemma run_cons (s : State) (a : Action) (as : List Action) :
    s.run (a :: as) = (s.act a).run as := rfl

@[simp] lemma pane_toggle (s : State) (f : Focus) : s.toggle.pane f = s.pane f := by cases f <;> rfl

lemma pane_setFocused (s : State) (p : Pane) (f : Focus) :
    (s.setFocused p).pane f = if s.focus = f then p else s.pane f := by
  unfold setFocused
  cases hs : s.focus <;> cases f <;> simp [pane]

@[simp] lemma focus_setFocused (s : State) (p : Pane) : (s.setFocused p).focus = s.focus := by
  unfold setFocused
  split <;> rfl

@[simp] lemma model_setFocused (s : State) (p : Pane) : (s.setFocused p).model = s.model := by
  unfold setFocused
  split <;> rfl

@[simp] lemma pane_scrollIntoView (s : State) (height : Nat) (f : Focus) :
    (s.scrollIntoView height).pane f = (s.pane f).scrollIntoView height := by cases f <;> rfl

/-- A key quits, changes the focus or moves a cursor, and never two of these. -/
lemma press_cases (s : State) (k : Key) (m : Modifiers) :
    (k.quits m ∧ k.delta? = none ∧ k ≠ .tab ∧ (s.press k m).1 = { s with quit := true }) ∨
      (k = .tab ∧ k.delta? = none ∧ (s.press k m).1 = s.toggle) ∨
      (k ≠ .tab ∧ ∃ delta, k.delta? = some delta ∧
        (s.press k m).1 = s.setFocused ((s.pane s.focus).moveBy delta (s.lineCount s.focus))) ∨
      (k ≠ .tab ∧ k.delta? = none ∧ (s.press k m).1 = s) := by
  by_cases hq : k.quits m
  · have hne : k ≠ .tab := by
      rintro rfl
      simp [Key.quits_tab] at hq
    exact .inl ⟨hq, Key.delta?_of_quits hq, hne, by simp [press, hq]⟩
  · by_cases ht : k = .tab
    · subst ht
      exact .inr (.inl ⟨rfl, rfl, by simp [press, Key.quits_tab]⟩)
    · cases hd : k.delta? with
      | none => exact .inr (.inr (.inr ⟨ht, rfl, by simp [press, hq, ht, hd]⟩))
      | some delta =>
        exact .inr (.inr (.inl ⟨ht, delta, rfl, by simp [press, hq, ht, hd, move]⟩))

lemma act_of_height? {a : Action} {height : Nat} (h : a.height? = some height) (s : State) :
    s.act a = s.scrollIntoView height := by
  cases a with
  | key k m => simp [Action.height?] at h
  | toggle => simp [Action.height?] at h
  | window n =>
    obtain rfl : n = height := Option.some.inj h
    rfl
  | draw width n =>
    simp only [Action.height?] at h
    split_ifs at h with hw
    obtain rfl : innerHeight n = height := Option.some.inj h
    simp [act, place, hw]

/-- What an action does to a pane. -/
theorem pane_act (s : State) (a : Action) (f : Focus) :
    (s.act a).pane f =
      match a.height?, a.delta? with
      | some height, _ => (s.pane f).scrollIntoView height
      | none, some delta =>
        if s.focus = f then (s.pane f).moveBy delta (s.lineCount f) else s.pane f
      | none, none => s.pane f := by
  cases ha : a.height? with
  | some height => rw [act_of_height? ha, pane_scrollIntoView]
  | none =>
    cases a with
    | key k m =>
      simp only [act, Action.delta?]
      rcases press_cases s k m with ⟨-,hd,-,hp⟩ | ⟨-,hd,hp⟩ | ⟨-,delta,hd,hp⟩ | ⟨-,hd,hp⟩
      · rw [hp, hd]
        cases f <;> rfl
      · rw [hp, hd, pane_toggle]
      · rw [hp, hd, pane_setFocused]
        split_ifs with hf
        · rw [hf]
        · rfl
      · rw [hp, hd]
    | toggle => exact pane_toggle s f
    | window height => simp [Action.height?] at ha
    | draw width height =>
      have hw : width < minWidth := by
        by_contra hw
        simp [Action.height?, hw] at ha
      simp [act, place, hw, Action.delta?]

/-- What an action does to the focus. -/
theorem focus_act (s : State) (a : Action) :
    (s.act a).focus = if a.switches then s.focus.other else s.focus := by
  cases a with
  | key k m =>
    simp only [act, Action.switches]
    rcases press_cases s k m with ⟨-,-,hk,hp⟩ | ⟨hk,-,hp⟩ | ⟨hk,delta,-,hp⟩ | ⟨hk,-,hp⟩
    · simp [hp, hk]
    · rw [hp, hk]
      rfl
    · simp [hp, hk]
    · simp [hp, hk]
  | toggle => rfl
  | window height => rfl
  | draw width height =>
    simp only [act, place, Action.switches]
    split <;> rfl

@[simp] theorem model_act (s : State) (a : Action) : (s.act a).model = s.model := by
  cases a with
  | key k m =>
    simp only [act]
    rcases press_cases s k m with ⟨-,-,-,hp⟩ | ⟨-,-,hp⟩ | ⟨-,delta,-,hp⟩ | ⟨-,-,hp⟩
    · rw [hp]
    · rw [hp]
      rfl
    · rw [hp, model_setFocused]
    · rw [hp]
  | toggle => rfl
  | window height => rfl
  | draw width height =>
    simp only [act, place]
    split <;> rfl

@[simp] lemma lineCount_act (s : State) (a : Action) (f : Focus) :
    (s.act a).lineCount f = s.lineCount f := by cases f <;> simp [lineCount, texts]

@[simp] lemma model_run (s : State) (as : List Action) : (s.run as).model = s.model := by
  induction as generalizing s with
  | nil => rfl
  | cons a as ih => rw [run_cons, ih, model_act]

end State

namespace Pane

/-- Cursor and window start at a line of a text of `count` lines, or at zero if it has none. -/
structure Within (count : Nat) (p : Pane) : Prop where
  cursor : p.cursor ≤ count - 1
  scroll : p.scroll ≤ count - 1

/-- The window of `height` lines at `q` shows the cursor, and no window that shows it is nearer to the
one at `p`. -/
structure Follows (height : Nat) (p q : Pane) : Prop where
  cursor : q.cursor = p.cursor
  start_le : q.scroll ≤ q.cursor
  lt_stop : q.cursor < q.scroll + height
  least : ∀ scroll, scroll ≤ p.cursor → p.cursor < scroll + height →
    ((q.scroll : Int) - p.scroll).natAbs ≤ ((scroll : Int) - p.scroll).natAbs
  /-- A window that goes down ends at the cursor: the difference that places it is exact. -/
  stop_eq : p.scroll + height ≤ p.cursor → q.scroll + height = p.cursor + 1

lemma Within.moveBy {count : Nat} {p : Pane} (h : p.Within count) (delta : Int) :
    (p.moveBy delta count).Within count where
  cursor := Nat.min_le_right _ _
  scroll := h.scroll

@[simp] lemma cursor_scrollIntoView (p : Pane) (height : Nat) :
    (p.scrollIntoView height).cursor = p.cursor := by
  unfold scrollIntoView
  split_ifs <;> rfl

/-- Where the window goes, in the four cases of its old place. -/
lemma scroll_scrollIntoView (p : Pane) (height : Nat) :
    (p.scrollIntoView height).scroll =
      if height = 0 then p.scroll
      else if p.cursor < p.scroll then p.cursor
      else if p.scroll + height ≤ p.cursor then p.cursor + 1 - height
      else p.scroll := by
  unfold scrollIntoView
  split_ifs <;> rfl

lemma Within.scrollIntoView {count : Nat} {p : Pane} (h : p.Within count) (height : Nat) :
    (p.scrollIntoView height).Within count where
  cursor := by
    rw [cursor_scrollIntoView]
    exact h.cursor
  scroll := by
    have hc := h.cursor
    have hs := h.scroll
    rw [scroll_scrollIntoView]
    split_ifs <;> omega

theorem follows_scrollIntoView (p : Pane) {height : Nat} (h : 0 < height) :
    Follows height p (p.scrollIntoView height) where
  cursor := p.cursor_scrollIntoView height
  start_le := by
    rw [cursor_scrollIntoView, scroll_scrollIntoView]
    split_ifs <;> omega
  lt_stop := by
    rw [cursor_scrollIntoView, scroll_scrollIntoView]
    split_ifs <;> omega
  least := by
    intro scroll hle hlt
    rw [scroll_scrollIntoView]
    split_ifs <;> omega
  stop_eq := by
    intro hdown
    rw [scroll_scrollIntoView]
    split_ifs <;> omega

/-- A window that shows the cursor stays. -/
lemma scrollIntoView_of_shown {p : Pane} {height : Nat} (hle : p.scroll ≤ p.cursor)
    (hlt : p.cursor < p.scroll + height) : p.scrollIntoView height = p := by
  unfold scrollIntoView
  rw [if_neg (by omega), if_neg (by omega), if_neg (by omega)]

@[simp] theorem scrollIntoView_scrollIntoView (p : Pane) (height : Nat) :
    (p.scrollIntoView height).scrollIntoView height = p.scrollIntoView height := by
  rcases Nat.eq_zero_or_pos height with rfl | h
  · rfl
  · have hf := p.follows_scrollIntoView h
    exact scrollIntoView_of_shown hf.start_le hf.lt_stop

end Pane

namespace State

/-- Both panes are within their texts. -/
def Within (s : State) : Prop := ∀ f, (s.pane f).Within (s.lineCount f)

lemma within_start (m : Model) : (start m).Within := by
  intro f
  cases f <;> exact ⟨Nat.zero_le _, Nat.zero_le _⟩

theorem Within.act {s : State} (h : s.Within) (a : Action) : (s.act a).Within := by
  intro f
  rw [lineCount_act, pane_act]
  split
  · exact (h f).scrollIntoView _
  · split_ifs
    · exact (h f).moveBy _
    · exact h f
  · exact h f

theorem Within.run {s : State} (h : s.Within) (as : List Action) : (s.run as).Within := by
  induction as generalizing s with
  | nil => exact h
  | cons a as ih => exact ih (h.act a)

end State

lemma Model.generatedLines_ne_nil (layout : Layout) (source : Text) :
    (Model.ofSource layout source).generatedLines ≠ [] := by
  have hlines : ∀ t : Text, t ≠ [] → Text.lines t ≠ [] := by
    intro t ht
    unfold Text.lines
    split
    · exact absurd rfl ht
    · simp
    · simp
    · split <;> simp
  apply hlines
  -- the closing brace of the class is always written
  simp [Program.translate, Program.render, Program.lines, Text.unlines]

namespace State

/-- After any session each cursor and each window is at a line of its text. A drawing that gives the
panes a window then moves it to the cursor by the shortest way, and drawing once more moves nothing. -/
theorem run_within_and_follows (layout : Layout) (source : Text) (as : List Action) :
    let m := Model.ofSource layout source
    let s := (start m).run as
    s.generated.cursor < m.generatedLines.length ∧
      s.source.cursor ≤ max m.sourceLines.length 1 - 1 ∧
      s.generated.scroll ≤ m.generatedLines.length - 1 ∧
      s.source.scroll ≤ m.sourceLines.length - 1 ∧
      ∀ a height, a.height? = some height →
        (s.act a).act a = s.act a ∧
          (0 < height → ∀ f, Pane.Follows height (s.pane f) ((s.act a).pane f)) := by
  intro m s
  have hs : s.Within := (within_start m).run as
  have hm : s.model = m := model_run _ as
  have hsource := hs .source
  have hgenerated := hs .generated
  simp only [pane, lineCount, texts, hm] at hsource hgenerated
  have hpos : 0 < m.generatedLines.length :=
    List.length_pos_iff.mpr (Model.generatedLines_ne_nil layout source)
  have hlast : m.sourceLines.length - 1 ≤ max m.sourceLines.length 1 - 1 := by omega
  refine ⟨Nat.lt_of_le_pred hpos hgenerated.cursor, Nat.le_trans hsource.cursor hlast,
    hgenerated.scroll, hsource.scroll, ?_⟩
  intro a height ha
  rw [act_of_height? ha, act_of_height? ha]
  refine ⟨by simp [scrollIntoView], fun hh f => ?_⟩
  rw [pane_scrollIntoView]
  exact (s.pane f).follows_scrollIntoView hh

end State
end ESharp.Viewer
