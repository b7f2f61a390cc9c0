import ESharp.Proofs.Viewer.Session
import Mathlib.Algebra.Group.Nat.Even
import Mathlib.Algebra.Order.Group.Int
import Mathlib.Algebra.Order.Monoid.Unbundled.WithTop

/-!
# Two panes that do not disturb each other

A cursor is moved by the keys that come while its pane has the focus, and by nothing else. Main
statement: it is where the same keys lead in whole numbers without bounds, with each step cut off at
the ends of the text, and the keys of one pane can be left out of a session without a trace in the
other.
-/

namespace ESharp.Viewer

/-- A number of lines, or further than any text is long, up or down. -/
abbrev Distance := WithBot (WithTop ℤ)

namespace Distance

def lines (n : ℤ) : Distance := ((n : WithTop ℤ) : WithBot (WithTop ℤ))

/-- The sum, cut off at the first and at the last line. -/
def clamped (last : Nat) (c d : Distance) : Distance := max (lines 0) (min (c + d) (lines last))

lemma lines_max (m n : ℤ) : lines (max m n) = max (lines m) (lines n) := by
  rw [lines, WithTop.coe_max, WithBot.coe_max]
  rfl

lemma lines_min (m n : ℤ) : lines (min m n) = min (lines m) (lines n) := by
  rw [lines, WithTop.coe_min, WithBot.coe_min]
  rfl

lemma clamped_lines (last : Nat) (c n : ℤ) :
    clamped last (lines c) (lines n) = lines (max 0 (min (c + n) last)) := by
  rw [lines_max, lines_min]
  rfl

lemma clamped_bot (last : Nat) (c : ℤ) : clamped last (lines c) ⊥ = lines 0 := by
  simp [clamped]

lemma clamped_top (last : Nat) (c : ℤ) : clamped last (lines c) ⊤ = lines last := by
  have htop : lines c + ⊤ = ⊤ := rfl
  rw [clamped, htop, min_eq_right le_top, ← lines_max, max_eq_right (Int.natCast_nonneg last)]

end Distance

open Distance

/-- How far a key moves a cursor when there are no bounds. -/
def Key.distance? : Key → Option Distance
  | down | char 'j' => some (lines 1)
  | up | char 'k' => some (lines (-1))
  | pageDown => some (lines 20)
  | pageUp => some (lines (-20))
  | home | char 'g' => some ⊥
  | endKey | char 'G' => some ⊤
  | _ => none

def Action.distance? : Action → Option Distance
  | key k _ => k.distance?
  | _ => none

namespace Pane
variable {p : Pane} {count : Nat}

/-- In a text that is not too long no sum is out of range, so only the ends of the text cut it off. -/
lemma cursor_moveBy (hp : p.cursor ≤ count - 1) (hn : count < 2 ^ 63) {delta : Int}
    (hd : delta < 2 ^ 63) :
    ((p.moveBy delta count).cursor : ℤ) =
      max 0 (min (p.cursor + delta) ((max count 1 - 1 : Nat) : ℤ)) := by
  simp only [moveBy, maxCursor]
  omega

/-- A key that moves has a distance, and the cursor goes where the distance leads. -/
lemma lines_cursor_moveBy (hp : p.cursor ≤ count - 1) (hn : count < 2 ^ 63) {k : Key} {delta : Int}
    (hk : k.delta? = some delta) :
    ∃ x, k.distance? = some x ∧
      lines (p.moveBy delta count).cursor = clamped (max count 1 - 1) (lines p.cursor) x := by
  have hfinite : ∀ n : ℤ, n < 2 ^ 63 →
      lines (p.moveBy n count).cursor = clamped (max count 1 - 1) (lines p.cursor) (lines n) := by
    intro n hlt
    rw [clamped_lines, cursor_moveBy hp hn hlt]
  have hfirst : lines (p.moveBy (-0x8000000000000000) count).cursor =
      clamped (max count 1 - 1) (lines p.cursor) ⊥ := by
    rw [clamped_bot, cursor_moveBy hp hn (by decide)]
    congr 1
    omega
  have hlast : lines (p.moveBy 0x7FFFFFFFFFFFFFFF count).cursor =
      clamped (max count 1 - 1) (lines p.cursor) ⊤ := by
    rw [clamped_top, cursor_moveBy hp hn (by decide)]
    congr 1
    omega
  unfold Key.delta? at hk
  split at hk <;> cases hk
  · exact ⟨_, rfl, hfinite 1 (by decide)⟩
  · exact ⟨_, rfl, hfinite 1 (by decide)⟩
  · exact ⟨_, rfl, hfinite (-1) (by decide)⟩
  · exact ⟨_, rfl, hfinite (-1) (by decide)⟩
  · exact ⟨_, rfl, hfinite 20 (by decide)⟩
  · exact ⟨_, rfl, hfinite (-20) (by decide)⟩
  · exact ⟨_, rfl, hfirst⟩
  · exact ⟨_, rfl, hfirst⟩
  · exact ⟨_, rfl, hlast⟩
  · exact ⟨_, rfl, hlast⟩

end Pane

lemma Action.distance?_eq_none_iff {a : Action} : a.distance? = none ↔ a.delta? = none := by
  cases a with
  | key k m =>
    simp only [Action.distance?, Action.delta?]
    unfold Key.distance? Key.delta?
    split <;> simp
  | _ => simp [Action.distance?, Action.delta?]

lemma Action.height?_of_delta? {a : Action} {delta : Int} (h : a.delta? = some delta) :
    a.height? = none := by
  cases a with
  | key k m => rfl
  | _ => simp [Action.delta?] at h

namespace State

/-- The distances that the keys of a session ask of a pane: those that come while it has the
focus. -/
def distances (f : Focus) : State → List Action → List Distance
  | _, [] => []
  | s, a :: as => (if s.focus = f then a.distance?.toList else []) ++ distances f (s.act a) as

/-- A session without the keys that move the cursor of a pane. -/
def withoutMoves (f : Focus) : State → List Action → List Action
  | _, [] => []
  | s, a :: as =>
    if s.focus = f ∧ a.distance?.isSome then withoutMoves f (s.act a) as
    else a :: withoutMoves f (s.act a) as

/-- One action takes a cursor where its distance leads, if the pane has the focus. -/
lemma lines_cursor_act {s : State} (hs : s.Within) {f : Focus} (hn : s.lineCount f < 2 ^ 63)
    (a : Action) :
    lines ((s.act a).pane f).cursor =
      (if s.focus = f then a.distance?.toList else []).foldl
        (clamped (max (s.lineCount f) 1 - 1)) (lines (s.pane f).cursor) := by
  rw [pane_act]
  cases hd : a.delta? with
  | none =>
    have hdist : a.distance? = none := Action.distance?_eq_none_iff.mpr hd
    rw [hdist]
    cases a.height? <;> simp
  | some delta =>
    rw [Action.height?_of_delta? hd]
    cases a with
    | key k m =>
      obtain ⟨x,hx,hmove⟩ := Pane.lines_cursor_moveBy (hs f).cursor hn hd
      by_cases hf : s.focus = f
      · simp [hf, Action.distance?, hx, hmove]
      · simp [hf]
    | _ => simp [Action.delta?] at hd

/-- The cursor after a session is a fold over the distances asked of its pane. -/
theorem lines_cursor_run {s : State} (hs : s.Within) {f : Focus} (hn : s.lineCount f < 2 ^ 63)
    (as : List Action) :
    lines ((s.run as).pane f).cursor =
      (s.distances f as).foldl (clamped (max (s.lineCount f) 1 - 1)) (lines (s.pane f).cursor) := by
  induction as generalizing s with
  | nil => rfl
  | cons a as ih =>
    have hrest := ih (hs.act a) (by rwa [lineCount_act])
    rw [run_cons, hrest, lineCount_act, lines_cursor_act hs hn, distances, List.foldl_append]

/-- The focus after a session depends on how often it was switched. -/
theorem focus_run (s : State) (as : List Action) :
    (s.run as).focus = if Even (as.countP Action.switches) then s.focus else s.focus.other := by
  induction as generalizing s with
  | nil => simp
  | cons a as ih =>
    rw [run_cons, ih, focus_act, List.countP_cons]
    cases a.switches with
    | false => simp
    | true =>
      have hother : s.focus.other.other = s.focus := by cases s.focus <;> rfl
      simp only [if_true, Nat.even_add_one, hother]
      split_ifs <;> rfl

/-- The two states are of one model, have one focus and agree on a pane. -/
structure AgreeOn (f : Focus) (s r : State) : Prop where
  model : s.model = r.model
  focus : s.focus = r.focus
  pane : s.pane f = r.pane f

lemma AgreeOn.lineCount {f : Focus} {s r : State} (h : AgreeOn f s r) :
    s.lineCount f = r.lineCount f := by
  cases f <;> simp [State.lineCount, State.texts, h.model]

/-- An action keeps states in agreement: it looks at nothing else. -/
theorem AgreeOn.act {f : Focus} {s r : State} (h : AgreeOn f s r) (a : Action) :
    AgreeOn f (s.act a) (r.act a) where
  model := by rw [model_act, model_act, h.model]
  focus := by rw [focus_act, focus_act, h.focus]
  pane := by rw [pane_act, pane_act, h.pane, h.focus, h.lineCount]

/-- A key that moves the cursor of one pane leaves the other pane alone. -/
lemma agreeOn_act_of_distance? {s : State} {a : Action} (ha : a.distance?.isSome) :
    AgreeOn s.focus.other (s.act a) s where
  model := model_act s a
  focus := by
    have hs : a.switches = false := by
      cases a with
      | key k m =>
        have hk : k ≠ .tab := by
          rintro rfl
          exact Bool.false_ne_true ha
        simp [Action.switches, hk]
      | _ => simp [Action.distance?] at ha
    rw [focus_act, hs]
    rfl
  pane := by
    obtain ⟨delta,hd⟩ : ∃ delta, a.delta? = some delta := by
      rw [← Option.ne_none_iff_exists', Ne, ← Action.distance?_eq_none_iff]
      exact Option.isSome_iff_ne_none.mp ha
    have hne : s.focus ≠ s.focus.other := by cases s.focus <;> decide
    rw [pane_act, hd, Action.height?_of_delta? hd]
    simp [hne]

/-- Two sessions in step: the second one lacks the keys that move the cursor of `f`. -/
theorem AgreeOn.run_withoutMoves {f : Focus} {s r : State} (h : AgreeOn f.other s r)
    (as : List Action) : AgreeOn f.other (s.run as) (r.run (s.withoutMoves f as)) := by
  induction as generalizing s r with
  | nil => exact h
  | cons a as ih =>
    rw [run_cons, withoutMoves]
    split_ifs with ha
    · obtain ⟨rfl,hmove⟩ := ha
      have hstay : AgreeOn s.focus.other (s.act a) s := agreeOn_act_of_distance? hmove
      exact ih ⟨hstay.model.trans h.model, hstay.focus.trans h.focus, hstay.pane.trans h.pane⟩
    · exact ih (h.act a)

/-- After any session the cursor of a pane is the fold of the clamped distances that the keys asked of
that pane, the focus is a matter of how often it was switched, and without the keys that moved one
pane the other ends up the same. -/
theorem panes_move_independently (layout : Layout) (source : Text) (as : List Action) (f : Focus)
    (hn : (start (Model.ofSource layout source)).lineCount f < 2 ^ 63) :
    let s := start (Model.ofSource layout source)
    lines ((s.run as).pane f).cursor =
        (s.distances f as).foldl (clamped (max (s.lineCount f) 1 - 1)) (lines 0) ∧
      (s.run as).focus = (if Even (as.countP Action.switches) then .source else .generated) ∧
      (s.run (s.withoutMoves f as)).pane f.other = (s.run as).pane f.other := by
  intro s
  refine ⟨?_, focus_run s as, ?_⟩
  · have hzero : (s.pane f).cursor = 0 := by cases f <;> rfl
    rw [lines_cursor_run (within_start _) hn, hzero]
    rfl
  · have h : AgreeOn f.other s s := ⟨rfl, rfl, rfl⟩
    exact (h.run_withoutMoves as).pane.symm

theorem panes_move_independently_three_lines :
    let s := start (Model.ofSource {} "a\nb\nc".toList)
    let as : List Action := [.key .endKey {}, .draw 80 3, .key .tab {}, .key .down {},
      .key .pageUp {}, .key .down {}, .toggle, .key (.char 'k') { control := true }]
    s.lineCount .source < 2 ^ 63 ∧ s.distances .source as = [⊤, lines (-1)] ∧
      lines ((s.run as).pane .source).cursor = [⊤, lines (-1)].foldl (clamped 2) (lines 0) ∧
      (s.run as).focus = .source ∧
      (s.run (s.withoutMoves .source as)).generated = (s.run as).generated ∧
      (s.run as).generated.cursor = 1 := by
  intro s as
  have hn : s.lineCount .source < 2 ^ 63 := by decide
  obtain ⟨hcursor,hfocus,hother⟩ :=
    panes_move_independently {} "a\nb\nc".toList as .source hn
  exact ⟨hn, rfl, hcursor, hfocus.trans (by decide), hother, by decide⟩

end State
end ESharp.Viewer
