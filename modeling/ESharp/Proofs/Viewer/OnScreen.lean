import ESharp.Proofs.Viewer.Session

/-!
# The cursor on the screen

Drawing moves a window to its cursor, but the row at which it starts is cut off at the largest number
of a row. Main statement: the rows start no later than at the cursor, and they reach beyond it unless it
is too far down for them. Then nothing is drawn at all: every screen that is drawn has the line under the
cursor, and in a text that is short enough every screen is drawn.
-/

namespace ESharp

lemma Text.lines_replicate_newline (n : Nat) :
    Text.lines (List.replicate n '\n') = List.replicate n [] := by
  induction n with
  | zero => rfl
  | succ n ih => rw [List.replicate_succ, List.replicate_succ, Text.lines, ih]

namespace Viewer

lemma shows_highlight (width : Nat) (spans : List Span) :
    Row.shows width (highlight spans) = Row.shows width spans := by
  simp [Row.shows, Row.clusters, highlight, List.any_flatMap, Function.comp_def]

namespace Pane
variable {p : Pane} {height : Nat}

lemma offset_eq_scroll (h : p.scroll + height ≤ maxRow) : p.offset = p.scroll :=
  Nat.min_eq_left (by omega)

/-- A window that has its cursor is drawn with it, as long as the cursor is not too far down. -/
lemma lt_offset_add_iff (hle : p.scroll ≤ p.cursor) (hlt : p.cursor < p.scroll + height) :
    p.offset ≤ p.cursor ∧ (p.cursor < p.offset + height ↔ p.cursor < maxRow + height) := by
  unfold offset
  omega

lemma getElem?_window (h : p.scroll + height ≤ maxRow) {ls : List Text} {i : Nat} {l : Text}
    (hi : i < height) (hl : ls[p.scroll + i]? = some l) :
    (p.window height ls)[i]? = some (p.scroll + i, l) := by
  rw [window, offset_eq_scroll h]
  simp [List.getElem?_zipIdx, hi, hl]

lemma mem_window_iff {ls : List Text} {i : Nat} {l : Text} :
    (i, l) ∈ p.window height ls ↔ p.offset ≤ i ∧ i < p.offset + height ∧ ls[i]? = some l := by
  have hmem : (i, l) ∈ p.window height ls ↔ (l, i) ∈ ((ls.drop p.offset).take height).zipIdx p.offset := by
    simp [window]
  rw [hmem, List.mk_mem_zipIdx_iff_le_and_getElem?_sub]
  constructor
  · rintro ⟨hle,hl⟩
    rw [List.getElem?_take] at hl
    split_ifs at hl with hlt
    rw [List.getElem?_drop, Nat.add_sub_cancel' hle] at hl
    exact ⟨hle, by omega, hl⟩
  · rintro ⟨hle,hlt,hl⟩
    refine ⟨hle, ?_⟩
    rw [List.getElem?_take, if_pos (by omega), List.getElem?_drop, Nat.add_sub_cancel' hle, hl]

section Lines
variable {spans : Nat → Text → List Span} {ls : List Text}

lemma getElem?_paneSpans (spans : Nat → Text → List Span) (h : p.scroll + height ≤ maxRow)
    (hle : p.scroll ≤ p.cursor) (hlt : p.cursor < p.scroll + height) {l : Text}
    (hl : ls[p.cursor]? = some l) :
    (paneSpans spans p true height ls)[p.cursor - p.scroll]? =
      some (p.cursor, highlight (spans (p.cursor + 1) l)) := by
  have hcursor : p.scroll + (p.cursor - p.scroll) = p.cursor := by omega
  have hwindow := getElem?_window h (i := p.cursor - p.scroll) (by omega) (hcursor ▸ hl)
  rw [paneSpans, List.getElem?_map, hwindow, hcursor]
  simp

lemma scroll_add_le_of_isDrawable {width : Nat} {lines : List (Nat × List Span)} (hpos : 0 < height)
    (h : p.isDrawable width height lines) : p.scroll + height ≤ maxRow := by
  unfold isDrawable at h
  rw [Bool.and_eq_true, decide_eq_true_eq] at h
  have hrow := h.1
  unfold offset at hrow
  omega

/-- A window is drawn if it ends before the largest number of a row, or right at it with nothing to see in
the line there. -/
lemma isDrawable_iff {width : Nat} (hpos : 0 < height) (focused : Bool) :
    p.isDrawable width height (paneSpans spans p focused height ls) ↔
      p.scroll + height < maxRow ∨ p.scroll + height = maxRow ∧
        ∀ l, ls[maxRow - 1]? = some l → Row.shows width (spans maxRow l) = false := by
  have hlines : (paneSpans spans p focused height ls).all
        (fun x => firstRow + x.1 ≤ maxRow || !Row.shows width x.2) ↔
      ∀ i l, (i, l) ∈ p.window height ls →
        firstRow + i ≤ maxRow ∨ Row.shows width (spans (i + 1) l) = false := by
    simp only [paneSpans, List.all_map, List.all_eq_true, Prod.forall, Function.comp_apply,
      Bool.or_eq_true, decide_eq_true_eq, Bool.not_eq_true', apply_ite (Row.shows width),
      shows_highlight, ite_self]
  constructor
  · intro h
    have hmax := scroll_add_le_of_isDrawable hpos h
    rcases Nat.lt_or_eq_of_le hmax with hlt | heq
    · exact .inl hlt
    refine .inr ⟨heq, fun l hl => ?_⟩
    have hlast : (maxRow - 1, l) ∈ p.window height ls := by
      rw [mem_window_iff, offset_eq_scroll hmax]
      exact ⟨by omega, by omega, hl⟩
    have hall := hlines.mp (Bool.and_eq_true_iff.mp h).2 _ l hlast
    exact hall.resolve_left (by decide)
  · intro h
    have hmax : p.scroll + height ≤ maxRow := by omega
    have hoffset := offset_eq_scroll hmax
    refine Bool.and_eq_true_iff.mpr ⟨decide_eq_true (by omega), hlines.mpr fun i l hmem => ?_⟩
    obtain ⟨-,hi,hl⟩ := mem_window_iff.mp hmem
    unfold firstRow
    by_cases hrow : 2 + i ≤ maxRow
    · exact .inl hrow
    -- only the line right before the largest number is left
    have hmaxRow : maxRow = 0xFFFF := rfl
    obtain rfl : i = maxRow - 1 := by omega
    rcases h with hlt | ⟨-,hlast⟩
    · omega
    · exact .inr (hlast l hl)

end Lines

end Pane

lemma getElem?_paneRows (style : Style) (title : Text) (columns : Nat) {height i : Nat}
    (hi : i < height) (ls : List (List Span)) :
    (paneRows style title columns (height + 2) ls)[i + 1]? =
      some (innerRow style columns (ls.getD i [])) := by
  simp [paneRows, List.getElem?_append, hi]

lemma paneHeight_eq {height : Nat} (h : 0 < innerHeight height) :
    paneHeight height = innerHeight height + 2 := by
  unfold innerHeight at h ⊢
  omega

/-- The column at which a pane starts. -/
def paneStart (width : Nat) : Focus → Nat
  | .source => 0
  | .generated => paneWidth width .source

/-- The row of a screen has a row of a pane, at its columns. -/
def HasRow (width : Nat) (f : Focus) (row paneRow : Row) : Prop :=
  ∃ before after, row = before ++ paneRow ++ after ∧ before.length = paneStart width f

lemma hasRow_append {width : Nat} (hw : minWidth ≤ width) (f : Focus) (style : Focus → Style)
    (spans : Focus → List Span) :
    HasRow width f (innerRow (style .source) (paneWidth width .source) (spans .source) ++
        innerRow (style .generated) (paneWidth width .generated) (spans .generated))
      (innerRow (style f) (paneWidth width f) (spans f)) := by
  cases f with
  | source => exact ⟨[], _, by rw [List.nil_append], rfl⟩
  | generated =>
    refine ⟨_, [], by rw [List.append_nil], ?_⟩
    unfold minWidth at hw
    simp only [innerRow, Row.fill, List.length_append, List.length_replicate, Row.length_ofSpans,
      paneStart, paneWidth]
    omega

namespace State

/-- There are enough numbers for the rows of a window of `height` lines: it ends before the largest one, or
right at it with nothing to see in the line there. -/
def RowsSuffice (s : State) (f : Focus) (width height : Nat) : Prop :=
  (s.pane f).scroll + height < maxRow ∨
    (s.pane f).scroll + height = maxRow ∧ ∀ l, (s.texts f)[maxRow - 1]? = some l →
      Row.shows (paneWidth width f - 2) (lineSpans s.model f maxRow l) = false

section Screens
variable {s : State} {width height : Nat} {file : Text} {screen : Screen}

lemma RowsSuffice.le {f : Focus} (h : s.RowsSuffice f width height) :
    (s.pane f).scroll + height ≤ maxRow := by
  rcases h with h | h
  · exact Nat.le_of_lt h
  · exact Nat.le_of_eq h.1

lemma draw?_eq (hw : minWidth ≤ width) : s.draw? width height file =
    wideScreen? (s.place width height) width height file := by
  rw [draw?, if_neg (by omega)]

lemma shown_place (hw : minWidth ≤ width) (hh : 0 < innerHeight height) (s : State) (f : Focus) :
    ((s.place width height).pane f).scroll ≤ ((s.place width height).pane f).cursor ∧
      ((s.place width height).pane f).cursor <
        ((s.place width height).pane f).scroll + innerHeight height := by
  have hplace : s.place width height = s.scrollIntoView (innerHeight height) := by
    rw [place, if_neg (by omega)]
  rw [hplace, pane_scrollIntoView]
  have hfollows := (s.pane f).follows_scrollIntoView hh
  exact ⟨hfollows.start_le, hfollows.lt_stop⟩

section Inner
variable (hh : 0 < innerHeight height)
include hh

lemma drawPane?_eq_some_iff {f : Focus} {rows : List Row} :
    drawPane? s f (paneWidth width f) (paneHeight height) = some rows ↔
      s.RowsSuffice f width (innerHeight height) ∧
        rows = paneRows (borderStyle (s.focus = f)) (paneTitle f) (paneWidth width f)
          (innerHeight height + 2) ((paneLines s f (innerHeight height)).map Prod.snd) := by
  rw [paneHeight_eq hh]
  simp only [drawPane?, Nat.add_sub_cancel, Option.ite_none_right_eq_some, Option.some.injEq,
    eq_comm (a := rows)]
  refine and_congr_left fun _ => ?_
  exact Pane.isDrawable_iff hh _

lemma exists_wideScreen?_iff : (∃ screen, wideScreen? s width height file = some screen) ↔
    ∀ f, s.RowsSuffice f width (innerHeight height) := by
  simp only [wideScreen?, Option.bind_eq_bind, Option.bind_eq_some_iff, drawPane?_eq_some_iff hh]
  constructor
  · rintro ⟨_,_,⟨hsource,-⟩,_,⟨hgenerated,-⟩,-⟩ (_ | _)
    · exact hsource
    · exact hgenerated
  · intro h
    exact ⟨_, _, ⟨h .source, rfl⟩, _, ⟨h .generated, rfl⟩, rfl⟩

/-- A row between the borders is made of a row of each pane. -/
lemma getElem?_wideScreen? (h : wideScreen? s width height file = some screen) {k : Nat}
    (hk : k < innerHeight height) :
    screen[k + firstRow]? = some
      (innerRow (borderStyle (s.focus = .source)) (paneWidth width .source)
          (((paneLines s .source (innerHeight height)).map Prod.snd).getD k []) ++
        innerRow (borderStyle (s.focus = .generated)) (paneWidth width .generated)
          (((paneLines s .generated (innerHeight height)).map Prod.snd).getD k [])) := by
  have hheight : 2 ≤ height := by
    unfold innerHeight paneHeight at hh
    split_ifs at hh <;> omega
  simp only [wideScreen?, Option.bind_eq_bind, Option.bind_eq_some_iff, drawPane?_eq_some_iff hh] at h
  obtain ⟨_,⟨-,rfl⟩,_,⟨-,rfl⟩,h⟩ := h
  obtain rfl := Option.some.inj h
  have hrow : k + firstRow = k + 1 + 1 := rfl
  rw [if_pos hheight, List.append_assoc, hrow, List.singleton_append, List.getElem?_cons_succ,
    List.getElem?_append_left]
  · rw [List.getElem?_zipWith, getElem?_paneRows _ _ _ hk, getElem?_paneRows _ _ _ hk]
  · simpa [paneRows] using Nat.lt_succ_of_lt hk

/-- In every screen of a state whose windows are in place, the line under the cursor is highlighted. -/
lemma exists_hasRow (hw : minWidth ≤ width) (h : wideScreen? s width height file = some screen)
    (hle : (s.pane s.focus).scroll ≤ (s.pane s.focus).cursor)
    (hlt : (s.pane s.focus).cursor < (s.pane s.focus).scroll + innerHeight height) {l : Text}
    (hl : (s.texts s.focus)[(s.pane s.focus).cursor]? = some l) :
    ∃ row, screen[(s.pane s.focus).cursor - (s.pane s.focus).offset + firstRow]? = some row ∧
      HasRow width s.focus row (innerRow (borderStyle true) (paneWidth width s.focus)
        (highlight (lineSpans s.model s.focus ((s.pane s.focus).cursor + 1) l))) := by
  have hmax := ((exists_wideScreen?_iff hh).mp ⟨screen, h⟩ s.focus).le
  have hline := Pane.getElem?_paneSpans (lineSpans s.model s.focus) hmax hle hlt hl
  have hspans : ((paneLines s s.focus (innerHeight height)).map Prod.snd).getD
      ((s.pane s.focus).cursor - (s.pane s.focus).scroll) [] =
        highlight (lineSpans s.model s.focus ((s.pane s.focus).cursor + 1) l) := by
    rw [List.getD_eq_getElem?_getD, List.getElem?_map, paneLines, decide_eq_true rfl, hline]
    rfl
  rw [Pane.offset_eq_scroll hmax]
  refine ⟨_, getElem?_wideScreen? hh h (by omega), ?_⟩
  have hrow := hasRow_append hw s.focus (fun f => borderStyle (s.focus = f)) fun f =>
    ((paneLines s f (innerHeight height)).map Prod.snd).getD
      ((s.pane s.focus).cursor - (s.pane s.focus).scroll) []
  rw [hspans, decide_eq_true rfl] at hrow
  exact hrow

end Inner

end Screens

lemma lineCount_generated_pos {s : State} {layout : Layout} {source : Text}
    (h : s.model = Model.ofSource layout source) : 0 < s.lineCount .generated := by
  rw [lineCount, texts, h]
  exact List.length_pos_iff.mpr (Model.generatedLines_ne_nil layout source)

lemma Within.rowsSuffice {s : State} (h : s.Within) (hpos : 0 < s.lineCount .generated) (width : Nat)
    {height : Nat} (hshort : ∀ f, s.lineCount f + height ≤ maxRow) (f : Focus) :
    s.RowsSuffice f width height := by
  have hscroll := (h f).scroll
  have hpane := hshort f
  -- an empty script has no line, but the program beside it leaves a row
  have hgenerated := hshort .generated
  exact .inl (by omega)

/-- When a session is drawn, the rows of either pane start no later than at its cursor, and they reach
beyond it unless it is too far down. Where a screen is drawn, they do, and the line under the cursor is
highlighted in its row of the pane that has the focus. A screen is drawn just if there are enough numbers
for the rows of both panes, and so in every text that is short enough. -/
theorem cursor_on_screen_iff (layout : Layout) (source : Text) (as : List Action)
    {width height : Nat} (hw : minWidth ≤ width) (hh : 0 < innerHeight height) :
    let before := (start (Model.ofSource layout source)).run as
    let s := before.place width height
    let h := innerHeight height
    let p := s.pane s.focus
    (∀ f, (s.pane f).offset ≤ (s.pane f).cursor ∧
        ((s.pane f).cursor < (s.pane f).offset + h ↔ (s.pane f).cursor < maxRow + h)) ∧
      (∀ file screen, before.draw? width height file = some screen →
        (∀ f, (s.pane f).cursor < (s.pane f).offset + h) ∧
          ∀ l, (s.texts s.focus)[p.cursor]? = some l →
            ∃ row, screen[p.cursor - p.offset + firstRow]? = some row ∧
              HasRow width s.focus row (innerRow (borderStyle true) (paneWidth width s.focus)
                (highlight (lineSpans s.model s.focus (p.cursor + 1) l)))) ∧
      (∀ file, (∃ screen, before.draw? width height file = some screen) ↔
        ∀ f, s.RowsSuffice f width h) ∧
      (∀ f, s.lineCount f + h ≤ maxRow → (s.pane f).cursor < (s.pane f).offset + h) ∧
      ((∀ f, s.lineCount f + h ≤ maxRow) →
        ∀ file, ∃ screen, before.draw? width height file = some screen) := by
  intro before s h p
  have hshown : ∀ f, (s.pane f).scroll ≤ (s.pane f).cursor ∧
      (s.pane f).cursor < (s.pane f).scroll + h := shown_place hw hh before
  have hrows : ∀ f, (s.pane f).offset ≤ (s.pane f).cursor ∧
      ((s.pane f).cursor < (s.pane f).offset + h ↔ (s.pane f).cursor < maxRow + h) :=
    fun f => Pane.lt_offset_add_iff (hshown f).1 (hshown f).2
  have hwithin : s.Within := ((within_start _).run as).act (.draw width height)
  have hdraw : ∀ file, (∃ screen, before.draw? width height file = some screen) ↔
      ∀ f, s.RowsSuffice f width h := by
    intro file
    rw [draw?_eq hw]
    exact exists_wideScreen?_iff hh
  refine ⟨hrows, ?_, hdraw, ?_, ?_⟩
  · intro file screen hscreen
    have hmax := fun f => ((hdraw file).mp ⟨screen, hscreen⟩ f).le
    rw [draw?_eq hw] at hscreen
    refine ⟨fun f => ?_, fun l hl => ?_⟩
    · rw [Pane.offset_eq_scroll (hmax f)]
      exact (hshown f).2
    · exact exists_hasRow hh hw hscreen (hshown s.focus).1 (hshown s.focus).2 hl
  · intro f hshort
    have hcursor := (hwithin f).cursor
    exact (hrows f).2.mpr (by omega)
  · intro hshort file
    have hmodel : s.model = Model.ofSource layout source :=
      (model_act before (.draw width height)).trans (model_run _ as)
    exact (hdraw file).mpr (hwithin.rowsSuffice (lineCount_generated_pos hmodel) width hshort)

theorem cursor_on_screen_iff_two_lines :
    let before := (start (Model.ofSource {} "a\nb".toList)).run [.key .down {}]
    let s := before.place 50 5
    minWidth ≤ 50 ∧ 0 < innerHeight 5 ∧ s.source = { cursor := 1, scroll := 1 } ∧
      s.source.offset ≤ 1 ∧ 1 < s.source.offset + 1 ∧
      ∃ screen row, before.draw? 50 5 [] = some screen ∧ screen[2]? = some row ∧
        HasRow 50 .source row (innerRow (borderStyle true) 25
          (highlight (sourceSpans s.model 2 "b".toList))) := by
  intro before s
  have hw : minWidth ≤ 50 := by decide
  have hh : 0 < innerHeight 5 := by decide
  have hsource : s.source = { cursor := 1, scroll := 1 } := by decide
  obtain ⟨hrows,hscreen,-,hshort,hdraw⟩ :=
    cursor_on_screen_iff {} "a\nb".toList [.key .down {}] hw hh
  have hcount : ∀ f, s.lineCount f + innerHeight 5 ≤ maxRow := by
    rintro (_ | _) <;> decide
  obtain ⟨screen,hdrawn⟩ := hdraw hcount []
  obtain ⟨row,hrow,hpane⟩ := (hscreen [] screen hdrawn).2 "b".toList (by decide)
  exact ⟨hw, hh, hsource, (hrows .source).1, hshort .source (hcount .source), screen, row, hdrawn, hrow,
    hpane⟩

lemma source_end_place {m : Model} {n : Nat} (hm : m.sourceLines.length = n + 1)
    (hn : n ≤ 0x7FFFFFFFFFFFFFFF) :
    (((start m).run [.key .endKey {}]).place 50 5).source = { cursor := n, scroll := n } := by
  have hcount : (start m).lineCount .source = n + 1 := hm
  have hmove : Pane.moveBy {} 0x7FFFFFFFFFFFFFFF (n + 1) = { cursor := n } := by
    simp only [Pane.moveBy, maxCursor, Pane.mk.injEq, and_true]
    omega
  have hend : ((start m).act (.key .endKey {})).pane .source = { cursor := n } := by
    rw [pane_act, hcount]
    exact hmove
  have hheight : (Action.draw 50 5).height? = some 1 := by decide
  change (((start m).act (.key .endKey {})).act (.draw 50 5)).pane .source = _
  rw [act_of_height? hheight, pane_scrollIntoView, hend]
  cases n with
  | zero => rfl
  | succ n => simp [Pane.scrollIntoView]

/-- At the end of a text of 65537 lines a window of one line is at the cursor, but the row at which it is
to be drawn is the one before, and no screen is drawn. -/
theorem cursor_leaves_screen :
    let before := (start (Model.ofSource {} (List.replicate 65537 '\n'))).run [.key .endKey {}]
    let s := before.place 50 5
    minWidth ≤ 50 ∧ innerHeight 5 = 1 ∧ s.source = { cursor := 65536, scroll := 65536 } ∧
      s.source.offset = 65535 ∧ ¬ s.source.cursor < s.source.offset + innerHeight 5 ∧
      ∀ file, before.draw? 50 5 file = none := by
  intro before s
  have hw : minWidth ≤ 50 := by decide
  have hh : 0 < innerHeight 5 := by decide
  have hinner : innerHeight 5 = 1 := by decide
  have hlines : (Model.ofSource {} (List.replicate 65537 '\n')).sourceLines.length = 65536 + 1 := by
    rw [Model.ofSource, Text.lines_replicate_newline, List.length_replicate]
  have hsource : s.source = { cursor := 65536, scroll := 65536 } :=
    source_end_place hlines (by decide)
  have hnone : ∀ file, before.draw? 50 5 file = none := by
    intro file
    rw [draw?_eq hw, Option.eq_none_iff_forall_ne_some]
    intro screen hscreen
    have hle : (s.pane .source).scroll + innerHeight 5 ≤ maxRow :=
      ((exists_wideScreen?_iff hh).mp ⟨screen, hscreen⟩ .source).le
    rw [pane, hsource, hinner] at hle
    exact absurd hle (by decide)
  rw [hinner, hsource]
  exact ⟨hw, rfl, rfl, rfl, by decide, hnone⟩

end State
end Viewer
end ESharp
