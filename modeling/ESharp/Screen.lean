import ESharp.Text.Cluster
import ESharp.Text.Width

/-!
# Screens

A screen is a list of rows, and a row is a list of cells, each with a symbol and a style. Text is
laid into a row cluster by cluster until the next cluster does not fit.
-/

namespace ESharp

/-- The colours in use. The last one is the terminal's own. -/
inductive Color
  | black
  | red
  | green
  | yellow
  | magenta
  | cyan
  | gray
  | darkGray
  | reset
  deriving DecidableEq, Repr

structure Style where
  foreground : Color := .reset
  background : Color := .reset
  bold : Bool := false
  deriving DecidableEq, Repr

structure Cell where
  symbol : Text := [' ']
  style : Style := {}
  deriving DecidableEq, Repr

structure Span where
  text : Text
  style : Style := {}
  deriving DecidableEq, Repr

abbrev Row := List Cell

namespace Row

def blank (style : Style) (n : Nat) : Row := List.replicate n { style }

def fill (symbol : Char) (style : Style) (n : Nat) : Row :=
  List.replicate n { symbol := [symbol], style }

/-- Clusters laid into the last `room` cells of a row of `width` cells. A cluster wider than the
row is left out, and the first one that does not fit ends the text. A cluster stands in the first
of its cells. -/
def lay (base : Style) (width : Nat) : (room : Nat) → List (Text × Style) → Row
  | room, [] => blank base room
  | room, (symbol, style) :: rest =>
    let w := Text.width symbol
    if w = 0 ∨ width < w then lay base width room rest
    else if room < w then blank base room
    else { symbol, style } :: (blank base (w - 1) ++ lay base width (room - w) rest)

/-- The clusters of styled text. A line feed is not shown. -/
def clusters (spans : List Span) : List (Text × Style) :=
  spans.flatMap fun s =>
    ((Text.Cluster.split s.text).filter (· ≠ ['\n'])).map fun symbol => (symbol, s.style)

/-- Styled text in a row of `width` cells. -/
def ofSpans (base : Style) (width : Nat) (spans : List Span) : Row :=
  lay base width width (clusters spans)

/-- Whether something of styled text is seen in a row of `width` cells. -/
def shows (width : Nat) (spans : List Span) : Bool :=
  (clusters spans).any fun (symbol, _) => 0 < Text.width symbol && Text.width symbol ≤ width

def text (r : Row) : Text := r.flatMap Cell.symbol

/-- The cells from one column on with one style. -/
structure Run where
  start : Nat
  length : Nat
  style : Style
  deriving DecidableEq, Repr

/-- The runs of cells of one style, from column `x` on. -/
def runsFrom (x : Nat) : Row → List Run
  | [] => []
  | c :: r =>
    match runsFrom (x + 1) r with
    | run :: runs =>
      if run.style = c.style then ⟨x, run.length + 1, c.style⟩ :: runs
      else ⟨x, 1, c.style⟩ :: run :: runs
    | [] => [⟨x, 1, c.style⟩]

/-- The runs of cells with a style of their own. -/
def runs (r : Row) : List Run := (runsFrom 0 r).filter (·.style ≠ {})

theorem length_lay (base : Style) (width room : Nat) (cs : List (Text × Style)) :
    (lay base width room cs).length = room := by
  induction cs generalizing room with
  | nil => simp [lay, blank]
  | cons c cs ih =>
    obtain ⟨symbol, style⟩ := c
    simp only [lay]
    split
    · exact ih room
    · split
      · simp [blank]
      · simp [blank, ih]
        omega

@[simp] theorem length_ofSpans (base : Style) (width : Nat) (spans : List Span) :
    (ofSpans base width spans).length = width :=
  length_lay ..

end Row

abbrev Screen := List Row

end ESharp
