import ESharp.Screen
import ESharp.Viewer.State

/-!
# Drawing the viewer

The screen has a title, the two panes side by side and a status line. Drawing first moves the
windows of the panes to their cursors. It fails where the number of a row gets too large: rows are
counted from the first line of a text on, also those above the window.
-/

namespace ESharp.Viewer

def minWidth : Nat := 50

def kindStyle : Directive.Kind → Style
  | .imports => { foreground := .magenta }
  | .assert => { foreground := .red }
  | .print => { foreground := .green }
  | .forHeader => { foreground := .yellow }
  | .regular => {}

/-- A number set to the right of at least four columns. -/
def lineNumber (n : Nat) : Text :=
  let digits := Text.ofNat n
  List.replicate (4 - digits.length) ' ' ++ digits ++ [' ']

/-- The line `n` of the script. -/
def sourceSpans (m : Model) (n : Nat) (line : Text) : List Span :=
  [{ text := lineNumber n, style := { foreground := .darkGray } },
    { text := line, style := ((m.kindAt? n).map kindStyle).getD {} }]

def generatedSpans (line : Text) : List Span := [{ text := line }]

def highlight (spans : List Span) : List Span :=
  spans.map fun s => { s with style := { s.style with background := .darkGray } }

/-- The largest number of a row. -/
def maxRow : Nat := 0xFFFF

/-- The first line to draw. -/
def Pane.offset (p : Pane) : Nat := min p.scroll maxRow

/-- The numbered lines in a window of `height` lines. -/
def Pane.window (p : Pane) (height : Nat) (ls : List Text) : List (Nat × Text) :=
  (((ls.drop p.offset).take height).zipIdx p.offset).map fun (l, i) => (i, l)

/-- The numbered lines of a pane as they are drawn in a window of `height` lines. -/
def paneSpans (spans : Nat → Text → List Span) (p : Pane) (focused : Bool) (height : Nat)
    (ls : List Text) : List (Nat × List Span) :=
  (p.window height ls).map fun (i, l) =>
    (i, if focused && i = p.cursor then highlight (spans (i + 1) l) else spans (i + 1) l)

/-- The row of the screen below the title and the border of the panes. -/
def firstRow : Nat := 2

/-- Whether all rows of a window have numbers. The end of the window needs one, and so does each line
with something to see, counted from the top of the screen before the lines above the window are
taken off. -/
def Pane.isDrawable (p : Pane) (width height : Nat) (lines : List (Nat × List Span)) : Bool :=
  p.offset + height ≤ maxRow &&
    lines.all fun (i, spans) => firstRow + i ≤ maxRow || !Row.shows width spans

/-- The upper border of a pane, with its title. -/
def topBorder (style : Style) (title : Text) (width : Nat) : Row :=
  let letters := title.map fun c => { symbol := [c], style : Cell }
  Row.fill '┌' style 1 ++ letters ++ Row.fill '─' style (width - 2 - title.length) ++
    Row.fill '┐' style 1

def bottomBorder (style : Style) (width : Nat) : Row :=
  Row.fill '└' style 1 ++ Row.fill '─' style (width - 2) ++ Row.fill '┘' style 1

/-- A row of a pane between its borders. -/
def innerRow (style : Style) (width : Nat) (spans : List Span) : Row :=
  Row.fill '│' style 1 ++ Row.ofSpans {} (width - 2) spans ++ Row.fill '│' style 1

/-- A pane of a size. One row has room for the upper border alone. -/
def paneRows (style : Style) (title : Text) (width : Nat) :
    (height : Nat) → List (List Span) → List Row
  | 0, _ => []
  | 1, _ => [topBorder style title width]
  | height + 2, lines =>
    [topBorder style title width] ++
      (List.range height).map (fun i => innerRow style width (lines.getD i [])) ++
      [bottomBorder style width]

/-- The rows of the panes on a screen of `height` rows: the title needs a second row, the status
line a third. -/
def paneHeight (height : Nat) : Nat :=
  if height ≤ 1 then height else max 1 (height - 2)

/-- The lines of text in the panes. -/
def innerHeight (height : Nat) : Nat := paneHeight height - 2

def borderStyle (focused : Bool) : Style := if focused then { foreground := .cyan } else {}

/-- What is written in a line of a pane. -/
def lineSpans (m : Model) : Focus → Nat → Text → List Span
  | .source => sourceSpans m
  | .generated => fun _ => generatedSpans

def paneTitle : Focus → Text
  | .source => "E#".toList
  | .generated => "C#".toList

/-- The numbered lines of a pane in a window of `height` lines. -/
def paneLines (s : State) (f : Focus) (height : Nat) : List (Nat × List Span) :=
  paneSpans (lineSpans s.model f) (s.pane f) (s.focus = f) height (s.texts f)

def drawPane? (s : State) (f : Focus) (width height : Nat) : Option (List Row) :=
  let lines := paneLines s f (height - 2)
  if (s.pane f).isDrawable (width - 2) (height - 2) lines then
    some (paneRows (borderStyle (s.focus = f)) (paneTitle f) width height (lines.map Prod.snd))
  else none

/-- The first line of a text in a row of one style. -/
def banner (style : Style) (width : Nat) (t : Text) : Row :=
  Row.ofSpans style width (((Text.lines t).head?.map fun line => { text := line, style }).toList)

def titleStyle : Style := { foreground := .black, background := .cyan, bold := true }

def titleRow (width : Nat) (file : Text) : Row :=
  banner titleStyle width ("easysharp:: ".toList ++ file)

/-- The number of lines of each kind, and the keys. -/
def statusText (m : Model) : Text :=
  Text.join "  ".toList (m.summary.map fun (k, n) => k.name ++ ": ".toList ++ Text.ofNat n) ++
    "  |  Tab: switch pane  j/k: move  q: quit".toList

def statusRow (width : Nat) (m : Model) : Row :=
  banner { foreground := .gray } width (statusText m)

def warningStyle : Style := { foreground := .red, bold := true }

def narrowScreen (width height : Nat) : Screen :=
  let message := "Terminal too narrow: ".toList ++ Text.ofNat width ++ " < ".toList ++
    Text.ofNat minWidth ++ " chars".toList
  (List.range height).map fun i =>
    if i = 0 then banner warningStyle width message else Row.blank warningStyle width

/-- The columns of a pane on a screen of `width` columns. -/
def paneWidth (width : Nat) : Focus → Nat
  | .source => (width + 1) / 2
  | .generated => width - (width + 1) / 2

/-- The screen of a state whose windows are in place. -/
def wideScreen? (s : State) (width height : Nat) (file : Text) : Option Screen := do
  let left ← drawPane? s .source (paneWidth width .source) (paneHeight height)
  let right ← drawPane? s .generated (paneWidth width .generated) (paneHeight height)
  some ((if 2 ≤ height then [titleRow width file] else []) ++ List.zipWith (· ++ ·) left right ++
    (if 3 ≤ height then [statusRow width s.model] else []))

/-- The state after drawing on a screen of a size. -/
def State.place (s : State) (width height : Nat) : State :=
  if width < minWidth then s else s.scrollIntoView (innerHeight height)

/-- The screen that is drawn from a state. -/
def State.draw? (s : State) (width height : Nat) (file : Text) : Option Screen :=
  if width < minWidth then some (narrowScreen width height)
  else wideScreen? (s.place width height) width height file

end ESharp.Viewer
