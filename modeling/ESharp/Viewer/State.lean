import ESharp.Viewer.Model

/-!
# The state of the viewer

Two panes, the script and its program, each with a line under the cursor and a first line on
screen. Keys move the cursor of the pane that has the focus; only drawing moves the window.
-/

namespace ESharp.Viewer

/-- The place in a pane, in lines counted from zero. -/
structure Pane where
  cursor : Nat := 0
  /-- The first line on screen. -/
  scroll : Nat := 0
  deriving DecidableEq, Repr

/-- The largest cursor that can be held. -/
def maxCursor : Nat := 0xFFFFFFFFFFFFFFFF

/-- The pane with its cursor moved, in a text of `count` lines. The sum stays among the cursors
that can be held, and then among the lines. -/
def Pane.moveBy (p : Pane) (delta : Int) (count : Nat) : Pane :=
  { p with cursor := min (min ((p.cursor : Int) + delta).toNat maxCursor) (count - 1) }

/-- The pane with its window moved as little as puts the cursor into its `height` lines. -/
def Pane.scrollIntoView (p : Pane) (height : Nat) : Pane :=
  if height = 0 then p
  else if p.cursor < p.scroll then { p with scroll := p.cursor }
  else if p.scroll + height ≤ p.cursor then { p with scroll := p.cursor + 1 - height }
  else p

/-- The pane that keys move. -/
inductive Focus
  | source
  | generated
  deriving DecidableEq, Repr

def Focus.other : Focus → Focus
  | source => generated
  | generated => source

/-- The keys that control sound and pictures. -/
inductive MediaKey
  | play
  | pause
  | playPause
  | reverse
  | stop
  | fastForward
  | rewind
  | nextTrack
  | previousTrack
  | record
  | lowerVolume
  | raiseVolume
  | mute
  deriving DecidableEq, Repr

/-- The keys that are held beside others, when one of them is pressed alone. -/
inductive ModifierKey
  | leftShift
  | leftControl
  | leftAlt
  | leftSuper
  | leftHyper
  | leftMeta
  | rightShift
  | rightControl
  | rightAlt
  | rightSuper
  | rightHyper
  | rightMeta
  | thirdLevelShift
  | fifthLevelShift
  deriving DecidableEq, Repr

inductive Key
  | tab
  | backTab
  | down
  | up
  | left
  | right
  | pageDown
  | pageUp
  | home
  | endKey
  | escape
  | enter
  | backspace
  | delete
  | insert
  | null
  | capsLock
  | scrollLock
  | numLock
  | printScreen
  | pause
  | menu
  | keypadBegin
  | function (n : UInt8)
  | media (k : MediaKey)
  | modifier (k : ModifierKey)
  | char (c : Char)
  deriving DecidableEq, Repr

/-- The keys held down beside a key. -/
structure Modifiers where
  control : Bool := false
  shift : Bool := false
  alt : Bool := false
  super : Bool := false
  hyper : Bool := false
  metaKey : Bool := false
  deriving DecidableEq, Repr

def pageSize : Int := 20

/-- How far a key moves the cursor. The first and the last line are further away than any text
is long. -/
def Key.delta? : Key → Option Int
  | down | char 'j' => some 1
  | up | char 'k' => some (-1)
  | pageDown => some pageSize
  | pageUp => some (-pageSize)
  | home | char 'g' => some (-0x8000000000000000)
  | endKey | char 'G' => some 0x7FFFFFFFFFFFFFFF
  | _ => none

def Key.quits (k : Key) (m : Modifiers) : Bool :=
  (k = .char 'q' && m = {}) || (k = .char 'c' && m.control)

/-- What the viewer shows and where. -/
structure State where
  model : Model
  focus : Focus := .source
  source : Pane := {}
  generated : Pane := {}
  quit : Bool := false
  deriving DecidableEq, Repr

namespace State

/-- The state before any key. -/
def start (m : Model) : State := { model := m }

def toggle (s : State) : State := { s with focus := s.focus.other }

def pane (s : State) : Focus → Pane
  | .source => s.source
  | .generated => s.generated

def texts (s : State) : Focus → List Text
  | .source => s.model.sourceLines
  | .generated => s.model.generatedLines

def lineCount (s : State) (f : Focus) : Nat := (s.texts f).length

def setFocused (s : State) (p : Pane) : State :=
  match s.focus with
  | .source => { s with source := p }
  | .generated => { s with generated := p }

/-- The state with the cursor moved, and whether it moved. -/
def move (s : State) (delta : Int) : State × Bool :=
  let before := s.pane s.focus
  let after := before.moveBy delta (s.lineCount s.focus)
  (s.setFocused after, after ≠ before)

/-- The state after a key, and whether the key did something. -/
def press (s : State) (k : Key) (m : Modifiers) : State × Bool :=
  if k.quits m then ({ s with quit := true }, true)
  else if k = .tab then (s.toggle, true)
  else
    match k.delta? with
    | some delta => s.move delta
    | none => (s, false)

/-- The state with the cursors of both panes in windows of `height` lines. -/
def scrollIntoView (s : State) (height : Nat) : State :=
  { s with source := s.source.scrollIntoView height
           generated := s.generated.scrollIntoView height }

end State

example : ((State.start (Model.ofSource {} "a\nb".toList)).press .down {}).1.source.cursor = 1 := by
  decide

end ESharp.Viewer
