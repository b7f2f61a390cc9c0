import ESharp.Text.Basic
import ESharp.Text.BreakClass

/-!
# Clusters

Text divided into what a reader takes for single characters: a letter with its marks, a syllable,
a flag, a sequence of joined pictures. Whether a cluster goes on depends on the class of the next
character and on a little of what the cluster has so far.
-/

namespace ESharp.Text.Cluster

/-- How far a sequence of joined pictures has come. -/
inductive Picture
  | none
  /-- A picture, perhaps with marks. -/
  | drawn
  /-- A picture and a joiner. -/
  | joined
  deriving DecidableEq, Repr

/-- How far a group of joined consonants has come. -/
inductive Conjunct
  | none
  /-- A consonant, perhaps with marks. -/
  | consonant
  /-- A consonant and a linker. -/
  | linked
  deriving DecidableEq, Repr

/-- What of a cluster decides whether it goes on. -/
structure State where
  last : BreakClass
  picture : Picture := .none
  conjunct : Conjunct := .none
  /-- Whether the cluster ends in half of a flag. -/
  halfFlag : Bool := false
  deriving DecidableEq, Repr

/-- Whether a character is a consonant that can be joined. -/
def isConsonant (c : Char) : Bool := inRanges consonantRanges c.toNat

/-- Whether a character joins consonants. -/
def isLinker (c : Char) : Bool := inRanges linkerRanges c.toNat

def nextPicture (p : Picture) : BreakClass → Picture
  | .pictograph => .drawn
  | .extend => if p = .drawn then .drawn else .none
  | .joiner => if p = .drawn then .joined else .none
  | _ => .none

/-- A group of consonants goes on over marks and joiners, but not over the sign that asks not to
join. -/
def nextConjunct (k : Conjunct) (c : Char) (b : BreakClass) : Conjunct :=
  if isConsonant c then .consonant
  else if k = .none ∨ c.toNat = 0x200C then .none
  else if isLinker c then .linked
  else if b = .extend ∨ b = .joiner then k
  else .none

/-- The state of a cluster that starts with a character. -/
def start (c : Char) : State :=
  let b := BreakClass.ofChar c
  { last := b
    picture := nextPicture .none b
    conjunct := nextConjunct .none c b
    halfFlag := b = .regional }

def State.add (s : State) (c : Char) : State :=
  let b := BreakClass.ofChar c
  { last := b
    picture := nextPicture s.picture b
    conjunct := nextConjunct s.conjunct c b
    halfFlag := b = .regional ∧ ¬ s.halfFlag }

/-- Whether two parts of a Korean syllable belong together. -/
def joinsSyllable : BreakClass → BreakClass → Bool
  | .hangulL, .hangulL | .hangulL, .hangulV | .hangulL, .hangulLV | .hangulL, .hangulLVT => true
  | .hangulLV, .hangulV | .hangulLV, .hangulT | .hangulV, .hangulV | .hangulV, .hangulT => true
  | .hangulLVT, .hangulT | .hangulT, .hangulT => true
  | _, _ => false

/-- Whether a character belongs to the cluster before it. -/
def State.takes (s : State) (c : Char) : Bool :=
  let b := BreakClass.ofChar c
  if s.last = .carriageReturn ∧ b = .lineFeed then true
  else if s.last.standsAlone || b.standsAlone then false
  else
    joinsSyllable s.last b || b = .extend || b = .joiner || b = .spacing || s.last = .leading ||
      (s.conjunct = .linked && isConsonant c) || (s.picture = .joined && b = .pictograph) ||
      (s.halfFlag && b = .regional)

/-- The rest of a cluster, and the clusters after it. -/
def splitFrom (s : State) (current : Text) : Text → List Text
  | [] => [current.reverse]
  | c :: t =>
    if s.takes c then splitFrom (s.add c) (c :: current) t
    else current.reverse :: splitFrom (start c) [c] t

def split : Text → List Text
  | [] => []
  | c :: t => splitFrom (start c) [c] t

theorem flatten_splitFrom (s : State) (current t : Text) :
    (splitFrom s current t).flatten = current.reverse ++ t := by
  induction t generalizing s current with
  | nil => simp [splitFrom]
  | cons c t ih =>
    by_cases h : s.takes c <;> simp [splitFrom, h, ih]

/-- Nothing is lost between the clusters. -/
@[simp] theorem flatten_split (t : Text) : (split t).flatten = t := by
  cases t <;> simp [split, flatten_splitFrom]

example : split "ab".toList = [['a'], ['b']] := by decide +kernel

example : split ['e', Char.ofNat 0x301, 'x'] = [['e', Char.ofNat 0x301], ['x']] := by
  decide +kernel

end ESharp.Text.Cluster
