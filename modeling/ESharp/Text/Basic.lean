/-!
# Texts

A text is a list of characters, so that every rule on texts is a recursion on a list. A blank is
a space or a horizontal tab. Line ends belong to the reading of lines, and no other white space
is ever removed.
-/

namespace ESharp

/-- A text, character by character. -/
abbrev Text := List Char

namespace Text

/-- A space or a horizontal tab. -/
def isBlank (c : Char) : Bool := c == ' ' || c == '\t'

def trimStart (t : Text) : Text := t.dropWhile isBlank

def trimEnd : Text → Text
  | [] => []
  | c :: t =>
    match trimEnd t with
    | [] => if isBlank c then [] else [c]
    | d :: u => c :: d :: u

def trim (t : Text) : Text := trimEnd (trimStart t)

/-- The lines of a text, each ended by a line feed or by the end of the text. One carriage return
right before a line feed belongs to the line end; before the end of the text it stays. -/
def lines : Text → List Text
  | [] => []
  | '\n' :: t => [] :: lines t
  | '\r' :: '\n' :: t => [] :: lines t
  | c :: t =>
    match lines t with
    | [] => [[c]]
    | l :: ls => (c :: l) :: ls

/-- What follows `start` in a text that starts with it. -/
def after? : (start text : Text) → Option Text
  | [], t => some t
  | _ :: _, [] => none
  | c :: s, d :: t => if c = d then after? s t else none

/-- The texts one after the other, with `sep` between two neighbours. -/
def join (sep : Text) : List Text → Text
  | [] => []
  | [t] => t
  | t :: u :: ts => t ++ sep ++ join sep (u :: ts)

/-- Every line followed by a line feed. -/
def unlines (ls : List Text) : Text := ls.flatMap (· ++ ['\n'])

/-- The size of the text in UTF-8. -/
def bytes (t : Text) : Nat := t.foldr (fun c n => c.utf8Size + n) 0

def ofNat (n : Nat) : Text := Nat.toDigits 10 n

/-- The decimal digits of a number, after a minus sign when it is negative. -/
def ofInt (n : Int) : Text := if n < 0 then '-' :: ofNat n.natAbs else ofNat n.natAbs

def replaceFrom (old new : Text) : Nat → Text → Text
  | _, [] => []
  | skip + 1, _ :: t => replaceFrom old new skip t
  | 0, c :: t =>
    if old.isPrefixOf (c :: t) then new ++ replaceFrom old new (old.length - 1) t
    else c :: replaceFrom old new 0 t

/-- Every occurrence of a nonempty `old`, read from the left without overlap, becomes `new`. -/
def replace (old new t : Text) : Text := replaceFrom old new 0 t

@[simp] theorem trimStart_nil : trimStart [] = [] := rfl

@[simp] theorem trimEnd_nil : trimEnd [] = [] := rfl

@[simp] theorem trim_nil : trim [] = [] := rfl

@[simp] theorem lines_nil : lines [] = [] := rfl

@[simp] theorem after?_nil (t : Text) : after? [] t = some t := by cases t <;> rfl

theorem after?_eq_some_iff {s t u : Text} : after? s t = some u ↔ t = s ++ u := by
  induction s generalizing t with
  | nil => simp [eq_comm]
  | cons c s ih => cases t <;> grind [after?]

@[simp] theorem unlines_nil : unlines [] = [] := rfl

@[simp] theorem unlines_cons (l : Text) (ls : List Text) :
    unlines (l :: ls) = l ++ '\n' :: unlines ls := by
  simp [unlines]

@[simp] theorem join_nil (sep : Text) : join sep [] = [] := rfl

@[simp] theorem join_singleton (sep t : Text) : join sep [t] = t := rfl

theorem join_cons (sep t : Text) {ts : List Text} (h : ts ≠ []) :
    join sep (t :: ts) = t ++ (sep ++ join sep ts) := by
  cases ts with
  | nil => exact absurd rfl h
  | cons u us => simp [join]

example : trim " \t x = 1\t".toList = "x = 1".toList := by decide

example : lines "a\r\n\nb\r".toList = ["a".toList, [], "b\r".toList] := by decide

example : replace "ab".toList "b".toList "aabab".toList = "abb".toList := by decide

end Text
end ESharp
