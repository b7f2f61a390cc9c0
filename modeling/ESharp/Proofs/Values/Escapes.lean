import ESharp.Proofs.Values.Parts

/-!
# Escaped quotes

A split takes a quote as escaped when a backslash stands right before it. In a literal, though,
backslashes come in pairs, and only one that is left over escapes a quote. Here a split is given with
the rule for escaped quotes as a parameter. Main statement: the two rules give the same split unless
some quote follows an even number of backslashes, and at least two.
-/

namespace ESharp.Values

/-- What a reader knows that keeps the whole text behind it. -/
structure Reader where
  behind : Text := []
  inLiteral : Bool := false
  depth : Int := 0

section Rule
variable (escaped : Text → Bool)

namespace Reader

/-- A quote starts or ends a literal unless the text before it escapes it. -/
def toggles (r : Reader) (c : Char) : Bool := c == '"' && !escaped r.behind

def separates (r : Reader) (d c : Char) : Bool :=
  c == d && !r.toggles escaped c && nesting c == 0 && !r.inLiteral && r.depth == 0

def next (r : Reader) (c : Char) : Reader where
  behind := r.behind ++ [c]
  inLiteral := r.inLiteral ^^ r.toggles escaped c
  depth := r.depth + if r.inLiteral then 0 else nesting c

end Reader

/-- The texts between the first `limit` separators that a reader finds. -/
def cutBy (d : Char) : Option Nat → Reader → Text → Text × List Text
  | _, _, [] => ([], [])
  | some 0, _, t => (t, [])
  | limit, r, c :: t =>
    if r.separates escaped d c then
      let rest := cutBy d (limit.map (· - 1)) (r.next escaped c) t
      ([], rest.1 :: rest.2)
    else
      let rest := cutBy d limit (r.next escaped c) t
      (c :: rest.1, rest.2)

/-- The values of a text, with a rule that tells from the text before a quote whether it is escaped. -/
def splitBy (d : Char) (max : Nat) (t : Text) : List Text :=
  let p := cutBy escaped d (limitOf max) {} t
  (p.1 :: p.2).map Text.trim

lemma cutBy_zero (d : Char) (r : Reader) (t : Text) : cutBy escaped d (some 0) r t = (t, []) := by
  cases t <;> rfl

lemma cutBy_cons (d : Char) {limit : Option Nat} (hl : limit ≠ some 0) (r : Reader) (c : Char)
    (t : Text) : cutBy escaped d limit r (c :: t) =
      if r.separates escaped d c then
        ([], (cutBy escaped d (limit.map (· - 1)) (r.next escaped c) t).1 ::
          (cutBy escaped d (limit.map (· - 1)) (r.next escaped c) t).2)
      else (c :: (cutBy escaped d limit (r.next escaped c) t).1,
        (cutBy escaped d limit (r.next escaped c) t).2) := by
  rw [cutBy]
  exact hl

end Rule

/-- The rule of a split: the text ends with a backslash. -/
def endsWithBackslash (t : Text) : Bool := t.getLast? == some '\\'

/-- How many backslashes end a text. -/
def backslashes (t : Text) : Nat := (t.rtakeWhile (· == '\\')).length

/-- The rule of literals: one backslash is left over when those that end the text are paired. -/
def endsWithOddRun (t : Text) : Bool := backslashes t % 2 == 1

/-- The scan and the reader have passed the same text, and it took both to the same place. -/
structure Scan.Agrees (s : Scan) (r : Reader) : Prop where
  inLiteral : s.inLiteral = r.inLiteral
  depth : s.depth = r.depth
  last : s.last = r.behind.getLast?

namespace Scan.Agrees
variable {escaped : Text → Bool} {s : Scan} {r : Reader} {c : Char}

lemma toggles (h : s.Agrees r) (hc : c = '"' → escaped r.behind = endsWithBackslash r.behind) :
    s.toggles c = r.toggles escaped c := by
  by_cases hq : c = '"'
  · rw [Scan.toggles, Reader.toggles, hc hq, endsWithBackslash, h.last]
    rfl
  · have hno : (c == '"') = false := by simpa using hq
    rw [Scan.toggles, Reader.toggles, hno, Bool.false_and, Bool.false_and]

lemma separates (h : s.Agrees r) (d : Char)
    (hc : c = '"' → escaped r.behind = endsWithBackslash r.behind) :
    s.separates d c = r.separates escaped d c := by
  rw [Scan.separates, Reader.separates, h.toggles hc, Scan.atTop, h.inLiteral, h.depth,
    Bool.and_assoc _ (!r.inLiteral)]

lemma next (h : s.Agrees r) (hc : c = '"' → escaped r.behind = endsWithBackslash r.behind) :
    (s.next c).Agrees (r.next escaped c) where
  inLiteral := by
    rw [Scan.inLiteral_next, h.inLiteral, h.toggles hc]
    rfl
  depth := by
    rw [Scan.depth_next, h.inLiteral, h.depth]
    rfl
  last := by
    rw [Scan.last_next, Reader.next, List.getLast?_append]
    rfl

/-- A scan and a reader that agree cut alike, as long as the reader's rule looks no further back than
one character at the quotes it meets. -/
theorem cut_eq (h : s.Agrees r) {d : Char} {limit : Option Nat} {t : Text}
    (ht : ∀ u v, t = u ++ '"' :: v →
      escaped (r.behind ++ u) = endsWithBackslash (r.behind ++ u)) :
    cut d limit s t = cutBy escaped d limit r t := by
  -- the text that is left gets shorter and the text behind the reader longer; the quotes stay
  induction t generalizing limit s r with
  | nil => cases limit <;> rfl
  | cons c t ih =>
    have hc : c = '"' → escaped r.behind = endsWithBackslash r.behind := by
      rintro rfl
      simpa using ht [] t rfl
    have hrest : ∀ u v, t = u ++ '"' :: v →
        escaped ((r.next escaped c).behind ++ u) =
          endsWithBackslash ((r.next escaped c).behind ++ u) := by
      intro u v hu
      simpa [Reader.next] using ht (c :: u) v (by rw [hu]; rfl)
    by_cases hl : limit = some 0
    · rw [hl, cut_zero, cutBy_zero]
    · rw [cut_cons hl, cutBy_cons escaped d hl, h.separates d hc, ih (h.next hc) hrest,
        ih (h.next hc) hrest]

end Scan.Agrees

/-- A split is the split by any rule that looks back one character at the quotes of its text. -/
theorem split_eq_splitBy {escaped : Text → Bool} (d : Char) (max : Nat) {t : Text}
    (ht : ∀ u v, t = u ++ '"' :: v → escaped u = endsWithBackslash u) :
    split d max t = splitBy escaped d max t := by
  have hstart : Scan.Agrees {} {} := ⟨rfl, rfl, rfl⟩
  rw [split, pieces, splitBy, hstart.cut_eq ht]

/-- No quote follows an even number of backslashes, unless it follows none. -/
def OddRuns (t : Text) : Prop :=
  ∀ i < t.length, t[i]? = some '"' → backslashes (t.take i) = 0 ∨ backslashes (t.take i) % 2 = 1

instance (t : Text) : Decidable (OddRuns t) := Nat.decidableBallLT _ _

lemma backslashes_eq_zero_iff {t : Text} : backslashes t = 0 ↔ endsWithBackslash t = false := by
  rcases List.eq_nil_or_concat' t with rfl | ⟨t,c,rfl⟩
  · decide
  · rw [backslashes, List.rtakeWhile_concat, endsWithBackslash]
    by_cases hc : c = '\\' <;> simp [hc]

/-- A run of backslashes that is odd or empty is judged by its last character. -/
lemma endsWithOddRun_eq {t : Text} (h : backslashes t = 0 ∨ backslashes t % 2 = 1) :
    endsWithOddRun t = endsWithBackslash t := by
  rcases h with h | h
  · rw [backslashes_eq_zero_iff.mp h, endsWithOddRun, h]
    rfl
  · have hne : endsWithBackslash t ≠ false := fun hend => by
      rw [backslashes_eq_zero_iff.mpr hend] at h
      omega
    rw [endsWithOddRun, h, Bool.not_eq_false _ |>.mp hne]
    rfl

/-- A split is the one whose rule looks back one character. That is enough where no quote follows an
even number of backslashes: pairing them gives the same split, for every delimiter and every limit. -/
theorem split_eq_splitBy_of_oddRuns (d : Char) (max : Nat) (t : Text) :
    split d max t = splitBy endsWithBackslash d max t ∧
      (OddRuns t → split d max t = splitBy endsWithOddRun d max t) := by
  refine ⟨split_eq_splitBy d max fun _ _ _ => rfl, fun hruns => ?_⟩
  apply split_eq_splitBy
  rintro u v rfl
  apply endsWithOddRun_eq
  simpa using hruns u.length (by simp) (by simp)

theorem split_eq_splitBy_of_oddRuns_three :
    OddRuns "\"a\\\",\", b\\\\\\\", \\\\c".toList ∧
      splitBy endsWithOddRun ',' 0 "\"a\\\",\", b\\\\\\\", \\\\c".toList =
        ["\"a\\\",\"".toList, "b\\\\\\\"".toList, "\\\\c".toList] := by
  have hruns : OddRuns "\"a\\\",\", b\\\\\\\", \\\\c".toList := by decide
  exact ⟨hruns, ((split_eq_splitBy_of_oddRuns ',' 0 _).2 hruns).symm.trans (by decide)⟩

-- The closing quote follows two backslashes: a split takes it as escaped, and the literal stays open.
example : split ',' 0 "\"\\\\\", x".toList = ["\"\\\\\", x".toList] ∧
    splitBy endsWithOddRun ',' 0 "\"\\\\\", x".toList = ["\"\\\\\"".toList, "x".toList] := by
  decide

end ESharp.Values
