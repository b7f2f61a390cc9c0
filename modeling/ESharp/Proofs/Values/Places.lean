import ESharp.Proofs.Values.Parts

/-!
# Places of separators

Which delimiters of a text separate, said place by place and without a scan: by counting the quotes
and the brackets that stand before a place. Main statement: a split cuts its text at the first of
these places, as many as its limit allows, and trims what lies between.
-/

namespace ESharp.Values

/-- A quote stands at the place, and no backslash just before it. -/
def TogglesAt (t : Text) (i : Nat) : Prop := t[i]? = some '"' ∧ ¬ (0 < i ∧ t[i - 1]? = some '\\')

instance (t : Text) (i : Nat) : Decidable (TogglesAt t i) := inferInstanceAs (Decidable (_ ∧ _))

/-- How many quotes before the place start or end a literal. -/
def togglesBefore (t : Text) (i : Nat) : Nat := (List.range i).countP (TogglesAt t ·)

/-- The place is outside every literal. -/
def OutsideAt (t : Text) (i : Nat) : Prop := togglesBefore t i % 2 = 0

instance (t : Text) (i : Nat) : Decidable (OutsideAt t i) := inferInstanceAs (Decidable (_ = _))

def openers : List Char := ['(', '[', '{']

def closers : List Char := [')', ']', '}']

/-- How many of the characters `cs` stand before the place, outside literals. -/
def countBefore (cs : List Char) (t : Text) (i : Nat) : Nat :=
  (List.range i).countP fun j => OutsideAt t j ∧ t[j]?.any (· ∈ cs)

/-- The brackets opened before the place minus those closed before it. -/
def depthAt (t : Text) (i : Nat) : Int := countBefore openers t i - countBefore closers t i

/-- The character at the place separates two values. -/
structure SeparatorAt (d : Char) (t : Text) (i : Nat) : Prop where
  char : t[i]? = some d
  noBracket : d ∉ openers ++ closers
  noToggle : ¬ TogglesAt t i
  outside : OutsideAt t i
  top : depthAt t i = 0

instance (d : Char) (t : Text) (i : Nat) : Decidable (SeparatorAt d t i) :=
  decidable_of_iff (t[i]? = some d ∧ d ∉ openers ++ closers ∧ ¬ TogglesAt t i ∧ OutsideAt t i ∧
    depthAt t i = 0) ⟨fun ⟨a, b, c, e, f⟩ => ⟨a, b, c, e, f⟩, fun ⟨a, b, c, e, f⟩ => ⟨a, b, c, e, f⟩⟩

/-- The places of the separators, in order. -/
def separatorPlaces (d : Char) (t : Text) : List Nat :=
  (List.range t.length).filter (SeparatorAt d t ·)

/-- The texts between places, from `start` on, without the characters at the places. -/
def slices (t : Text) : Nat → List Nat → List Text
  | start, [] => [t.drop start]
  | start, i :: is => (t.drop start).take (i - start) :: slices t (i + 1) is

/-- How many of `n` separators a split into at most `max` values uses; zero sets no limit. -/
def cutsAllowed (max n : Nat) : Nat := if max = 0 then n else min (max - 1) n

lemma nesting_eq (c : Char) :
    nesting c = (if c ∈ openers then 1 else 0) - (if c ∈ closers then 1 else 0) := by
  unfold nesting
  split <;> simp_all [openers, closers]

lemma nesting_eq_zero_iff {c : Char} : nesting c = 0 ↔ c ∉ openers ++ closers := by
  unfold nesting
  split <;> simp_all [openers, closers]

lemma countP_range_succ (p : Nat → Prop) [DecidablePred p] (n : Nat) :
    (List.range (n + 1)).countP (p ·) = (List.range n).countP (p ·) + if p n then 1 else 0 := by
  simp [List.range_succ, List.countP_append, List.countP_cons]

section Counting
variable {t : Text} {i : Nat}

lemma run_take_succ (h : i < t.length) :
    Scan.run {} (t.take (i + 1)) = (Scan.run {} (t.take i)).next t[i] := by
  rw [List.take_add_one, List.getElem?_eq_getElem h, Option.toList_some, Scan.run_append]
  rfl

lemma last_run_take (h : i ≤ t.length) :
    (Scan.run {} (t.take i)).last = some '\\' ↔ 0 < i ∧ t[i - 1]? = some '\\' := by
  cases i with
  | zero => simp
  | succ i => rw [run_take_succ h, Scan.last_next]; simp [List.getElem?_eq_getElem h]

lemma toggles_run_take (h : i < t.length) :
    (Scan.run {} (t.take i)).toggles t[i] ↔ TogglesAt t i := by
  simp [Scan.toggles, TogglesAt, last_run_take h.le, List.getElem?_eq_getElem h]

/-- The scan is in a literal after an odd number of quotes that count. -/
lemma inLiteral_run_take (h : i ≤ t.length) :
    (Scan.run {} (t.take i)).inLiteral = false ↔ OutsideAt t i := by
  induction i with
  | zero => simp [OutsideAt, togglesBefore]
  | succ i ih =>
    have ih := ih (by omega)
    rw [run_take_succ h, Scan.inLiteral_next, OutsideAt, togglesBefore, countP_range_succ,
      ← togglesBefore]
    rw [OutsideAt] at ih
    by_cases ht : TogglesAt t i
    · rw [(toggles_run_take h).mpr ht, if_pos ht, Bool.xor_true, Bool.not_eq_eq_eq_not,
        Bool.not_false, ← Bool.not_eq_false, ih]
      omega
    · have hs := Bool.eq_false_iff.mpr (mt (toggles_run_take h).mp ht)
      rw [hs, if_neg ht, Bool.xor_false, ih, Nat.add_zero]

/-- One more place counts if it is outside literals and one of the characters stands there. -/
lemma countBefore_succ (cs : List Char) (h : i < t.length) :
    countBefore cs t (i + 1) = countBefore cs t i + if OutsideAt t i ∧ t[i] ∈ cs then 1 else 0 := by
  rw [countBefore, countP_range_succ, ← countBefore]
  simp [List.getElem?_eq_getElem h]

/-- The scan's depth counts the brackets outside literals. -/
lemma depth_run_take (h : i ≤ t.length) : (Scan.run {} (t.take i)).depth = depthAt t i := by
  induction i with
  | zero => simp [depthAt, countBefore]
  | succ i ih =>
    have hout := inLiteral_run_take (Nat.le_of_succ_le h)
    have hdepth : depthAt t (i + 1) = depthAt t i + if OutsideAt t i then nesting t[i] else 0 := by
      rw [depthAt, depthAt, countBefore_succ _ h, countBefore_succ _ h, nesting_eq]
      by_cases ho : OutsideAt t i
      · simp only [ho, true_and]
        split_ifs <;> push_cast <;> omega
      · simp [ho]
    rw [run_take_succ h, Scan.depth_next, ih (Nat.le_of_succ_le h), hdepth]
    by_cases ho : OutsideAt t i
    · rw [if_pos ho, hout.mpr ho]
      rfl
    · rw [if_neg ho, Bool.not_eq_false _ |>.mp (mt hout.mp ho)]
      rfl

/-- The places at which a scan separates are those that counting finds. -/
theorem separatorAt_iff {d : Char} (h : i < t.length) :
    SeparatorAt d t i ↔ (Scan.run {} (t.take i)).separates d t[i] := by
  rw [Scan.separates_iff, inLiteral_run_take h.le, depth_run_take h.le, ← Bool.not_eq_true,
    toggles_run_take h, nesting_eq_zero_iff]
  constructor
  · rintro ⟨hc,hb,hq,ho,htop⟩
    obtain rfl : t[i] = d := by simpa [List.getElem?_eq_getElem h] using hc
    exact ⟨rfl, hq, hb, ho, htop⟩
  · rintro ⟨rfl,hq,hb,ho,htop⟩
    exact ⟨List.getElem?_eq_getElem h, hb, hq, ho, htop⟩

end Counting

/-- As many of the places as a limit allows. -/
def takeLimit : Option Nat → List Nat → List Nat
  | none, is => is
  | some n, is => is.take n

lemma takeLimit_cons {limit : Option Nat} (h : limit ≠ some 0) (i : Nat) (is : List Nat) :
    takeLimit limit (i :: is) = i :: takeLimit (limit.map (· - 1)) is := by
  match limit with
  | none => rfl
  | some 0 => exact absurd rfl h
  | some (n + 1) => rfl

lemma takeLimit_limitOf (max : Nat) (is : List Nat) :
    takeLimit (limitOf max) is = is.take (cutsAllowed max is.length) := by
  by_cases h : max = 0
  · simp [limitOf, cutsAllowed, takeLimit, h]
  · simp [limitOf, cutsAllowed, takeLimit, h, List.take_eq_take_iff]

lemma length_slices (t : Text) (start : Nat) (is : List Nat) :
    (slices t start is).length = is.length + 1 := by
  induction is generalizing start with
  | nil => rfl
  | cons i is ih => simp [slices, ih]

/-- A stretch without separators has none of their places. -/
lemma filter_separatorAt_eq_nil {d : Char} {before p : Text} (after : Text)
    (h : separators d (Scan.run {} before) p = 0) :
    (List.range' before.length p.length).filter (SeparatorAt d (before ++ (p ++ after)) ·) = [] := by
  rw [List.filter_eq_nil_iff]
  intro i hi
  obtain ⟨hle,hlt⟩ := List.mem_range'_1.mp hi
  obtain ⟨k,rfl⟩ := Nat.exists_eq_add_of_le hle
  have hk : k < p.length := by omega
  have hi : before.length + k < (before ++ (p ++ after)).length := by simp; omega
  have hget : (before ++ (p ++ after))[before.length + k] = p[k] := by
    simp [List.getElem_append_right, List.getElem_append_left hk]
  have htake : (before ++ (p ++ after)).take (before.length + k) = before ++ p.take k := by
    rw [List.take_append, List.take_of_length_le (by omega), Nat.add_sub_cancel_left,
      List.take_append_of_le_length hk.le]
  rw [decide_eq_true_iff, separatorAt_iff hi, hget, htake, Scan.run_append]
  have hp : p = p.take k ++ p[k] :: p.drop (k + 1) := by simp
  rw [hp, separators_append, separators_cons] at h
  intro hs
  rw [if_pos hs] at h
  omega

/-- The parts of a text are what lies between the places of its separators. The induction is on the
parts, with what was cut off before them kept in front. -/
theorem Parts.eq_slices {d : Char} {limit : Option Nat} {s : Scan} {u : Text} {ps : List Text}
    (h : Parts d limit s u ps) (before : Text) (hs : s = Scan.run {} before) :
    ps = slices (before ++ u) before.length (takeLimit limit
      ((List.range' before.length u.length).filter (SeparatorAt d (before ++ u) ·))) := by
  induction h generalizing before with
  | @last limit s t h =>
    have hnone : takeLimit limit
        ((List.range' before.length t.length).filter (SeparatorAt d (before ++ t) ·)) = [] := by
      rcases h with rfl | h
      · rfl
      · have hf := filter_separatorAt_eq_nil [] (hs ▸ h)
        rw [List.append_nil] at hf
        rw [hf]
        cases limit <;> simp [takeLimit]
    rw [hnone, slices, List.drop_left]
  | @cons limit s p u ps hl hp hsep rest ih =>
    subst hs
    have hrun : ((Scan.run {} before).run p).next d = Scan.run {} (before ++ (p ++ [d])) := by
      rw [Scan.run_append, Scan.run_append]
      rfl
    have htext : before ++ (p ++ d :: u) = before ++ (p ++ [d]) ++ u := by simp
    have hplace : SeparatorAt d (before ++ (p ++ d :: u)) (before.length + p.length) := by
      rw [separatorAt_iff (by simp), show (before ++ (p ++ d :: u)).take (before.length + p.length) =
        before ++ p by rw [← List.append_assoc, ← List.length_append, List.take_left]]
      rw [Scan.run_append]
      simpa [← List.append_assoc, ← List.length_append] using hsep
    have hrange : List.range' before.length (p ++ d :: u).length =
        List.range' before.length p.length ++ (before.length + p.length) ::
          List.range' (before ++ (p ++ [d])).length u.length := by
      rw [List.length_append, List.length_cons, ← List.range'_append_1, List.range'_succ]
      simp [Nat.add_assoc]
    rw [hrange, List.filter_append, filter_separatorAt_eq_nil (d :: u) hp, List.nil_append,
      List.filter_cons_of_pos (by simpa using hplace), takeLimit_cons hl, slices, List.drop_left,
      Nat.add_sub_cancel_left, List.take_left, ih _ hrun, htext]
    simp [Nat.add_assoc]

lemma pieces_eq_slices (d : Char) (max : Nat) (t : Text) :
    pieces d max t = slices t 0
      ((separatorPlaces d t).take (cutsAllowed max (separatorPlaces d t).length)) := by
  have h := (parts_pieces d max t).eq_slices [] rfl
  rwa [List.nil_append, List.length_nil, ← List.range_eq_range', takeLimit_limitOf] at h

/-- A split cuts its text at the places of the first separators, as many as it may use, and trims
what lies between. The cut loses nothing but the delimiters, and it leaves at least one value and no
more than were asked for. -/
theorem split_eq_slices_at_separators (d : Char) (max : Nat) (t : Text) :
    let places := separatorPlaces d t
    let raw := slices t 0 (places.take (cutsAllowed max places.length))
    split d max t = raw.map Text.trim ∧ Text.join [d] raw = t ∧
      1 ≤ (split d max t).length ∧ (max = 0 ∨ (split d max t).length ≤ max) := by
  intro places raw
  have hraw : pieces d max t = raw := pieces_eq_slices d max t
  have hsplit : split d max t = raw.map Text.trim := by rw [split, hraw]
  have hlen : (split d max t).length = min (cutsAllowed max places.length) places.length + 1 := by
    rw [hsplit, List.length_map, length_slices, List.length_take]
  refine ⟨hsplit, hraw ▸ (parts_pieces d max t).join, by omega, ?_⟩
  by_cases h : max = 0
  · exact .inl h
  · rw [cutsAllowed, if_neg h] at hlen
    exact .inr (by omega)

example : separatorPlaces ',' "(,),\",\"".toList = [3] := by decide

end ESharp.Values
