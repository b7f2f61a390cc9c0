import ESharp.Proofs.Program.PassingThrough

/-!
# Braces

A program has the braces of its script in their order, inside the two blocks of the class and of the
entry point. No statement is moved into a block or out of one, so a script whose braces are nested
well gives a program whose braces are.
-/

namespace ESharp

namespace Text

def isBrace (c : Char) : Bool := c == '{' || c == '}'

/-- The braces of a text. -/
def braces (t : Text) : Text := t.filter isBrace

/-- How many blocks are open after one more character; none if it closes a block that is not open. -/
def nest (n : Nat) (c : Char) : Option Nat :=
  if c = '{' then some (n + 1)
  else if c = '}' then (if n = 0 then none else some (n - 1))
  else some n

/-- How many blocks are open after a text that starts inside `n` of them. -/
def nestFrom (n : Nat) (t : Text) : Option Nat := t.foldlM nest n

/-- The text closes each block that it opens and no other. -/
def WellNested (t : Text) : Prop := nestFrom 0 t = some 0

instance (t : Text) : Decidable (WellNested t) := inferInstanceAs (Decidable (nestFrom 0 t = some 0))

lemma braces_append (t u : Text) : braces (t ++ u) = braces t ++ braces u :=
  List.filter_append ..

lemma braces_unlines (ls : List Text) : braces (unlines ls) = ls.flatMap braces := by
  induction ls with
  | nil => rfl
  | cons l ls ih =>
    rw [unlines_cons, braces_append, List.flatMap_cons, ← ih]
    rfl

lemma braces_flatten (ts : List Text) : braces ts.flatten = ts.flatMap braces :=
  List.filter_flatten

@[simp] lemma nestFrom_nil (n : Nat) : nestFrom n [] = some n := rfl

lemma nestFrom_cons (n : Nat) (c : Char) (t : Text) :
    nestFrom n (c :: t) = (nest n c).bind (nestFrom · t) := rfl

lemma nestFrom_append (n : Nat) (t u : Text) :
    nestFrom n (t ++ u) = (nestFrom n t).bind (nestFrom · u) :=
  List.foldlM_append

lemma nestFrom_braces (n : Nat) (t : Text) : nestFrom n (braces t) = nestFrom n t := by
  induction t generalizing n with
  | nil => rfl
  | cons c t ih =>
    by_cases hc : isBrace c
    · have hcons : braces (c :: t) = c :: braces t := List.filter_cons_of_pos hc
      simp only [hcons, nestFrom_cons, ih]
    · have hcons : braces (c :: t) = braces t := List.filter_cons_of_neg hc
      have hnest : nest n c = some n := by
        simp only [isBrace, Bool.or_eq_true, beq_iff_eq, not_or] at hc
        simp [nest, hc]
      rw [hcons, ih, nestFrom_cons, hnest, Option.bind_some]

lemma nest_add {n m : Nat} {c : Char} (h : nest n c = some m) (k : Nat) :
    nest (n + k) c = some (m + k) := by
  unfold nest at h ⊢
  split_ifs at h ⊢ with hopen hclose hn <;> grind

/-- Blocks that are open around a text stay open. -/
lemma nestFrom_add {n m : Nat} {t : Text} (h : nestFrom n t = some m) (k : Nat) :
    nestFrom (n + k) t = some (m + k) := by
  induction t generalizing n with
  | nil =>
    obtain rfl : n = m := by simpa using h
    rfl
  | cons c t ih =>
    rw [nestFrom_cons] at h ⊢
    obtain ⟨j,hj,ht⟩ := Option.bind_eq_some_iff.mp h
    rw [nest_add hj, Option.bind_some, ih ht]

lemma WellNested.nestFrom_eq {t : Text} (h : WellNested t) (n : Nat) : nestFrom n t = some n := by
  simpa using nestFrom_add h n

lemma wellNested_braces {t : Text} : WellNested (braces t) ↔ WellNested t := by
  rw [WellNested, nestFrom_braces, WellNested]

lemma wellNested_flatMap {ts : List Text} (h : ∀ t ∈ ts, WellNested t) :
    WellNested (ts.flatMap braces) := by
  induction ts with
  | nil => rfl
  | cons t ts ih =>
    have ht : WellNested t := h t (by simp)
    have hts : WellNested (ts.flatMap braces) := ih fun u hu => h u (by simp [hu])
    rw [WellNested, List.flatMap_cons, nestFrom_append, nestFrom_braces, ht.nestFrom_eq]
    exact hts

end Text

lemma passesThrough_isBrace : PassesThrough Text.isBrace := by
  intro c hc
  have hcases : c = '{' ∨ c = '}' := by simpa [Text.isBrace] using hc
  rcases hcases with rfl | rfl <;> decide

namespace Program
variable {layout : Layout}

/-- Assertions that are nested well may be written twice. -/
lemma nestFrom_doubled {ls : List Text} (h : ∀ l ∈ ls, Script.isAssert l → Text.WellNested l)
    (n : Nat) :
    Text.nestFrom n (ls.flatMap fun l =>
        if Script.isAssert l then Text.braces l ++ Text.braces l else Text.braces l) =
      Text.nestFrom n (ls.flatMap Text.braces) := by
  induction ls generalizing n with
  | nil => rfl
  | cons l ls ih =>
    have hls : ∀ m, _ := ih fun k hk => h k (by simp [hk])
    rw [List.flatMap_cons, List.flatMap_cons, Text.nestFrom_append, Text.nestFrom_append]
    simp only [hls]
    split_ifs with hl
    · have hnest : ∀ m, Text.nestFrom m (Text.braces l) = some m :=
        (Text.wellNested_braces.mpr (h l (by simp) hl)).nestFrom_eq
      simp only [Text.nestFrom_append, hnest, Option.bind_some]
    · rfl

/-- Blank lines have no braces. -/
lemma flatMap_braces_filter_isStatement (ls : List Text) :
    (ls.filter Script.isStatement).flatMap Text.braces =
      (ls.filter fun l => !Script.isImport l).flatMap Text.braces := by
  induction ls with
  | nil => rfl
  | cons l ls ih =>
    by_cases hblank : Text.trim l = []
    · have hl : Text.braces l = [] :=
        passesThrough_isBrace.filter_blanks (Text.trim_eq_nil_iff.mp hblank)
      simp [Script.isStatement_of_blank hblank, Script.isImport_of_blank hblank, ih, hl]
    · have hl : Script.isStatement l = !Script.isImport l := by simp [Script.isStatement, hblank]
      cases hi : Script.isImport l <;> simp [hl, hi, ih]

/-- The braces that the program of a script has: those of the imports, the class and the entry point
with those of the statements inside, twice for an assertion, and the helper if there is one. -/
def bracesOf (ls : List Text) : Text :=
  (ls.filter Script.isImport).flatMap Text.braces ++ ['{', '{'] ++
    ((ls.filter Script.isStatement).flatMap fun l =>
      if Script.isAssert l then Text.braces l ++ Text.braces l else Text.braces l) ++ ['}'] ++
    (if ls.any Script.isAssert then ['{', '{', '}', '}'] else []) ++ ['}']

lemma braces_translate (h : layout.Without Text.isBrace) (ls : List Text) :
    Text.braces (translate layout ls) = bracesOf ls := by
  obtain ⟨himports,hbody⟩ := filter_ofLines passesThrough_isBrace h.assertHelper ls
  have hlines := filter_lines passesThrough_isBrace h (ofLines layout ls)
  rw [himports, hbody, assertNeeded_ofLines] at hlines
  rw [translate, render, Text.braces_unlines]
  exact hlines

lemma wellNested_bracesOf {ls : List Text}
    (himports : ∀ l ∈ ls, Script.isImport l → Text.WellNested l)
    (hasserts : ∀ l ∈ ls, Script.isAssert l → Text.WellNested l)
    (hrest : Text.WellNested (ls.filter fun l => !Script.isImport l).flatten) :
    Text.WellNested (bracesOf ls) := by
  have hfirst : Text.nestFrom 0 ((ls.filter Script.isImport).flatMap Text.braces) = some 0 :=
    Text.wellNested_flatMap fun l hl => himports l (List.mem_filter.mp hl).1 (List.mem_filter.mp hl).2
  have hbody : Text.nestFrom 2 ((ls.filter Script.isStatement).flatMap fun l =>
      if Script.isAssert l then Text.braces l ++ Text.braces l else Text.braces l) = some 2 := by
    rw [nestFrom_doubled fun l hl => hasserts l (List.mem_filter.mp hl).1,
      flatMap_braces_filter_isStatement, ← Text.braces_flatten, Text.nestFrom_braces]
    exact hrest.nestFrom_eq 2
  have hhelper : Text.nestFrom 1 (if ls.any Script.isAssert then ['{', '{', '}', '}'] else []) =
      some 1 := by
    split_ifs <;> rfl
  have hopen : Text.nestFrom 0 ['{', '{'] = some 2 := rfl
  have hclose : Text.nestFrom 2 ['}'] = some 1 := rfl
  have hend : Text.nestFrom 1 ['}'] = some 0 := rfl
  -- the scan passes the parts one after the other: 0, 2, 2, 1, 1 and 0 blocks are open
  rw [Text.WellNested, bracesOf]
  simp only [Text.nestFrom_append, hfirst, hopen, hbody, hclose, hhelper, hend, Option.bind_some]

/-- The program of a script has the braces of the script and those of its own blocks. It is nested
well when each import and each assertion is, and all that is no import taken together. -/
theorem braces_translate_and_wellNested (layout : Layout) (h : layout.Without Text.isBrace)
    (ls : List Text) :
    Text.braces (translate layout ls) = bracesOf ls ∧
      ((∀ l ∈ ls, Script.isImport l → Text.WellNested l) →
        (∀ l ∈ ls, Script.isAssert l → Text.WellNested l) →
        Text.WellNested (ls.filter fun l => !Script.isImport l).flatten →
        Text.WellNested (translate layout ls)) := by
  refine ⟨braces_translate h ls, fun himports hasserts hrest => ?_⟩
  rw [← Text.wellNested_braces, braces_translate h]
  exact wellNested_bracesOf himports hasserts hrest

theorem braces_translate_and_wellNested_blocks :
    let ls := ["if (x) \x7b".toList, "import A".toList, "assert f(\x7b\x7d)".toList,
      "print \"\x7b\", y".toList, "\x7d".toList, " \x7d".toList]
    ({} : Layout).Without Text.isBrace ∧ Text.braces (translate {} ls) = bracesOf ls ∧
      bracesOf ls = "\x7b\x7b\x7b\x7b\x7d\x7b\x7d\x7b\x7d\x7d\x7d\x7b\x7b\x7d\x7d\x7d".toList ∧
      (∀ l ∈ ls, Script.isImport l → Text.WellNested l) ∧
      (∀ l ∈ ls, Script.isAssert l → Text.WellNested l) ∧
      Text.WellNested (ls.filter fun l => !Script.isImport l).flatten ∧
      Text.WellNested (translate {} ls) := by
  intro ls
  have h : ({} : Layout).Without Text.isBrace := ⟨by decide, by decide, by decide, by decide⟩
  have himports : ∀ l ∈ ls, Script.isImport l → Text.WellNested l := by decide
  have hasserts : ∀ l ∈ ls, Script.isAssert l → Text.WellNested l := by decide
  have hrest : Text.WellNested (ls.filter fun l => !Script.isImport l).flatten := by decide
  obtain ⟨hbraces,hnested⟩ := braces_translate_and_wellNested {} h ls
  exact ⟨h, hbraces, by decide, himports, hasserts, hrest, hnested himports hasserts hrest⟩

end Program
end ESharp
