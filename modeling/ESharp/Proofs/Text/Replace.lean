import ESharp.Text.Basic
import Mathlib.Tactic.Common

/-!
# Words in a text

A text is read from the left, a word at a time where there is one and a character at a time where
there is none. Replacing reads in this way. When a word never overlaps itself, replacing finds every
place at which it starts.
-/

namespace ESharp.Text

/-- The number of places of a text at which a word starts. -/
def occurrences (word : Text) : Text → Nat
  | [] => 0
  | c :: t => occurrences word t + if word.isPrefixOf (c :: t) then 1 else 0

/-- Induction along a text that passes each of some words at once. -/
@[elab_as_elim]
theorem induction_on_words {motive : Text → Prop} (words : List Text) (hne : [] ∉ words)
    (nil : motive []) (word : ∀ w ∈ words, ∀ t, motive t → motive (w ++ t))
    (char : ∀ c t, (∀ w ∈ words, ¬ w <+: c :: t) → motive t → motive (c :: t)) (t : Text) :
    motive t := by
  induction hn : t.length using Nat.strongRecOn generalizing t with
  | _ n ih =>
    cases t with
    | nil => exact nil
    | cons c t =>
      by_cases hw : ∃ w ∈ words, w <+: c :: t
      · obtain ⟨w,hmem,u,hu⟩ := hw
        have hpos : 0 < w.length := List.length_pos_iff.mpr fun h => hne (h ▸ hmem)
        have hlength : w.length + u.length = n := by rw [← List.length_append, hu, hn]
        rw [← hu]
        exact word w hmem u (ih u.length (by omega) u rfl)
      · push Not at hw
        exact char c t hw (ih t.length (by simp [← hn]) t rfl)

section Occurrences
variable (word : Text)

@[simp] lemma occurrences_nil : occurrences word [] = 0 := rfl

lemma occurrences_cons_of_not_start {word : Text} {c : Char} {t : Text} (h : ¬ word <+: c :: t) :
    occurrences word (c :: t) = occurrences word t := by
  rw [← List.isPrefixOf_iff_prefix] at h
  rw [occurrences, if_neg h, Nat.add_zero]

lemma occurrences_cons_of_start {word : Text} {c : Char} {t : Text} (h : word <+: c :: t) :
    occurrences word (c :: t) = occurrences word t + 1 := by
  rw [occurrences, if_pos (List.isPrefixOf_iff_prefix.mpr h)]

lemma occurrences_le_cons (c : Char) (t : Text) : occurrences word t ≤ occurrences word (c :: t) := by
  rw [occurrences]
  omega

lemma not_start_of_occurrences_eq {word : Text} {c : Char} {t : Text}
    (h : occurrences word (c :: t) = occurrences word t) : ¬ word <+: c :: t := by
  intro hc
  rw [occurrences_cons_of_start hc] at h
  omega

lemma occurrences_le_append (u t : Text) : occurrences word t ≤ occurrences word (u ++ t) := by
  induction u with
  | nil => exact Nat.le_refl _
  | cons c u ih => exact Nat.le_trans ih (occurrences_le_cons word c (u ++ t))

end Occurrences

section Replace
variable {old new : Text}

@[simp] lemma replace_nil : replace old new [] = [] := rfl

lemma replaceFrom_length_append (u t : Text) :
    replaceFrom old new u.length (u ++ t) = replace old new t := by
  induction u with
  | nil => rfl
  | cons c u ih => exact ih

lemma replace_append (hold : old ≠ []) (t : Text) :
    replace old new (old ++ t) = new ++ replace old new t := by
  obtain ⟨c,u,rfl⟩ := List.exists_cons_of_ne_nil hold
  have hstart : (c :: u).isPrefixOf (c :: (u ++ t)) :=
    List.isPrefixOf_iff_prefix.mpr (List.prefix_append _ _)
  rw [List.cons_append, replace, replaceFrom, if_pos hstart, List.length_cons, Nat.add_sub_cancel,
    replaceFrom_length_append]

lemma replace_cons_of_not_start {c : Char} {t : Text} (h : ¬ old <+: c :: t) :
    replace old new (c :: t) = c :: replace old new t := by
  rw [← List.isPrefixOf_iff_prefix] at h
  rw [replace, replaceFrom, if_neg h]
  rfl

/-- Text at the start in which the word never starts is kept. -/
lemma replace_append_of_occurrences_eq {u t : Text}
    (h : occurrences old (u ++ t) = occurrences old t) :
    replace old new (u ++ t) = u ++ replace old new t := by
  induction u with
  | nil => rfl
  | cons c u ih =>
    have hle := occurrences_le_append old u t
    by_cases hc : old <+: c :: (u ++ t)
    · rw [List.cons_append, occurrences_cons_of_start hc] at h
      omega
    · rw [List.cons_append, occurrences_cons_of_not_start hc] at h
      rw [List.cons_append, replace_cons_of_not_start hc, ih h, List.cons_append]

lemma replace_self (hold : old ≠ []) (t : Text) : replace old old t = t := by
  induction t using induction_on_words [old] (by simpa using hold.symm) with
  | nil => rfl
  | word w hw t ih =>
    obtain rfl := List.mem_singleton.mp hw
    rw [replace_append hold, ih]
  | char c t hc ih => rw [replace_cons_of_not_start (hc old (by simp)), ih]

/-- Each of the places counts with the word it loses and the word it gets. -/
theorem length_replace (new : Text) (hold : old ≠ [])
    (happart : ∀ t, occurrences old (old ++ t) = occurrences old t + 1) (t : Text) :
    (replace old new t).length + old.length * occurrences old t =
      t.length + new.length * occurrences old t := by
  induction t using induction_on_words [old] (by simpa using hold.symm) with
  | nil => simp
  | word w hw t ih =>
    obtain rfl := List.mem_singleton.mp hw
    rw [replace_append hold, happart, List.length_append, List.length_append, Nat.mul_succ,
      Nat.mul_succ]
    omega
  | char c t hc ih =>
    have hnot := hc old (by simp)
    rw [replace_cons_of_not_start hnot, occurrences_cons_of_not_start hnot, List.length_cons,
      List.length_cons]
    omega

end Replace
end ESharp.Text
