import ESharp.Toolchain
import ESharp.Proofs.Text.Replace
import Mathlib.Data.List.Basic

/-!
# Placeholders

The paths are put into an argument one after the other, so a placeholder of the output that comes with
the source, or arises where the source meets the text beside it, is filled as well. Main statement:
this is the only way in which the result differs from the argument with both paths put in at once.
-/

namespace ESharp.Tools
open Text

/-- An argument with both paths put in at once, after `skip` characters of a placeholder. -/
def fillFrom (source output : Text) : (skip : Nat) → Text → Text
  | _, [] => []
  | skip + 1, _ :: t => fillFrom source output skip t
  | 0, c :: t =>
    if sourceMark.isPrefixOf (c :: t) then
      source ++ fillFrom source output (sourceMark.length - 1) t
    else if outputMark.isPrefixOf (c :: t) then
      output ++ fillFrom source output (outputMark.length - 1) t
    else c :: fillFrom source output 0 t

/-- An argument with both paths put in at once: its own placeholders become the paths, and all other
characters stay. -/
def fill (source output arg : Text) : Text := fillFrom source output 0 arg

section Fill
variable (source output : Text)

@[simp] lemma fill_nil : fill source output [] = [] := rfl

@[simp] lemma fill_source (t : Text) :
    fill source output (sourceMark ++ t) = source ++ fill source output t := rfl

@[simp] lemma fill_output (t : Text) :
    fill source output (outputMark ++ t) = output ++ fill source output t := rfl

lemma fill_cons {c : Char} {t : Text} (hs : ¬ sourceMark <+: c :: t) (ho : ¬ outputMark <+: c :: t) :
    fill source output (c :: t) = c :: fill source output t := by
  rw [← List.isPrefixOf_iff_prefix] at hs ho
  rw [fill, fillFrom, if_neg hs, if_neg ho]
  rfl

end Fill

/-- Induction along an argument, placeholder by placeholder and character by character. -/
@[elab_as_elim]
theorem induction_on_marks {motive : Text → Prop} (nil : motive [])
    (source : ∀ t, motive t → motive (sourceMark ++ t))
    (output : ∀ t, motive t → motive (outputMark ++ t))
    (char : ∀ c t, ¬ sourceMark <+: c :: t → ¬ outputMark <+: c :: t → motive t → motive (c :: t))
    (t : Text) : motive t := by
  induction t using induction_on_words [sourceMark, outputMark] (by decide) with
  | nil => exact nil
  | word w hw t ih =>
    rcases List.mem_pair.mp hw with rfl | rfl
    · exact source t ih
    · exact output t ih
  | char c t hc ih => exact char c t (hc _ (by simp)) (hc _ (by simp)) ih

@[simp] lemma occurrences_outputMark_output (t : Text) :
    occurrences outputMark (outputMark ++ t) = occurrences outputMark t + 1 := rfl

@[simp] lemma occurrences_outputMark_source (t : Text) :
    occurrences outputMark (sourceMark ++ t) = occurrences outputMark t := rfl

@[simp] lemma occurrences_sourceMark_output (t : Text) :
    occurrences sourceMark (outputMark ++ t) = occurrences sourceMark t := rfl

/-- The first pass is to put the source in and to leave the placeholders of the output. -/
theorem replace_sourceMark (source arg : Text) :
    replace sourceMark source arg = fill source outputMark arg := by
  induction arg using induction_on_marks with
  | nil => rfl
  | source t ih => rw [replace_append (by decide), fill_source, ih]
  | output t ih =>
    rw [replace_append_of_occurrences_eq (occurrences_sourceMark_output t), fill_output, ih]
  | char c t hs ho ih => rw [replace_cons_of_not_start hs, fill_cons _ _ hs ho, ih]

/-- No placeholder of the output gets lost in the first pass. -/
lemma occurrences_le_fill (source arg : Text) :
    occurrences outputMark arg ≤ occurrences outputMark (fill source outputMark arg) := by
  induction arg using induction_on_marks with
  | nil => exact Nat.le_refl _
  | source t ih =>
    rw [occurrences_outputMark_source, fill_source]
    exact Nat.le_trans ih (occurrences_le_append ..)
  | output t ih =>
    rw [occurrences_outputMark_output, fill_output, occurrences_outputMark_output]
    exact Nat.succ_le_succ ih
  | char c t hs ho ih =>
    rw [occurrences_cons_of_not_start ho, fill_cons _ _ hs ho]
    exact Nat.le_trans ih (occurrences_le_cons ..)

/-- If none is gained either, the second pass fills what it should. -/
theorem replace_fill_of_occurrences_eq {source arg : Text} (output : Text)
    (h : occurrences outputMark (fill source outputMark arg) = occurrences outputMark arg) :
    replace outputMark output (fill source outputMark arg) = fill source output arg := by
  induction arg using induction_on_marks with
  | nil => rfl
  | source t ih =>
    rw [fill_source, occurrences_outputMark_source] at h
    have hle := occurrences_le_fill source t
    have happend := occurrences_le_append outputMark source (fill source outputMark t)
    rw [fill_source, replace_append_of_occurrences_eq (by omega), ih (by omega), fill_source]
  | output t ih =>
    rw [fill_output, occurrences_outputMark_output, occurrences_outputMark_output] at h
    rw [fill_output, replace_append (by decide), ih (by omega), fill_output]
  | char c t hs ho ih =>
    rw [fill_cons _ _ hs ho, occurrences_cons_of_not_start ho] at h
    have hle := occurrences_le_fill source t
    have hcons := occurrences_le_cons outputMark c (fill source outputMark t)
    have hnot : ¬ outputMark <+: c :: fill source outputMark t :=
      not_start_of_occurrences_eq (by omega)
    rw [fill_cons _ _ hs ho, replace_cons_of_not_start hnot, ih (by omega), fill_cons _ _ hs ho]

lemma length_fill (source output arg : Text) :
    (fill source output arg).length + outputMark.length * occurrences outputMark arg =
      (fill source outputMark arg).length + output.length * occurrences outputMark arg := by
  induction arg using induction_on_marks with
  | nil => rfl
  | source t ih =>
    rw [fill_source, fill_source, occurrences_outputMark_source, List.length_append,
      List.length_append]
    omega
  | output t ih =>
    rw [fill_output, fill_output, occurrences_outputMark_output, List.length_append,
      List.length_append, Nat.mul_succ, Nat.mul_succ]
    omega
  | char c t hs ho ih =>
    rw [fill_cons _ _ hs ho, fill_cons _ _ hs ho, occurrences_cons_of_not_start ho,
      List.length_cons, List.length_cons]
    omega

/-- What the first text starts with, up to a brace, the second one starts with too. -/
def StartsLike (t u : Text) : Prop := ∀ v, '{' ∉ v → v <+: t → v <+: u

lemma StartsLike.cons {t u : Text} (h : StartsLike t u) (c : Char) :
    StartsLike (c :: t) (c :: u) := by
  intro v hv hstart
  cases v with
  | nil => exact List.nil_prefix
  | cons d v =>
    obtain ⟨rfl,htail⟩ := List.cons_prefix_cons.mp hstart
    exact List.cons_prefix_cons.mpr ⟨rfl, h v (fun hmem => hv (by simp [hmem])) htail⟩

lemma StartsLike.append {t u : Text} (h : StartsLike t u) (a : Text) :
    StartsLike (a ++ t) (a ++ u) := by
  induction a with
  | nil => exact h
  | cons c a ih => exact ih.cons c

/-- Whatever stands for the output, an argument starts alike up to the placeholder. -/
lemma startsLike_fill (source output arg : Text) :
    StartsLike (fill source outputMark arg) (fill source output arg) := by
  induction arg using induction_on_marks with
  | nil => exact fun v _ h => h
  | source t ih => exact ih.append source
  | output t ih =>
    rintro (_ | ⟨d,v⟩) hv hstart
    · exact List.nil_prefix
    · obtain ⟨rfl,-⟩ := List.cons_prefix_cons.mp hstart
      exact absurd List.mem_cons_self hv
  | char c t hs ho ih =>
    rw [fill_cons _ _ hs ho, fill_cons _ _ hs ho]
    exact ih.cons c

/-- Text that the second pass keeps has no placeholder that starts in it: one would be filled with
something else of the same length. -/
lemma occurrences_eq_of_replace_eq {output a t u : Text} (hlength : output.length = outputMark.length)
    (hne : output ≠ outputMark) (hlike : StartsLike t u)
    (h : replace outputMark output (a ++ t) = a ++ u) :
    occurrences outputMark (a ++ t) = occurrences outputMark t := by
  induction a with
  | nil => rfl
  | cons c a ih =>
    rw [List.cons_append] at h
    by_cases hc : outputMark <+: c :: (a ++ t)
    · exfalso
      obtain ⟨rest,hrest⟩ := hc
      rw [← hrest, replace_append (by decide)] at h
      -- the placeholder has no second brace, so it starts the result as well
      have hmark : outputMark <+: c :: (a ++ u) := by
        obtain ⟨rfl,hstart⟩ := List.cons_prefix_cons.mp ⟨rest, hrest⟩
        exact List.cons_prefix_cons.mpr ⟨rfl, hlike.append a _ (by decide) hstart⟩
      have houtput : output <+: c :: (a ++ u) := ⟨_, h⟩
      have hstart := List.prefix_of_prefix_length_le houtput hmark (by omega)
      exact hne (hstart.eq_of_length hlength)
    · rw [replace_cons_of_not_start hc] at h
      rw [List.cons_append, occurrences_cons_of_not_start hc]
      exact ih (List.cons.inj h).2

/-- A placeholder that is gained shows: in the length of the result, or in what fills it. -/
theorem occurrences_eq_of_replace_fill {source output arg : Text} (hne : output ≠ outputMark)
    (h : replace outputMark output (fill source outputMark arg) = fill source output arg) :
    occurrences outputMark (fill source outputMark arg) = occurrences outputMark arg := by
  by_cases hlength : output.length = outputMark.length
  · induction arg using induction_on_marks with
    | nil => rfl
    | source t ih =>
      rw [fill_source, fill_source] at h
      have hsource := occurrences_eq_of_replace_eq hlength hne (startsLike_fill source output t) h
      rw [replace_append_of_occurrences_eq hsource] at h
      rw [fill_source, hsource, ih (List.append_cancel_left h), occurrences_outputMark_source]
    | output t ih =>
      rw [fill_output, fill_output, replace_append (by decide)] at h
      rw [fill_output, occurrences_outputMark_output, ih (List.append_cancel_left h),
        occurrences_outputMark_output]
    | char c t hs ho ih =>
      rw [fill_cons _ _ hs ho, fill_cons _ _ hs ho] at h
      have hchar : occurrences outputMark (c :: fill source outputMark t) =
          occurrences outputMark (fill source outputMark t) :=
        occurrences_eq_of_replace_eq (a := [c]) hlength hne (startsLike_fill source output t) h
      rw [replace_cons_of_not_start (not_start_of_occurrences_eq hchar)] at h
      rw [fill_cons _ _ hs ho, hchar, ih (List.cons.inj h).2, occurrences_cons_of_not_start ho]
  · have hle := occurrences_le_fill source arg
    have hfill := length_fill source output arg
    have hreplace := length_replace output (by decide) occurrences_outputMark_output
      (fill source outputMark arg)
    rw [h] at hreplace
    obtain ⟨k,hk⟩ := Nat.exists_eq_add_of_le hle
    rw [hk, Nat.mul_add, Nat.mul_add] at hreplace
    have hgained : output.length * k = outputMark.length * k := by omega
    have hzero : k = 0 := by
      by_contra hpos
      exact hlength (Nat.eq_of_mul_eq_mul_right (Nat.pos_of_ne_zero hpos) hgained)
    omega

theorem expandArg_eq_fill_iff (source output arg : Text) :
    expandArg source (some output) arg = fill source output arg ↔
      output = outputMark ∨
        occurrences outputMark (replace sourceMark source arg) = occurrences outputMark arg := by
  rw [expandArg, replace_sourceMark]
  constructor
  · intro h
    by_cases hne : output = outputMark
    · exact .inl hne
    · exact .inr (occurrences_eq_of_replace_fill hne h)
  · rintro (rfl | h)
    · exact replace_self (by decide) _
    · exact replace_fill_of_occurrences_eq output h

/-- The arguments come out as if both paths were put in at once, unless the source brings a
placeholder of the output into one of them. What fills that placeholder then shows, unless it is the
placeholder again. -/
theorem expand_eq_fill_iff (args : List Text) (source output : Text) :
    expand args source (some output) = args.map (fill source output) ↔
      output = outputMark ∨ ∀ arg ∈ args,
        occurrences outputMark (replace sourceMark source arg) = occurrences outputMark arg := by
  rw [expand, List.map_inj_left]
  simp only [expandArg_eq_fill_iff]
  by_cases h : output = outputMark
  · simp [h]
  · simp [h]

/-- A source whose path looks like a placeholder is lost. -/
theorem expand_source_named_like_mark :
    expand [sourceMark] outputMark (some ['z']) = [['z']] ∧
      [sourceMark].map (fill outputMark ['z']) = [outputMark] := by decide

-- The source can also complete a placeholder that is only begun in the argument.
example : expand [['{'] ++ sourceMark ++ ['}']] "output".toList (some ['z']) = [['z']] ∧
    fill "output".toList ['z'] (['{'] ++ sourceMark ++ ['}']) = outputMark := by decide

end ESharp.Tools
