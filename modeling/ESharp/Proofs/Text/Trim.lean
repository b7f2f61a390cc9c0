import ESharp.Text.Basic
import Mathlib.Data.List.DropRight

/-!
# Trimmed texts

Trimming takes blanks away, only at the ends, and all that stand there: a text is its trimmed form
between two runs of blanks, and a text is trimmed when neither of its ends is a blank.
-/

namespace ESharp.Text

/-- Every character of the text is a blank. -/
def Blank (t : Text) : Prop := ∀ c ∈ t, isBlank c

@[simp] lemma blank_nil : Blank [] := by simp [Blank]

@[simp] lemma blank_cons (c : Char) (t : Text) : Blank (c :: t) ↔ isBlank c ∧ Blank t := by
  simp [Blank]

lemma trimEnd_concat (t : Text) (c : Char) :
    trimEnd (t ++ [c]) = if isBlank c then trimEnd t else t ++ [c] := by
  induction t with
  | nil => simp [trimEnd]
  | cons d t ih =>
    simp only [List.cons_append, trimEnd, ih]
    by_cases hc : isBlank c
    · simp [hc]
    · cases t <;> simp [hc]

lemma trimEnd_eq_rdropWhile (t : Text) : trimEnd t = t.rdropWhile isBlank := by
  induction t using List.reverseRecOn with
  | nil => rfl
  | append_singleton t c ih => rw [trimEnd_concat, List.rdropWhile_concat, ih]

lemma trimEnd_append_blanks (t : Text) {b : Text} (hb : Blank b) : trimEnd (t ++ b) = trimEnd t := by
  induction b using List.reverseRecOn with
  | nil => simp
  | append_singleton b c ih =>
    have hc : isBlank c := hb c (by simp)
    rw [← List.append_assoc, trimEnd_concat, if_pos hc]
    exact ih fun e he => hb e (by simp [he])

lemma trimStart_eq_nil_iff {t : Text} : trimStart t = [] ↔ Blank t :=
  List.dropWhile_eq_nil_iff

lemma trim_blanks_append {a : Text} (t : Text) (ha : Blank a) : trim (a ++ t) = trim t := by
  rw [trim, trimStart, List.dropWhile_append_of_pos ha]
  rfl

lemma trim_append_blanks (t : Text) {b : Text} (hb : Blank b) : trim (t ++ b) = trim t := by
  by_cases ht : Blank t
  · have hb' : trimStart b = [] := trimStart_eq_nil_iff.mpr hb
    have ht' : trimStart t = [] := trimStart_eq_nil_iff.mpr ht
    rw [trim_blanks_append b ht, trim, trim, hb', ht']
  · have ht' : trimStart t ≠ [] := fun h => ht (trimStart_eq_nil_iff.mp h)
    have h : trimStart (t ++ b) = trimStart t ++ b := by
      unfold trimStart at ht' ⊢
      simp [List.dropWhile_append, ht']
    rw [trim, h, trimEnd_append_blanks _ hb, trim]

/-- Trimming removes blanks, and only at the two ends. -/
theorem exists_blanks_around_trim (t : Text) :
    ∃ a b, Blank a ∧ Blank b ∧ t = a ++ (trim t ++ b) := by
  refine ⟨t.takeWhile isBlank, (trimStart t).rtakeWhile isBlank, ?_, ?_, ?_⟩
  · exact fun c hc => List.mem_takeWhile_imp hc
  · exact fun c hc => List.mem_rtakeWhile_imp hc
  · rw [trim, trimEnd_eq_rdropWhile, List.rdropWhile_append_rtakeWhile]
    exact (List.takeWhile_append_dropWhile).symm

/-- Neither end of the text is a blank. -/
structure Trimmed (t : Text) : Prop where
  head : ∀ c, t.head? = some c → isBlank c = false
  last : ∀ c, t.getLast? = some c → isBlank c = false

lemma trimStart_eq_self_iff {t : Text} :
    trimStart t = t ↔ ∀ c, t.head? = some c → isBlank c = false := by
  cases t with
  | nil => simp
  | cons c t => simp [trimStart, List.dropWhile_eq_self_iff]

lemma trimEnd_eq_self_iff {t : Text} :
    trimEnd t = t ↔ ∀ c, t.getLast? = some c → isBlank c = false := by
  rw [trimEnd_eq_rdropWhile, List.rdropWhile_eq_self_iff]
  constructor
  · intro h c hc
    obtain ⟨u,rfl⟩ := List.getLast?_eq_some_iff.mp hc
    simpa using h (by simp)
  · intro h hne
    simpa using h _ (List.getLast?_eq_some_getLast hne)

lemma Trimmed.trim_eq {t : Text} (h : Trimmed t) : trim t = t := by
  rw [trim, trimStart_eq_self_iff.mpr h.head, trimEnd_eq_self_iff.mpr h.last]

/-- Cutting a text off at its end leaves its first character, unless nothing is left. -/
lemma head?_trimEnd {t : Text} {c : Char} (h : (trimEnd t).head? = some c) : t.head? = some c := by
  rw [trimEnd_eq_rdropWhile] at h
  obtain ⟨u,hu⟩ := List.rdropWhile_prefix isBlank t
  cases hd : t.rdropWhile isBlank with
  | nil => simp [hd] at h
  | cons d v =>
    rw [hd] at h hu
    rw [← hu]
    simpa using h

theorem trimmed_trim (t : Text) : Trimmed (trim t) where
  head c hc := by
    have h : trimStart (trimStart t) = trimStart t := List.dropWhile_idempotent isBlank t
    exact trimStart_eq_self_iff.mp h c (head?_trimEnd hc)
  last c hc := by
    have h : trimEnd (trim t) = trim t := by
      rw [trim, trimEnd_eq_rdropWhile, trimEnd_eq_rdropWhile]
      exact List.rdropWhile_idempotent isBlank _
    exact trimEnd_eq_self_iff.mp h c hc

@[simp] theorem trim_trim (t : Text) : trim (trim t) = trim t := (trimmed_trim t).trim_eq

theorem trim_eq_self_iff {t : Text} : trim t = t ↔ Trimmed t :=
  ⟨fun h => h ▸ trimmed_trim t, Trimmed.trim_eq⟩

theorem trim_eq_nil_iff {t : Text} : trim t = [] ↔ Blank t := by
  constructor
  · intro h
    obtain ⟨a,b,ha,hb,ht⟩ := exists_blanks_around_trim t
    rw [h, List.nil_append] at ht
    intro c hc
    rw [ht, List.mem_append] at hc
    exact hc.elim (ha c) (hb c)
  · intro h
    rw [trim, trimStart_eq_nil_iff.mpr h, trimEnd_nil]

/-- No run of blanks starts a trimmed text. -/
lemma Trimmed.eq_nil_of_blanks_append {a t : Text} (h : Trimmed (a ++ t)) (ha : Blank a) : a = [] := by
  cases a with
  | nil => rfl
  | cons c a =>
    have hc := h.head c rfl
    simp [ha c (by simp)] at hc

/-- No run of blanks ends a trimmed text. -/
lemma Trimmed.eq_nil_of_append_blanks {t b : Text} (h : Trimmed (t ++ b)) (hb : Blank b) : b = [] := by
  rcases List.eq_nil_or_concat' b with rfl | ⟨b,c,rfl⟩
  · rfl
  · have hc := h.last c (by simp [← List.append_assoc])
    simp [hb c (by simp)] at hc

/-- Only the ends of a text decide whether it is trimmed. -/
lemma Trimmed.append_append {t u : Text} (ht : Trimmed t) (hu : Trimmed u) (htne : t ≠ [])
    (hune : u ≠ []) (m : Text) : Trimmed (t ++ m ++ u) where
  head c hc := by
    obtain ⟨e,t,rfl⟩ := List.exists_cons_of_ne_nil htne
    exact ht.head c (by simpa using hc)
  last c hc := by
    obtain ⟨u,e,rfl⟩ := (List.eq_nil_or_concat' u).resolve_left hune
    exact hu.last c (by simpa [← List.append_assoc] using hc)

/-- A character that is no blank, put at an end that is no blank, stays there. -/
lemma trim_concat {t : Text} {c : Char} (hc : isBlank c = false)
    (ht : ∀ e, t.getLast? = some e → isBlank e = false) : trim (t ++ [c]) = trim t ++ [c] := by
  have hs : trimStart (t ++ [c]) = trimStart t ++ [c] := by
    simp only [trimStart, List.dropWhile_append]
    split <;> simp_all
  have he : trimEnd (trimStart t) = trimStart t := by
    rw [trimEnd_eq_self_iff]
    intro e h
    obtain ⟨u,hu⟩ := List.dropWhile_suffix isBlank (l := t)
    obtain ⟨v,hv⟩ := List.getLast?_eq_some_iff.mp h
    apply ht
    rw [← hu, show t.dropWhile isBlank = trimStart t from rfl, hv]
    simp
  rw [trim, hs, trimEnd_concat, hc, trim, he]
  simp

end ESharp.Text
