import ESharp.Proofs.Values.Scan

/-!
# Parts

A cut is known by the parts it leaves. Every part but the last ends at a separator, and the last one
is what is left when the limit is reached or when no separator follows. The relation and the function
agree, so a fact about a cut is an induction on its parts.
-/

namespace ESharp.Values
variable {d : Char}

@[simp] lemma separators_nil (s : Scan) : separators d s [] = 0 := rfl

lemma separators_cons (s : Scan) (c : Char) (t : Text) :
    separators d s (c :: t) = (if s.separates d c then 1 else 0) + separators d (s.next c) t := rfl

lemma separators_append (s : Scan) (t u : Text) :
    separators d s (t ++ u) = separators d s t + separators d (s.run t) u := by
  induction t generalizing s with
  | nil => simp
  | cons c t ih => simp only [List.cons_append, separators_cons, ih, Scan.run_cons, Nat.add_assoc]

lemma separators_of_not_mem (s : Scan) {t : Text} (h : d ∉ t) : separators d s t = 0 := by
  induction t generalizing s with
  | nil => rfl
  | cons c t ih =>
    rw [List.mem_cons, not_or] at h
    have hs : ¬ s.separates d c := fun hs => h.1 (Scan.separates_iff.mp hs).1.symm
    rw [separators_cons, if_neg hs, ih _ h.2]

/-- How a text falls into parts when it is cut at no more than `limit` separators, with a scan that
has come to its start. -/
inductive Parts (d : Char) : Option Nat → Scan → Text → List Text → Prop
  /-- Nothing is cut off any more. -/
  | last {limit s t} (h : limit = some 0 ∨ separators d s t = 0) : Parts d limit s t [t]
  /-- The text up to its first separator is a part. -/
  | cons {limit s p u ps} (hl : limit ≠ some 0) (hp : separators d s p = 0)
      (hs : (s.run p).separates d d)
      (rest : Parts d (limit.map (· - 1)) ((s.run p).next d) u ps) :
      Parts d limit s (p ++ d :: u) (p :: ps)

lemma cut_zero (s : Scan) (t : Text) : cut d (some 0) s t = (t, []) := by
  cases t <;> rfl

lemma cut_cons {limit : Option Nat} (hl : limit ≠ some 0) (s : Scan) (c : Char) (t : Text) :
    cut d limit s (c :: t) =
      if s.separates d c then
        ([], (cut d (limit.map (· - 1)) (s.next c) t).1 :: (cut d (limit.map (· - 1)) (s.next c) t).2)
      else (c :: (cut d limit (s.next c) t).1, (cut d limit (s.next c) t).2) := by
  rw [cut]
  exact hl

/-- A character that separates nothing joins the part that follows it. -/
lemma Parts.cons_char {limit : Option Nat} {s : Scan} {c : Char} {t p : Text} {ps : List Text}
    (hc : ¬ s.separates d c) (h : Parts d limit (s.next c) t (p :: ps)) :
    Parts d limit s (c :: t) ((c :: p) :: ps) := by
  generalize hr : s.next c = r at h
  generalize hq : p :: ps = qs at h
  cases h with
  | last h =>
    obtain ⟨rfl,rfl⟩ := List.cons.inj hq
    refine .last (h.imp_right fun h => ?_)
    rw [separators_cons, if_neg hc, hr, h]
  | @cons _ _ q u _ hl hp hs rest =>
    obtain ⟨rfl,rfl⟩ := List.cons.inj hq
    subst hr
    refine .cons (p := c :: p) hl ?_ hs rest
    rw [separators_cons, if_neg hc, hp]

theorem parts_cut (limit : Option Nat) (s : Scan) (t : Text) :
    Parts d limit s t ((cut d limit s t).1 :: (cut d limit s t).2) := by
  induction t generalizing limit s with
  | nil => exact .last (.inr rfl)
  | cons c t ih =>
    by_cases hl : limit = some 0
    · subst hl
      rw [cut_zero]
      exact .last (.inl rfl)
    · rw [cut_cons hl]
      split_ifs with hc
      · obtain rfl : c = d := (Scan.separates_iff.mp hc).1
        exact .cons (p := []) hl rfl hc (ih _ _)
      · exact .cons_char hc (ih _ _)

lemma cut_of_separators_eq_zero {limit : Option Nat} {s : Scan} {t : Text}
    (h : separators d s t = 0) : cut d limit s t = (t, []) := by
  induction t generalizing s with
  | nil => cases limit <;> rfl
  | cons c t ih =>
    by_cases hl : limit = some 0
    · rw [hl, cut_zero]
    · rw [separators_cons, Nat.add_eq_zero_iff] at h
      have hc : ¬ s.separates d c := by simpa using h.1
      rw [cut_cons hl, if_neg hc, ih h.2]

lemma cut_append_separator {limit : Option Nat} {s : Scan} {p : Text} (u : Text)
    (hl : limit ≠ some 0) (hp : separators d s p = 0) (hs : (s.run p).separates d d) :
    cut d limit s (p ++ d :: u) = (p, (cut d (limit.map (· - 1)) ((s.run p).next d) u).1 ::
      (cut d (limit.map (· - 1)) ((s.run p).next d) u).2) := by
  induction p generalizing s with
  | nil =>
    rw [Scan.run_nil] at hs ⊢
    rw [List.nil_append, cut_cons hl, if_pos hs]
  | cons c p ih =>
    rw [separators_cons, Nat.add_eq_zero_iff] at hp
    have hc : ¬ s.separates d c := by simpa using hp.1
    rw [List.cons_append, cut_cons hl, if_neg hc, ih hp.2 hs]
    rfl

/-- The parts of a text are determined: they are what the cut gives. -/
theorem parts_iff {limit : Option Nat} {s : Scan} {t : Text} {ps : List Text} :
    Parts d limit s t ps ↔ ps = (cut d limit s t).1 :: (cut d limit s t).2 := by
  refine ⟨fun h => ?_, fun h => h ▸ parts_cut limit s t⟩
  induction h with
  | last h =>
    rcases h with rfl | h
    · rw [cut_zero]
    · rw [cut_of_separators_eq_zero h]
  | cons hl hp hs rest ih => rw [cut_append_separator _ hl hp hs, ih]

theorem parts_pieces_iff {max : Nat} {t : Text} {ps : List Text} :
    Parts d (limitOf max) {} t ps ↔ ps = pieces d max t := parts_iff

lemma parts_pieces (d : Char) (max : Nat) (t : Text) : Parts d (limitOf max) {} t (pieces d max t) :=
  parts_pieces_iff.mpr rfl

namespace Parts
variable {limit : Option Nat} {s : Scan} {t : Text} {ps : List Text}

lemma ne_nil (h : Parts d limit s t ps) : ps ≠ [] := by cases h <;> simp

lemma eq_of_singleton {p : Text} (h : Parts d limit s t [p]) : t = p := by
  cases h with
  | last => rfl
  | cons hl hp hs rest => exact absurd rfl rest.ne_nil

/-- The first of several parts ends at the first separator. -/
lemma exists_rest {p q : Text} (h : Parts d limit s t (p :: q :: ps)) :
    ∃ u, t = p ++ d :: u ∧ separators d s p = 0 ∧ (s.run p).separates d d ∧
      Parts d (limit.map (· - 1)) ((s.run p).next d) u (q :: ps) := by
  cases h with
  | cons hl hp hs rest => exact ⟨_, rfl, hp, hs, rest⟩

/-- Nothing but the separators is lost. -/
theorem join (h : Parts d limit s t ps) : Text.join [d] ps = t := by
  induction h with
  | last => rfl
  | cons hl hp hs rest ih => rw [Text.join_cons _ _ rest.ne_nil, ih]; rfl

/-- Text without the delimiter, put at the end, only makes the last part longer. -/
theorem append (h : Parts d limit s t ps) {b : Text} (hb : d ∉ b) :
    ∃ qs q, ps = qs ++ [q] ∧ Parts d limit s (t ++ b) (qs ++ [q ++ b]) := by
  induction h with
  | @last limit s t h =>
    refine ⟨[], t, rfl, .last (h.imp_right fun h => ?_)⟩
    rw [separators_append, h, separators_of_not_mem _ hb]
  | @cons limit s p u ps hl hp hs rest ih =>
    obtain ⟨qs,q,rfl,hr⟩ := ih
    refine ⟨p :: qs, q, rfl, ?_⟩
    rw [List.append_assoc]
    exact .cons hl hp hs hr

/-- Blanks at the start only make the first part longer. -/
theorem blanks_append {a p : Text} (ha : Text.Blank a) (h : Parts d limit {} t (p :: ps))
    (hd : Text.isBlank d = false) : Parts d limit {} (a ++ t) ((a ++ p) :: ps) := by
  have hda : d ∉ a := fun hm => by simp [ha d hm] at hd
  have hr : Scan.Alike (Scan.run {} a) {} := Scan.alike_run_blanks ha
  have hsep : ∀ u, separators d {} (a ++ u) = separators d {} u := by
    intro u
    rw [separators_append, separators_of_not_mem _ hda, hr.separators, Nat.zero_add]
  generalize hq : p :: ps = qs at h
  cases h with
  | last h =>
    obtain ⟨rfl,rfl⟩ := List.cons.inj hq
    exact .last (h.imp_right fun h => (hsep _).trans h)
  | @cons _ _ q u _ hl hp hs rest =>
    obtain ⟨rfl,rfl⟩ := List.cons.inj hq
    have hrun := hr.run p
    rw [← Scan.run_append] at hrun
    rw [← List.append_assoc]
    refine .cons hl ((hsep p).trans hp) (by rwa [hrun.separates]) ?_
    rwa [hrun.next]

end Parts

/-- Trimming a text before a split changes no value. -/
theorem split_trim (hd : Text.isBlank d = false) (max : Nat) (t : Text) :
    split d max (Text.trim t) = split d max t := by
  obtain ⟨a,b,ha,hb,ht⟩ := Text.exists_blanks_around_trim t
  have hdb : d ∉ b := fun hm => by simp [hb d hm] at hd
  obtain ⟨qs,q,hq,hr⟩ := (parts_pieces d max (Text.trim t)).append hdb
  obtain ⟨p,ps,hp⟩ := List.exists_cons_of_ne_nil hr.ne_nil
  rw [hp] at hr
  have hps := hr.blanks_append ha hd
  rw [← ht, parts_pieces_iff] at hps
  have hfirst : (pieces d max t).map Text.trim = (qs ++ [q ++ b]).map Text.trim := by
    rw [← hps, hp, List.map_cons, List.map_cons, Text.trim_blanks_append p ha]
  rw [split, split, hfirst, hq]
  simp [Text.trim_append_blanks q hb]

end ESharp.Values
