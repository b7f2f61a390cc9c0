import ESharp.Proofs.Values.Parts

/-!
# Texts that stay apart

When does a split undo a join? When no text has a separator of its own, and when all but the last
leave the scan outside literals and brackets. The parts of a cut are such texts, and so are its
values: the blanks that trimming removes never matter to a scan.
-/

namespace ESharp.Values
variable {d : Char}

/-- Texts that stay apart when the delimiter is put between them: it separates nothing inside them,
and all but the last end outside literals and brackets. -/
structure Apart (d : Char) (ps : List Text) : Prop where
  ne_nil : ps ≠ []
  free : ∀ p ∈ ps, separators d {} p = 0
  top : ∀ p ∈ ps.dropLast, (Scan.run {} p).atTop

namespace Apart
variable {ps : List Text}

lemma singleton {p : Text} (hp : separators d {} p = 0) : Apart d [p] :=
  ⟨by simp, by simpa using hp, by simp⟩

lemma cons {p : Text} (hp : separators d {} p = 0) (htop : (Scan.run {} p).atTop)
    (h : Apart d ps) : Apart d (p :: ps) where
  ne_nil := by simp
  free := by simpa using ⟨hp, h.free⟩
  top := by simpa [List.dropLast_cons_of_ne_nil h.ne_nil] using ⟨htop, h.top⟩

/-- What keeps separators away and ends at the top keeps texts apart. -/
lemma map {f : Text → Text} (hfree : ∀ p, separators d {} p = 0 → separators d {} (f p) = 0)
    (htop : ∀ p, (Scan.run {} p).atTop → (Scan.run {} (f p)).atTop) (h : Apart d ps) :
    Apart d (ps.map f) where
  ne_nil := by simpa using h.ne_nil
  free := by
    intro q hq
    obtain ⟨p,hp,rfl⟩ := List.mem_map.mp hq
    exact hfree p (h.free p hp)
  top := by
    intro q hq
    rw [← List.map_dropLast] at hq
    obtain ⟨p,hp,rfl⟩ := List.mem_map.mp hq
    exact htop p (h.top p hp)

/-- The parts of an unlimited cut stay apart. -/
theorem of_parts (hd : d ≠ '\\') {s : Scan} {t : Text} (hs : s.Alike {})
    (h : Parts d none s t ps) : Apart d ps := by
  generalize hn : none = limit at h
  induction h with
  | @last limit s t h =>
    subst hn
    have ht : separators d s t = 0 := by simpa using h
    exact singleton ((hs.separators d t).symm.trans ht)
  | @cons limit s p u ps hl hp hsep rest ih =>
    have htop : (Scan.run {} p).atTop := by
      rw [← (hs.run p).atTop]
      exact Scan.atTop_of_separates hsep
    have hrest : Apart d ps := ih (Scan.alike_next_of_separates hd hsep) (by simp [← hn])
    exact cons ((hs.separators d p).symm.trans hp) htop hrest

/-- Texts that stay apart are the parts of what they make with the delimiter between them. -/
theorem parts_join (hd : Plain d) {s : Scan} (hs : s.Alike {}) (h : Apart d ps) :
    Parts d none s (Text.join [d] ps) ps := by
  induction ps generalizing s with
  | nil => exact absurd rfl h.ne_nil
  | cons p ps ih =>
    have hp : separators d s p = 0 := (hs.separators d p).trans (h.free p (by simp))
    cases ps with
    | nil => exact .last (.inr hp)
    | cons q qs =>
      have hsep : (s.run p).separates d d := by
        rw [Scan.separates_of_plain _ hd, (hs.run p).atTop]
        exact h.top p (by simp)
      have hnext : ((s.run p).next d).Alike {} := Scan.alike_next_of_separates hd.noEscape hsep
      have hqs : Apart d (q :: qs) :=
        ⟨by simp, fun r hr => h.free r (by simp [hr]), fun r hr => h.top r (by simp [hr])⟩
      rw [Text.join_cons _ _ (by simp)]
      exact .cons (by simp) hp hsep (ih hnext hqs)

lemma pieces_join (hd : Plain d) (h : Apart d ps) : pieces d 0 (Text.join [d] ps) = ps :=
  (parts_pieces_iff.mp (h.parts_join hd (.refl _))).symm

end Apart

lemma apart_pieces (hd : d ≠ '\\') (t : Text) : Apart d (pieces d 0 t) :=
  .of_parts hd (.refl _) (parts_pieces d 0 t)

lemma separators_trim {p : Text} (h : separators d {} p = 0) : separators d {} (Text.trim p) = 0 := by
  obtain ⟨a,b,ha,-,hp⟩ := Text.exists_blanks_around_trim p
  rw [hp, separators_append, separators_append, (Scan.alike_run_blanks ha).separators] at h
  omega

lemma atTop_run_trim (p : Text) : (Scan.run {} (Text.trim p)).atTop = (Scan.run {} p).atTop := by
  obtain ⟨a,b,ha,hb,hp⟩ := Text.exists_blanks_around_trim p
  conv_rhs => rw [hp]
  rw [Scan.run_append, Scan.run_append, Scan.atTop_run_blanks _ hb]
  exact ((Scan.alike_run_blanks ha).run _).atTop.symm

lemma apart_split (hd : d ≠ '\\') (t : Text) : Apart d (split d 0 t) :=
  (apart_pieces hd t).map (fun _ => separators_trim) (fun p h => (atTop_run_trim p).trans h)

lemma append_join_append (a b : Text) {vs : List Text} (h : vs ≠ []) :
    b ++ (Text.join (a ++ d :: b) vs ++ a) = Text.join [d] (vs.map fun v => b ++ (v ++ a)) := by
  induction vs with
  | nil => exact absurd rfl h
  | cons v vs ih =>
    cases vs with
    | nil => rfl
    | cons w ws =>
      rw [Text.join_cons _ v (by simp), List.map_cons, Text.join_cons [d] _ (by simp),
        ← ih (by simp)]
      simp

/-- Texts that stay apart are read back also when there are blanks on either side of the delimiter.
With the same blanks at the two ends all texts look alike, and a split does not see those. -/
theorem split_join_spaced (hd : Plain d) (hblank : Text.isBlank d = false) {a b : Text}
    (ha : Text.Blank a) (hb : Text.Blank b) {vs : List Text} (h : Apart d vs) :
    split d 0 (Text.join (a ++ d :: b) vs) = vs.map Text.trim := by
  have hstart : Scan.Alike (Scan.run {} b) {} := Scan.alike_run_blanks hb
  have hda : d ∉ a := fun hm => by simp [ha d hm] at hblank
  have hdb : d ∉ b := fun hm => by simp [hb d hm] at hblank
  have htrim : ∀ v, Text.trim (b ++ (v ++ a)) = Text.trim v := by
    intro v
    rw [Text.trim_blanks_append _ hb, Text.trim_append_blanks _ ha]
  have happart : Apart d (vs.map fun v => b ++ (v ++ a)) := by
    refine h.map (fun p hp => ?_) (fun p hp => ?_)
    · rw [separators_append, separators_of_not_mem _ hdb, hstart.separators, separators_append, hp,
        separators_of_not_mem _ hda]
    · rw [← atTop_run_trim, htrim, atTop_run_trim]
      exact hp
  calc split d 0 (Text.join (a ++ d :: b) vs)
      = split d 0 (b ++ (Text.join (a ++ d :: b) vs ++ a)) := by
        rw [← split_trim hblank, ← split_trim hblank 0 (b ++ _), htrim]
    _ = (vs.map fun v => b ++ (v ++ a)).map Text.trim := by
        rw [append_join_append a b h.ne_nil, split, happart.pieces_join hd]
    _ = vs.map Text.trim := by
        rw [List.map_map]
        exact List.map_congr_left fun v _ => htrim v

theorem commaSplit_join {vs : List Text} (h : Apart ',' vs) :
    commaSplit (Text.join ", ".toList vs) = vs.map Text.trim :=
  split_join_spaced plain_comma (by decide) Text.blank_nil (b := [' ']) (by simp [Text.isBlank]) h

/-- The values of a text are the values of what they are written as. -/
theorem commaSplit_join_commaSplit (t : Text) :
    commaSplit (Text.trim (Text.join ", ".toList (commaSplit t))) = commaSplit t := by
  have htrim : (commaSplit t).map Text.trim = commaSplit t := by simp [commaSplit, split]
  rw [commaSplit, split_trim (by decide)]
  exact (commaSplit_join (apart_split (by decide) t)).trans htrim

end ESharp.Values
