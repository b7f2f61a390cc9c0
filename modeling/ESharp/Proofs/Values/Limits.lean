import ESharp.Proofs.Values.Apart

/-!
# Limited splits

A limit changes only where a split stops. What is left over is the last value, with its separators,
and a split of that value goes on as if it had never stopped. Main statements: a split undoes a join,
limited or not, and a limited split can be resumed.
-/

namespace ESharp.Values
variable {d : Char}

namespace Parts
variable {limit : Option Nat} {s : Scan} {t : Text} {ps : List Text}

lemma of_alike {r : Scan} (h : Parts d limit s t ps) (hr : r.Alike s) : Parts d limit r t ps := by
  cases h with
  | last h => exact .last (h.imp_right fun h => (hr.separators d t).trans h)
  | @cons _ _ p u ps hl hp hsep rest =>
    have hrun : (r.run p).Alike (s.run p) := hr.run p
    refine .cons hl ((hr.separators d p).trans hp) ?_ ?_
    · rwa [hrun.separates]
    · rwa [hrun.next]

/-- A limit that is not reached changes nothing. -/
lemma limit_of_length_le {n : Nat} (h : Parts d none s t ps) (hn : ps.length ≤ n + 1) :
    Parts d (some n) s t ps := by
  generalize hlimit : none = limit at h
  induction h generalizing n with
  | @last limit s t h =>
    subst hlimit
    exact .last (.inr (by simpa using h))
  | @cons limit s p u ps hl hp hsep rest ih =>
    subst hlimit
    have hps : 0 < ps.length := List.length_pos_iff.mpr rest.ne_nil
    rw [List.length_cons] at hn
    cases n with
    | zero => omega
    | succ n =>
      refine .cons (by simp) hp hsep ?_
      exact ih (by simpa using hn) rfl

/-- The parts beyond a limit stay joined. The induction is on the parts, and the limit goes down with
every one of them that is cut off. -/
lemma limit_of_lt_length {n : Nat} (h : Parts d none s t ps) (hn : n < ps.length) :
    Parts d (some n) s t (ps.take n ++ [Text.join [d] (ps.drop n)]) := by
  generalize hlimit : none = limit at h
  induction h generalizing n with
  | @last limit s t h =>
    obtain rfl : n = 0 := by simpa using hn
    exact .last (.inl rfl)
  | @cons limit s p u ps hl hp hsep rest ih =>
    subst hlimit
    cases n with
    | zero =>
      have hjoin : Text.join [d] (p :: ps) = p ++ d :: u := (cons hl hp hsep rest).join
      rw [List.take_zero, List.drop_zero, List.nil_append, hjoin]
      exact .last (.inl rfl)
    | succ n =>
      refine .cons (by simp) hp hsep ?_
      exact ih (by simpa using hn) rfl

/-- Where a cut stopped it can go on: the scan has just passed a separator, and unless that escapes a
quote, it is as good as new. -/
theorem resume (hd : d ≠ '\\') (h : Parts d limit s t ps) (hs : s.Alike {}) :
    ∃ qs q, ps = qs ++ [q] ∧ ∀ rs, Parts d none {} q rs → Parts d none s t (qs ++ rs) := by
  induction h with
  | @last limit s t h => exact ⟨[], t, rfl, fun rs hrs => hrs.of_alike hs⟩
  | @cons limit s p u ps hl hp hsep rest ih =>
    obtain ⟨qs,q,rfl,hresume⟩ := ih (Scan.alike_next_of_separates hd hsep)
    refine ⟨p :: qs, q, rfl, fun rs hrs => ?_⟩
    exact .cons (by simp) hp hsep (hresume rs hrs)

end Parts

/-- Texts that stay apart are read back from what they make with the delimiter between them. Under a
limit the last value is what the texts beyond the limit make. -/
theorem split_join_limited {ps : List Text} (hd : Plain d) (h : Apart d ps) :
    split d 0 (Text.join [d] ps) = ps.map Text.trim ∧
      ∀ m, 1 ≤ m → split d m (Text.join [d] ps) =
        if ps.length ≤ m then ps.map Text.trim
        else (ps.map Text.trim).take (m - 1) ++ [Text.trim (Text.join [d] (ps.drop (m - 1)))] := by
  have hparts : Parts d none {} (Text.join [d] ps) ps := h.parts_join hd (.refl _)
  constructor
  · rw [split, h.pieces_join hd]
  · intro m hm
    have hlimit : limitOf m = some (m - 1) := by
      rw [limitOf, if_neg (by omega)]
    split_ifs with hlen
    · have hpieces := hparts.limit_of_length_le (n := m - 1) (by omega)
      rw [← hlimit, parts_pieces_iff] at hpieces
      rw [split, ← hpieces]
    · have hpieces := hparts.limit_of_lt_length (n := m - 1) (by omega)
      rw [← hlimit, parts_pieces_iff] at hpieces
      rw [split, ← hpieces, List.map_append, List.map_take]
      rfl

theorem split_join_limited_open_end :
    let ps := ["f(x, y)".toList, " \"a,\\\",\"".toList, "b\\".toList, "(c".toList]
    Plain ',' ∧ Apart ',' ps ∧ split ',' 3 (Text.join [','] ps) =
      ["f(x, y)".toList, "\"a,\\\",\"".toList, "b\\,(c".toList] := by
  intro ps
  have happart : Apart ',' ps := ⟨by decide, by decide, by decide⟩
  exact ⟨plain_comma, happart,
    ((split_join_limited plain_comma happart).2 3 (by decide)).trans (by decide)⟩

/-- A limited split can be resumed at its last value, although that value was trimmed and is scanned
from the start. So the values of a split are not split any further. -/
theorem split_resume (hblank : Text.isBlank d = false) (hescape : d ≠ '\\') (max : Nat) (t : Text) :
    (∃ vs v, split d max t = vs ++ [v] ∧ split d 0 t = vs ++ split d 0 v) ∧
      ∀ v ∈ split d 0 t, split d 0 v = [v] := by
  constructor
  · obtain ⟨qs,q,hpieces,hresume⟩ := (parts_pieces d max t).resume hescape (.refl _)
    have hall : qs ++ pieces d 0 q = pieces d 0 t :=
      parts_pieces_iff.mp (hresume _ (parts_pieces d 0 q))
    refine ⟨qs.map Text.trim, Text.trim q, by simp [split, hpieces], ?_⟩
    -- only here the delimiter must not be a blank: trimming would remove it
    rw [split_trim hblank, split, ← hall, List.map_append]
    rfl
  · intro v hv
    have hfree : separators d {} v = 0 := (apart_split hescape t).free v hv
    obtain ⟨p,-,rfl⟩ := List.mem_map.mp hv
    rw [split, pieces, cut_of_separators_eq_zero hfree]
    simp

theorem split_resume_at_escaped_quotes :
    Text.isBlank '"' = false ∧ '"' ≠ '\\' ∧
      ∃ vs v, split '"' 2 "a\\\" b\\\" c".toList = vs ++ [v] ∧
        split '"' 0 "a\\\" b\\\" c".toList = vs ++ split '"' 0 v ∧
        split '"' 0 "b\\".toList = ["b\\".toList] := by
  have hresume := split_resume (d := '"') (by decide) (by decide) 2 "a\\\" b\\\" c".toList
  obtain ⟨vs,v,hlimited,hall⟩ := hresume.1
  exact ⟨by decide, by decide, vs, v, hlimited, hall, hresume.2 _ (by decide)⟩

-- A blank delimiter is trimmed away with the blanks, so the values between two of them are lost.
example : split ' ' 2 "a  b".toList = ["a".toList, "b".toList] ∧
    split ' ' 0 "a  b".toList = ["a".toList, [], "b".toList] := by decide

end ESharp.Values
