import ESharp.Listing
import Mathlib.Data.List.Basic
import Mathlib.Data.Prod.Basic

/-!
# The places in a listing

An entry stands for the line at its number, trimmed and read, and every nonblank line has one. The
numbers go up, so the entries are in the order of the script.
-/

namespace ESharp.Listing

/-- The nonblank lines, trimmed, in their order. -/
def nonblank (ls : List Text) : List Text := (ls.map Text.trim).filter (· ≠ [])

lemma nonblank_append (ls ks : List Text) : nonblank (ls ++ ks) = nonblank ls ++ nonblank ks := by
  simp [nonblank]

lemma nonblank_cons (l : Text) (ls : List Text) : nonblank (l :: ls) = nonblank [l] ++ nonblank ls :=
  nonblank_append [l] ls

/-- All lines are numbered, and the blank ones are left out afterwards. -/
lemma numberedFrom_eq (n : Nat) (ls : List Text) :
    numberedFrom n ls =
      (((ls.map Text.trim).zipIdx n).filter (·.1 ≠ [])).map Prod.swap := by
  induction ls generalizing n with
  | nil => rfl
  | cons l ls ih =>
    unfold numberedFrom
    split
    · rename_i hl
      rw [ih]
      simp [hl]
    · rename_i c t hl
      rw [ih]
      simp [hl]

theorem map_snd_numberedFrom (n : Nat) (ls : List Text) :
    (numberedFrom n ls).map Prod.snd = nonblank ls := by
  calc (numberedFrom n ls).map Prod.snd
      = (((ls.map Text.trim).zipIdx n).filter ((· ≠ []) ∘ Prod.fst)).map Prod.fst := by
        rw [numberedFrom_eq, List.map_map]
        rfl
    _ = (((ls.map Text.trim).zipIdx n).map Prod.fst).filter (· ≠ []) := by rw [List.filter_map]
    _ = nonblank ls := by rw [List.zipIdx_map_fst, nonblank]

/-- A line is numbered by its place, and a number comes with the line at that place. -/
theorem mem_numberedFrom_iff {n k : Nat} {t : Text} {ls : List Text} :
    (n, t) ∈ numberedFrom k ls ↔
      k ≤ n ∧ t ≠ [] ∧ ∃ l, ls[n - k]? = some l ∧ Text.trim l = t := by
  have hswap : (n, t) ∈ numberedFrom k ls ↔ (t, n) ∈ (ls.map Text.trim).zipIdx k ∧ t ≠ [] := by
    rw [numberedFrom_eq, ← Prod.swap_prod_mk, List.mem_map_of_injective Prod.swap_injective]
    simp
  rw [hswap, List.mk_mem_zipIdx_iff_le_and_getElem?_sub, List.getElem?_map,
    Option.map_eq_some_iff]
  tauto

theorem pairwise_numberedFrom (n : Nat) (ls : List Text) :
    (numberedFrom n ls).Pairwise (fun a b => a.1 < b.1) := by
  have hplaces : (((ls.map Text.trim).zipIdx n).map Prod.snd).Pairwise (· < ·) := by
    rw [List.zipIdx_map_snd]
    exact List.pairwise_lt_range'
  rw [numberedFrom_eq, List.pairwise_map]
  exact (List.pairwise_map.mp hplaces).filter _

/-- The entries of a listing are the lines at their places. -/
theorem mem_ofLines_iff {e : Entry} {ls : List Text} :
    e ∈ ofLines ls ↔ 1 ≤ e.number ∧ e.source ≠ [] ∧
      (∃ l, ls[e.number - 1]? = some l ∧ Text.trim l = e.source) ∧
      e.directive = Directive.classify e.source := by
  rw [ofLines, List.mem_map]
  constructor
  · rintro ⟨⟨n,t⟩,hmem,rfl⟩
    obtain ⟨hn,hne,hl⟩ := mem_numberedFrom_iff.mp hmem
    exact ⟨hn, hne, hl, rfl⟩
  · rintro ⟨hn,hne,hl,hd⟩
    refine ⟨(e.number, e.source), mem_numberedFrom_iff.mpr ⟨hn, hne, hl⟩, ?_⟩
    rw [entry, ← hd]

theorem pairwise_ofLines (ls : List Text) :
    (ofLines ls).Pairwise (fun a b => a.number < b.number) :=
  List.pairwise_map.mpr (pairwise_numberedFrom 1 ls)

end ESharp.Listing
