import ESharp.Proofs.Directive.LoopHeader
import ESharp.Proofs.Values.Places

/-!
# The spaces of a loop header

Main statement: a line is a loop header exactly when the first two spaces outside literals and brackets
have the word `in` between them. The spaces are found by counting quotes and brackets, so nothing is
said about a scan or about what stands behind the second space.
-/

namespace ESharp

namespace Values
variable {d : Char}

lemma pairwise_separatorPlaces (d : Char) (t : Text) : (separatorPlaces d t).Pairwise (· < ·) :=
  List.pairwise_lt_range.filter _

lemma lt_length_of_mem_separatorPlaces {t : Text} {i : Nat} (h : i ∈ separatorPlaces d t) :
    i < t.length :=
  List.mem_range.mp (List.mem_filter.mp h).1

lemma pieces_three (d : Char) (t : Text) :
    pieces d 3 t = slices t 0 ((separatorPlaces d t).take 2) := by
  have htake : (separatorPlaces d t).take (cutsAllowed 3 (separatorPlaces d t).length) =
      (separatorPlaces d t).take 2 := by
    simp [cutsAllowed, List.take_eq_take_iff]
  rw [pieces_eq_slices, htake]

/-- Two places of separators leave three pieces, and the places are known from their lengths. -/
lemma exists_pieces_of_places {t : Text} {i j : Nat} (h : (separatorPlaces d t).take 2 = [i, j]) :
    ∃ a b c, pieces d 3 t = [a, b, c] ∧ t = a ++ d :: (b ++ d :: c) ∧ a.length = i ∧
      a.length + 1 + b.length = j := by
  have hlt : i < j := by
    have hp := (pairwise_separatorPlaces d t).sublist (List.take_sublist 2 _)
    rw [h] at hp
    simpa using hp
  have hj : j < t.length := by
    apply lt_length_of_mem_separatorPlaces
    apply List.mem_of_mem_take
    rw [h]
    simp
  have hpieces : pieces d 3 t =
      [t.take i, (t.drop (i + 1)).take (j - (i + 1)), t.drop (j + 1)] := by
    rw [pieces_three, h]
    rfl
  have hjoin := (parts_pieces d 3 t).join
  rw [hpieces] at hjoin
  refine ⟨_, _, _, hpieces, by simpa [Text.join] using hjoin.symm, ?_, ?_⟩
  · rw [List.length_take]
    omega
  · rw [List.length_take, List.length_take, List.length_drop]
    omega

/-- The first two separators of `t` stand between `a`, `b` and `c`. -/
structure FirstTwo (d : Char) (t a b c : Text) : Prop where
  text : t = a ++ d :: (b ++ d :: c)
  places : (separatorPlaces d t).take 2 = [a.length, a.length + 1 + b.length]

/-- A split into three that finds three values cuts at the first two separators. -/
theorem pieces_three_iff {t a b c : Text} : pieces d 3 t = [a, b, c] ↔ FirstTwo d t a b c := by
  constructor
  · intro h
    obtain ⟨i,j,hplaces⟩ : ∃ i j, (separatorPlaces d t).take 2 = [i, j] := by
      apply List.length_eq_two.mp
      have hlen := congrArg List.length h
      rw [pieces_three, length_slices] at hlen
      simpa using hlen
    obtain ⟨x,y,z,hpieces,htext,rfl,rfl⟩ := exists_pieces_of_places hplaces
    rw [h] at hpieces
    cases hpieces
    exact ⟨htext, hplaces⟩
  · rintro ⟨htext,hplaces⟩
    obtain ⟨x,y,z,hpieces,hjoin,hx,hy⟩ := exists_pieces_of_places hplaces
    obtain ⟨rfl,hrest⟩ := List.append_inj (hjoin.symm.trans htext) hx
    obtain ⟨rfl,hlast⟩ := List.append_inj (List.cons.inj hrest).2 (by omega)
    rw [hpieces, (List.cons.inj hlast).2]

end Values

namespace Directive

/-- A loop header is read from what it is written as. -/
lemma IsHeader.says_forHeader {item collection : Text} (h : IsHeader item collection) :
    Says ("for ".toList ++ (item ++ " in ".toList ++ collection)) (.forHeader item collection) :=
  .forHeader (by rw [h.trimmed.trim_eq, h.loopHeader?_eq])

/-- A line is read as a loop header exactly when its argument has the word `in` between its first two
spaces that separate. Item and collection are then what stands around them, and neither is empty. On
the other hand every item without such spaces makes a loop header with every collection. -/
theorem classify_eq_forHeader_iff_first_spaces (line item collection : Text) :
    (classify line = .forHeader item collection ↔
        ∃ rest a b c, line = "for ".toList ++ rest ∧
          Values.FirstTwo ' ' (Text.trim rest) a b c ∧ Text.trim b = "in".toList ∧
          item = Text.trim a ∧ collection = Text.trim c) ∧
      (classify line = .forHeader item collection → item ≠ [] ∧ collection ≠ []) ∧
      (IsHeader item collection →
        classify ("for ".toList ++ (item ++ " in ".toList ++ collection)) =
          .forHeader item collection) := by
  have hsays : classify line = .forHeader item collection →
      ∃ rest, line = "for ".toList ++ rest ∧
        loopHeader? (Text.trim rest) = some (item, collection) := by
    intro h
    have hline := says_classify line
    rw [h] at hline
    cases hline with
    | @forHeader rest _ _ header => exact ⟨rest, rfl, header⟩
  refine ⟨⟨fun h => ?_, ?_⟩, fun h => ?_, fun h => h.says_forHeader.classify_eq⟩
  · obtain ⟨rest,hline,header⟩ := hsays h
    obtain ⟨a,b,c,hpieces,ha,hb,hc⟩ := loopHeader?_eq_some_iff.mp header
    exact ⟨rest, a, b, c, hline, Values.pieces_three_iff.mp hpieces, hb, ha.symm, hc.symm⟩
  · rintro ⟨rest,a,b,c,rfl,hspaces,hb,rfl,rfl⟩
    apply Says.classify_eq
    apply Says.forHeader
    exact loopHeader?_eq_some_iff.mpr
      ⟨a, b, c, Values.pieces_three_iff.mpr hspaces, rfl, hb, rfl⟩
  · obtain ⟨rest,-,header⟩ := hsays h
    have hh : IsHeader item collection := isHeader_of_loopHeader? (Text.trimmed_trim rest) header
    exact ⟨hh.item_ne_nil, hh.collection_ne_nil⟩

example : classify "for (a, b) \tin\t \"x ]".toList = forHeader "(a, b)".toList "\"x ]".toList := by
  decide

end Directive
end ESharp
