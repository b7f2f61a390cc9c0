import ESharp.Proofs.Directive.Reading

/-!
# Loop headers

A loop header is an item, the word `in` and a collection, with a space that separates on either side
of the word. Nothing is asked of the collection: it is the rest of the line.
-/

namespace ESharp.Directive

/-- What a loop header can be made of: both parts are trimmed and not empty, and no space of the item
is outside its literals and brackets, all of which it closes. -/
structure IsHeader (item collection : Text) : Prop where
  item_ne_nil : item ≠ []
  item_trimmed : Text.Trimmed item
  item_free : Values.separators ' ' {} item = 0
  item_top : (Values.Scan.run {} item).atTop
  collection_ne_nil : collection ≠ []
  collection_trimmed : Text.Trimmed collection

theorem loopHeader?_eq_some_iff {a item collection : Text} :
    loopHeader? a = some (item, collection) ↔ ∃ p q r, Values.pieces ' ' 3 a = [p, q, r] ∧
      Text.trim p = item ∧ Text.trim q = "in".toList ∧ Text.trim r = collection := by
  unfold loopHeader? Values.split
  constructor
  · intro h
    split at h
    · rename_i x w y hs
      obtain ⟨p,ps,hp,rfl,hps⟩ := List.map_eq_cons_iff.mp hs
      obtain ⟨q,qs,rfl,rfl,hqs⟩ := List.map_eq_cons_iff.mp hps
      obtain ⟨r,rs,rfl,rfl,hrs⟩ := List.map_eq_cons_iff.mp hqs
      obtain rfl := List.map_eq_nil_iff.mp hrs
      split at h
      · rename_i hw
        obtain ⟨rfl,rfl⟩ := Prod.mk.inj (Option.some.inj h)
        exact ⟨p, q, r, hp, rfl, hw, rfl⟩
      · simp at h
    · simp at h
  · rintro ⟨p,q,r,hp,rfl,hq,rfl⟩
    simp only [hp, List.map_cons, List.map_nil, hq, if_true]

/-- The three parts of a text with two spaces that separate. -/
lemma pieces_space_iff {a p q r : Text} : Values.pieces ' ' 3 a = [p, q, r] ↔
    a = p ++ ' ' :: (q ++ ' ' :: r) ∧ Values.separators ' ' {} p = 0 ∧ (Values.Scan.run {} p).atTop ∧
      Values.separators ' ' {} q = 0 ∧ (Values.Scan.run {} q).atTop := by
  have hsep : ∀ s : Values.Scan, s.separates ' ' ' ' = s.atTop :=
    fun s => s.separates_of_plain Values.plain_space
  have hstart : Values.Scan.Alike { last := some ' ' } {} := Values.Scan.alike_start (by decide)
  rw [eq_comm, ← Values.parts_pieces_iff]
  constructor
  · intro h
    obtain ⟨u,rfl,hp,hps,hu⟩ := h.exists_rest
    rw [Values.Scan.next_of_separates hps] at hu
    obtain ⟨v,rfl,hq,hqs,hv⟩ := hu.exists_rest
    obtain rfl := hv.eq_of_singleton
    rw [hsep] at hps hqs
    rw [hstart.separators] at hq
    rw [(hstart.run q).atTop] at hqs
    exact ⟨rfl, hp, hps, hq, hqs⟩
  · rintro ⟨rfl,hp,hptop,hq,hqtop⟩
    have hps : (Values.Scan.run {} p).separates ' ' ' ' := (hsep _).trans hptop
    refine .cons (by decide) hp hps ?_
    rw [Values.Scan.next_of_separates hps]
    have hqs : (Values.Scan.run { last := some ' ' } q).separates ' ' ' ' := by
      rw [hsep, (hstart.run q).atTop]
      exact hqtop
    exact .cons (by decide) ((hstart.separators ' ' q).trans hq) hqs (.last (.inl rfl))

/-- What is found in a trimmed text is a loop header. -/
theorem isHeader_of_loopHeader? {a item collection : Text} (ha : Text.Trimmed a)
    (h : loopHeader? a = some (item, collection)) : IsHeader item collection := by
  obtain ⟨p,q,r,hpieces,rfl,hq,rfl⟩ := loopHeader?_eq_some_iff.mp h
  obtain ⟨rfl,hp,htop,-,-⟩ := pieces_space_iff.mp hpieces
  have hspace : Text.isBlank ' ' := by decide
  refine ⟨fun hnil => ?_, Text.trimmed_trim p, Values.separators_trim hp,
    (Values.atTop_run_trim p).trans htop, fun hnil => ?_, Text.trimmed_trim r⟩
  · have hb : Text.Blank (p ++ [' ']) := by
      simpa [Text.Blank, or_imp, forall_and] using ⟨Text.trim_eq_nil_iff.mp hnil, hspace⟩
    rw [← List.singleton_append, ← List.append_assoc] at ha
    exact absurd (ha.eq_nil_of_blanks_append hb) (by simp)
  · have hb : Text.Blank (' ' :: r) :=
      (Text.blank_cons _ _).mpr ⟨hspace, Text.trim_eq_nil_iff.mp hnil⟩
    rw [← List.cons_append, ← List.append_assoc] at ha
    exact absurd (ha.eq_nil_of_append_blanks hb) (by simp)

namespace IsHeader
variable {item collection : Text}

lemma trimmed (h : IsHeader item collection) : Text.Trimmed (item ++ " in ".toList ++ collection) :=
  h.item_trimmed.append_append h.collection_trimmed h.item_ne_nil h.collection_ne_nil _

/-- A loop header is found again in what it is written as. -/
theorem loopHeader?_eq (h : IsHeader item collection) :
    loopHeader? (item ++ " in ".toList ++ collection) = some (item, collection) := by
  refine loopHeader?_eq_some_iff.mpr ⟨item, "in".toList, collection, pieces_space_iff.mpr ?_,
    h.item_trimmed.trim_eq, by decide, h.collection_trimmed.trim_eq⟩
  exact ⟨by simp, h.item_free, h.item_top, by decide, by decide⟩

end IsHeader

/-- A character that is no space, at the end, makes no loop header of a text that is none: at most
the last of the parts gets longer, and the word `in` is not the last. -/
theorem loopHeader?_concat_eq_none {a : Text} {c : Char} (hc : c ≠ ' ')
    (h : loopHeader? a = none) : loopHeader? (a ++ [c]) = none := by
  rw [Option.eq_none_iff_forall_not_mem] at h ⊢
  rintro ⟨item,collection⟩ hsome
  obtain ⟨p,q,r,hpieces,-,hq,-⟩ := loopHeader?_eq_some_iff.mp hsome
  obtain ⟨qs,e,hqs,hparts⟩ :=
    (Values.parts_pieces ' ' 3 a).append (b := [c]) (by simpa using hc.symm)
  rw [Values.parts_pieces_iff, hpieces] at hparts
  obtain rfl : qs = [p, q] := by
    have := congrArg List.dropLast hparts
    simpa using this
  exact h _ (loopHeader?_eq_some_iff.mpr ⟨p, q, e, hqs, rfl, hq, rfl⟩)

end ESharp.Directive
