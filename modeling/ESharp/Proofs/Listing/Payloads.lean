import ESharp.Proofs.Directive.LoopHeader
import ESharp.Proofs.Listing.Numbers

/-!
# What the entries of a listing hold

A line is trimmed before it is read, so a keyword with a space after it has an argument, and the
argument is trimmed again before it is taken apart. Main statement: no entry of a listing holds an
empty or a padded text, but for the values of a list of several. So nothing is printed or asserted
without saying what.
-/

namespace ESharp

/-- The text is neither empty nor padded. -/
structure Text.Solid (t : Text) : Prop where
  ne_nil : t ≠ []
  trimmed : Trimmed t

/-- There is a value, and none is padded. Only among several values one may be empty. -/
structure Values.Listed (vs : List Text) : Prop where
  ne_nil : vs ≠ []
  trimmed : ∀ v ∈ vs, Text.Trimmed v
  single : ∀ v, vs = [v] → v ≠ []

/-- What a trimmed line can say. -/
def Directive.WellFormed (source : Text) : Directive → Prop
  | imports names => Values.Listed names
  | assert condition => Text.Solid condition
  | print values => Values.Listed values
  | forHeader item collection => Text.Solid item ∧ Text.Solid collection
  | regular code => code = source

/-- What stands after a space of a trimmed text is not blank. -/
lemma Text.Trimmed.solid_trim_of_space (start : Text) {rest : Text}
    (h : Trimmed (start ++ ' ' :: rest)) : Solid (trim rest) where
  ne_nil := by
    intro hnil
    have hblank : Blank (' ' :: rest) :=
      (blank_cons _ _).mpr ⟨by decide, trim_eq_nil_iff.mp hnil⟩
    exact absurd (h.eq_nil_of_append_blanks hblank) (by simp)
  trimmed := trimmed_trim rest

lemma Values.listed_commaSplit {a : Text} (ha : Text.Solid a) : Listed (commaSplit a) where
  ne_nil := List.length_pos_iff.mp (length_split_pos ',' 0 a)
  trimmed := by
    intro v hv
    obtain ⟨p,-,rfl⟩ := List.mem_map.mp hv
    exact Text.trimmed_trim p
  single := by
    intro v hv
    obtain ⟨p,hp,rfl⟩ := List.map_eq_singleton_iff.mp hv
    -- a single piece is the whole text
    have hparts := parts_pieces ',' 0 a
    rw [hp] at hparts
    obtain rfl := hparts.eq_of_singleton
    rw [ha.trimmed.trim_eq]
    exact ha.ne_nil

lemma Directive.IsHeader.solid {item collection : Text} (h : IsHeader item collection) :
    Text.Solid item ∧ Text.Solid collection :=
  ⟨⟨h.item_ne_nil, h.item_trimmed⟩, ⟨h.collection_ne_nil, h.collection_trimmed⟩⟩

theorem Directive.Says.wellFormed {line : Text} {d : Directive} (h : Says line d)
    (ht : Text.Trimmed line) : WellFormed line d := by
  cases h with
  | imports split =>
    subst split
    exact Values.listed_commaSplit (ht.solid_trim_of_space "import".toList)
  | assert trim =>
    subst trim
    exact ht.solid_trim_of_space "assert".toList
  | print split =>
    subst split
    exact Values.listed_commaSplit (ht.solid_trim_of_space "print".toList)
  | @forHeader rest item collection header =>
    exact (isHeader_of_loopHeader? (Text.trimmed_trim rest) header).solid
  | regular => rfl

namespace Statement

/-- A statement that prints nothing comes of no list of values. -/
lemma print_ne_of_listed {vs : List Text} (h : Values.Listed vs) :
    print vs ≠ "System.Console.WriteLine();".toList := by
  intro heq
  have hprinted : printed vs = [] := by
    have hsame : "System.Console.WriteLine(".toList ++ printed vs ++ ");".toList =
        "System.Console.WriteLine(".toList ++ [] ++ ");".toList := heq
    exact List.append_cancel_left (List.append_cancel_right hsame)
  match vs, h with
  | [], h => exact h.ne_nil rfl
  | [v], h => exact h.single v rfl hprinted
  | v :: w :: ws, _ =>
    rw [printed, List.map_cons, Text.join_cons _ _ (by simp)] at hprinted
    · simp [parenthesize] at hprinted
    · simp

/-- A call of the helper on nothing comes of no condition. -/
lemma assert_ne_of_solid {condition : Text} (h : Text.Solid condition) (helper : Text) :
    assert helper condition ≠ helper ++ "(, \"\");".toList := by
  intro heq
  -- both texts of the condition are longer than nothing
  have hlength := congrArg List.length heq
  have hpos := List.length_pos_iff.mpr h.ne_nil
  simp [assert, quote] at hlength
  omega

end Statement

/-- Every entry of a listing has a source that is neither empty nor padded and says something well
formed of it. So none prints nothing, and none asserts nothing. -/
theorem Listing.payloads_wellFormed (ls : List Text) (e : Entry) (he : e ∈ ofLines ls) :
    Text.Solid e.source ∧ e.directive.WellFormed e.source ∧
      (e.directive.kind = .print → ∀ helper, Statement.ofDirective? helper e.directive ≠
        some "System.Console.WriteLine();".toList) ∧
      (e.directive.kind = .assert → ∀ helper, Statement.ofDirective? helper e.directive ≠
        some (helper ++ "(, \"\");".toList)) := by
  obtain ⟨-,hne,⟨l,-,hl⟩,hd⟩ := mem_ofLines_iff.mp he
  have htrimmed : Text.Trimmed e.source := hl ▸ Text.trimmed_trim l
  have hpayload : e.directive.WellFormed e.source := by
    rw [hd]
    exact (Directive.says_classify e.source).wellFormed htrimmed
  refine ⟨⟨hne, htrimmed⟩, hpayload, ?_, ?_⟩
  · intro hkind helper hst
    cases hdir : e.directive with
    | print values =>
      rw [hdir] at hpayload hst
      exact Statement.print_ne_of_listed hpayload (Option.some.inj hst)
    | _ => simp [hdir, Directive.kind] at hkind
  · intro hkind helper hst
    cases hdir : e.directive with
    | assert condition =>
      rw [hdir] at hpayload hst
      exact Statement.assert_ne_of_solid hpayload helper (Option.some.inj hst)
    | _ => simp [hdir, Directive.kind] at hkind

theorem Listing.payloads_wellFormed_spaced :
    let e : Entry := ⟨2, "print  , x".toList, .print [[], "x".toList]⟩
    e ∈ ofLines [" ".toList, "\tprint  , x ".toList] ∧ Text.Solid e.source ∧
      Values.Listed [[], "x".toList] := by
  intro e
  have he : e ∈ ofLines [" ".toList, "\tprint  , x ".toList] := by decide
  obtain ⟨hsource,hpayload,-⟩ := payloads_wellFormed _ e he
  exact ⟨he, hsource, hpayload⟩

-- Without the trimming before it, the reading of a line does find empty payloads.
example : Directive.classify "print ".toList = .print [[]] ∧
    Directive.classify "assert ".toList = .assert [] := by decide

end ESharp
