import ESharp.Format
import Mathlib.Data.Char
import Mathlib.Data.List.Induction
import Mathlib.Data.List.Lex
import Mathlib.Data.List.Perm.Basic

/-!
# Registering formats

A registry answers by name, and after any registrations its answer is the last format with that name.
The names stand in the order of their code points, so two registries that answer alike are the same. Main
statement: all that can be asked of a registry agrees with the last registration of each name.
-/

namespace ESharp.Registry

/-- The registry with the formats of a list registered one after the other. -/
def registerAll (r : Registry) (fs : List Format) : Registry := fs.foldl register r

/-- The format is in the list, has the name, and no format after it has the same. -/
def Latest (fs : List Format) (name : Text) (f : Format) : Prop :=
  ∃ before after, fs = before ++ f :: after ∧ f.name = name ∧ ∀ g ∈ after, g.name ≠ name

lemma registerAll_concat (r : Registry) (fs : List Format) (f : Format) :
    r.registerAll (fs ++ [f]) = (r.registerAll fs).register f := by
  simp [registerAll]

/-- The last of a list is the first from behind. -/
lemma latest_iff {fs : List Format} {name : Text} {f : Format} :
    Latest fs name f ↔ fs.reverse.find? (·.name = name) = some f := by
  rw [List.find?_eq_some_iff_append]
  simp only [decide_eq_true_eq, Bool.not_eq_eq_eq_not, Bool.not_true, decide_eq_false_iff_not]
  constructor
  · rintro ⟨before,after,rfl,hname,hafter⟩
    exact ⟨hname, after.reverse, before.reverse, by simp, by simpa using hafter⟩
  · rintro ⟨hname,after,before,hfs,hafter⟩
    refine ⟨before.reverse, after.reverse, ?_, hname, by simpa using hafter⟩
    rw [← List.reverse_reverse fs, hfs]
    simp

lemma exists_latest_iff {fs : List Format} {name : Text} :
    (∃ f, Latest fs name f) ↔ ∃ f ∈ fs, f.name = name := by
  simp only [latest_iff, ← Option.isSome_iff_exists, List.find?_isSome]
  simp

lemma latest_concat (fs : List Format) (g : Format) (name : Text) (f : Format) :
    Latest (fs ++ [g]) name f ↔ if g.name = name then g = f else Latest fs name f := by
  rw [latest_iff, latest_iff, List.reverse_append, List.reverse_singleton, List.singleton_append,
    List.find?_cons]
  by_cases hg : g.name = name <;> simp [hg]

lemma find?_insert (f : Format) (fs : List Format) (name : Text) :
    (insert f fs).find? (·.name = name) =
      if f.name = name then some f else fs.find? (·.name = name) := by
  induction fs with
  | nil => by_cases hf : f.name = name <;> simp [insert, hf]
  | cons g gs ih =>
    rcases lt_trichotomy f.name g.name with hlt | heq | hgt
    · rw [insert, if_pos hlt]
      by_cases hf : f.name = name <;> simp [hf]
    · rw [insert, if_neg (heq ▸ lt_irrefl _), if_pos heq]
      by_cases hf : f.name = name
      · simp [hf]
      · simp [hf, ← heq]
    · rw [insert, if_neg (lt_asymm hgt), if_neg hgt.ne']
      by_cases hg : g.name = name
      · simp [hg, hg ▸ hgt.ne']
      · simp [hg, ih]

theorem get?_register (r : Registry) (f : Format) (name : Text) :
    (r.register f).get? name = if f.name = name then some f else r.get? name :=
  find?_insert f r.formats name

lemma mem_names_iff {r : Registry} {name : Text} : name ∈ r.names ↔ ∃ f, r.get? name = some f := by
  rw [← Option.isSome_iff_exists, get?, List.find?_isSome, names]
  simp

section Order
variable {r : Registry}

lemma pairwise_names (r : Registry) : r.names.Pairwise (· < ·) := List.pairwise_map.mpr r.sorted

lemma nodup_formats (r : Registry) : r.formats.Nodup := by
  refine r.sorted.imp ?_
  rintro a b hlt rfl
  exact lt_irrefl a.name hlt

lemma exists_around {f : Format} (hf : f ∈ r.formats) :
    ∃ before after, r.formats = before ++ f :: after ∧
      (∀ g ∈ before, g.name ≠ f.name) ∧ ∀ g ∈ after, g.name ≠ f.name := by
  obtain ⟨before,after,hfs⟩ := List.append_of_mem hf
  have hsplit : (before ++ f :: after).Pairwise fun a b => a.name < b.name := hfs ▸ r.sorted
  obtain ⟨-,hafter,hbefore⟩ := List.pairwise_append.mp hsplit
  refine ⟨before, after, hfs, fun g hg => ?_, fun g hg => ?_⟩
  · exact ne_of_lt (hbefore g hg f List.mem_cons_self)
  · exact (ne_of_lt ((List.pairwise_cons.mp hafter).1 g hg)).symm

/-- A format is the answer to its name, since no other one has it. -/
lemma get?_eq_some_iff {name : Text} {f : Format} :
    r.get? name = some f ↔ f ∈ r.formats ∧ f.name = name := by
  constructor
  · intro hf
    exact ⟨List.mem_of_find?_eq_some hf, by simpa using List.find?_some hf⟩
  · rintro ⟨hmem,rfl⟩
    obtain ⟨before,after,hfs,hbefore,-⟩ := exists_around hmem
    rw [get?, List.find?_eq_some_iff_append]
    exact ⟨by simp, before, after, hfs, by simpa using hbefore⟩

lemma get?_eq_some_iff_latest {name : Text} {f : Format} :
    r.get? name = some f ↔ Latest r.formats name f := by
  rw [get?_eq_some_iff]
  constructor
  · rintro ⟨hmem,rfl⟩
    obtain ⟨before,after,hfs,-,hafter⟩ := exists_around hmem
    exact ⟨before, after, hfs, rfl, hafter⟩
  · rintro ⟨before,after,hfs,hname,-⟩
    exact ⟨by simp [hfs], hname⟩

/-- After a run of registrations the answer to a name is the last format that came with it. -/
theorem get?_registerAll (r : Registry) (fs : List Format) (name : Text) (f : Format) :
    (r.registerAll fs).get? name = some f ↔ Latest (r.formats ++ fs) name f := by
  induction fs using List.reverseRecOn with
  | nil =>
    rw [List.append_nil]
    exact get?_eq_some_iff_latest
  | append_singleton fs g ih =>
    rw [registerAll_concat, get?_register, ← List.append_assoc, latest_concat]
    split_ifs
    · exact Option.some_inj
    · exact ih

lemma mem_describe_iff {name d : Text} :
    (name, d) ∈ r.describe ↔ ∃ f, r.get? name = some f ∧ f.description = d := by
  simp only [describe, List.mem_map, Prod.mk.injEq, get?_eq_some_iff, and_assoc]

/-- Registries that give the same answers are the same. -/
theorem eq_of_get?_eq {s : Registry} (h : ∀ name, r.get? name = s.get? name) : r = s := by
  have hmem : ∀ f, f ∈ r.formats ↔ f ∈ s.formats := by
    intro f
    have hname := h f.name
    rw [Option.ext_iff] at hname
    simpa [get?_eq_some_iff] using hname f
  have hperm := (List.perm_ext_iff_of_nodup r.nodup_formats s.nodup_formats).mpr hmem
  have hformats : r.formats = s.formats :=
    hperm.eq_of_pairwise (fun a b _ _ hab hba => absurd hba (lt_asymm hab)) r.sorted s.sorted
  obtain ⟨fs,hfs⟩ := r
  obtain ⟨gs,hgs⟩ := s
  obtain rfl : fs = gs := hformats
  rfl

/-- Which of two formats comes first does not matter if their names differ. -/
theorem register_comm (r : Registry) {f g : Format} (hne : f.name ≠ g.name) :
    (r.register f).register g = (r.register g).register f := by
  refine eq_of_get?_eq fun name => ?_
  simp only [get?_register]
  split_ifs with hg hf
  · exact absurd (hf.trans hg.symm) hne
  · rfl
  · rfl
  · rfl

end Order

/-- What a registry may give for a listing: an error if the name is not listed, and otherwise what the
format with the name gives, be it a text or an error. -/
structure Answers (r : Registry) (layout : Layout) (name : Text) (entries : List Entry)
    (out : Except FormatError Text) : Prop where
  unlisted : name ∉ r.names → out = .error (.unknown name)
  listed : name ∈ r.names → ∃ f, r.get? name = some f ∧ out = f.write layout entries
  /-- A format is free to give this very error itself. -/
  unknown_iff : out = .error (.unknown name) ↔ name ∉ r.names ∨
    ∃ f, r.get? name = some f ∧ f.write layout entries = .error (.unknown name)

lemma answers_write (r : Registry) (layout : Layout) (name : Text) (entries : List Entry) :
    Answers r layout name entries (r.write layout name entries) := by
  unfold write
  cases hget : r.get? name with
  | none =>
    have hname : name ∉ r.names := by simp [mem_names_iff, hget]
    exact ⟨fun _ => rfl, fun h => absurd h hname, by simp [hname]⟩
  | some f =>
    have hname : name ∈ r.names := mem_names_iff.mpr ⟨f, hget⟩
    exact ⟨fun h => absurd hname h, fun _ => ⟨f, hget, rfl⟩, by simp [hname, hget]⟩

/-- After any registrations on any registry, be it empty, the standard one or another: the answer to a
name is the last format registered with it, the names are listed in the order of their code points and
each once, the descriptions are those of the answers, a listing is written by the format with the name,
and of two registrations with different names either may come first. -/
theorem last_registration_wins (r₀ : Registry) (fs : List Format) :
    let r := r₀.registerAll fs
    let all := r₀.formats ++ fs
    (∀ name f, r.get? name = some f ↔ Latest all name f) ∧
      r.names.Pairwise (· < ·) ∧
      (∀ name, name ∈ r.names ↔ ∃ f ∈ all, f.name = name) ∧
      r.describe.map Prod.fst = r.names ∧
      (∀ name d, (name, d) ∈ r.describe ↔ ∃ f, r.get? name = some f ∧ f.description = d) ∧
      (∀ name, r.has name = true ↔ name ∈ r.names) ∧
      (∀ layout name, (∀ entries, Answers r layout name entries (r.write layout name entries)) ∧
        ∀ source, Answers r layout name (Listing.ofSource source) (r.process layout name source)) ∧
      ∀ f g, f.name ≠ g.name → (r.register f).register g = (r.register g).register f := by
  intro r all
  have hget : ∀ name f, r.get? name = some f ↔ Latest all name f := r₀.get?_registerAll fs
  refine ⟨hget, r.pairwise_names, ?_, ?_, fun _ _ => mem_describe_iff, ?_, ?_, ?_⟩
  · intro name
    simp only [mem_names_iff, hget, exists_latest_iff]
  · simp [describe, names]
  · intro name
    rw [has, mem_names_iff, Option.isSome_iff_exists]
  · intro layout name
    exact ⟨answers_write r layout name, fun source => answers_write r layout name _⟩
  · intro f g hne
    exact r.register_comm hne

theorem last_registration_wins_over_standard :
    let f : Format := ⟨"csharp".toList, [], fun _ _ => .error (.failed "no".toList)⟩
    let g : Format := ⟨"a".toList, "count".toList, fun _ es => .ok (Text.ofNat es.length)⟩
    let r := standard.registerAll [g, f, g]
    r.get? "csharp".toList = some f ∧ ("csharp".toList, []) ∈ r.describe ∧
      r.names = ["a".toList, "csharp".toList, "directives-json".toList, "directives-yaml".toList] ∧
      r.process {} "csharp".toList "x".toList = .error (.failed "no".toList) ∧
      r.process {} "b".toList "x".toList = .error (.unknown "b".toList) := by
  intro f g r
  obtain ⟨hget,-,-,-,hdescribe,-,hanswers,-⟩ := last_registration_wins standard [g, f, g]
  have hf : r.get? "csharp".toList = some f :=
    (hget _ _).mpr ⟨standard.formats ++ [g], [g], by simp, rfl, by simp [g]⟩
  refine ⟨hf, (hdescribe _ _).mpr ⟨f, hf, rfl⟩, by decide, ?_, ?_⟩
  · obtain ⟨f',hf',hout⟩ := ((hanswers {} "csharp".toList).2 "x".toList).listed (by decide)
    obtain rfl : f = f' := Option.some.inj (hf.symm.trans hf')
    exact hout
  · exact ((hanswers {} "b".toList).2 "x".toList).unlisted (by decide)

end ESharp.Registry
