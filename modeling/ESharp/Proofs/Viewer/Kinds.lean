import ESharp.Viewer.Model
import ESharp.Proofs.Listing.Numbers
import Mathlib.Data.Finset.Card
import Mathlib.Data.List.Induction

/-!
# The kinds of the lines on screen

The kinds are written into a table, entry by entry, each at the number of its line. Main statement: the
table has the kind of every line that is not blank and nothing else, and the summary counts its places.
-/

namespace ESharp.Viewer.Model

lemma getElem?_placeKind (kinds : Array (Option Directive.Kind)) (e : Entry) (i : Nat) :
    (placeKind kinds e)[i]? =
      if e.number - 1 = i ∧ i < kinds.size then some (some e.directive.kind) else kinds[i]? := by
  rw [placeKind, Array.getElem?_setIfInBounds]
  grind

lemma kindsOf_concat (count : Nat) (es : List Entry) (e : Entry) :
    kindsOf count (es ++ [e]) = placeKind (kindsOf count es) e := by
  simp [kindsOf]

@[simp] lemma size_kindsOf (count : Nat) (es : List Entry) : (kindsOf count es).size = count := by
  induction es using List.reverseRecOn with
  | nil => simp [kindsOf]
  | append_singleton es e ih => rw [kindsOf_concat, placeKind, Array.size_setIfInBounds, ih]

/-- No entry is written over when the numbers go up, so the table keeps them all. -/
theorem getElem?_kindsOf {es : List Entry} (hes : es.Pairwise (fun a b => a.number < b.number))
    (hpos : ∀ e ∈ es, 1 ≤ e.number) {count i : Nat} (hi : i < count) (k : Directive.Kind) :
    (kindsOf count es)[i]? = some (some k) ↔ ∃ e ∈ es, e.number = i + 1 ∧ e.directive.kind = k := by
  -- the entries come from the front, so the last write is the one to take off
  induction es using List.reverseRecOn with
  | nil => simp [kindsOf, hi]
  | append_singleton es e ih =>
    obtain ⟨hbefore,-,hlt⟩ := List.pairwise_append.mp hes
    have hrest := ih hbefore fun a ha => hpos a (List.mem_append_left _ ha)
    have he : 1 ≤ e.number := hpos e (by simp)
    rw [kindsOf_concat, getElem?_placeKind, size_kindsOf]
    by_cases hplace : e.number = i + 1
    · have hnone : ∀ a ∈ es, a.number ≠ i + 1 := by
        intro a ha
        have := hlt a ha e (by simp)
        omega
      rw [if_pos ⟨by omega, hi⟩]
      constructor
      · intro hk
        exact ⟨e, by simp, hplace, by simpa using hk⟩
      · rintro ⟨a,ha,hnumber,rfl⟩
        rcases List.mem_append.mp ha with ha | ha
        · exact absurd hnumber (hnone a ha)
        · rw [List.mem_singleton.mp ha]
    · rw [if_neg (by omega), hrest]
      constructor
      · rintro ⟨a,ha,h⟩
        exact ⟨a, List.mem_append_left _ ha, h⟩
      · rintro ⟨a,ha,h⟩
        rcases List.mem_append.mp ha with ha | ha
        · exact ⟨a, ha, h⟩
        · rw [List.mem_singleton.mp ha] at h
          exact absurd h.1 hplace

section Listed
variable (layout : Layout) (source : Text)

lemma kindAt?_eq_some_iff (n : Nat) (k : Directive.Kind) :
    (ofSource layout source).kindAt? n = some k ↔
      ∃ e ∈ Listing.ofLines (Text.lines source), e.number = n ∧ e.directive.kind = k := by
  have hpos : ∀ e ∈ Listing.ofLines (Text.lines source), 1 ≤ e.number :=
    fun e he => (Listing.mem_ofLines_iff.mp he).1
  cases n with
  | zero =>
    constructor
    · intro h
      simp [kindAt?] at h
    · rintro ⟨e,he,hzero,-⟩
      have := hpos e he
      omega
  | succ i =>
    have htable : (ofSource layout source).kindAt? (i + 1) = some k ↔
        (kindsOf (Text.lines source).length (Listing.ofLines (Text.lines source)))[i]? =
          some (some k) := Option.join_eq_some_iff
    rw [htable]
    by_cases hi : i < (Text.lines source).length
    · exact getElem?_kindsOf (Listing.pairwise_ofLines _) hpos hi k
    · constructor
      · intro h
        rw [Array.getElem?_eq_none (by simpa using hi)] at h
        cases h
      · rintro ⟨e,he,hnumber,-⟩
        obtain ⟨-,-,⟨l,hl,-⟩,-⟩ := Listing.mem_ofLines_iff.mp he
        have := (List.getElem?_eq_some_iff.mp hl).1
        omega

/-- The kind at a number is that of the line with this number, trimmed and read. -/
lemma kindAt?_eq_some_iff_line (n : Nat) (k : Directive.Kind) :
    (ofSource layout source).kindAt? n = some k ↔
      1 ≤ n ∧ n ≤ (Text.lines source).length ∧ ∃ l, (Text.lines source)[n - 1]? = some l ∧
        Text.trim l ≠ [] ∧ (Directive.classify (Text.trim l)).kind = k := by
  rw [kindAt?_eq_some_iff]
  constructor
  · rintro ⟨e,he,rfl,rfl⟩
    obtain ⟨hpos,hne,⟨l,hl,htrim⟩,hread⟩ := Listing.mem_ofLines_iff.mp he
    have hlt := (List.getElem?_eq_some_iff.mp hl).1
    exact ⟨hpos, by omega, l, hl, htrim ▸ hne, by rw [hread, htrim]⟩
  · rintro ⟨hpos,-,l,hl,hne,hkind⟩
    exact ⟨⟨n, Text.trim l, Directive.classify (Text.trim l)⟩,
      Listing.mem_ofLines_iff.mpr ⟨hpos, hne, ⟨l, hl, rfl⟩, rfl⟩, rfl, hkind⟩

/-- The numbers of the lines of a kind. -/
def places (k : Directive.Kind) : Finset ℕ :=
  (((ofSource layout source).entries.filter (·.directive.kind = k)).map Entry.number).toFinset

lemma mem_places (n : Nat) (k : Directive.Kind) :
    n ∈ places layout source k ↔ (ofSource layout source).kindAt? n = some k := by
  rw [kindAt?_eq_some_iff, places, List.mem_toFinset]
  simp only [List.mem_map, List.mem_filter, decide_eq_true_eq]
  constructor
  · rintro ⟨e,⟨he,hk⟩,hn⟩
    exact ⟨e, he, hn, hk⟩
  · rintro ⟨e,he,hn,hk⟩
    exact ⟨e, ⟨he, hk⟩, hn⟩

/-- No number is counted twice. -/
lemma card_places (k : Directive.Kind) :
    (places layout source k).card = (ofSource layout source).count k := by
  have hup : (((ofSource layout source).entries.filter (·.directive.kind = k)).map
      Entry.number).Pairwise (· < ·) :=
    List.pairwise_map.mpr ((Listing.pairwise_ofLines (Text.lines source)).filter _)
  rw [places, List.toFinset_card_of_nodup (hup.imp Nat.ne_of_lt), List.length_map, count,
    List.countP_eq_length_filter]

end Listed

lemma mem_summary (m : Model) (k : Directive.Kind) (c : Nat) :
    (k, c) ∈ m.summary ↔ m.count k = c := by
  have hall : k ∈ Directive.Kind.all := by cases k <;> decide
  simp [summary, hall]

/-- Each entry is counted under one kind. -/
lemma sum_count (m : Model) :
    m.count .imports + m.count .assert + m.count .print + m.count .forHeader + m.count .regular =
      m.entries.length := by
  simp only [count]
  induction m.entries with
  | nil => rfl
  | cons e es ih =>
    simp only [List.countP_cons, List.length_cons]
    cases e.directive.kind <;> simp <;> omega

lemma length_entries (layout : Layout) (source : Text) :
    (ofSource layout source).entries.length =
      (Text.lines source).countP fun l => Text.trim l ≠ [] := by
  calc (Listing.ofLines (Text.lines source)).length
      = ((Listing.numberedFrom 1 (Text.lines source)).map Prod.snd).length := by
        rw [Listing.ofLines, Listing.numbered, List.length_map, List.length_map]
    _ = (Text.lines source).countP fun l => Text.trim l ≠ [] := by
        rw [Listing.map_snd_numberedFrom, Listing.nonblank, ← List.countP_eq_length_filter,
          List.countP_map]
        rfl

/-- The kind at a number is that of the line there, and blank lines and other numbers have none. For each
of the five kinds the summary gives the number of places that have it, and together these are the
lines that are not blank. -/
theorem kinds_and_summary (layout : Layout) (source : Text) :
    let m := ofSource layout source
    m.sourceLines = Text.lines source ∧
      (∀ n k, m.kindAt? n = some k ↔
        1 ≤ n ∧ n ≤ m.sourceLines.length ∧ ∃ l, m.sourceLines[n - 1]? = some l ∧
          Text.trim l ≠ [] ∧ (Directive.classify (Text.trim l)).kind = k) ∧
      (∀ k c, (k, c) ∈ m.summary ↔
        ∃ s : Finset ℕ, (∀ n, n ∈ s ↔ m.kindAt? n = some k) ∧ s.card = c) ∧
      ∃ a b c d e, m.summary =
          [(.imports, a), (.assert, b), (.print, c), (.forHeader, d), (.regular, e)] ∧
        a + b + c + d + e = m.sourceLines.countP fun l => Text.trim l ≠ [] := by
  intro m
  refine ⟨rfl, kindAt?_eq_some_iff_line layout source, fun k c => ?_,
    _, _, _, _, _, rfl, (sum_count m).trans (length_entries layout source)⟩
  rw [mem_summary, ← card_places]
  constructor
  · intro hc
    exact ⟨places layout source k, fun n => mem_places layout source n k, hc⟩
  · rintro ⟨s,hs,hc⟩
    have hsame : places layout source k = s :=
      Finset.ext fun n => (mem_places layout source n k).trans (hs n).symm
    rw [hsame, hc]

end ESharp.Viewer.Model
