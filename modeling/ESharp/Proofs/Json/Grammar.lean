import ESharp.Listing.Json
import Mathlib.Tactic.Common

/-!
# The grammar of JSON

Which texts are documents, and of what value, said without a writer. White space may stand around every
value and every name, and a character of a text may be written as it is or by any of its escapes. Main
statement: a text is a document of one value at most.
-/

namespace ESharp.Json

/-- White space between the tokens of a document. -/
def isSpace (c : Char) : Bool := c == ' ' || c == '\t' || c == '\n' || c == '\r'

lemma isSpace_iff {c : Char} : isSpace c ↔ c = ' ' ∨ c = '\t' ∨ c = '\n' ∨ c = '\r' := by
  simp [isSpace, or_assoc]

/-- Decimal digits, with no zero in front of others. -/
structure Numeral (ds : Text) : Prop where
  ne_nil : ds ≠ []
  digits : ∀ c ∈ ds, c.isDigit
  no_zero : ds.head? = some '0' → ds = ['0']

lemma Numeral.append_ne {ds : Text} (h : Numeral ds) {c : Char} (hc : c.isDigit = false) {r t : Text} :
    ds ++ r ≠ c :: t := by
  obtain ⟨d,ds,rfl⟩ := List.exists_cons_of_ne_nil h.ne_nil
  intro heq
  have hd := h.digits d List.mem_cons_self
  simp [(List.cons.inj heq).1, hc] at hd

section Characters

/-- The letters that may follow a backslash, and what they stand for then. -/
def escapes : List (Char × Char) :=
  [('"', '"'), ('\\', '\\'), ('/', '/'), ('b', '\x08'), ('f', '\x0c'), ('n', '\n'), ('r', '\r'),
    ('t', '\t')]

/-- The number of a hexadecimal digit in upper or lower case. -/
def hexValue? (c : Char) : Option Nat := "0123456789abcdef".toList.idxOf? c.toLower

/-- The number that four hexadecimal digits write. -/
def codeUnit? : Text → Option Nat
  | [a, b, c, d] => do
    let a ← hexValue? a
    let b ← hexValue? b
    let c ← hexValue? c
    let d ← hexValue? d
    some (((a * 16 + b) * 16 + c) * 16 + d)
  | _ => none

/-- What may follow a backslash, and the character that is meant. One that does not fit into four
hexadecimal digits is written by two code units of UTF-16. -/
inductive Escape : Text → Char → Prop
  | letter {l c : Char} (h : escapes.lookup l = some c) : Escape [l] c
  | unit {ds : Text} {c : Char} (h : codeUnit? ds = some c.toNat) : Escape ('u' :: ds) c
  | pair {ds es : Text} {c : Char} {high low : Nat}
      (hds : codeUnit? ds = some (0xD800 + high)) (hhigh : high < 0x400)
      (hes : codeUnit? es = some (0xDC00 + low)) (hlow : low < 0x400)
      (hc : c.toNat = 0x10000 + 0x400 * high + low) : Escape ('u' :: ds ++ '\\' :: 'u' :: es) c

/-- The ways to write a character between quotes. -/
inductive Spelling : Text → Char → Prop
  | plain {c : Char} (hc : 32 ≤ c.toNat) (hq : c ≠ '"') (hb : c ≠ '\\') : Spelling [c] c
  | escaped {s : Text} {c : Char} (h : Escape s c) : Spelling ('\\' :: s) c

/-- What stands between the quotes of a text. -/
inductive Inside : Text → Text → Prop
  | nil : Inside [] []
  | cons {s u t : Text} {c : Char} (hs : Spelling s c) (hu : Inside u t) : Inside (s ++ u) (c :: t)

end Characters

/-- What stands in arrays and what stands in objects: values, and values with names. -/
inductive Item
  | element
  | member

abbrev Item.Meaning : Item → Type
  | element => Json
  | member => Text × Json

/-- The parts of a document. An item has the white space around it. -/
inductive Part
  | value
  | item (i : Item)
  | items (i : Item)

/-- What the texts of a part stand for. -/
abbrev Part.Meaning : Part → Type
  | value => Json
  | item i => i.Meaning
  | items i => List i.Meaning

/-- The texts of each part, with what they stand for. -/
inductive Written : (p : Part) → p.Meaning → Text → Prop
  | number {ds : Text} (h : Numeral ds) : Written .value (Json.number (Nat.ofDigitChars 10 ds 0)) ds
  | text {s t : Text} (h : Inside s t) : Written .value (Json.text t) ('"' :: s ++ ['"'])
  | array {vs : List Json} {s : Text} (h : Written (.items .element) vs s) :
      Written .value (Json.array vs) ('[' :: s ++ [']'])
  | object {fs : List (Text × Json)} {s : Text} (h : Written (.items .member) fs s) :
      Written .value (Json.object fs) ('{' :: s ++ ['}'])
  | element {v : Json} {a s b : Text} (ha : ∀ c ∈ a, isSpace c) (h : Written .value v s)
      (hb : ∀ c ∈ b, isSpace c) : Written (.item .element) v (a ++ s ++ b)
  | member {k : Text} {v : Json} {a s b t : Text} (ha : ∀ c ∈ a, isSpace c) (hs : Inside s k)
      (hb : ∀ c ∈ b, isSpace c) (ht : Written (.item .element) v t) :
      Written (.item .member) (k, v) (a ++ '"' :: s ++ '"' :: b ++ ':' :: t)
  | none {i : Item} {s : Text} (h : ∀ c ∈ s, isSpace c) : Written (.items i) [] s
  | one {i : Item} {x : i.Meaning} {s : Text} (h : Written (.item i) x s) : Written (.items i) [x] s
  | more {i : Item} {x y : i.Meaning} {xs : List i.Meaning} {s t : Text} (hs : Written (.item i) x s)
      (ht : Written (.items i) (y :: xs) t) : Written (.items i) (x :: y :: xs) (s ++ ',' :: t)

/-- The text is a document of the value. -/
def Denotes (s : Text) (v : Json) : Prop := Written .value v s

/-- What may follow a part that is complete. -/
def Part.follow : Part → Char → Bool
  | value => fun c => !c.isDigit
  | item _ => fun c => c == ',' || c == ']' || c == '}'
  | items _ => fun c => c == ']' || c == '}'

/-- Where two texts start with as many characters of a kind as they can, these are the same. -/
lemma append_inj_of_head? {P : Char → Bool} {a b s t : Text} (ha : ∀ c ∈ a, P c) (hb : ∀ c ∈ b, P c)
    (hs : s.head?.all (!P ·)) (ht : t.head?.all (!P ·)) (h : a ++ s = b ++ t) : a = b ∧ s = t := by
  induction a generalizing b with
  | nil =>
    cases b with
    | nil => exact ⟨rfl, h⟩
    | cons d b =>
      obtain rfl : s = d :: (b ++ t) := h
      simp [hb d List.mem_cons_self] at hs
  | cons c a ih =>
    cases b with
    | nil =>
      obtain rfl : c :: (a ++ s) = t := h
      simp [ha c List.mem_cons_self] at ht
    | cons d b =>
      obtain ⟨rfl,htail⟩ := List.cons.inj h
      obtain ⟨rfl,rfl⟩ := ih (fun x hx => ha x (List.mem_cons_of_mem c hx))
        (fun x hx => hb x (List.mem_cons_of_mem c hx)) htail
      exact ⟨rfl, rfl⟩

lemma length_of_codeUnit? {ds : Text} {n : Nat} (h : codeUnit? ds = some n) : ds.length = 4 := by
  unfold codeUnit? at h
  split at h
  · rfl
  · simp at h

lemma codeUnit?_append_inj {ds es r u : Text} {m n : Nat} (hds : codeUnit? ds = some m)
    (hes : codeUnit? es = some n) (h : ds ++ r = es ++ u) : m = n ∧ ds = es ∧ r = u := by
  obtain ⟨rfl,rfl⟩ := List.append_inj h (by rw [length_of_codeUnit? hds, length_of_codeUnit? hes])
  exact ⟨Option.some.inj (hds.symm.trans hes), rfl, rfl⟩

lemma ne_of_lookup_escapes {l c : Char} (h : escapes.lookup l = some c) : l ≠ 'u' := by
  rintro rfl
  have hnone : escapes.lookup 'u' = none := by decide
  simp [hnone] at h

lemma toNat_ne_surrogate {c : Char} {n : Nat} (hn : n < 0x400) : c.toNat ≠ 0xD800 + n := by
  have hc : c.toNat < 0xD800 ∨ 0xDFFF < c.toNat ∧ c.toNat < 0x110000 := c.valid
  omega

/-- No escape is the start of another one. -/
lemma Escape.unique {s t r u : Text} {c d : Char} (hs : Escape s c) (ht : Escape t d)
    (h : s ++ r = t ++ u) : c = d ∧ s = t := by
  cases hs with
  | letter hc =>
    cases ht with
    | letter hd =>
      obtain rfl := (List.cons.inj h).1
      exact ⟨Option.some.inj (hc.symm.trans hd), rfl⟩
    | _ => exact absurd (List.cons.inj h).1 (ne_of_lookup_escapes hc)
  | unit hc =>
    cases ht with
    | letter hd => exact absurd (List.cons.inj h).1.symm (ne_of_lookup_escapes hd)
    | unit hd =>
      obtain ⟨hcd,rfl,-⟩ := codeUnit?_append_inj hc hd (List.cons.inj h).2
      exact ⟨Char.toNat_inj.mp hcd, rfl⟩
    | pair hds hhigh =>
      -- half of a pair is no character
      rw [List.append_assoc] at h
      exact absurd (codeUnit?_append_inj hc hds (List.cons.inj h).2).1 (toNat_ne_surrogate hhigh)
  | pair hds hhigh hes hlow hc =>
    rw [List.append_assoc] at h
    cases ht with
    | letter hd => exact absurd (List.cons.inj h).1.symm (ne_of_lookup_escapes hd)
    | unit hd =>
      exact absurd (codeUnit?_append_inj hds hd (List.cons.inj h).2).1.symm (toNat_ne_surrogate hhigh)
    | pair hds' hhigh' hes' hlow' hd =>
      rw [List.append_assoc] at h
      obtain ⟨hm,rfl,hrest⟩ := codeUnit?_append_inj hds hds' (List.cons.inj h).2
      obtain ⟨hn,rfl,-⟩ := codeUnit?_append_inj hes hes' (List.cons.inj (List.cons.inj hrest).2).2
      exact ⟨Char.toNat_inj.mp (by omega), rfl⟩

namespace Spelling

/-- A spelling cannot be taken for the end of the text. -/
lemma exists_head {s : Text} {c : Char} (h : Spelling s c) : ∃ d t, s = d :: t ∧ d ≠ '"' := by
  cases h with
  | plain hc hq hb => exact ⟨c, [], rfl, hq⟩
  | escaped h => exact ⟨'\\', _, rfl, by decide⟩

/-- No spelling is the start of another one. -/
lemma unique {s t r u : Text} {c d : Char} (hs : Spelling s c) (ht : Spelling t d)
    (h : s ++ r = t ++ u) : c = d ∧ s = t := by
  cases hs with
  | plain hc hq hb =>
    cases ht with
    | plain => exact ⟨(List.cons.inj h).1, by rw [(List.cons.inj h).1]⟩
    | escaped => exact absurd (List.cons.inj h).1 hb
  | escaped hs =>
    cases ht with
    | plain hc hq hb => exact absurd (List.cons.inj h).1.symm hb
    | escaped ht =>
      obtain ⟨rfl,rfl⟩ := hs.unique ht (List.cons.inj h).2
      exact ⟨rfl, rfl⟩

end Spelling

lemma Inside.unique {s t k l r u : Text} (hs : Inside s k) (ht : Inside t l)
    (h : s ++ '"' :: r = t ++ '"' :: u) : k = l ∧ s = t := by
  induction hs generalizing t l with
  | nil =>
    cases ht with
    | nil => exact ⟨rfl, rfl⟩
    | cons hd ht =>
      obtain ⟨d,t',rfl,hne⟩ := hd.exists_head
      exact absurd (List.cons.inj h).1.symm hne
  | cons hc hs ih =>
    cases ht with
    | nil =>
      obtain ⟨d,s',rfl,hne⟩ := hc.exists_head
      exact absurd (List.cons.inj h).1 hne
    | cons hd ht =>
      simp only [List.append_assoc] at h
      obtain ⟨rfl,rfl⟩ := hc.unique hd h
      obtain ⟨rfl,rfl⟩ := ih ht (List.append_cancel_left h)
      exact ⟨rfl, rfl⟩

lemma head?_all_mono {P Q : Char → Bool} (h : ∀ c, P c → Q c) {r : Text} (hr : r.head?.all P) :
    r.head?.all Q := by
  cases r with
  | nil => rfl
  | cons c r => simpa using h c (by simpa using hr)

namespace Part
variable {r : Text} {i : Item}

lemma follow_item (hr : r.head?.all (items i).follow) : r.head?.all (item i).follow := by
  refine head?_all_mono (fun c hc => ?_) hr
  simp only [follow, Bool.or_eq_true] at hc ⊢
  tauto

lemma all_of_follow {P : Char → Bool} (hcomma : P ',') (harray : P ']') (hobject : P '}')
    (hr : r.head?.all (item i).follow) : r.head?.all P := by
  refine head?_all_mono (fun c hc => ?_) hr
  obtain (rfl | rfl) | rfl : (c = ',' ∨ c = ']') ∨ c = '}' := by simpa [follow] using hc
  · exact hcomma
  · exact harray
  · exact hobject

lemma not_isSpace_of_follow (hr : r.head?.all (item i).follow) : r.head?.all (!isSpace ·) :=
  all_of_follow rfl rfl rfl hr

lemma follow_value (hr : r.head?.all (item i).follow) : r.head?.all value.follow :=
  all_of_follow rfl rfl rfl hr

/-- White space may follow a value, and so may all that may follow an item. -/
lemma follow_spaces {b : Text} (hb : ∀ c ∈ b, isSpace c) (hr : r.head?.all (item i).follow) :
    (b ++ r).head?.all value.follow := by
  cases b with
  | nil => exact follow_value hr
  | cons c b =>
    rcases isSpace_iff.mp (hb c List.mem_cons_self) with rfl | rfl | rfl | rfl
    all_goals rfl

end Part

/-- The first characters of values and names. -/
def isOpening (c : Char) : Bool := c.isDigit || c == '"' || c == '[' || c == '{'

lemma not_isSpace_of_isOpening {c : Char} (h : isOpening c) : isSpace c = false := by
  by_contra hspace
  rcases isSpace_iff.mp (Bool.of_not_eq_false hspace) with rfl | rfl | rfl | rfl <;> revert h <;> decide

/-- White space and then the start of a value or a name. -/
def Opens (s : Text) : Prop := ∃ a c t, s = a ++ c :: t ∧ (∀ d ∈ a, isSpace d) ∧ isOpening c

lemma Opens.append {s : Text} (h : Opens s) (t : Text) : Opens (s ++ t) := by
  obtain ⟨a,c,u,rfl,ha,hc⟩ := h
  exact ⟨a, c, u ++ t, by simp, ha, hc⟩

/-- Where something starts, a list does not end. -/
lemma Opens.append_ne {s t r u : Text} {i : Item} (ht : Opens t) (hs : ∀ c ∈ s, isSpace c)
    (hr : r.head?.all (Part.items i).follow) : s ++ r ≠ t ++ u := by
  obtain ⟨a,c,t',rfl,ha,hc⟩ := ht
  intro h
  rw [List.append_assoc] at h
  obtain ⟨-,rfl⟩ := append_inj_of_head? hs ha (Part.not_isSpace_of_follow (Part.follow_item hr))
    (by simp [not_isSpace_of_isOpening hc]) h
  obtain rfl | rfl : c = ']' ∨ c = '}' := by simpa [Part.follow] using hr
  all_goals simp [isOpening, Char.isDigit] at hc

namespace Written

lemma exists_opening {v : Json} {s : Text} (h : Written .value v s) :
    ∃ c t, s = c :: t ∧ isOpening c := by
  cases h with
  | number h =>
    obtain ⟨c,t,rfl⟩ := List.exists_cons_of_ne_nil h.ne_nil
    exact ⟨c, t, rfl, by simp [isOpening, h.digits c List.mem_cons_self]⟩
  | text h => exact ⟨'"', _, rfl, rfl⟩
  | array h => exact ⟨'[', _, rfl, rfl⟩
  | object h => exact ⟨'{', _, rfl, rfl⟩

lemma head?_append {v : Json} {s : Text} (h : Written .value v s) (r : Text) :
    (s ++ r).head?.all (!isSpace ·) := by
  obtain ⟨c,t,rfl,hc⟩ := h.exists_opening
  simp [not_isSpace_of_isOpening hc]

lemma opens {i : Item} {x : i.Meaning} {s : Text} (h : Written (.item i) x s) : Opens s := by
  cases h with
  | element ha h hb =>
    obtain ⟨c,t,rfl,hc⟩ := h.exists_opening
    exact Opens.append ⟨_, c, t, rfl, ha, hc⟩ _
  | @member k v a s b t ha hs hb ht =>
    exact ⟨a, '"', s ++ '"' :: b ++ ':' :: t, by simp, ha, rfl⟩

/-- A text that starts with a part starts with just one, and this has just one meaning, if what follows
cannot belong to it. -/
theorem unique {p : Part} {x y : p.Meaning} {s t r u : Text} (hs : Written p x s) (ht : Written p y t)
    (h : s ++ r = t ++ u) (hr : r.head?.all p.follow) (hu : u.head?.all p.follow) : x = y ∧ s = t := by
  induction hs generalizing t r u with
  | number hds =>
    -- here and below, values are told apart by their first character
    cases ht with
    | number hes =>
      obtain ⟨rfl,-⟩ := append_inj_of_head? hds.digits hes.digits hr hu h
      exact ⟨rfl, rfl⟩
    | _ => exact absurd h (hds.append_ne rfl)
  | text hs =>
    cases ht with
    | number hds => exact absurd h.symm (hds.append_ne rfl)
    | text ht =>
      simp only [List.cons_append, List.append_assoc, List.cons.injEq, true_and] at h
      obtain ⟨rfl,rfl⟩ := hs.unique ht h
      exact ⟨rfl, rfl⟩
    | _ => simp at h
  | array hs ih =>
    cases ht with
    | number hds => exact absurd h.symm (hds.append_ne rfl)
    | array ht =>
      simp only [List.cons_append, List.append_assoc, List.cons.injEq, true_and] at h
      obtain ⟨rfl,rfl⟩ := ih ht h rfl rfl
      exact ⟨rfl, rfl⟩
    | _ => simp at h
  | object hs ih =>
    cases ht with
    | number hds => exact absurd h.symm (hds.append_ne rfl)
    | object ht =>
      simp only [List.cons_append, List.append_assoc, List.cons.injEq, true_and] at h
      obtain ⟨rfl,rfl⟩ := ih ht h rfl rfl
      exact ⟨rfl, rfl⟩
    | _ => simp at h
  | element ha hs hb ih =>
    cases ht with
    | element ha' ht hb' =>
      simp only [List.append_assoc] at h
      obtain ⟨rfl,hvalue⟩ := append_inj_of_head? ha ha' (hs.head?_append _) (ht.head?_append _) h
      obtain ⟨rfl,rfl⟩ := ih ht hvalue (Part.follow_spaces hb hr) (Part.follow_spaces hb' hu)
      obtain ⟨rfl,-⟩ := append_inj_of_head? hb hb' (Part.not_isSpace_of_follow hr)
        (Part.not_isSpace_of_follow hu) (List.append_cancel_left hvalue)
      exact ⟨rfl, rfl⟩
  | member ha hk hb hs ih =>
    cases ht with
    | member ha' hk' hb' ht =>
      simp only [List.append_assoc, List.cons_append] at h
      obtain ⟨rfl,hname⟩ := append_inj_of_head? ha ha' rfl rfl h
      obtain ⟨rfl,rfl⟩ := hk.unique hk' (List.cons.inj hname).2
      obtain ⟨rfl,hvalue⟩ := append_inj_of_head? hb hb' rfl rfl
        (List.cons.inj (List.append_cancel_left (List.cons.inj hname).2)).2
      obtain ⟨rfl,rfl⟩ := ih ht (List.cons.inj hvalue).2 hr hu
      exact ⟨rfl, rfl⟩
  | none hs =>
    cases ht with
    | none ht =>
      obtain ⟨rfl,-⟩ := append_inj_of_head? hs ht (Part.not_isSpace_of_follow (Part.follow_item hr))
        (Part.not_isSpace_of_follow (Part.follow_item hu)) h
      exact ⟨rfl, rfl⟩
    | one ht => exact absurd h (ht.opens.append_ne hs hr)
    | more hx ht => exact absurd h ((hx.opens.append _).append_ne hs hr)
  | one hs ih =>
    cases ht with
    | none ht => exact absurd h.symm (hs.opens.append_ne ht hu)
    | one ht =>
      obtain ⟨rfl,rfl⟩ := ih ht h (Part.follow_item hr) (Part.follow_item hu)
      exact ⟨rfl, rfl⟩
    | more hx ht =>
      -- the comma would have to stand where the list ends
      rw [List.append_assoc] at h
      obtain ⟨-,rfl⟩ := ih hx h (Part.follow_item hr) rfl
      obtain rfl := List.append_cancel_left h
      simp [Part.follow] at hr
  | more hs hss ih ihs =>
    rw [List.append_assoc] at h
    cases ht with
    | none ht => exact absurd h.symm (hs.opens.append_ne ht hu)
    | one ht =>
      obtain ⟨-,rfl⟩ := ih ht h rfl (Part.follow_item hu)
      obtain rfl := List.append_cancel_left h
      simp [Part.follow] at hu
    | more hx ht =>
      rw [List.append_assoc] at h
      obtain ⟨rfl,rfl⟩ := ih hx h rfl rfl
      obtain ⟨hlist,rfl⟩ := ihs ht (List.cons.inj (List.append_cancel_left h)).2 hr hu
      exact ⟨by rw [hlist], rfl⟩

end Written

/-- A text has one value at most. -/
theorem Denotes.unique {s : Text} {v w : Json} (hv : Denotes s v) (hw : Denotes s w) : v = w :=
  (Written.unique hv hw (r := []) (u := []) rfl rfl rfl).1

end ESharp.Json
