import ESharp.Format
import ESharp.Proofs.Json.Grammar

/-!
# Listings are kept by their JSON

A document of a listing is read back by the names of its fields. Main statement: a listing is written as
one document, this has one value, and the entries are read off it.
-/

namespace ESharp
namespace Json

lemma codeUnit?_control :
    ∀ n < 32, codeUnit? ['0', '0', hexDigit (n / 16), hexDigit (n % 16)] = some n := by
  decide

lemma spelling_escapeChar (c : Char) : Spelling (escapeChar c) c := by
  unfold escapeChar
  split
  case h_8 hq hb _ _ _ _ _ =>
    split_ifs with hc
    · exact .escaped (.unit (codeUnit?_control c.toNat hc))
    · exact .plain (Nat.le_of_not_lt hc) hq hb
  all_goals exact .escaped (.letter (by decide))

lemma inside_flatMap (t : Text) : Inside (t.flatMap escapeChar) t := by
  induction t with
  | nil => exact .nil
  | cons c t ih => exact .cons (spelling_escapeChar c) ih

lemma toDigits_of_head? {n : Nat} (h : (Nat.toDigits 10 n).head? = some '0') :
    Nat.toDigits 10 n = ['0'] := by
  induction n using Nat.strongRecOn with
  | ind n ih =>
    rw [Nat.toDigits_eq_if (by decide)] at h ⊢
    split_ifs at h ⊢ with hn
    · simpa using h
    · rw [List.head?_append, Option.or_of_isSome (by simp)] at h
      -- what stands before the last digit would be zero
      have hzero : n / 10 = 0 := by
        rw [← Nat.ofDigitChars_ten_toDigits (n := n / 10), ih (n / 10) (by omega) h]
        rfl
      omega

lemma numeral_ofNat (n : Nat) : Numeral (Text.ofNat n) where
  ne_nil := Nat.toDigits_ne_nil
  digits _ hc := Nat.isDigit_of_mem_toDigits (by decide) (by decide) hc
  no_zero := toDigits_of_head?

lemma written_number (n : Nat) : Written .value (number n) (Text.ofNat n) := by
  have h := Written.number (numeral_ofNat n)
  rwa [Text.ofNat, Nat.ofDigitChars_ten_toDigits] at h

lemma isSpace_newline (level : Nat) : ∀ c ∈ newline level, isSpace c := by
  intro c hc
  rcases List.mem_cons.mp hc with rfl | hc
  · rfl
  · rw [List.eq_of_mem_replicate hc]
    rfl

lemma written_line (level : Nat) {v : Json} {s a : Text} (h : Written .value v s)
    (ha : ∀ c ∈ a, isSpace c) : Written (.item .element) v (newline level ++ s ++ a) :=
  .element (isSpace_newline level) h ha

lemma written_named (level : Nat) (k : Text) {v : Json} {s a : Text} (h : Written .value v s)
    (ha : ∀ c ∈ a, isSpace c) :
    Written (.item .member) (k, v) (newline level ++ quote k ++ ": ".toList ++ s ++ a) := by
  have hs := Written.element (a := [' ']) (by simp [isSpace]) h ha
  simpa [quote] using Written.member (b := []) (isSpace_newline level) (inside_flatMap k) (by simp) hs

mutual

theorem written_pretty (level : Nat) : (v : Json) → Written .value v (pretty level v)
  | .number n => written_number n
  | .text t => .text (inside_flatMap t)
  | .array [] => .array (.none (s := []) (by simp))
  | .array (v :: vs) => by
    have h := written_prettyItems (level + 1) (isSpace_newline level) (v :: vs)
    simpa [pretty] using h.array
  | .object [] => .object (.none (s := []) (by simp))
  | .object (f :: fs) => by
    have h := written_prettyFields (level + 1) (isSpace_newline level) (f :: fs)
    simpa [pretty] using h.object

theorem written_prettyItems (level : Nat) {a : Text} (ha : ∀ c ∈ a, isSpace c) :
    (vs : List Json) → Written (.items .element) vs (prettyItems level vs ++ a)
  | [] => .none ha
  | [v] => .one (written_line level (written_pretty level v) ha)
  | v :: w :: vs => by
    have hv := written_line level (written_pretty level v) (a := []) (by simp)
    simpa [prettyItems] using hv.more (written_prettyItems level ha (w :: vs))

theorem written_prettyFields (level : Nat) {a : Text} (ha : ∀ c ∈ a, isSpace c) :
    (fs : List (Text × Json)) → Written (.items .member) fs (prettyFields level fs ++ a)
  | [] => .none ha
  | [(k, v)] => .one (written_named level k (written_pretty level v) ha)
  | (k, v) :: f :: fs => by
    have hv := written_named level k (written_pretty level v) (a := []) (by simp)
    simpa [prettyFields] using hv.more (written_prettyFields level ha (f :: fs))

end

/-- The document of a value has that value and no other. -/
theorem denotes_pretty_iff (level : Nat) {v w : Json} : Denotes (pretty level v) w ↔ w = v := by
  constructor
  · intro h
    exact h.unique (written_pretty level v)
  · rintro rfl
    exact written_pretty level w

def number? : Json → Option Nat
  | number n => some n
  | _ => none

def text? : Json → Option Text
  | text t => some t
  | _ => none

def array? : Json → Option (List Json)
  | array vs => some vs
  | _ => none

def texts? (v : Json) : Option (List Text) := v.array?.bind (·.mapM text?)

/-- The value under a name that stands once in an object. -/
def field? (name : Text) : Json → Option Json
  | object fs =>
    match fs.filter (·.1 = name) with
    | [f] => some f.2
    | _ => none
  | _ => none

end Json

namespace Listing

/-- The directive of a document, by its kind. -/
def directive? (v : Json) : Option Directive := do
  let tag ← (← v.field? "kind".toList).text?
  match ← Directive.Kind.all.find? (·.name = tag) with
  | .imports => .imports <$> (← v.field? "names".toList).texts?
  | .assert => .assert <$> (← v.field? "condition".toList).text?
  | .print => .print <$> (← v.field? "values".toList).texts?
  | .forHeader =>
    let item ← (← v.field? "variable".toList).text?
    .forHeader item <$> (← v.field? "enumerable".toList).text?
  | .regular => .regular <$> (← v.field? "code".toList).text?

def entry? (v : Json) : Option Entry := do
  let number ← (← v.field? "line_number".toList).number?
  let source ← (← v.field? "source".toList).text?
  Entry.mk number source <$> directive? (← v.field? "directive".toList)

/-- The entries of a document. -/
def entries? (v : Json) : Option (List Entry) := v.array?.bind (·.mapM entry?)

lemma texts?_map (ts : List Text) : (Json.array (ts.map .text)).texts? = some ts := by
  change (ts.map Json.text).mapM Json.text? = some ts
  induction ts with
  | nil => rfl
  | cons t ts ih => simp [Json.text?, ih]

lemma directive?_directiveJson (d : Directive) : directive? (directiveJson d) = some d := by
  cases d with
  | imports names =>
    change Directive.imports <$> (Json.array (names.map .text)).texts? = _
    rw [texts?_map]
    rfl
  | print values =>
    change Directive.print <$> (Json.array (values.map .text)).texts? = _
    rw [texts?_map]
    rfl
  | _ => rfl

lemma entry?_entryJson (e : Entry) : entry? (entryJson e) = some e := by
  change Entry.mk e.number e.source <$> directive? (directiveJson e.directive) = _
  rw [directive?_directiveJson]
  rfl

lemma entries?_map (es : List Entry) : entries? (.array (es.map entryJson)) = some es := by
  change (es.map entryJson).mapM entry? = some es
  induction es with
  | nil => rfl
  | cons e es ih => simp [entry?_entryJson, ih]

/-- Any listing is written in JSON, as one document and a line feed. The document has one value, an
array off which the entries are read, so no other listing is written in the same way. -/
theorem json_lossless (layout : Layout) (entries : List Entry) :
    ∃ document values,
      Format.directivesJson.write layout entries = .ok (document ++ ['\n']) ∧
      (∀ v, Json.Denotes document v ↔ v = .array values) ∧
      entries? (.array values) = some entries ∧
      ∀ layout' others, Format.directivesJson.write layout' others = .ok (document ++ ['\n']) →
        others = entries := by
  refine ⟨Json.pretty 0 (.array (entries.map entryJson)), entries.map entryJson, rfl,
    fun v => Json.denotes_pretty_iff 0, entries?_map entries, ?_⟩
  intro layout' others h
  have hdocument : Json.pretty 0 (.array (others.map entryJson)) =
      Json.pretty 0 (.array (entries.map entryJson)) :=
    List.append_cancel_right (Except.ok.inj h)
  have hvalue : Json.array (others.map entryJson) = .array (entries.map entryJson) :=
    (Json.denotes_pretty_iff 0).mp (hdocument ▸ (Json.denotes_pretty_iff 0).mpr rfl)
  have hentries := congrArg entries? hvalue
  rw [entries?_map, entries?_map] at hentries
  exact Option.some.inj hentries

end Listing

end ESharp
