import ESharp.Config.Loader
import Mathlib.Tactic.Common

/-!
# Leaf keys

A configuration has eight keys with a value of their own. All that loading does to settings is seen
through them: putting a value under one changes that key and no other, a table of them replaces the
keys that it has, and settings with a fitting value under each of them make a configuration.
-/

namespace ESharp

section LastValue
variable {α β : Type} [DecidableEq α]

/-- What the last entry with a key says. -/
def lastValue? (k : α) (es : List (α × β)) : Option β := es.reverse.lookup k

@[simp] lemma lastValue?_nil (k : α) : lastValue? k ([] : List (α × β)) = none := rfl

lemma lastValue?_append (k : α) (es fs : List (α × β)) :
    lastValue? k (es ++ fs) = (lastValue? k fs).or (lastValue? k es) := by
  simp [lastValue?, List.lookup_append]

lemma lastValue?_cons (k : α) (e : α × β) (es : List (α × β)) :
    lastValue? k (e :: es) = (lastValue? k es).or (if k = e.1 then some e.2 else none) := by
  rw [← List.singleton_append, lastValue?_append]
  exact congrArg _ (Entries.lookup_cons k e [])

lemma lastValue?_eq_none_iff {k : α} {es : List (α × β)} :
    lastValue? k es = none ↔ ∀ e ∈ es, e.1 ≠ k := by
  induction es with
  | nil => simp
  | cons e es ih =>
    rw [lastValue?_cons, Option.or_eq_none_iff, ih, List.forall_mem_cons]
    by_cases h : k = e.1
    · simp [h]
    · simp [h, Ne.symm h]

lemma mem_of_lastValue? {k : α} {b : β} {es : List (α × β)} (h : lastValue? k es = some b) :
    (k, b) ∈ es := by
  induction es with
  | nil => simp at h
  | cons e es ih =>
    rw [lastValue?_cons, Option.or_eq_some_iff] at h
    rcases h with h | ⟨-,h⟩
    · exact List.mem_cons_of_mem _ (ih h)
    · split_ifs at h with he
      obtain rfl : e.2 = b := Option.some.inj h
      subst he
      exact List.mem_cons_self

end LastValue

namespace Config

/-- The keys that have a value. -/
inductive Leaf
  | className
  | entryPoint
  | assertHelper
  | indent
  | compiler
  | compilerArgs
  | editor
  | editorArgs
  deriving DecidableEq, Repr

namespace Leaf

def all : List Leaf :=
  [className, entryPoint, assertHelper, indent, compiler, compilerArgs, editor, editorArgs]

/-- The name of the record that a key belongs to. -/
def record : Leaf → Text
  | className | entryPoint | assertHelper | indent => "program".toList
  | compiler | compilerArgs | editor | editorArgs => "toolchain".toList

/-- The name of a key in its record. -/
def name : Leaf → Text
  | className => "class_name".toList
  | entryPoint => "entry_point".toList
  | assertHelper => "assert_helper".toList
  | indent => "indent".toList
  | compiler => "compiler".toList
  | compilerArgs => "compiler_args".toList
  | editor => "editor".toList
  | editorArgs => "editor_args".toList

/-- A key as it is written for an override. -/
def key (l : Leaf) : Text := l.record ++ '.' :: l.name

/-- The key with a name in a record. -/
def find? (record name : Text) : Option Leaf :=
  all.find? fun l => l.record = record && l.name = name

def ofKey? (key : Text) : Option Leaf := all.find? (·.key = key)

/-- Whether the value is a list. -/
def isList : Leaf → Bool
  | compilerArgs | editorArgs => true
  | _ => false

end Leaf

/-- The text that a setting stands for: itself, or how a number or a truth value is written. -/
def textOf? : Setting → Option Text
  | .scalar _ (.text t) => some t
  | .scalar _ (.integer n) => some (Text.ofInt n)
  | .scalar _ (.float x) => some x.text
  | .scalar _ (.boolean true) => some "true".toList
  | .scalar _ (.boolean false) => some "false".toList
  | _ => none

def textsOf? : Setting → Option (List Text)
  | .list _ items => items.mapM textOf?
  | _ => none

/-- Whether a setting is of the kind that a key asks for. -/
def Leaf.fits (l : Leaf) (s : Setting) : Bool :=
  if l.isList then (textsOf? s).isSome else (textOf? s).isSome

/-- The configuration with the values that are picked for its keys. -/
def ofLeaves (pick : Leaf → Setting) : Config :=
  let text (l : Leaf) := (textOf? (pick l)).getD []
  let texts (l : Leaf) := (textsOf? (pick l)).getD []
  { program :=
      { className := text .className
        entryPoint := text .entryPoint
        assertHelper := text .assertHelper
        indent := text .indent }
    tools :=
      { compiler := text .compiler
        compilerArgs := texts .compilerArgs
        editor := text .editor
        editorArgs := texts .editorArgs } }

namespace Leaf

lemma foldKey_record (l : Leaf) : Setting.foldKey l.record = l.record := by cases l <;> decide

lemma foldKey_name (l : Leaf) : Setting.foldKey l.name = l.name := by cases l <;> decide

lemma find?_record_name (l : Leaf) : find? l.record l.name = some l := by cases l <;> decide

lemma eq_of_find? {record name : Text} {l : Leaf} (h : find? record name = some l) :
    l.record = record ∧ l.name = name := by
  simpa using List.find?_some h

lemma name_eq_iff {l m : Leaf} (h : l.record = m.record) : l.name = m.name ↔ l = m := by
  constructor
  · intro hn
    have hl := find?_record_name l
    rw [h, hn, find?_record_name m] at hl
    exact (Option.some.inj hl).symm
  · rintro rfl
    rfl

lemma key?_record (l : Leaf) : Setting.key? l.record = some [.field l.record] := by
  cases l <;> decide

/-- The steps of a key. -/
def steps (l : Leaf) : List Setting.KeyStep := [.field l.record, .field l.name]

lemma key?_key (l : Leaf) : Setting.key? l.key = some l.steps := by cases l <;> decide

lemma steps_injective : Function.Injective steps := by
  intro l m h
  simp only [steps, List.cons.injEq, Setting.KeyStep.field.injEq, and_true] at h
  exact (name_eq_iff h.1).mp h.2

lemma eq_key_of_ofKey? {key : Text} {l : Leaf} (h : ofKey? key = some l) : l.key = key := by
  simpa using List.find?_some h

/-- No table fits a key. -/
lemma not_table_of_fits {l : Leaf} {v : Setting} (h : l.fits v) (origin : Option Text)
    (fields : List (Text × Setting)) : v ≠ .table origin fields := by
  rintro rfl
  unfold fits at h
  split at h <;> simp [textOf?, textsOf?] at h

end Leaf
end Config

namespace Setting
open Config

lemma put_of_not_table {v : Setting} (hv : ∀ origin fields, v ≠ .table origin fields)
    (key : Text) (s : Setting) :
    put key v s = .table s.tableOrigin (Entries.set (foldKey key) v s.fields) := by
  cases v with
  | scalar origin x => simp [put]
  | list origin items => simp [put]
  | table origin fields => exact absurd rfl (hv origin fields)

lemma field?_table (origin : Option Text) (fields : List (Text × Setting)) (key : Text) :
    (table origin fields).field? key = fields.lookup key := rfl

/-- The setting under a leaf key. -/
def leaf? (s : Setting) (l : Leaf) : Option Setting := (s.field? l.record).bind (·.field? l.name)

/-- A setting with another record in the place of an old one. -/
lemma leaf?_set_record (s : Setting) (record : Text) (r : Setting) (l : Leaf) :
    (table s.tableOrigin (Entries.set record r s.fields)).leaf? l =
      if l.record = record then r.field? l.name else s.leaf? l := by
  rw [leaf?, field?_table, Entries.lookup_set]
  split_ifs <;> rfl

/-- A value under a key changes what is under that key. -/
theorem leaf?_assign {l : Leaf} {v : Setting} (hv : l.fits v) (s : Setting) (m : Leaf) :
    (assign v l.steps s).leaf? m = if m = l then some v else s.leaf? m := by
  have hassign : assign v l.steps s = .table s.tableOrigin (Entries.set (foldKey l.record)
      (put l.name v ((s.field? (foldKey l.record)).getD nil)) s.fields) := rfl
  rw [hassign, put_of_not_table (Leaf.not_table_of_fits hv), l.foldKey_record, l.foldKey_name,
    leaf?_set_record]
  split_ifs with hr hm hm
  · rw [field?_table, Entries.lookup_set, if_pos ((Leaf.name_eq_iff hr).mpr hm)]
  · rw [field?_table, Entries.lookup_set, if_neg (mt (Leaf.name_eq_iff hr).mp hm), leaf?, hr]
    cases s.field? l.record <;> rfl
  · exact absurd (congrArg Leaf.record hm) hr
  · rfl

end Setting

namespace Config

/-- What a record assigns. -/
def recordEntries (e : Text × Setting) : List (Leaf × Setting) :=
  e.2.fields.filterMap fun f => (Leaf.find? e.1 f.1).map (·, f.2)

/-- What the fields of a file assign, in their order. -/
def fieldEntries (fields : List (Text × Setting)) : List (Leaf × Setting) :=
  fields.flatMap recordEntries

/-- Whether a record assigns fitting values to its leaf keys and has no other field. -/
def isLeafRecord : Text × Setting → Bool
  | (record, .table _ fields) =>
    Leaf.all.any (·.record = record) && fields.all fun f => (Leaf.find? record f.1).any (·.fits f.2)
  | _ => false

lemma isLeafRecord_iff {e : Text × Setting} :
    isLeafRecord e ↔ ∃ origin fields, e.2 = .table origin fields ∧ (∃ l : Leaf, l.record = e.1) ∧
      ∀ f ∈ fields, ∃ l, Leaf.find? e.1 f.1 = some l ∧ l.fits f.2 := by
  obtain ⟨record,v⟩ := e
  have hall : (∃ l ∈ Leaf.all, l.record = record) ↔ ∃ l : Leaf, l.record = record :=
    ⟨fun ⟨l, _, h⟩ => ⟨l, h⟩, fun ⟨l, h⟩ => ⟨l, by cases l <;> decide, h⟩⟩
  cases v with
  | table origin fields =>
    simp [isLeafRecord, hall, Option.any_eq_true]
  | _ => simp [isLeafRecord]

end Config

namespace Setting
open Config

/-- Fields that are put into a record replace the keys that they have. -/
lemma field?_putAll {record : Text} {fields : List (Text × Setting)}
    (h : ∀ f ∈ fields, ∃ l, Leaf.find? record f.1 = some l ∧ l.fits f.2) (s : Setting) {l : Leaf}
    (hl : l.record = record) (origin : Option Text) :
    (putAll fields s).field? l.name =
      (lastValue? l (recordEntries (record, .table origin fields))).or (s.field? l.name) := by
  induction fields generalizing s with
  | nil => rfl
  | cons f rest ih =>
    obtain ⟨⟨m,hm,hfits⟩,hrest⟩ := List.forall_mem_cons.mp h
    obtain ⟨hmr,hmn⟩ := Leaf.eq_of_find? hm
    have hput : (put f.1 f.2 s).field? l.name = if l = m then some f.2 else s.field? l.name := by
      rw [put_of_not_table (Leaf.not_table_of_fits hfits), field?_table, Entries.lookup_set, ← hmn,
        m.foldKey_name]
      simp only [Leaf.name_eq_iff (hl.trans hmr.symm)]
      rfl
    have hentries : recordEntries (record, .table origin (f :: rest)) =
        (m, f.2) :: recordEntries (record, .table origin rest) := by
      simp [recordEntries, Setting.fields, hm]
    rw [putAll, ih hrest, hput, hentries, lastValue?_cons, Option.or_assoc]
    split_ifs <;> rfl

/-- A record of a file replaces the keys that it has. -/
lemma leaf?_put {e : Text × Setting} (he : isLeafRecord e) (s : Setting) (l : Leaf) :
    (put e.1 e.2 s).leaf? l = (lastValue? l (recordEntries e)).or (s.leaf? l) := by
  obtain ⟨record,v⟩ := e
  obtain ⟨origin,fields,rfl,⟨m,rfl⟩,hfields⟩ := isLeafRecord_iff.mp he
  have hput : put m.record (.table origin fields) s = .table s.tableOrigin
      (Entries.set (foldKey m.record)
        (putAll fields ((s.field? (foldKey m.record)).getD (.table none []))) s.fields) := by
    rw [put]
  rw [hput, m.foldKey_record, leaf?_set_record]
  split_ifs with hl
  · rw [field?_putAll hfields _ hl origin, leaf?, hl]
    cases s.field? m.record <;> rfl
  · have hnone : lastValue? l (recordEntries (m.record, .table origin fields)) = none := by
      rw [lastValue?_eq_none_iff]
      rintro ⟨k,v⟩ hmem rfl
      obtain ⟨f,-,hf⟩ := List.mem_filterMap.mp hmem
      obtain ⟨k',hk,heq⟩ := Option.map_eq_some_iff.mp hf
      cases heq
      exact hl (Leaf.eq_of_find? hk).1
    rw [hnone, Option.none_or]

end Setting

namespace Config

/-- The fields of a file replace the keys that they have. -/
theorem leaf?_addFields {fields : List (Text × Setting)} (h : fields.all isLeafRecord) (s : Setting)
    (l : Leaf) :
    (addFields s fields).leaf? l = (lastValue? l (fieldEntries fields)).or (s.leaf? l) := by
  induction fields generalizing s with
  | nil => rfl
  | cons e rest ih =>
    obtain ⟨he,hrest⟩ : isLeafRecord e ∧ rest.all isLeafRecord := by simpa using h
    have hstep : addFields s (e :: rest) = addFields (Setting.put e.1 e.2 s) rest := by
      obtain ⟨record,v⟩ := e
      obtain ⟨-,-,-,⟨m,rfl⟩,-⟩ := isLeafRecord_iff.mp he
      unfold addFields
      rw [List.foldl_cons]
      simp only [m.key?_record]
      rfl
    have hentries : fieldEntries (e :: rest) = recordEntries e ++ fieldEntries rest := rfl
    rw [hstep, ih hrest, Setting.leaf?_put he, hentries, lastValue?_append, Option.or_assoc]

section Decode

lemma toText_eq {s : Setting} {t : Text} (h : textOf? s = some t) : toText s = .ok t := by
  unfold textOf? at h
  split at h <;> cases h <;> rfl

lemma toTextsFrom_eq {items : List Setting} {ts : List Text} (h : items.mapM textOf? = some ts)
    (n : Nat) : toTextsFrom n items = .ok ts := by
  induction items generalizing ts n with
  | nil =>
    cases h
    rfl
  | cons s rest ih =>
    rw [List.mapM_cons, Option.bind_eq_bind, Option.bind_eq_some_iff] at h
    obtain ⟨t,ht,h⟩ := h
    rw [Option.bind_eq_bind, Option.bind_eq_some_iff] at h
    obtain ⟨us,hus,h⟩ := h
    cases h
    rw [toTextsFrom, toText_eq ht, ih hus]
    rfl

lemma toTexts_eq {s : Setting} {ts : List Text} (h : textsOf? s = some ts) : toTexts s = .ok ts := by
  unfold textsOf? at h
  split at h
  · exact toTextsFrom_eq h 0
  · cases h

/-- A record in which a leaf is found is a table. -/
lemma parts_of_field? {r v : Setting} {key : Text} (h : r.field? key = some v) (name : Text) :
    parts name r = .ok (.fields r.fields) := by
  cases r with
  | table origin fields => rfl
  | _ => simp [Setting.field?, Setting.fields] at h

lemma part_of_field? {α : Type} {r v : Setting} {name : Text} {decode : Setting → Except LoadError α}
    {a : α} (hv : r.field? name = some v) (ha : decode v = .ok a) (record : Text) (place : Nat) :
    part record (.fields r.fields) place name decode = .ok (some a) := by
  unfold Setting.field? at hv
  simp only [part, hv, ha]
  rfl

/-- A record of four parts in which all of them are found. -/
lemma bind_parts {α β γ δ ε : Type} {record n₀ n₁ n₂ n₃ : Text} {r : Setting} {p : Parts}
    {f₀ : Setting → Except LoadError α} {f₁ : Setting → Except LoadError β}
    {f₂ : Setting → Except LoadError γ} {f₃ : Setting → Except LoadError δ}
    {a : α} {b : β} {c : γ} {d : δ} (make : α → β → γ → δ → ε) (hp : parts record r = .ok p)
    (h₀ : part record p 0 n₀ f₀ = .ok (some a)) (h₁ : part record p 1 n₁ f₁ = .ok (some b))
    (h₂ : part record p 2 n₂ f₂ = .ok (some c)) (h₃ : part record p 3 n₃ f₃ = .ok (some d)) :
    (do
      let p ← parts record r
      let a ← part record p 0 n₀ f₀
      let b ← part record p 1 n₁ f₁
      let c ← part record p 2 n₂ f₂
      let d ← part record p 3 n₃ f₃
      .ok (make (← required n₀ a) (← required n₁ b) (← required n₂ c) (← required n₃ d))) =
      Except.ok (make a b c d) := by
  simp only [bind, Except.bind, hp, h₀, h₁, h₂, h₃, required]

lemma ofSetting_eq (s : Setting) :
    ofSetting s =
      (part [] (.fields s.fields) 0 Leaf.className.record toLayout).bind fun a =>
      (part [] (.fields s.fields) 1 Leaf.compiler.record toTools).bind fun b =>
      (required Leaf.className.record a).bind fun a =>
      (required Leaf.compiler.record b).bind fun b => .ok ⟨a, b⟩ := rfl

variable {pick : Leaf → Setting}

lemma toText_pick (hfits : ∀ l : Leaf, l.fits (pick l)) {l : Leaf} (hl : l.isList = false) :
    toText (pick l) = .ok ((textOf? (pick l)).getD []) := by
  have h := hfits l
  rw [Leaf.fits, hl] at h
  obtain ⟨t,ht⟩ := Option.isSome_iff_exists.mp h
  rw [toText_eq ht, ht]
  rfl

lemma toTexts_pick (hfits : ∀ l : Leaf, l.fits (pick l)) {l : Leaf} (hl : l.isList = true) :
    toTexts (pick l) = .ok ((textsOf? (pick l)).getD []) := by
  have h := hfits l
  rw [Leaf.fits, hl] at h
  obtain ⟨ts,hts⟩ := Option.isSome_iff_exists.mp h
  rw [toTexts_eq hts, hts]
  rfl

lemma toLayout_pick (hfits : ∀ l : Leaf, l.fits (pick l)) {r : Setting}
    (hr : ∀ l : Leaf, l.record = Leaf.className.record → r.field? l.name = some (pick l)) :
    toLayout r = .ok (ofLeaves pick).program := by
  have hpart (l : Leaf) (place : Nat) (hrec : l.record = Leaf.className.record)
      (hlist : l.isList = false) :=
    part_of_field? (hr l hrec) (toText_pick hfits hlist) "ProgramLayout".toList place
  exact bind_parts Layout.mk (parts_of_field? (hr .className rfl) _) (hpart .className 0 rfl rfl)
    (hpart .entryPoint 1 rfl rfl) (hpart .assertHelper 2 rfl rfl) (hpart .indent 3 rfl rfl)

lemma toTools_pick (hfits : ∀ l : Leaf, l.fits (pick l)) {r : Setting}
    (hr : ∀ l : Leaf, l.record = Leaf.compiler.record → r.field? l.name = some (pick l)) :
    toTools r = .ok (ofLeaves pick).tools := by
  have hpart {α : Type} {decode : Setting → Except LoadError α} {a : α} (l : Leaf) (place : Nat)
      (hrec : l.record = Leaf.compiler.record) (ha : decode (pick l) = .ok a) :=
    part_of_field? (hr l hrec) ha "ToolchainConfig".toList place
  exact bind_parts Tools.mk (parts_of_field? (hr .compiler rfl) _)
    (hpart .compiler 0 rfl (toText_pick hfits rfl))
    (hpart .compilerArgs 1 rfl (toTexts_pick hfits rfl))
    (hpart .editor 2 rfl (toText_pick hfits rfl))
    (hpart .editorArgs 3 rfl (toTexts_pick hfits rfl))

/-- Settings with a fitting value under each leaf key make a configuration. -/
theorem ofSetting_pick (hfits : ∀ l : Leaf, l.fits (pick l)) {s : Setting}
    (hs : ∀ l, s.leaf? l = some (pick l)) : ofSetting s = .ok (ofLeaves pick) := by
  have hrecord (l : Leaf) : ∃ r, s.field? l.record = some r ∧ ∀ m : Leaf,
      m.record = l.record → r.field? m.name = some (pick m) := by
    obtain ⟨r,hr,-⟩ := Option.bind_eq_some_iff.mp (hs l)
    refine ⟨r, hr, fun m hm => ?_⟩
    have h := hs m
    rwa [Setting.leaf?, hm, hr] at h
  obtain ⟨p,hp,hlayout⟩ := hrecord .className
  obtain ⟨t,ht,htools⟩ := hrecord .compiler
  have hprogram := part_of_field? hp (toLayout_pick hfits hlayout) [] 0
  have htoolchain := part_of_field? ht (toTools_pick hfits htools) [] 1
  rw [ofSetting_eq]
  simp only [Except.bind, hprogram, htoolchain, required]

end Decode
end Config
end ESharp
