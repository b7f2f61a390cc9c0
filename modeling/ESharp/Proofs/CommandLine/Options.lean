import ESharp.CommandLine.Options
import Mathlib.Tactic.Common

/-!
# Options by name and by letter

An option is written by its name or by its letter. Its value is joined to it or is the next word, for which
the option is left waiting. Main statements: names and letters are read just as they may be written, as long
as no option is given twice and none asks for something else.
-/

namespace ESharp.CommandLine

/-- The name of an option with what may be joined to it, the options that are given in this way, and the one
that is left waiting for its value. -/
inductive Long (p : Scope) : Text → List (Opt × Text) → Option Opt → Prop
  | flag {o : Opt} (ho : o ∈ p.options) (hv : o.takesValue = false) : Long p o.long [(o, [])] none
  | value {o : Opt} (v : Text) (ho : o ∈ p.options) (hv : o.takesValue) :
      Long p (o.long ++ '=' :: v) [(o, v)] none
  | waiting {o : Opt} (ho : o ∈ p.options) (hv : o.takesValue) : Long p o.long [] (some o)

/-- What may be joined to the letter of an option, and the value that is meant. -/
inductive Joined : Text → Text → Prop
  | plain {v : Text} (hne : v ≠ []) (hequals : v.head? ≠ some '=') : Joined v v
  | equals (v : Text) : Joined ('=' :: v) v

/-- Letters of options. Only the last one can have a value. -/
inductive Letters (p : Scope) : Text → List (Opt × Text) → Option Opt → Prop
  | nil : Letters p [] [] none
  | flag {o : Opt} {c : Char} {t : Text} {os : List (Opt × Text)} {w : Option Opt}
      (ho : o ∈ p.options) (hc : o.short? = some c) (hv : o.takesValue = false)
      (h : Letters p t os w) : Letters p (c :: t) ((o, []) :: os) w
  | value {o : Opt} {c : Char} {t v : Text} (ho : o ∈ p.options) (hc : o.short? = some c)
      (hv : o.takesValue) (h : Joined t v) : Letters p (c :: t) [(o, v)] none
  | waiting {o : Opt} {c : Char} (ho : o ∈ p.options) (hc : o.short? = some c) (hv : o.takesValue) :
      Letters p [c] [] (some o)

instance : Append Given := ⟨fun g h => ⟨g.options ++ h.options, g.paths ++ h.paths⟩⟩

/-- How many paths there may be. -/
def Scope.maxPaths (p : Scope) : Nat := if p.verb.any Verb.takesPath then 1 else 0

/-- What may be given: each option once, none that asks for something else, and not too many paths. -/
structure Given.Fits (g : Given) (p : Scope) : Prop where
  once : (g.options.map Prod.fst).Nodup
  asks : ∀ o ∈ g.options.map Prod.fst, o ≠ .help ∧ o ≠ .version
  paths : g.paths.length ≤ p.maxPaths

namespace Given

@[simp] lemma options_append (g h : Given) : (g ++ h).options = g.options ++ h.options := rfl

@[simp] lemma paths_append (g h : Given) : (g ++ h).paths = g.paths ++ h.paths := rfl

lemma append_assoc (g h k : Given) : g ++ h ++ k = g ++ (h ++ k) := by
  change mk _ _ = mk _ _
  simp

lemma append_empty (g : Given) : g ++ {} = g := by
  change mk _ _ = g
  simp

lemma append_option (g : Given) (o : Opt) (v : Text) :
    g ++ ⟨[(o, v)], []⟩ = { g with options := g.options ++ [(o, v)] } := by
  change mk _ _ = _
  simp

lemma append_path (g : Given) (a : Text) : g ++ ⟨[], [a]⟩ = { g with paths := g.paths ++ [a] } := by
  change mk _ _ = _
  simp

lemma fits_empty (p : Scope) : Fits {} p := ⟨List.nodup_nil, by simp, Nat.zero_le _⟩

lemma Fits.left {p : Scope} {g h : Given} (hfits : (g ++ h).Fits p) : g.Fits p := by
  obtain ⟨honce,hasks,hpaths⟩ := hfits
  rw [options_append, List.map_append] at honce hasks
  rw [paths_append, List.length_append] at hpaths
  exact ⟨(List.nodup_append.mp honce).1, fun o ho => hasks o (List.mem_append_left _ ho), by omega⟩

lemma has_iff {g : Given} {o : Opt} : g.has o ↔ o ∈ g.options.map Prod.fst := by
  rw [has, value?, List.lookup_isSome_iff]
  simp

end Given

lemma bind_eq_ok_iff {ε α β : Type} {x : Except ε α} {f : α → Except ε β} {b : β} :
    (x >>= f) = .ok b ↔ ∃ a, x = .ok a ∧ f a = .ok b := by
  cases x <;> simp [bind, Except.bind]

section Steps
variable {p : Scope} {l l' : Given}

lemma fits_option_iff (hl : l.Fits p) {o : Opt} (v : Text) :
    (l ++ ⟨[(o, v)], []⟩).Fits p ↔ o ≠ .help ∧ o ≠ .version ∧ l.has o = false := by
  rw [← Bool.not_eq_true, Given.has_iff]
  constructor
  · rintro ⟨honce,hasks,-⟩
    rw [Given.options_append, List.map_append] at honce hasks
    obtain ⟨hhelp,hversion⟩ := hasks o (by simp)
    exact ⟨hhelp, hversion, fun ho => (List.nodup_append.mp honce).2.2 o ho o (by simp) rfl⟩
  · rintro ⟨hhelp,hversion,hnew⟩
    refine ⟨?_, ?_, by simpa using hl.paths⟩
    · rw [Given.options_append, List.map_append]
      refine List.nodup_append.mpr ⟨hl.once, by simp, ?_⟩
      rintro a ha b hb rfl
      obtain rfl : a = o := by simpa using hb
      exact hnew ha
    · intro a ha
      rw [Given.options_append, List.map_append, List.mem_append] at ha
      rcases ha with ha | ha
      · exact hl.asks a ha
      · obtain rfl : a = o := by simpa using ha
        exact ⟨hhelp, hversion⟩

lemma addOption_eq_ok_iff (hl : l.Fits p) {o : Opt} {v : Text} :
    addOption p l o v = .ok l' ↔ l' = l ++ ⟨[(o, v)], []⟩ ∧ l'.Fits p := by
  have hadd : addOption p l o v = .ok l' ↔
      (o ≠ .help ∧ o ≠ .version ∧ l.has o = false) ∧ l' = l ++ ⟨[(o, v)], []⟩ := by
    rw [Given.append_option]
    cases o <;> cases hhas : l.has _ <;> simp [addOption, hhas, eq_comm]
  rw [hadd, ← fits_option_iff hl v]
  constructor
  · rintro ⟨hfits,rfl⟩
    exact ⟨rfl, hfits⟩
  · rintro ⟨rfl,hfits⟩
    exact ⟨hfits, rfl⟩

lemma allowsPath_iff : p.allowsPath l ↔ l.paths.length + 1 ≤ p.maxPaths := by
  unfold Scope.allowsPath Scope.maxPaths
  cases p.verb with
  | none => simp
  | some v => cases hv : v.takesPath <;> simp [hv]

lemma addPath_eq_ok_iff (hl : l.Fits p) {a : Text} :
    addPath p l a = .ok l' ↔ l' = l ++ ⟨[], [a]⟩ ∧ l'.Fits p := by
  have hfits : (l ++ ⟨[], [a]⟩).Fits p ↔ p.allowsPath l := by
    rw [allowsPath_iff]
    constructor
    · intro h
      simpa using h.paths
    · intro h
      exact ⟨by simpa using hl.once, by simpa using hl.asks, by simpa using h⟩
  unfold addPath
  rw [← Given.append_path]
  constructor
  · intro h
    split_ifs at h with hallows
    cases h
    exact ⟨rfl, hfits.mpr hallows⟩
  · rintro ⟨rfl,h⟩
    rw [if_pos (hfits.mp h)]

end Steps

namespace Opt

lemma long_injective {a b : Opt} (h : a.long = b.long) : a = b := by
  cases a <;> cases b <;> first | rfl | exact absurd h (by decide)

lemma short?_injective {a b : Opt} {c : Char} (ha : a.short? = some c) (hb : b.short? = some c) :
    a = b := by
  cases a <;> cases b <;> grind [short?]

lemma equals_notMem_long (o : Opt) : '=' ∉ o.long := by
  cases o <;> decide

lemma long_ne_nil (o : Opt) : o.long ≠ [] := by
  cases o <;> decide

lemma short?_ne_dash (o : Opt) : o.short? ≠ some '-' := by
  cases o <;> decide

/-- An option is found by anything that it has alone. -/
lemma find?_eq_of_mem {os : List Opt} {P : Opt → Bool} {o : Opt} (ho : o ∈ os)
    (hP : ∀ a, P a ↔ a = o) : os.find? P = some o := by
  obtain ⟨a,ha⟩ := Option.isSome_iff_exists.mp (List.find?_isSome.mpr ⟨o, ho, (hP o).mpr rfl⟩)
  rw [ha, (hP a).mp (List.find?_some ha)]

lemma find?_long {os : List Opt} {o : Opt} (ho : o ∈ os) : os.find? (·.long = o.long) = some o := by
  refine find?_eq_of_mem ho fun a => ?_
  rw [decide_eq_true_eq]
  exact ⟨long_injective, congrArg _⟩

lemma find?_short {os : List Opt} {o : Opt} {c : Char} (ho : o ∈ os) (hc : o.short? = some c) :
    os.find? (·.short? = some c) = some o := by
  refine find?_eq_of_mem ho fun a => ?_
  rw [decide_eq_true_eq]
  exact ⟨fun ha => short?_injective ha hc, fun ha => ha ▸ hc⟩

lemma takeWhile_long (o : Opt) (t : Text) :
    (o.long ++ t).takeWhile (· != '=') = o.long ++ t.takeWhile (· != '=') ∧
      (o.long ++ t).dropWhile (· != '=') = t.dropWhile (· != '=') := by
  have hname : ∀ c ∈ o.long, (c != '=') = true := by
    intro c hc
    have hne : c ≠ '=' := fun h => o.equals_notMem_long (h ▸ hc)
    simpa using hne
  exact ⟨List.takeWhile_append_of_pos hname, List.dropWhile_append_of_pos hname⟩

end Opt

section Long
variable {p : Scope} {l l' : Given} {o : Opt}

lemma addLong_long (ho : o ∈ p.options) :
    addLong p l o.long =
      if o.takesValue then .ok (l, some o) else addOption p l o [] >>= fun l => .ok (l, none) := by
  have hname := o.takeWhile_long []
  simp only [List.append_nil, List.takeWhile_nil, List.dropWhile_nil] at hname
  rw [addLong, hname.1, hname.2, Opt.find?_long ho]

lemma addLong_equals (ho : o ∈ p.options) (v : Text) :
    addLong p l (o.long ++ '=' :: v) =
      if o.takesValue then addOption p l o v >>= fun l => .ok (l, none) else .error .usage := by
  have hname := o.takeWhile_long ('=' :: v)
  have hequals : ('=' != '=') = false := rfl
  simp only [List.takeWhile_cons, List.dropWhile_cons, hequals] at hname
  rw [addLong, hname.1, hname.2]
  simp only [Bool.false_eq_true, if_false, List.append_nil, Opt.find?_long ho]

lemma exists_long_of_addLong {t : Text} {x : Given × Option Opt} (h : addLong p l t = .ok x) :
    ∃ o ∈ p.options, t = o.long ∨ ∃ v, t = o.long ++ '=' :: v := by
  cases hfind : p.options.find? (·.long = t.takeWhile (· != '=')) with
  | none =>
    rw [addLong, hfind] at h
    cases h
  | some o =>
    have hname : o.long = t.takeWhile (· != '=') := by simpa using List.find?_some hfind
    have ht := List.takeWhile_append_dropWhile (p := (· != '=')) (l := t)
    rw [← hname] at ht
    refine ⟨o, List.mem_of_find?_eq_some hfind, ?_⟩
    have hhead := List.head?_dropWhile_not (· != '=') t
    cases hdrop : t.dropWhile (· != '=') with
    | nil => exact .inl (by rw [← ht, hdrop, List.append_nil])
    | cons c v =>
      obtain rfl : c = '=' := by simpa [hdrop] using hhead
      exact .inr ⟨v, by rw [← hdrop, ht]⟩

/-- A name is read just if it may be written so and what it gives fits. -/
theorem addLong_eq_ok_iff (hl : l.Fits p) {t : Text} {w : Option Opt} :
    addLong p l t = .ok (l', w) ↔ ∃ os, Long p t os w ∧ l' = l ++ ⟨os, []⟩ ∧ l'.Fits p := by
  constructor
  · intro h
    obtain ⟨o,ho,rfl | ⟨v,rfl⟩⟩ := exists_long_of_addLong h
    · rw [addLong_long ho] at h
      split_ifs at h with hv
      · cases h
        exact ⟨[], .waiting ho hv, (Given.append_empty _).symm, hl⟩
      · obtain ⟨l₁,hadd,h⟩ := bind_eq_ok_iff.mp h
        cases h
        exact ⟨_, .flag ho (by simpa using hv), (addOption_eq_ok_iff hl).mp hadd⟩
    · rw [addLong_equals ho] at h
      split_ifs at h with hv
      obtain ⟨l₁,hadd,h⟩ := bind_eq_ok_iff.mp h
      cases h
      exact ⟨_, .value v ho hv, (addOption_eq_ok_iff hl).mp hadd⟩
  · rintro ⟨os,hlong,hl'⟩
    cases hlong with
    | flag ho hv =>
      rw [addLong_long ho, hv]
      exact bind_eq_ok_iff.mpr ⟨l', (addOption_eq_ok_iff hl).mpr hl', rfl⟩
    | value v ho hv =>
      rw [addLong_equals ho, hv]
      exact bind_eq_ok_iff.mpr ⟨l', (addOption_eq_ok_iff hl).mpr hl', rfl⟩
    | waiting ho hv =>
      rw [addLong_long ho, hv, hl'.1, Given.append_empty]
      rfl

end Long

section Letters
variable {p : Scope} {l l' : Given} {o : Opt} {c : Char}

lemma addShorts_flag (ho : o ∈ p.options) (hc : o.short? = some c) (hv : o.takesValue = false)
    (t : Text) : addShorts p l (c :: t) = addOption p l o [] >>= fun l => addShorts p l t := by
  rw [addShorts, Opt.find?_short ho hc]
  simp [hv]

lemma addShorts_value (ho : o ∈ p.options) (hc : o.short? = some c) (hv : o.takesValue) {t v : Text}
    (h : Joined t v) : addShorts p l (c :: t) = addOption p l o v >>= fun l => .ok (l, none) := by
  rw [addShorts, Opt.find?_short ho hc]
  cases h with
  | plain hne hequals =>
    obtain ⟨d,u,rfl⟩ := List.exists_cons_of_ne_nil hne
    have hd : d ≠ '=' := by simpa using hequals
    simp [hv, hd]
  | equals v => simp [hv]

lemma addShorts_waiting (ho : o ∈ p.options) (hc : o.short? = some c) (hv : o.takesValue) :
    addShorts p l [c] = .ok (l, some o) := by
  rw [addShorts, Opt.find?_short ho hc]
  simp [hv]

lemma exists_joined (c : Char) (t : Text) : ∃ v, Joined (c :: t) v := by
  by_cases hc : c = '='
  · exact ⟨t, hc ▸ .equals t⟩
  · exact ⟨c :: t, .plain (by simp) (by simpa using hc)⟩

/-- Letters are read just if they may be written so and what they give fits. -/
theorem addShorts_eq_ok_iff (hl : l.Fits p) {t : Text} {w : Option Opt} :
    addShorts p l t = .ok (l', w) ↔ ∃ os, Letters p t os w ∧ l' = l ++ ⟨os, []⟩ ∧ l'.Fits p := by
  induction t generalizing l with
  | nil =>
    constructor
    · intro h
      cases h
      exact ⟨[], .nil, (Given.append_empty _).symm, hl⟩
    · rintro ⟨os,hletters,rfl,-⟩
      cases hletters
      rw [l.append_empty]
      rfl
  | cons c t ih =>
    constructor
    · intro h
      cases hfind : p.options.find? (·.short? = some c) with
      | none =>
        rw [addShorts, hfind] at h
        cases h
      | some o =>
        have ho := List.mem_of_find?_eq_some hfind
        have hc : o.short? = some c := by simpa using List.find?_some hfind
        cases hv : o.takesValue with
        | false =>
          rw [addShorts_flag ho hc hv] at h
          obtain ⟨l₁,hadd,h⟩ := bind_eq_ok_iff.mp h
          obtain ⟨rfl,hfits⟩ := (addOption_eq_ok_iff hl).mp hadd
          obtain ⟨os,hletters,rfl,hfits'⟩ := (ih hfits).mp h
          exact ⟨_, .flag ho hc hv hletters, Given.append_assoc .., hfits'⟩
        | true =>
          cases t with
          | nil =>
            rw [addShorts_waiting ho hc hv] at h
            cases h
            exact ⟨[], .waiting ho hc hv, (Given.append_empty _).symm, hl⟩
          | cons d t =>
            obtain ⟨v,hjoined⟩ := exists_joined d t
            rw [addShorts_value ho hc hv hjoined] at h
            obtain ⟨l₁,hadd,h⟩ := bind_eq_ok_iff.mp h
            cases h
            exact ⟨_, .value ho hc hv hjoined, (addOption_eq_ok_iff hl).mp hadd⟩
    · rintro ⟨os,hletters,hl',hfits⟩
      cases hletters with
      | @flag o _ _ os _ ho hc hv h =>
        -- the flag fits, since it fits together with what follows it
        have happend : l' = l ++ ⟨[(o, [])], []⟩ ++ ⟨os, []⟩ := by
          rw [hl', Given.append_assoc]
          rfl
        have hflag : (l ++ ⟨[(o, [])], []⟩).Fits p := (happend ▸ hfits).left
        rw [addShorts_flag ho hc hv]
        refine bind_eq_ok_iff.mpr ⟨_, (addOption_eq_ok_iff hl).mpr ⟨rfl, hflag⟩, ?_⟩
        exact (ih hflag).mpr ⟨os, h, happend, hfits⟩
      | value ho hc hv h =>
        rw [addShorts_value ho hc hv h]
        exact bind_eq_ok_iff.mpr ⟨l', (addOption_eq_ok_iff hl).mpr ⟨hl', hfits⟩, rfl⟩
      | waiting ho hc hv => rw [addShorts_waiting ho hc hv, hl', Given.append_empty]

end Letters

end ESharp.CommandLine
