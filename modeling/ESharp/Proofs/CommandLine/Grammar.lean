import ESharp.Proofs.CommandLine.Options

/-!
# The grammar of command lines

A command line is a list of words. Some of them hold options, one can be the value of the option before it,
and after two dashes there are only paths. Main statement: the command lines that are read as a translation
are those that the grammar has.
-/

namespace ESharp.CommandLine

/-- A word that is no option. -/
def Bare (a : Text) : Prop := a.head? = some '-' → a = ['-']

/-- A word of options: two dashes and a name, or one dash and letters. -/
inductive Word (p : Scope) : Text → List (Opt × Text) → Option Opt → Prop
  | long {t : Text} {os : List (Opt × Text)} {w : Option Opt} (h : Long p t os w) :
      Word p ('-' :: '-' :: t) os w
  | short {c : Char} {t : Text} {os : List (Opt × Text)} {w : Option Opt}
      (h : Letters p (c :: t) os w) : Word p ('-' :: c :: t) os w

/-- Words up to their end or up to a command, with what they give. The first one may be the value that
an option is waiting for. -/
inductive Words (p : Scope) (isCommand : Text → Bool) :
    Option Opt → List Text → Given → Option (Text × List Text) → Prop
  | done : Words p isCommand none [] {} none
  | command {name : Text} {rest : List Text} (h : isCommand name) :
      Words p isCommand none (name :: rest) {} (some (name, rest))
  | escape (paths : List Text) : Words p isCommand none (['-', '-'] :: paths) ⟨[], paths⟩ none
  | path {a : Text} {rest : List Text} {g : Given} {tail : Option (Text × List Text)} (ha : Bare a)
      (hcommand : isCommand a = false) (h : Words p isCommand none rest g tail) :
      Words p isCommand none (a :: rest) (⟨[], [a]⟩ ++ g) tail
  | option {a : Text} {os : List (Opt × Text)} {w : Option Opt} {rest : List Text} {g : Given}
      {tail : Option (Text × List Text)} (ha : Word p a os w) (h : Words p isCommand w rest g tail) :
      Words p isCommand none (a :: rest) (⟨os, []⟩ ++ g) tail
  | value {o : Opt} {v : Text} {rest : List Text} {g : Given} {tail : Option (Text × List Text)}
      (hv : Bare v) (h : Words p isCommand none rest g tail) :
      Words p isCommand (some o) (v :: rest) (⟨[(o, v)], []⟩ ++ g) tail

section Reading
variable {p : Scope} {isCommand : Text → Bool} {l : Given} {a t : Text} {c : Char} {rest : List Text}
  {os : List (Opt × Text)} {w : Option Opt} {g : Given} {tail : Option (Text × List Text)} {r : Reading}

lemma not_bare_iff : ¬Bare a ↔ ∃ c t, a = '-' :: c :: t := by
  unfold Bare
  constructor
  · intro h
    obtain ⟨hhead,hne⟩ := Classical.not_imp.mp h
    obtain ⟨t,rfl⟩ := List.head?_eq_some_iff.mp hhead
    cases t with
    | nil => exact absurd rfl hne
    | cons c t => exact ⟨c, t, rfl⟩
  · rintro ⟨c,t,rfl⟩ h
    cases h rfl

/-- The words that are no options are those that are taken for a value or a path. -/
lemma bare_iff : Bare a ↔ (isEscape a || isLong a || isShort a) = false := by
  rw [← not_iff_not, not_bare_iff, Bool.not_eq_false]
  constructor
  · rintro ⟨c,t,rfl⟩
    by_cases hc : c = '-'
    · subst hc
      cases t <;> rfl
    · simp [isShort, hc]
  · intro h
    rw [Bool.or_eq_true, Bool.or_eq_true] at h
    rcases h with (h | h) | h
    · exact ⟨'-', [], by simpa [isEscape] using h⟩
    · unfold isLong at h
      split at h
      · exact ⟨_, _, rfl⟩
      · simp at h
    · unfold isShort at h
      split at h
      · exact ⟨_, _, rfl⟩
      · simp at h

lemma Long.ne_nil (h : Long p t os w) : t ≠ [] := by
  cases h with
  | @flag o ho hv => exact o.long_ne_nil
  | value v ho hv => simp
  | @waiting o ho hv => exact o.long_ne_nil

lemma Letters.ne_dash (h : Letters p (c :: t) os w) : c ≠ '-' := by
  rintro rfl
  cases h with
  | flag ho hc hv h => exact Opt.short?_ne_dash _ hc
  | value ho hc hv h => exact Opt.short?_ne_dash _ hc
  | waiting ho hc hv => exact Opt.short?_ne_dash _ hc

lemma Word.not_bare (h : Word p a os w) : ¬Bare a := by
  intro hbare
  cases h with
  | long h => cases hbare rfl
  | short h => cases hbare rfl

lemma Word.ne_escape (h : Word p a os w) : a ≠ ['-', '-'] := by
  rintro rfl
  cases h with
  | long h => exact h.ne_nil rfl
  | short h => exact h.ne_dash rfl

lemma readScope_value (hl : l.Fits p) {o : Opt} :
    readScope p isCommand (some o) false l (a :: rest) = .ok r ↔
      Bare a ∧ ∃ l', (l' = l ++ ⟨[(o, a)], []⟩ ∧ l'.Fits p) ∧
        readScope p isCommand none false l' rest = .ok r := by
  rw [bare_iff, readScope]
  cases hword : isEscape a || isLong a || isShort a with
  | true => simp
  | false => simp [bind_eq_ok_iff, addOption_eq_ok_iff hl]

lemma readScope_path (hl : l.Fits p) (ha : Bare a) (hcommand : isCommand a = false) :
    readScope p isCommand none false l (a :: rest) = .ok r ↔
      ∃ l', (l' = l ++ ⟨[], [a]⟩ ∧ l'.Fits p) ∧ readScope p isCommand none false l' rest = .ok r := by
  rw [bare_iff] at ha
  simp only [Bool.or_eq_false_iff] at ha
  simp [readScope, hcommand, ha, bind_eq_ok_iff, addPath_eq_ok_iff hl]

lemma word_long_iff : Word p ('-' :: '-' :: t) os w ↔ Long p t os w := by
  constructor
  · intro h
    cases h with
    | long h => exact h
    | short h => exact absurd rfl h.ne_dash
  · exact .long

lemma word_short_iff (hc : c ≠ '-') :
    Word p ('-' :: c :: t) os w ↔ Letters p (c :: t) os w := by
  constructor
  · intro h
    cases h with
    | long h => exact absurd rfl hc
    | short h => exact h
  · exact .short

/-- A word of options is read by its name or by its letters, and the reading goes on behind it. -/
lemma exists_addWord (hl : l.Fits p) (ha : ¬Bare a) (hescape : a ≠ ['-', '-'])
    (hcommand : isCommand a = false) (rest : List Text) :
    ∃ add : Except Stop (Given × Option Opt),
      (readScope p isCommand none false l (a :: rest) =
        add >>= fun x => readScope p isCommand x.2 false x.1 rest) ∧
      ∀ l' w, add = .ok (l', w) ↔ ∃ os, Word p a os w ∧ l' = l ++ ⟨os, []⟩ ∧ l'.Fits p := by
  obtain ⟨c,t,rfl⟩ := not_bare_iff.mp ha
  have hnot : isEscape ('-' :: c :: t) = false := by simpa [isEscape] using hescape
  by_cases hc : c = '-'
  · subst hc
    have hlong : isLong ('-' :: '-' :: t) = true := by
      cases t with
      | nil => exact absurd rfl hescape
      | cons d t => rfl
    refine ⟨addLong p l t, by simp [readScope, hcommand, hlong, hnot], fun l' w => ?_⟩
    simp only [word_long_iff, addLong_eq_ok_iff hl]
  · have hlong : isLong ('-' :: c :: t) = false := by simp [isLong, hc]
    have hshort : isShort ('-' :: c :: t) = true := by simp [isShort, hc]
    refine ⟨addShorts p l (c :: t), by simp [readScope, hcommand, hlong, hnot, hshort], fun l' w => ?_⟩
    simp only [word_short_iff hc, addShorts_eq_ok_iff hl]

lemma readScope_escaped (hl : l.Fits p) (paths : List Text) :
    readScope p isCommand none true l paths = .ok r ↔
      r = ⟨l ++ ⟨[], paths⟩, none⟩ ∧ r.given.Fits p := by
  induction paths generalizing l with
  | nil =>
    rw [Given.append_empty, readScope]
    constructor
    · intro h
      cases h
      exact ⟨rfl, hl⟩
    · rintro ⟨rfl,-⟩
      rfl
  | cons a paths ih =>
    have happend : l ++ ⟨[], a :: paths⟩ = l ++ ⟨[], [a]⟩ ++ ⟨[], paths⟩ := by
      rw [Given.append_assoc]
      rfl
    rw [readScope, bind_eq_ok_iff, happend]
    constructor
    · rintro ⟨l₁,hadd,h⟩
      obtain ⟨rfl,hfits⟩ := (addPath_eq_ok_iff hl).mp hadd
      exact (ih hfits).mp h
    · rintro ⟨rfl,hfits⟩
      exact ⟨_, (addPath_eq_ok_iff hl).mpr ⟨rfl, hfits.left⟩, (ih hfits.left).mpr ⟨rfl, hfits⟩⟩

theorem Words.readScope_eq {args : List Text} (hcommands : ∀ a, isCommand a → Bare a)
    (h : Words p isCommand w args g tail)
    (hfits : (l ++ g).Fits p) : readScope p isCommand w false l args = .ok ⟨l ++ g, tail⟩ := by
  have hnot : ∀ {a}, ¬Bare a → isCommand a = false := by
    intro a ha
    exact Bool.eq_false_iff.mpr fun h => ha (hcommands a h)
  induction h generalizing l with
  | done =>
    rw [Given.append_empty]
    rfl
  | command h =>
    rw [Given.append_empty]
    simp [readScope, h]
  | escape paths =>
    have hescape : isCommand ['-', '-'] = false := hnot (not_bare_iff.mpr ⟨'-', [], rfl⟩)
    rw [readScope, hescape]
    exact (readScope_escaped hfits.left paths).mpr ⟨rfl, hfits⟩
  | path ha hcommand h ih =>
    rw [← Given.append_assoc] at hfits ⊢
    exact (readScope_path hfits.left.left ha hcommand).mpr ⟨_, ⟨rfl, hfits.left⟩, ih hfits⟩
  | option ha h ih =>
    rw [← Given.append_assoc] at hfits ⊢
    obtain ⟨add,hstep,hadd⟩ := exists_addWord hfits.left.left ha.not_bare ha.ne_escape (hnot ha.not_bare) _
    rw [hstep]
    exact bind_eq_ok_iff.mpr ⟨_, (hadd _ _).mpr ⟨_, ha, rfl, hfits.left⟩, ih hfits⟩
  | value hv h ih =>
    rw [← Given.append_assoc] at hfits ⊢
    exact (readScope_value hfits.left.left).mpr ⟨hv, _, ⟨rfl, hfits.left⟩, ih hfits⟩

theorem exists_words_of_readScope {args : List Text} (hl : l.Fits p)
    (h : readScope p isCommand w false l args = .ok r) :
    ∃ g, Words p isCommand w args g r.rest ∧ r.given = l ++ g ∧ r.given.Fits p := by
  induction args generalizing w l with
  | nil =>
    cases w with
    | none =>
      cases h
      exact ⟨{}, .done, (Given.append_empty _).symm, hl⟩
    | some o => cases h
  | cons a rest ih =>
    cases w with
    | some o =>
      obtain ⟨ha,l₁,⟨rfl,hfits⟩,h⟩ := (readScope_value hl).mp h
      obtain ⟨g,hwords,hgiven,hr⟩ := ih hfits h
      exact ⟨_, .value ha hwords, by rw [hgiven, Given.append_assoc], hr⟩
    | none =>
      by_cases hcommand : isCommand a
      · simp only [readScope, hcommand] at h
        cases h
        exact ⟨{}, .command hcommand, (Given.append_empty _).symm, hl⟩
      rw [Bool.not_eq_true] at hcommand
      by_cases hescape : a = ['-', '-']
      · subst hescape
        rw [readScope, hcommand] at h
        obtain ⟨rfl,hfits⟩ := (readScope_escaped hl rest).mp h
        exact ⟨_, .escape rest, rfl, hfits⟩
      by_cases ha : Bare a
      · obtain ⟨l₁,⟨rfl,hfits⟩,h⟩ := (readScope_path hl ha hcommand).mp h
        obtain ⟨g,hwords,hgiven,hr⟩ := ih hfits h
        exact ⟨_, .path ha hcommand hwords, by rw [hgiven, Given.append_assoc], hr⟩
      · obtain ⟨add,hstep,hadd⟩ := exists_addWord hl ha hescape hcommand rest
        rw [hstep] at h
        obtain ⟨⟨l₁,w⟩,hword,h⟩ := bind_eq_ok_iff.mp h
        obtain ⟨os,hos,rfl,hfits⟩ := (hadd _ _).mp hword
        obtain ⟨g,hwords,hgiven,hr⟩ := ih hfits h
        exact ⟨_, .option hos hwords, by rw [hgiven, Given.append_assoc], hr⟩

lemma Words.tail_eq_none {args : List Text} (h : Words p (fun _ => false) w args g tail) :
    tail = none := by
  induction h with
  | done | escape => rfl
  | command h => cases h
  | path _ _ _ ih | option _ _ ih | value _ _ ih => exact ih

end Reading

/-- The words that end the common options. -/
def isVerb (t : Text) : Bool := t = helpWord ∨ (Verb.ofName? t).isSome

/-- The translation that options before and after the command ask for. Those after it count more. -/
def translation (before after : Given) (path : Text) : Invocation where
  config := (after.value? .config).or (before.value? .config)
  className := (after.value? .className).or (before.value? .className)
  verbose := before.has .verbose || after.has .verbose
  command := .translate path (after.value? .output) ((after.value? .format).getD "csharp".toList)

/-- A command line that asks for a translation: common options, the command, and then its options and one
path in any order. -/
inductive TranslationLine : List Text → Invocation → Prop
  | mk {args rest : List Text} {before after : Given} {path : Text}
      (hbefore : Words ⟨none⟩ isVerb none args before (some (Verb.translate.name, rest)))
      (hfits : before.Fits ⟨none⟩)
      (hafter : Words ⟨some .translate⟩ (fun _ => false) none rest after none)
      (hfits' : after.Fits ⟨some .translate⟩) (hpath : after.paths = [path]) :
      TranslationLine args (translation before after path)

lemma Verb.name_of_ofName? {t : Text} {v : Verb} (h : Verb.ofName? t = some v) : v.name = t := by
  simpa using List.find?_some h

lemma bare_of_isVerb {t : Text} (h : isVerb t) : Bare t := by
  rcases of_decide_eq_true h with rfl | h
  · intro hhead
    exact absurd hhead (by decide)
  · obtain ⟨v,hv⟩ := Option.isSome_iff_exists.mp h
    rw [← Verb.name_of_ofName? hv]
    cases v <;> exact fun hhead => absurd hhead (by decide)

section Translation
variable {before after : Given} {rest : List Text} {path : Text}

lemma readVerb_translate (hpath : after.paths = [path])
    (hread : readScope ⟨some .translate⟩ (fun _ => false) none false {} rest = .ok ⟨after, none⟩) :
    readVerb before .translate rest = .ok (translation before after path) := by
  obtain ⟨os,ps⟩ := after
  obtain rfl : ps = [path] := hpath
  rw [readVerb, hread]
  rfl

lemma exists_of_command {v : Verb} {g : Given} {output : Option Text} {format : Text}
    (h : command v g = .ok (.translate path output format)) :
    v = .translate ∧ ∃ more, g.paths = path :: more := by
  unfold command at h
  split at h <;> cases h
  exact ⟨rfl, _, by assumption⟩

lemma exists_of_readVerb {v : Verb} {i : Invocation} {output : Option Text} {format : Text}
    (h : readVerb before v rest = .ok i) (hcommand : i.command = .translate path output format) :
    v = .translate ∧ ∃ after, Words ⟨some .translate⟩ (fun _ => false) none rest after none ∧
      after.Fits ⟨some .translate⟩ ∧ after.paths = [path] ∧ i = translation before after path := by
  have hwhole := h
  obtain ⟨⟨after,tail⟩,hread,h⟩ := bind_eq_ok_iff.mp h
  obtain ⟨c,hc,h⟩ := bind_eq_ok_iff.mp h
  cases h
  obtain rfl : c = .translate path output format := hcommand
  obtain ⟨rfl,more,hpaths⟩ := exists_of_command hc
  obtain ⟨g,hafter,hgiven,hfits⟩ := exists_words_of_readScope (Given.fits_empty _) hread
  obtain rfl : after = g := hgiven
  obtain rfl : tail = none := hafter.tail_eq_none
  have hpath : after.paths = [path] := by
    have hlength := hfits.paths
    rw [hpaths] at hlength ⊢
    obtain rfl : more = [] := List.length_eq_zero_iff.mp (Nat.le_zero.mp (Nat.le_of_succ_le_succ hlength))
    rfl
  refine ⟨rfl, after, hafter, hfits, hpath, ?_⟩
  rw [readVerb_translate hpath hread] at hwhole
  exact (Except.ok.inj hwhole).symm

lemma parse_of_readScope {args : List Text} {v : Verb}
    (hread : readScope ⟨none⟩ isVerb none false {} args = .ok ⟨before, some (v.name, rest)⟩) :
    parse args = readVerb before v rest := by
  change (readScope ⟨none⟩ isVerb none false {} args >>= _) = _
  rw [hread]
  cases v <;> rfl

lemma exists_of_parse {args : List Text} {i : Invocation} (h : parse args = .ok i) :
    ∃ before v rest,
      readScope ⟨none⟩ isVerb none false {} args = .ok ⟨before, some (v.name, rest)⟩ ∧
      readVerb before v rest = .ok i := by
  obtain ⟨⟨before,tail⟩,hread,h⟩ := bind_eq_ok_iff.mp h
  cases tail with
  | none => cases h
  | some t =>
    obtain ⟨name,rest⟩ := t
    cases hname : Verb.ofName? name with
    | none => simp [hname] at h
    | some v =>
      obtain rfl := Verb.name_of_ofName? hname
      simp only [hname] at h
      exact ⟨before, v, rest, hread, h⟩

/-- The command lines that are read as a translation are those of the grammar. -/
theorem translationLine_iff {args : List Text} {i : Invocation} :
    TranslationLine args i ↔
      parse args = .ok i ∧ ∃ path output format, i.command = .translate path output format := by
  constructor
  · rintro ⟨hbefore,hfits,hafter,hfits',hpath⟩
    refine ⟨?_, _, _, _, rfl⟩
    rw [parse_of_readScope (hbefore.readScope_eq (l := {}) (fun _ => bare_of_isVerb) hfits)]
    exact readVerb_translate hpath (hafter.readScope_eq (l := {}) (by simp) hfits')
  · rintro ⟨h,path,output,format,hcommand⟩
    obtain ⟨before,v,rest,hread,h⟩ := exists_of_parse h
    obtain ⟨_,hbefore,rfl,hfits⟩ := exists_words_of_readScope (Given.fits_empty _) hread
    obtain ⟨rfl,after,hafter,hfits',hpath,rfl⟩ := exists_of_readVerb h hcommand
    exact ⟨hbefore, hfits, hafter, hfits', hpath⟩

end Translation

end ESharp.CommandLine
