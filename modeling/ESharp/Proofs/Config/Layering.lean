import ESharp.Proofs.Config.Leaves

/-!
# Layers of a configuration

Main statement: when files and overrides say nothing but fitting values of leaf keys, each key has the
value of its last override, else that of the last file that has it, else its default. Only the names
that come out of this are checked, so a clash may come from two layers, and it does not matter where an
override stands between the files.
-/

namespace ESharp.Config

namespace Layer

def isOverride : Layer → Bool
  | override .. => true
  | _ => false

/-- What the file of a layer assigns: nothing if there is none to read. -/
def fileEntries (d : Directory) : Layer → List (Leaf × Setting)
  | file name | optional name =>
    match readFile d name with
    | .ok fields => fieldEntries fields
    | .error _ => []
  | override .. => []

/-- What an override assigns. -/
def overrideEntries : Layer → List (Leaf × Setting)
  | override key value => ((Leaf.ofKey? key).map (·, value)).toList
  | _ => []

/-- Whether a layer says fitting values of leaf keys and nothing else. A file that may be missing can
be missing. -/
def isProper (d : Directory) : Layer → Bool
  | file name =>
    match readFile d name with
    | .ok fields => fields.all isLeafRecord
    | .error _ => false
  | optional name =>
    match readFile d name with
    | .ok fields => fields.all isLeafRecord
    | .error e => e ≠ .badSyntax
  | override key value => (Leaf.ofKey? key).any (·.fits value)

end Layer

/-- The setting that wins a key. -/
def winner (d : Directory) (layers : List Layer) (l : Leaf) : Setting :=
  (((lastValue? l (layers.flatMap Layer.overrideEntries)).or
    (lastValue? l (layers.flatMap (Layer.fileEntries d)))).or (defaults.leaf? l)).getD .nil

/-- The configuration that layers stand for. -/
def effective (d : Directory) (layers : List Layer) : Config := ofLeaves (winner d layers)

section Files
variable {d : Directory}

lemma fits_of_mem_fieldEntries {fields : List (Text × Setting)} (h : fields.all isLeafRecord)
    {e : Leaf × Setting} (he : e ∈ fieldEntries fields) : e.1.fits e.2 := by
  obtain ⟨r,hr,he⟩ := List.mem_flatMap.mp he
  obtain ⟨origin,inner,hinner,-,hfits⟩ := isLeafRecord_iff.mp (List.all_eq_true.mp h r hr)
  obtain ⟨f,hf,he⟩ := List.mem_filterMap.mp he
  rw [hinner] at hf
  obtain ⟨l,hl,hfit⟩ := hfits f hf
  rw [hl] at he
  cases he
  exact hfit

lemma fits_of_mem_fileEntries {layer : Layer} (h : layer.isProper d) {e : Leaf × Setting}
    (he : e ∈ layer.fileEntries d) : e.1.fits e.2 := by
  cases layer with
  | override key value => simp [Layer.fileEntries] at he
  | _ name =>
    simp only [Layer.isProper, Layer.fileEntries] at h he
    split at he
    · rename_i fields hread
      rw [hread] at h
      exact fits_of_mem_fieldEntries h he
    · simp at he

/-- One layer adds what its file assigns and does not stop the loading. -/
lemma addFiles_cons {layer : Layer} (h : layer.isProper d) (rest : List Layer) (s : Setting) :
    ∃ t, addFiles d (layer :: rest) s = addFiles d rest t ∧
      ∀ l, t.leaf? l = (lastValue? l (layer.fileEntries d)).or (s.leaf? l) := by
  cases layer with
  | override key value => exact ⟨s, rfl, fun l => rfl⟩
  | file name =>
    simp only [Layer.isProper] at h
    split at h
    · rename_i fields hread
      refine ⟨addFields s fields, by rw [addFiles, hread]; rfl, fun l => ?_⟩
      rw [leaf?_addFields h, Layer.fileEntries, hread]
    · simp at h
  | optional name =>
    simp only [Layer.isProper] at h
    split at h
    · rename_i fields hread
      refine ⟨addFields s fields, by rw [addFiles, hread], fun l => ?_⟩
      rw [leaf?_addFields h, Layer.fileEntries, hread]
    · rename_i e hread
      have he : e ≠ .badSyntax := by simpa using h
      refine ⟨s, ?_, fun l => ?_⟩
      · rw [addFiles, hread]
        cases e <;> first | rfl | exact absurd rfl he
      · rw [Layer.fileEntries, hread]
        rfl

/-- All files are read, and each key has the value of the last file that has it. -/
theorem addFiles_eq_ok {layers : List Layer} (h : layers.all (Layer.isProper d)) (s : Setting) :
    ∃ t, addFiles d layers s = .ok t ∧
      ∀ l, t.leaf? l = (lastValue? l (layers.flatMap (Layer.fileEntries d))).or (s.leaf? l) := by
  induction layers generalizing s with
  | nil => exact ⟨s, rfl, fun l => rfl⟩
  | cons layer rest ih =>
    obtain ⟨hlayer,hrest⟩ : layer.isProper d ∧ rest.all (Layer.isProper d) := by simpa using h
    obtain ⟨t,hstep,ht⟩ := addFiles_cons hlayer rest s
    obtain ⟨u,hu,hleaf⟩ := ih hrest t
    refine ⟨u, hstep.trans hu, fun l => ?_⟩
    rw [hleaf, ht, List.flatMap_cons, lastValue?_append, Option.or_assoc]

end Files

section Overrides
variable {d : Directory}

/-- An override with the steps of its key. -/
def stepped (e : Leaf × Setting) : List Setting.KeyStep × Setting := (e.1.steps, e.2)

/-- The overrides are those that the layers assign, and none has a faulty key. -/
lemma overrides_eq_ok {layers : List Layer} (h : layers.all (Layer.isProper d)) :
    overrides layers = .ok ((layers.flatMap Layer.overrideEntries).map stepped) := by
  induction layers with
  | nil => rfl
  | cons layer rest ih =>
    obtain ⟨hlayer,hrest⟩ : layer.isProper d ∧ rest.all (Layer.isProper d) := by simpa using h
    cases layer with
    | override key value =>
      obtain ⟨l,hl,-⟩ := (Option.any_eq_true _ _).mp hlayer
      have hkey : Setting.key? key = some l.steps := by
        rw [← Leaf.eq_key_of_ofKey? hl]
        exact l.key?_key
      rw [overrides, hkey, List.flatMap_cons, Layer.overrideEntries, hl, ih hrest]
      rfl
    | _ name => exact ih hrest

lemma fits_of_mem_overrideEntries {layer : Layer} (h : layer.isProper d) {e : Leaf × Setting}
    (he : e ∈ layer.overrideEntries) : e.1.fits e.2 := by
  cases layer with
  | override key value =>
    obtain ⟨l,hl,hfits⟩ := (Option.any_eq_true _ _).mp h
    rw [Layer.overrideEntries, hl] at he
    obtain rfl : e = (l, value) := by simpa using he
    exact hfits
  | _ name => simp [Layer.overrideEntries] at he

lemma fits_of_mem_flatMap_overrideEntries {layers : List Layer} (h : layers.all (Layer.isProper d))
    {e : Leaf × Setting} (he : e ∈ layers.flatMap Layer.overrideEntries) : e.1.fits e.2 := by
  obtain ⟨layer,hmem,he⟩ := List.mem_flatMap.mp he
  exact fits_of_mem_overrideEntries (List.all_eq_true.mp h layer hmem) he

/-- Overrides that a later one replaces can be dropped: each key gets its last value. -/
theorem leaf?_lastOverrides {es : List (Leaf × Setting)} (h : ∀ e ∈ es, e.1.fits e.2) (s : Setting)
    (l : Leaf) :
    ((lastOverrides (es.map stepped)).foldl (fun s o => Setting.assign o.2 o.1 s) s).leaf? l =
      (lastValue? l es).or (s.leaf? l) := by
  induction es generalizing s with
  | nil => rfl
  | cons e es ih =>
    obtain ⟨he,hes⟩ := List.forall_mem_cons.mp h
    rw [List.map_cons, lastOverrides, lastValue?_cons, Option.or_assoc]
    by_cases hlater : (es.map stepped).any (·.1 = (stepped e).1)
    · rw [if_pos hlater, ih hes]
      by_cases hl : l = e.1
      · obtain ⟨v,hv⟩ : ∃ v, lastValue? l es = some v := by
          obtain ⟨o,ho,hkey⟩ := List.any_eq_true.mp hlater
          obtain ⟨f,hf,rfl⟩ := List.mem_map.mp ho
          have hfe : f.1 = e.1 := Leaf.steps_injective (of_decide_eq_true hkey)
          rw [← Option.ne_none_iff_exists']
          exact fun hnone => lastValue?_eq_none_iff.mp hnone f hf (hfe.trans hl.symm)
        rw [hv, Option.some_or, Option.some_or]
      · rw [if_neg hl, Option.none_or]
    · rw [if_neg hlater, List.foldl_cons, ih hes, stepped, Setting.leaf?_assign he]
      split_ifs <;> rfl

end Overrides

section Winner
variable {d : Directory} {layers : List Layer}

lemma leaf?_defaults (l : Leaf) : ∃ v, defaults.leaf? l = some v ∧ l.fits v := by
  cases l <;> exact ⟨_, rfl, rfl⟩

lemma winner_eq (d : Directory) (layers : List Layer) (l : Leaf) :
    ((lastValue? l (layers.flatMap Layer.overrideEntries)).or
      (lastValue? l (layers.flatMap (Layer.fileEntries d)))).or (defaults.leaf? l) =
        some (winner d layers l) := by
  obtain ⟨v,hv,-⟩ := leaf?_defaults l
  rw [winner, hv]
  simp

theorem fits_winner (h : layers.all (Layer.isProper d)) (l : Leaf) : l.fits (winner d layers l) := by
  have hw := winner_eq d layers l
  rw [Option.or_eq_some_iff, Option.or_eq_some_iff] at hw
  rcases hw with (hw | ⟨-,hw⟩) | ⟨-,hw⟩
  · exact fits_of_mem_flatMap_overrideEntries h (mem_of_lastValue? hw)
  · obtain ⟨layer,hmem,he⟩ := List.mem_flatMap.mp (mem_of_lastValue? hw)
    exact fits_of_mem_fileEntries (List.all_eq_true.mp h layer hmem) he
  · obtain ⟨v,hv,hfits⟩ := leaf?_defaults l
    rw [hv] at hw
    cases hw
    exact hfits

/-- All layers together give each key its winner. -/
theorem settings_eq_ok (h : layers.all (Layer.isProper d)) :
    ∃ s, settings d layers = .ok s ∧ ∀ l, s.leaf? l = some (winner d layers l) := by
  obtain ⟨t,ht,hfiles⟩ := addFiles_eq_ok h defaults
  have hfits : ∀ e ∈ layers.flatMap Layer.overrideEntries, e.1.fits e.2 :=
    fun _ he => fits_of_mem_flatMap_overrideEntries h he
  refine ⟨_, by rw [settings, overrides_eq_ok h, ht]; rfl, fun l => ?_⟩
  rw [leaf?_lastOverrides hfits, hfiles, ← Option.or_assoc, winner_eq]

/-- What is loaded is the effective configuration, once it is checked. -/
theorem load_eq_check (h : layers.all (Layer.isProper d)) :
    load d layers = check (effective d layers) := by
  obtain ⟨s,hs,hleaf⟩ := settings_eq_ok h
  rw [load, hs]
  simp only [ofSetting_pick (fits_winner h) hleaf]
  rfl

end Winner

section Order
variable (d : Directory)

lemma overrides_filter (layers : List Layer) :
    overrides (layers.filter Layer.isOverride) = overrides layers := by
  induction layers with
  | nil => rfl
  | cons layer rest ih =>
    cases layer with
    | override key value =>
      rw [List.filter_cons_of_pos rfl, overrides, overrides, ih]
    | _ name =>
      rw [List.filter_cons_of_neg (by simp [Layer.isOverride]), ih]
      rfl

lemma addFiles_filter (layers : List Layer) (s : Setting) :
    addFiles d (layers.filter fun l => !l.isOverride) s = addFiles d layers s := by
  induction layers generalizing s with
  | nil => rfl
  | cons layer rest ih =>
    cases layer with
    | override key value =>
      rw [List.filter_cons_of_neg (by simp [Layer.isOverride]), ih]
      rfl
    | file name =>
      rw [List.filter_cons_of_pos (by simp [Layer.isOverride]), addFiles, addFiles]
      simp only [ih]
    | optional name =>
      rw [List.filter_cons_of_pos (by simp [Layer.isOverride]), addFiles, addFiles]
      simp only [ih]

/-- Only the order among the overrides and the order among the files count. -/
theorem load_congr {layers other : List Layer}
    (ho : other.filter Layer.isOverride = layers.filter Layer.isOverride)
    (hf : other.filter (fun l => !l.isOverride) = layers.filter fun l => !l.isOverride) :
    load d other = load d layers := by
  have hover : overrides other = overrides layers := by
    rw [← overrides_filter other, ho, overrides_filter]
  have hfiles : addFiles d other defaults = addFiles d layers defaults := by
    rw [← addFiles_filter d other, hf, addFiles_filter]
  rw [load, load, settings, settings, hover, hfiles]

end Order

/-- The verdict on a configuration, name by name. -/
lemma check_eq_ite (c : Config) :
    check c =
      if ¬ Identifier.isValid c.program.className then
        .error (.invalidIdentifier .className c.program.className)
      else if ¬ Identifier.isValid c.program.entryPoint then
        .error (.invalidIdentifier .entryPoint c.program.entryPoint)
      else if ¬ Identifier.isValid c.program.assertHelper then
        .error (.invalidIdentifier .assertHelper c.program.assertHelper)
      else if Identifier.declared c.program.entryPoint =
          Identifier.declared c.program.className then
        .error (.invalidLayout .entryPoint c.program.entryPoint)
      else if Identifier.declared c.program.assertHelper =
          Identifier.declared c.program.className then
        .error (.invalidLayout .assertHelper c.program.assertHelper)
      else .ok c := by
  unfold check badName? clash?
  split_ifs <;> simp_all

/-- Layers that assign fitting values are loaded as the values that win. The configuration is accepted
exactly when its names are identifiers and no method declares the name of the class; else the first
name that is no identifier is told, or the first method with the name of the class. Overrides may be
moved past files. -/
theorem load_proper_layers (d : Directory) (layers : List Layer)
    (h : layers.all (Layer.isProper d)) :
    let c := effective d layers
    let p := c.program
    (load d layers =
        if ¬ Identifier.isValid p.className then .error (.invalidIdentifier .className p.className)
        else if ¬ Identifier.isValid p.entryPoint then
          .error (.invalidIdentifier .entryPoint p.entryPoint)
        else if ¬ Identifier.isValid p.assertHelper then
          .error (.invalidIdentifier .assertHelper p.assertHelper)
        else if Identifier.declared p.entryPoint = Identifier.declared p.className then
          .error (.invalidLayout .entryPoint p.entryPoint)
        else if Identifier.declared p.assertHelper = Identifier.declared p.className then
          .error (.invalidLayout .assertHelper p.assertHelper)
        else .ok c) ∧
      (load d layers = .ok c ↔
        (Identifier.isValid p.className ∧ Identifier.isValid p.entryPoint ∧
          Identifier.isValid p.assertHelper) ∧
        Identifier.declared p.entryPoint ≠ Identifier.declared p.className ∧
        Identifier.declared p.assertHelper ≠ Identifier.declared p.className) ∧
      ∀ other : List Layer, other.filter Layer.isOverride = layers.filter Layer.isOverride →
        other.filter (fun l => !l.isOverride) = layers.filter (fun l => !l.isOverride) →
        load d other = load d layers := by
  intro c p
  have hload := (load_eq_check h).trans (check_eq_ite c)
  refine ⟨hload, ?_, fun other ho hf => load_congr d ho hf⟩
  rw [hload]
  split_ifs <;> simp_all [p]

/-- The class has its name from an override that stands before the file with the entry point. -/
theorem load_proper_layers_clash :
    let d : Directory := Directory.add {} "a".toList
      (.text "[program]\nentry_point='@X'".toList) false
    let layers := [Layer.override "program.class_name".toList (plain "Y".toList),
      .override "program.class_name".toList (plain "X".toList), .file "a".toList,
      .optional "b".toList]
    layers.all (Layer.isProper d) ∧ load d layers = .error (.invalidLayout .entryPoint "@X".toList) := by
  intro d layers
  have h : layers.all (Layer.isProper d) := by decide +kernel
  exact ⟨h, (load_proper_layers d layers h).1.trans (by decide +kernel)⟩

end ESharp.Config
