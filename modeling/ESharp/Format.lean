import ESharp.Listing.Json
import ESharp.Listing.Yaml

/-!
# Output formats

A format writes a listing as a text, and a registry finds formats by name. Registering a format
replaces the one with its name. The formats of a registry are kept in the order of their names, so
each name stands in it once and the order of registration does not show.
-/

namespace ESharp

inductive FormatError
  | unknown (name : Text)
  | failed (reason : Text)
  deriving DecidableEq, Repr

def FormatError.message : FormatError → Text
  | unknown name => "Format '".toList ++ name ++ "' not found".toList
  | failed reason => "Serialization error: ".toList ++ reason

/-- A way to write a listing. -/
structure Format where
  name : Text
  description : Text := []
  write : Layout → List Entry → Except FormatError Text

namespace Format

def csharp : Format where
  name := "csharp".toList
  description := "Generated C# program".toList
  write layout entries := .ok ((Listing.program layout entries).render layout)

def directivesJson : Format where
  name := "directives-json".toList
  description := "Classified source lines as JSON".toList
  write _ entries := .ok (Listing.json entries)

def directivesYaml : Format where
  name := "directives-yaml".toList
  description := "Classified source lines as YAML".toList
  write _ entries := .ok (Listing.yaml entries)

end Format

/-- Formats by name, in the order of the names. -/
structure Registry where
  formats : List Format := []
  sorted : formats.Pairwise fun a b => a.name < b.name := by simp

namespace Registry

/-- A list of formats with one more, in its place or instead of the one with its name. -/
def insert (f : Format) : List Format → List Format
  | [] => [f]
  | g :: gs =>
    if f.name < g.name then f :: g :: gs
    else if f.name = g.name then f :: gs
    else g :: insert f gs

theorem mem_insert {f g : Format} {fs : List Format} (h : g ∈ insert f fs) : g = f ∨ g ∈ fs := by
  induction fs with
  | nil => simpa [insert] using h
  | cons a gs ih =>
    rw [insert] at h
    split at h
    · simpa using h
    split at h
    · rcases List.mem_cons.mp h with h | h
      · exact .inl h
      · exact .inr (List.mem_cons_of_mem a h)
    · rcases List.mem_cons.mp h with h | h
      · exact .inr (h ▸ List.mem_cons_self)
      · exact (ih h).imp_right (List.mem_cons_of_mem a)

theorem pairwise_insert (f : Format) {fs : List Format}
    (h : fs.Pairwise fun a b => a.name < b.name) :
    (insert f fs).Pairwise fun a b => a.name < b.name := by
  induction fs with
  | nil => simp [insert]
  | cons g gs ih =>
    obtain ⟨hhead, htail⟩ := List.pairwise_cons.mp h
    rw [insert]
    by_cases hlt : f.name < g.name
    · rw [if_pos hlt]
      refine List.pairwise_cons.mpr ⟨?_, h⟩
      intro a ha
      rcases List.mem_cons.mp ha with rfl | ha
      · exact hlt
      · exact List.lt_trans hlt (hhead a ha)
    rw [if_neg hlt]
    by_cases heq : f.name = g.name
    · rw [if_pos heq]
      exact List.pairwise_cons.mpr ⟨fun a ha => heq ▸ hhead a ha, htail⟩
    · have hgf : g.name < f.name := Classical.byContradiction fun hgf =>
        heq (List.le_antisymm (List.not_lt.mp hgf) (List.not_lt.mp hlt))
      rw [if_neg heq]
      refine List.pairwise_cons.mpr ⟨?_, ih htail⟩
      intro a ha
      rcases mem_insert ha with rfl | ha
      · exact hgf
      · exact hhead a ha

def register (r : Registry) (f : Format) : Registry :=
  ⟨insert f r.formats, pairwise_insert f r.sorted⟩

def get? (r : Registry) (name : Text) : Option Format := r.formats.find? (·.name = name)

def has (r : Registry) (name : Text) : Bool := (r.get? name).isSome

def names (r : Registry) : List Text := r.formats.map Format.name

def describe (r : Registry) : List (Text × Text) := r.formats.map fun f => (f.name, f.description)

def write (r : Registry) (layout : Layout) (name : Text) (entries : List Entry) :
    Except FormatError Text :=
  match r.get? name with
  | some f => f.write layout entries
  | none => .error (.unknown name)

def standard : Registry :=
  (({} : Registry).register .csharp).register .directivesJson |>.register .directivesYaml

def process (r : Registry) (layout : Layout) (name source : Text) : Except FormatError Text :=
  r.write layout name (Listing.ofSource source)

def processEvents (name source : Text) : List Event :=
  Listing.events (Text.lines source) ++
    [.classifiedSource (Listing.ofSource source).length name]

example : standard.names =
    ["csharp".toList, "directives-json".toList, "directives-yaml".toList] := by decide

end Registry
end ESharp
