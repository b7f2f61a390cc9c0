import ESharp.Files.Directory
import Mathlib.Tactic.Common

/-!
# Writing files

A path can be opened for writing if it leads to a place, does not ask for a directory, and no directory
stands there. Main statement: a write succeeds at just these paths, and then it changes one place, at
which the text is read back.
-/

namespace ESharp

namespace Path

lemma getLast?_cut_concat (t : Text) : (cut (t ++ ['/'])).2.getLast? = some [] := by
  induction t with
  | nil => rfl
  | cons c t ih =>
    simp only [List.cons_append, cut]
    split_ifs
    · rw [List.getLast?_cons, ih]
      rfl
    · exact ih

/-- A path with a slash at its end asks for a directory. -/
lemma endsInDirectory_of_endsInSlash {path : Text} (h : endsInSlash path) : endsInDirectory path := by
  unfold endsInSlash at h
  split at h
  · rename_i t hreverse
    obtain rfl : path = t.reverse ++ ['/'] := by simpa using congrArg List.reverse hreverse
    have hlast : (parts (t.reverse ++ ['/'])).getLast? = some [] := by
      rw [parts, List.getLast?_cons, getLast?_cut_concat]
      rfl
    simp [endsInDirectory, hlast]
  · simp at h

end Path

namespace Directory
variable {d : Directory} {path : Text} {place : Place}

lemma get?_set_of_ne {q : Place} (h : q ≠ place) (e : Entity) : (d.set place e).get? q = d.get? q := by
  simp [get?, set, Entries.lookup_set, h]

lemma get?_set (h : d.get? place ≠ some .directory) (e : Entity) : (d.set place e).get? place = some e := by
  have habove : place.isAbove = false := by
    by_contra habove
    simp [get?, habove] at h
  simp [get?, set, Entries.lookup_set, habove]

/-- The path can be opened for writing, and what is written goes to the place. -/
structure Opens (d : Directory) (path : Text) (place : Place) : Prop where
  leads : d.resolve path = .ok place
  names_file : Path.endsInDirectory path = false
  not_directory : d.get? place ≠ some .directory

/-- The place is not the device that takes everything and keeps nothing. -/
def Keeps (d : Directory) (place : Place) : Prop := d.get? place ≠ some .void

/-- What stands at the place of a file that was written. A file keeps its mode. -/
def written (content : Content) : Option Entity → Entity
  | none => .file content false
  | some e =>
    match e.stored? with
    | some (_, executable) => .file content executable
    | none => e

/-- The content at one place, and all else as it was. -/
structure Stores (before : Directory) (place : Place) (content : Content) (after : Directory) : Prop where
  here : after.here = before.here
  at_place : after.get? place = some (written content (before.get? place))
  elsewhere : ∀ q, q ≠ place → after.get? q = before.get? q

lemma stores_set (h : d.get? place ≠ some .directory) (content : Content) :
    d.Stores place content (d.set place (written content (d.get? place))) :=
  ⟨rfl, get?_set h _, fun _ hq => get?_set_of_ne hq _⟩

lemma stores_self (h : d.get? place = some .void) (content : Content) : d.Stores place content d := by
  refine ⟨rfl, ?_, fun _ _ => rfl⟩
  rw [h]
  rfl

lemma writeContent_of_opens (h : d.Opens path place) (content : Content) :
    d.writeContent path content = .ok
      (if d.get? place = some .void then d else d.set place (written content (d.get? place))) := by
  have hslash : Path.endsInSlash path = false := by
    by_contra hslash
    have hdirectory := Path.endsInDirectory_of_endsInSlash (Bool.of_not_eq_false hslash)
    simp [h.names_file] at hdirectory
  simp only [writeContent, h.leads, bind, Except.bind, hslash, h.names_file]
  cases hget : d.get? place with
  | none => rfl
  | some e =>
    cases e with
    | directory => exact absurd hget h.not_directory
    | _ => rfl

lemma exists_writeContent (h : d.Opens path place) (content : Content) :
    ∃ after, d.writeContent path content = .ok after ∧ d.Stores place content after := by
  refine ⟨_, writeContent_of_opens h content, ?_⟩
  split_ifs with hvoid
  · exact stores_self hvoid content
  · exact stores_set h.not_directory content

lemma exists_opens_of_writeContent {content : Content} {after : Directory}
    (h : d.writeContent path content = .ok after) : ∃ place, d.Opens path place := by
  unfold writeContent at h
  cases hresolve : d.resolve path with
  | error e => simp [hresolve, bind, Except.bind] at h
  | ok place =>
    simp only [hresolve, bind, Except.bind] at h
    refine ⟨place, hresolve, ?_, ?_⟩
    · by_contra hdirectory
      rw [Bool.not_eq_false] at hdirectory
      simp only [hdirectory] at h
      split_ifs at h
      split at h <;> simp at h
    · intro hget
      simp [hget] at h

/-- A write opens its path and stores the content there, or it fails because the path cannot be
opened. -/
theorem writeContent_cases (d : Directory) (path : Text) (content : Content) :
    (∃ place after, d.Opens path place ∧ d.writeContent path content = .ok after ∧
      d.Stores place content after) ∨
    (¬∃ place, d.Opens path place) ∧ ∃ e, d.writeContent path content = .error e := by
  by_cases h : ∃ place, d.Opens path place
  · obtain ⟨place,hopens⟩ := h
    obtain ⟨after,hwrite,hstores⟩ := exists_writeContent hopens content
    exact .inl ⟨place, after, hopens, hwrite, hstores⟩
  · refine .inr ⟨h, ?_⟩
    cases hwrite : d.writeContent path content with
    | error e => exact ⟨e, rfl⟩
    | ok after => exact absurd (exists_opens_of_writeContent hwrite) h

/-- The way to a place goes through directories alone. -/
lemma walk_congr {d' : Directory} {here : Place} {components : List Text}
    (h : d.walk here components = .ok place)
    (hsame : ∀ q, d.get? q = some .directory → d'.get? q = some .directory) :
    d'.walk here components = .ok place := by
  induction components generalizing here with
  | nil => exact h
  | cons c rest ih =>
    cases hget : d.get? here with
    | none => simp [walk, hget] at h
    | some e =>
      cases e with
      | directory =>
        simp only [walk, hget, hsame here hget] at h ⊢
        split_ifs at h ⊢
        · exact ih h
        · exact ih h
      | _ => simp [walk, hget] at h

lemma resolve_congr {d' : Directory} (h : d.resolve path = .ok place) (hhere : d'.here = d.here)
    (hsame : ∀ q, d.get? q = some .directory → d'.get? q = some .directory) :
    d'.resolve path = .ok place := by
  unfold resolve at h ⊢
  split_ifs at h ⊢
  rw [hhere]
  exact walk_congr h hsame

/-- What was written at a path is read there, unless the place takes everything and keeps nothing. -/
theorem Stores.read {after : Directory} {t : Text} (hstores : d.Stores place (.text t) after)
    (hopens : d.Opens path place) (hkeeps : d.Keeps place) : after.read path = .ok t := by
  have hsame : ∀ q, d.get? q = some .directory → after.get? q = some .directory := by
    intro q hq
    rw [hstores.elsewhere q, hq]
    rintro rfl
    exact hopens.not_directory hq
  have hplace : ∃ x, after.get? place = some (.file (.text t) x) := by
    rw [hstores.at_place]
    cases hget : d.get? place with
    | none => exact ⟨false, rfl⟩
    | some e =>
      cases e with
      | directory => exact absurd hget hopens.not_directory
      | void => exact absurd hget hkeeps
      | file old x => exact ⟨x, rfl⟩
      | program name => exact ⟨true, rfl⟩
  obtain ⟨x,hx⟩ := hplace
  have hresolve := resolve_congr hopens.leads hstores.here hsame
  simp [Directory.read, readContent, find, hresolve, hx, hopens.names_file, Entity.stored?, bind, Except.bind]

end Directory
end ESharp
