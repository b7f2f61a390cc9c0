/-!
# Entries

A list of keys with their values stands for a map. Where a key has several entries, the first one
counts.
-/

namespace ESharp.Entries
variable {α β : Type} [DecidableEq α]

/-- The entries with the value of a key changed, or with one more at their end. -/
def set (key : α) (v : β) : List (α × β) → List (α × β)
  | [] => [(key, v)]
  | (k, old) :: rest => if k = key then (k, v) :: rest else (k, old) :: set key v rest

theorem lookup_cons [BEq α] [LawfulBEq α] (k : α) (e : α × β) (es : List (α × β)) :
    (e :: es).lookup k = if k = e.1 then some e.2 else es.lookup k := by
  obtain ⟨a, b⟩ := e
  by_cases h : k = a
  · simp [h]
  · simp [List.lookup_cons, beq_false_of_ne h, h]

theorem lookup_set [BEq α] [LawfulBEq α] (key k : α) (v : β) (es : List (α × β)) :
    (set key v es).lookup k = if k = key then some v else es.lookup k := by
  induction es with
  | nil => exact lookup_cons k (key, v) []
  | cons e rest ih =>
    obtain ⟨a, old⟩ := e
    rw [set]
    by_cases ha : a = key
    · subst ha
      rw [if_pos rfl, lookup_cons, lookup_cons]
      by_cases hk : k = a
      · rw [if_pos hk, if_pos hk]
      · rw [if_neg hk, if_neg hk, if_neg hk]
    · rw [if_neg ha, lookup_cons, lookup_cons, ih]
      by_cases hk : k = a
      · subst hk
        rw [if_pos rfl, if_neg ha, if_pos rfl]
      · rw [if_neg hk, if_neg hk]

end ESharp.Entries
