import Mathlib.Data.List.Dedup
import Mathlib.Data.List.Sort

set_option autoImplicit false

-- A set-valued column: whatever list is written, the database keeps its
-- members, in order and once each.
namespace SetColumn

variable {α : Type} [LinearOrder α]

def stored (values : List α) : List α := values.dedup.insertionSort (· ≤ ·)

@[simp] theorem mem_stored {values : List α} {a : α} : a ∈ stored values ↔ a ∈ values := by
  rw [stored, (List.perm_insertionSort (· ≤ ·) values.dedup).mem_iff, List.mem_dedup]

theorem nodup_stored (values : List α) : (stored values).Nodup :=
  (List.perm_insertionSort (· ≤ ·) values.dedup).nodup_iff.mpr values.nodup_dedup

theorem stored_congr {values other : List α} (same : ∀ a, a ∈ values ↔ a ∈ other) : stored values = stored other := by
  have perm : (stored values).Perm (stored other) := by
    rw [List.perm_ext_iff_of_nodup (nodup_stored values) (nodup_stored other)]
    intro a
    rw [mem_stored, mem_stored, same]
  exact List.Perm.eq_of_pairwise (fun _ _ _ _ => le_antisymm) (List.pairwise_insertionSort _ _)
    (List.pairwise_insertionSort _ _) perm

theorem stored_stored (values : List α) : stored (stored values) = stored values :=
  stored_congr (fun _ => mem_stored)

theorem stored_nil : stored ([] : List α) = [] := rfl

theorem length_stored_le (values : List α) : (stored values).length ≤ values.length := by
  rw [stored, List.length_insertionSort]
  exact (List.dedup_sublist values).length_le

end SetColumn
