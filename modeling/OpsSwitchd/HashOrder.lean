import Mathlib.Data.List.Perm.Basic

set_option autoImplicit false

-- A chained hash table is walked in an order that its hashes and its history
-- decide. A walk visits every entry once; nothing else is known about it.
structure HashOrder where
  walk : {α : Type} → List α → List α
  perm : ∀ {α : Type} (entries : List α), (walk entries).Perm entries

namespace HashOrder

def listed : HashOrder := ⟨fun entries => entries, fun _ => .refl _⟩

def reversed : HashOrder := ⟨fun entries => entries.reverse, fun entries => entries.reverse_perm⟩

@[simp] theorem mem_walk (order : HashOrder) {α : Type} (entries : List α) (a : α) :
    a ∈ order.walk entries ↔ a ∈ entries :=
  (order.perm entries).mem_iff

@[simp] theorem walk_eq_nil (order : HashOrder) {α : Type} (entries : List α) :
    order.walk entries = [] ↔ entries = [] := by
  constructor
  · intro empty
    exact List.Perm.eq_nil (empty ▸ (order.perm entries).symm)
  · rintro rfl
    exact List.Perm.eq_nil (order.perm [])

end HashOrder
