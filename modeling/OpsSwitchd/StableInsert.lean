import Mathlib.Data.List.Sort

set_option autoImplicit false

-- A list that is kept sorted by inserting before the first strictly greater
-- element is the stable sort of what was inserted.
namespace StableInsert

variable {α κ : Type} [LinearOrder κ] (key : α → κ)

structure StableSort (input output : List α) : Prop where
  perm : output.Perm input
  sorted : output.Pairwise (fun a b => key a ≤ key b)
  stable : ∀ k, output.filter (fun a => key a = k) = input.filter (fun a => key a = k)

theorem stable_sort_nil : StableSort key [] [] := ⟨.nil, .nil, fun _ => rfl⟩

def insert (a : α) (rows : List α) : List α := rows.orderedInsert (fun x y => key x < key y) a

theorem insert_cons (a b : α) (rows : List α) :
    insert key a (b :: rows) = if key a < key b then a :: b :: rows else b :: insert key a rows := rfl

theorem insert_perm (a : α) (rows : List α) : (insert key a rows).Perm (a :: rows) := List.perm_orderedInsert _ a rows

theorem insert_at_end (a : α) (rows : List α) (last : ∀ b ∈ rows, key b ≤ key a) : insert key a rows = rows ++ [a] := by
  induction rows with
  | nil => rfl
  | cons b rows ih =>
      have before : ¬ key a < key b := not_lt.mpr (last b (by simp))
      rw [insert_cons, if_neg before, ih (fun c member => last c (by simp [member]))]
      rfl

theorem insert_sorted (a : α) (rows : List α) (sorted : rows.Pairwise (fun x y => key x ≤ key y)) :
    (insert key a rows).Pairwise (fun x y => key x ≤ key y) := by
  induction rows with
  | nil => exact List.pairwise_singleton _ a
  | cons b rows ih =>
      obtain ⟨first, rest⟩ := List.pairwise_cons.mp sorted
      rw [insert_cons]
      by_cases before : key a < key b
      · rw [if_pos before]
        refine List.pairwise_cons.mpr ⟨fun c member => ?_, sorted⟩
        rcases List.mem_cons.mp member with rfl | later
        · exact le_of_lt before
        · exact le_trans (le_of_lt before) (first c later)
      · rw [if_neg before]
        refine List.pairwise_cons.mpr ⟨fun c member => ?_, ih rest⟩
        rcases List.mem_cons.mp ((insert_perm key a rows).mem_iff.mp member) with rfl | old
        · exact not_lt.mp before
        · exact first c old

theorem insert_filter (a : α) (rows : List α) (sorted : rows.Pairwise (fun x y => key x ≤ key y)) (k : κ) :
    (insert key a rows).filter (fun b => key b = k) = (rows ++ [a]).filter (fun b => key b = k) := by
  induction rows with
  | nil => rfl
  | cons b rows ih =>
      obtain ⟨first, rest⟩ := List.pairwise_cons.mp sorted
      rw [insert_cons]
      by_cases before : key a < key b
      · rw [if_pos before]
        by_cases mine : key a = k
        · have none : (b :: rows).filter (fun c => key c = k) = [] := by
            refine List.filter_eq_nil_iff.mpr (fun c member same => ?_)
            have above : key b ≤ key c := by
              rcases List.mem_cons.mp member with rfl | later
              · exact le_refl _
              · exact first c later
            rw [decide_eq_true_eq.mp same, ← mine] at above
            exact absurd before (not_lt.mpr above)
          rw [List.filter_append, List.filter_cons, none]
          simp [mine]
        · rw [List.filter_append, List.filter_cons]
          simp [mine]
      · rw [if_neg before, List.cons_append, List.filter_cons, List.filter_cons, ih rest]

theorem stable_sort_insert (a : α) (input output : List α) (stable : StableSort key input output) :
    StableSort key (input ++ [a]) (insert key a output) where
  perm := ((insert_perm key a output).trans (stable.perm.cons a)).trans (List.perm_append_singleton a input).symm
  sorted := insert_sorted key a output stable.sorted
  stable := fun k => by
    rw [insert_filter key a output stable.sorted k, List.filter_append, List.filter_append, stable.stable k]

end StableInsert
