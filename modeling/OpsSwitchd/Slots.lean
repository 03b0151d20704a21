import Mathlib.Data.List.Range
import Mathlib.Data.List.Basic

set_option autoImplicit false

-- A loop that fills an array through a counter: the body may write the slot
-- that the counter points at, and may or may not advance it.
namespace Slots

variable {σ α : Type} (count : σ → Nat) (touches : σ → α → Bool) (step : σ → α → σ)

def trace : σ → List α → List Nat
  | _, [] => []
  | s, a :: rest => (if touches s a then [count s] else []) ++ trace (step s a) rest

theorem trace_range (advance : ∀ s a, count (step s a) = count s + (touches s a).toNat) (s : σ) (inputs : List α) :
    ∃ n, count (inputs.foldl step s) = count s + n ∧ trace count touches step s inputs = List.range' (count s) n := by
  induction inputs generalizing s with
  | nil => exact ⟨0, rfl, rfl⟩
  | cons a rest ih =>
      obtain ⟨n, total, written⟩ := ih (step s a)
      have here := advance s a
      rw [List.foldl_cons, trace, written, total, here]
      cases touched : touches s a with
      | false => exact ⟨n, by simp, by simp⟩
      | true =>
          refine ⟨n + 1, ?_, ?_⟩
          · simp only [Bool.toNat_true]
            omega
          · simp [List.range'_succ]

theorem trace_fits (advance : ∀ s a, count (step s a) = count s + (touches s a).toNat) (s : σ) (inputs : List α)
    (start : count s = 0) (capacity : Nat) :
    (∀ slot ∈ trace count touches step s inputs, slot < capacity) ↔ count (inputs.foldl step s) ≤ capacity := by
  obtain ⟨n, total, written⟩ := trace_range count touches step advance s inputs
  rw [written, total, start, Nat.zero_add]
  constructor
  · intro fits
    by_contra exceeds
    exact absurd (fits capacity (by simp [List.mem_range']; omega)) (Nat.lt_irrefl _)
  · intro bound slot member
    obtain ⟨i, below, rfl⟩ := List.mem_range'.mp member
    omega

end Slots
