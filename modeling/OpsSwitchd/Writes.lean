import Mathlib.Data.List.Basic
import Mathlib.Logic.Function.Basic

set_option autoImplicit false

-- Column writes collected by a transaction, the later ones winning.
namespace Writes

variable {κ ν : Type} [DecidableEq κ]

def apply (writes : List (κ × ν)) (db : κ → ν) : κ → ν :=
  writes.foldl (fun db write => Function.update db write.1 write.2) db

theorem apply_untouched (writes : List (κ × ν)) (db : κ → ν) (k : κ) (other : ∀ write ∈ writes, write.1 ≠ k) :
    apply writes db k = db k := by
  induction writes generalizing db with
  | nil => rfl
  | cons write rest ih =>
      have step := ih (Function.update db write.1 write.2) (fun later member => other later (List.mem_cons_of_mem write member))
      rw [Function.update_of_ne (Ne.symm (other write List.mem_cons_self))] at step
      exact step

theorem apply_agree (writes : List (κ × ν)) (db : κ → ν) (k : κ) (v : ν)
    (agree : ∀ write ∈ writes, write.1 = k → write.2 = v) (written : ∃ write ∈ writes, write.1 = k) :
    apply writes db k = v := by
  induction writes generalizing db with
  | nil => simp at written
  | cons write rest ih =>
      have later := ih (Function.update db write.1 write.2)
        (fun other member => agree other (List.mem_cons_of_mem write member))
      by_cases again : ∃ other ∈ rest, other.1 = k
      · exact later again
      · obtain ⟨found, member, same⟩ := written
        obtain rfl : found = write := by
          rcases List.mem_cons.mp member with here | there
          · exact here
          · exact absurd ⟨found, there, same⟩ again
        have value := agree found List.mem_cons_self same
        rw [show apply (found :: rest) db = apply rest (Function.update db found.1 found.2) from rfl,
          apply_untouched rest _ k (fun other present equal => again ⟨other, present, equal⟩), ← same, Function.update_self]
        exact value

end Writes
