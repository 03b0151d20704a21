import Mathlib.Data.List.Basic

set_option autoImplicit false

-- A loop that stores the result for input i in slot i, and counts some of the
-- inputs apart from that.
namespace Positional

variable {α β : Type}

structure Filled (β : Type) where
  slots : List (Option β)
  count : Nat
deriving DecidableEq, Repr

variable (write : α → Option β) (counts : α → Bool)

def store (work : Filled β) (input : α × Nat) : Filled β where
  slots := match write input.1 with
    | some value => work.slots.set input.2 (some value)
    | none => work.slots
  count := if counts input.1 then work.count + 1 else work.count

def fill (inputs : List α) : Filled β :=
  inputs.zipIdx.foldl (store write counts) ⟨List.replicate inputs.length none, 0⟩

theorem store_next (done : List (Option β)) (left count : Nat) (input : α) :
    store write counts ⟨done ++ List.replicate (left + 1) none, count⟩ (input, done.length) =
      ⟨(done ++ [write input]) ++ List.replicate left none, count + if counts input then 1 else 0⟩ := by
  have total : (if counts input then count + 1 else count) = count + if counts input then 1 else 0 := by
    split <;> rfl
  cases written : write input with
  | none => simp [store, written, total, List.replicate_succ]
  | some value => simp [store, written, total, List.replicate_succ]

theorem fill_from (inputs : List α) (done : List (Option β)) (count : Nat) :
    (inputs.zipIdx done.length).foldl (store write counts) ⟨done ++ List.replicate inputs.length none, count⟩ =
      ⟨done ++ inputs.map write, count + inputs.countP counts⟩ := by
  induction inputs generalizing done count with
  | nil => simp
  | cons input rest ih =>
      have next := ih (done ++ [write input]) (count + if counts input then 1 else 0)
      rw [List.length_append, List.length_singleton] at next
      rw [List.zipIdx_cons, List.foldl_cons, List.length_cons, store_next, next, List.append_assoc, List.countP_cons]
      simp [Nat.add_comm, Nat.add_left_comm]

theorem fill_eq (inputs : List α) : fill write counts inputs = ⟨inputs.map write, inputs.countP counts⟩ := by
  simpa [fill] using fill_from write counts inputs [] 0

def CountedFirst (inputs : List α) : Prop := inputs.Pairwise (fun first second => counts second → counts first)

instance (inputs : List α) : Decidable (CountedFirst counts inputs) :=
  inferInstanceAs (Decidable (inputs.Pairwise (fun first second => counts second → counts first)))

theorem counted_first_uncounted (input : α) (rest : List α) (uncounted : counts input = false) :
    CountedFirst counts (input :: rest) ↔ rest.countP counts = 0 := by
  unfold CountedFirst
  rw [List.pairwise_cons, List.countP_eq_zero]
  constructor
  · intro ordered later member counted
    rw [ordered.1 later member counted] at uncounted
    cases uncounted
  · intro none_
    refine ⟨fun later member counted => absurd counted (none_ later member), ?_⟩
    exact List.pairwise_of_forall_mem_list (fun _ _ second member counted => absurd counted (none_ second member))

theorem counted_first_counted (input : α) (rest : List α) (counted : counts input = true) :
    CountedFirst counts (input :: rest) ↔ CountedFirst counts rest := by
  unfold CountedFirst
  rw [List.pairwise_cons]
  exact and_iff_right (fun _ _ _ => counted)

theorem length_counted {inputs : List α} (filled : ∀ input ∈ inputs, (write input).isSome = counts input) :
    (inputs.filterMap write).length = inputs.countP counts := by
  rw [List.length_filterMap_eq_countP]
  exact List.countP_congr (fun input member => by rw [filled input member])

theorem read_back_iff {inputs : List α} (filled : ∀ input ∈ inputs, (write input).isSome = counts input) :
    (fill write counts inputs).slots.take (fill write counts inputs).count = (inputs.filterMap write).map some ↔
      CountedFirst counts inputs := by
  rw [fill_eq]
  induction inputs with
  | nil => simp [CountedFirst]
  | cons input rest ih =>
      have here := filled input List.mem_cons_self
      have later := fun other member => filled other (List.mem_cons_of_mem input member)
      cases written : write input with
      | some value =>
          have counted : counts input = true := by rw [← here, written]; rfl
          rw [counted_first_counted counts input rest counted, ← ih later]
          simp [written, counted]
      | none =>
          have uncounted : counts input = false := by rw [← here, written]; rfl
          rw [counted_first_uncounted counts input rest uncounted]
          simp only [List.map_cons, List.countP_cons, uncounted, List.filterMap_cons, written,
            ← length_counted write counts later]
          cases found : rest.filterMap write with
          | nil => simp
          | cons value others => simp

end Positional
