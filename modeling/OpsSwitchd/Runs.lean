import Mathlib.Data.List.Basic

set_option autoImplicit false

namespace Runs

universe u v

variable {σ : Type u} {ι : Type v} (step : σ → ι → σ)

def run (start : σ) (inputs : List ι) : σ := inputs.foldl step start

def Always (P : σ → Prop) (start : σ) (inputs : List ι) : Prop :=
  ∀ before after, inputs = before ++ after → P (run step start before)

def Along (C : σ → ι → Prop) (start : σ) (inputs : List ι) : Prop :=
  ∀ before input after, inputs = before ++ input :: after → C (run step start before) input

theorem always_nil (P : σ → Prop) (start : σ) : Always step P start [] ↔ P start := by
  constructor
  · intro all
    exact all [] [] rfl
  · intro here before after split
    obtain ⟨rfl, rfl⟩ := List.append_eq_nil_iff.mp split.symm
    exact here

theorem always_cons (P : σ → Prop) (start : σ) (input : ι) (rest : List ι) :
    Always step P start (input :: rest) ↔ P start ∧ Always step P (step start input) rest := by
  constructor
  · intro all
    refine ⟨all [] (input :: rest) rfl, ?_⟩
    intro before after split
    exact all (input :: before) after (by simp [split])
  · rintro ⟨here, later⟩ before after split
    cases before with
    | nil => exact here
    | cons first before =>
        obtain ⟨rfl, remaining⟩ := List.cons.inj split
        exact later before after remaining

theorem along_nil (C : σ → ι → Prop) (start : σ) : Along step C start [] := by
  intro before input after split
  simp at split

theorem along_cons (C : σ → ι → Prop) (start : σ) (input : ι) (rest : List ι) :
    Along step C start (input :: rest) ↔ C start input ∧ Along step C (step start input) rest := by
  constructor
  · intro all
    refine ⟨all [] input rest rfl, ?_⟩
    intro before next after split
    exact all (input :: before) next after (by simp [split])
  · rintro ⟨here, later⟩ before next after split
    cases before with
    | nil =>
        obtain ⟨rfl, rfl⟩ := List.cons.inj split
        exact here
    | cons first before =>
        obtain ⟨rfl, remaining⟩ := List.cons.inj split
        exact later before next after remaining

theorem along_inputs (C : ι → Prop) (start : σ) (inputs : List ι) :
    Along step (fun _ input => C input) start inputs ↔ ∀ input ∈ inputs, C input := by
  constructor
  · intro all input member
    obtain ⟨before, after, split⟩ := List.append_of_mem member
    exact all before input after split
  · intro all before input after split
    exact all input (by simp [split])

variable {step}

theorem invariant_always {Inv : σ → Prop} {V : σ → ι → Prop}
    (keep : ∀ s i, Inv s → V s i → Inv (step s i)) {start : σ} (initial : Inv start) {inputs : List ι}
    (valid : Along step V start inputs) : Always step Inv start inputs := by
  induction inputs generalizing start with
  | nil => exact (always_nil step Inv start).mpr initial
  | cons input rest ih =>
      obtain ⟨here, later⟩ := (along_cons step V start input rest).mp valid
      exact (always_cons step Inv start input rest).mpr ⟨initial, ih (keep start input initial here) later⟩

theorem always_mono {P Q : σ → Prop} (weaker : ∀ s, P s → Q s) {start : σ} {inputs : List ι}
    (all : Always step P start inputs) : Always step Q start inputs :=
  fun before after split => weaker _ (all before after split)

theorem run_snoc (start : σ) (before : List ι) (input : ι) :
    run step start (before ++ [input]) = step (run step start before) input := by
  rw [run, List.foldl_append]
  rfl

theorem always_next {P : σ → Prop} {start : σ} {inputs : List ι} (all : Always step P start inputs) :
    Along step (fun s i => P (step s i)) start inputs := by
  intro before input after split
  have next := all (before ++ [input]) after (by simp [split])
  rwa [run_snoc] at next

-- The invariant carries the exactness: while every step so far met the
-- condition, the first step that fails it is the first state that breaks P.
theorem always_iff_along {Inv P : σ → Prop} {V C : σ → ι → Prop}
    (implies : ∀ s, Inv s → P s)
    (keep : ∀ s i, Inv s → V s i → C s i → Inv (step s i))
    (needs : ∀ s i, Inv s → V s i → P (step s i) → C s i)
    {start : σ} (initial : Inv start) {inputs : List ι} (valid : Along step V start inputs) :
    Always step P start inputs ↔ Along step C start inputs := by
  induction inputs generalizing start with
  | nil => exact ⟨fun _ => along_nil step C start, fun _ => (always_nil step P start).mpr (implies start initial)⟩
  | cons input rest ih =>
      obtain ⟨here, later⟩ := (along_cons step V start input rest).mp valid
      rw [always_cons, along_cons]
      constructor
      · rintro ⟨_, remaining⟩
        have next : P (step start input) := remaining [] rest rfl
        have met := needs start input initial here next
        exact ⟨met, (ih (keep start input initial here met) later).mp remaining⟩
      · rintro ⟨met, remaining⟩
        exact ⟨implies start initial, (ih (keep start input initial here met) later).mpr remaining⟩

theorem along_congr {Inv : σ → Prop} {P C : σ → ι → Prop} (same : ∀ s i, Inv s → (P s i ↔ C s i))
    (keep : ∀ s i, Inv s → C s i → Inv (step s i)) {start : σ} (initial : Inv start) {inputs : List ι} :
    Along step P start inputs ↔ Along step C start inputs := by
  induction inputs generalizing start with
  | nil => exact ⟨fun _ => along_nil step C start, fun _ => along_nil step P start⟩
  | cons input rest ih =>
      rw [along_cons, along_cons, same start input initial]
      exact and_congr_right (fun met => ih (keep start input initial met))

section Loops

variable {α : Type u} (ends met : α → Prop)

def Reached (rows : List α) : Prop :=
  ∀ before row after, rows = before ++ row :: after → (∀ earlier ∈ before, ¬ ends earlier) → met row

theorem reached_nil : Reached ends met [] := by
  intro before row after split
  simp at split

theorem reached_cons (row : α) (rest : List α) :
    Reached ends met (row :: rest) ↔ met row ∧ (ends row ∨ Reached ends met rest) := by
  constructor
  · intro all
    refine ⟨all [] row rest rfl (List.forall_mem_nil _), or_iff_not_imp_left.mpr ?_⟩
    intro goes before next after split passed
    refine all (row :: before) next after (by rw [split, List.cons_append]) (fun earlier member => ?_)
    rcases List.mem_cons.mp member with rfl | inside
    · exact goes
    · exact passed earlier inside
  · rintro ⟨here, later⟩ before next after split passed
    cases before with
    | nil =>
        obtain ⟨rfl, _⟩ := List.cons.inj split
        exact here
    | cons first before =>
        obtain ⟨rfl, remaining⟩ := List.cons.inj split
        rcases later with ended | later
        · exact absurd ended (passed row List.mem_cons_self)
        · exact later before next after remaining (fun earlier member => passed earlier (List.mem_cons_of_mem _ member))

end Loops

end Runs
