import OpsSwitchd.Runs

set_option autoImplicit false

namespace EventRuns

open Runs

universe u v w

variable {σ : Type u} {ι : Type v} {ε : Type w} (step : σ → ι → σ) (event : σ → ι → Option ε)

-- What a run reports, in order; a step may report nothing.
def events : σ → List ι → List ε
  | _, [] => []
  | start, input :: rest => (event start input).toList ++ events (step start input) rest

theorem events_quiet (start : σ) (input : ι) (rest : List ι) (quiet : event start input = none) :
    events step event start (input :: rest) = events step event (step start input) rest := by
  rw [events, quiet, Option.toList_none, List.nil_append]

theorem events_reported (start : σ) (input : ι) (rest : List ι) (e : ε) (reported : event start input = some e) :
    events step event start (input :: rest) = e :: events step event (step start input) rest := by
  rw [events, reported, Option.toList_some, List.singleton_append]

section Spacing

-- due s e: an event e of the kind P may still come after the state s.
variable {step event} {Inv : σ → Prop} {V : σ → ι → Prop} (P : ε → Prop) (due : σ → ε → Prop)

theorem events_due (keep : ∀ s i, Inv s → V s i → Inv (step s i))
    (came : ∀ s i e, Inv s → V s i → event s i = some e → P e → due s e)
    (narrows : ∀ s i e, Inv s → V s i → due (step s i) e → due s e) {start : σ} (initial : Inv start) {inputs : List ι}
    (valid : Along step V start inputs) : ∀ e ∈ events step event start inputs, P e → due start e := by
  induction inputs generalizing start with
  | nil =>
      intro e member
      cases member
  | cons input rest ih =>
      obtain ⟨here, later⟩ := (along_cons step V start input rest).mp valid
      intro e member kind
      have after (inside : e ∈ events step event (step start input) rest) : due start e :=
        narrows start input e initial here (ih (keep start input initial here) later e inside kind)
      cases reported : event start input with
      | none =>
          rw [events_quiet step event start input rest reported] at member
          exact after member
      | some first =>
          rw [events_reported step event start input rest first reported] at member
          rcases List.mem_cons.mp member with rfl | inside
          · exact came start input e initial here reported kind
          · exact after inside

theorem events_pairwise {R : ε → ε → Prop} (keep : ∀ s i, Inv s → V s i → Inv (step s i))
    (came : ∀ s i e, Inv s → V s i → event s i = some e → P e → due s e)
    (narrows : ∀ s i e, Inv s → V s i → due (step s i) e → due s e)
    (apart : ∀ s i a b, Inv s → V s i → event s i = some a → P a → due (step s i) b → R a b) {start : σ}
    (initial : Inv start) {inputs : List ι} (valid : Along step V start inputs) :
    (events step event start inputs).Pairwise (fun a b => P a → P b → R a b) := by
  induction inputs generalizing start with
  | nil => exact .nil
  | cons input rest ih =>
      obtain ⟨here, later⟩ := (along_cons step V start input rest).mp valid
      have next := keep start input initial here
      cases reported : event start input with
      | none =>
          rw [events_quiet step event start input rest reported]
          exact ih next later
      | some first =>
          rw [events_reported step event start input rest first reported]
          refine .cons (fun e member kindFirst kind => ?_) (ih next later)
          exact apart start input first e initial here reported kindFirst
            (events_due P due keep came narrows next later e member kind)

end Spacing

section Budget

-- Until an event ends the window, each counted event costs one unit.
variable {step event} {Inv : σ → Prop} {V : σ → ι → Prop} (ends counted : ε → Bool) (budget : σ → Nat)

theorem events_first_bounded (keep : ∀ s i, Inv s → V s i → Inv (step s i))
    (silent : ∀ s i, Inv s → V s i → event s i = none → budget (step s i) ≤ budget s)
    (spends : ∀ s i e, Inv s → V s i → event s i = some e → ends e = false →
      budget (step s i) + (if counted e then 1 else 0) ≤ budget s)
    {start : σ} (initial : Inv start) {inputs : List ι} (valid : Along step V start inputs) (window after : List ε)
    (split : events step event start inputs = window ++ after) (unended : ∀ e ∈ window, ends e = false) :
    window.countP counted ≤ budget start := by
  induction inputs generalizing start window with
  | nil =>
      obtain ⟨rfl, _⟩ := List.append_eq_nil_iff.mp split.symm
      exact Nat.zero_le _
  | cons input rest ih =>
      obtain ⟨here, later⟩ := (along_cons step V start input rest).mp valid
      have next := keep start input initial here
      cases reported : event start input with
      | none =>
          rw [events_quiet step event start input rest reported] at split
          exact Nat.le_trans (ih next later window split unended) (silent start input initial here reported)
      | some first =>
          rw [events_reported step event start input rest first reported] at split
          cases window with
          | nil => exact Nat.zero_le _
          | cons e window =>
              obtain ⟨rfl, remaining⟩ := List.cons.inj split
              have tail := ih next later window remaining (fun other inside => unended other (List.mem_cons_of_mem _ inside))
              have cost := spends start input first initial here reported (unended first List.mem_cons_self)
              rw [List.countP_cons]
              omega

theorem events_window_bounded (keep : ∀ s i, Inv s → V s i → Inv (step s i))
    (silent : ∀ s i, Inv s → V s i → event s i = none → budget (step s i) ≤ budget s)
    (spends : ∀ s i e, Inv s → V s i → event s i = some e → ends e = false →
      budget (step s i) + (if counted e then 1 else 0) ≤ budget s)
    {cap : Nat} (bounded : ∀ s, Inv s → budget s ≤ cap)
    {start : σ} (initial : Inv start) {inputs : List ι} (valid : Along step V start inputs) (before window after : List ε)
    (split : events step event start inputs = before ++ (window ++ after)) (unended : ∀ e ∈ window, ends e = false) :
    window.countP counted ≤ cap := by
  induction inputs generalizing start before with
  | nil =>
      obtain ⟨_, empty⟩ := List.append_eq_nil_iff.mp split.symm
      obtain ⟨rfl, _⟩ := List.append_eq_nil_iff.mp empty
      exact Nat.zero_le _
  | cons input rest ih =>
      obtain ⟨here, later⟩ := (along_cons step V start input rest).mp valid
      have next := keep start input initial here
      cases before with
      | nil =>
          have first := events_first_bounded ends counted budget keep silent spends initial valid window after split unended
          exact Nat.le_trans first (bounded start initial)
      | cons e before =>
          cases reported : event start input with
          | none =>
              rw [events_quiet step event start input rest reported] at split
              exact ih next later (e :: before) split
          | some first =>
              rw [events_reported step event start input rest first reported] at split
              exact ih next later before (List.cons.inj split).2

end Budget

section Windows

variable {step event} {V : σ → ι → Prop} (position : σ → Nat) (low high : ε → Nat)

theorem events_cover_once (still : ∀ s i, V s i → event s i = none → position (step s i) = position s)
    (moves : ∀ s i e, V s i → event s i = some e →
      low e = position s ∧ high e = position (step s i) ∧ position s ≤ position (step s i))
    {start : σ} {inputs : List ι} (valid : Along step V start inputs) (n : Nat) :
    position start ≤ position (run step start inputs) ∧
      (events step event start inputs).countP (fun e => low e < n ∧ n ≤ high e) =
        if position start < n ∧ n ≤ position (run step start inputs) then 1 else 0 := by
  induction inputs generalizing start with
  | nil =>
      refine ⟨Nat.le_refl _, (if_neg ?_).symm⟩
      rintro ⟨above, below⟩
      exact Nat.lt_irrefl _ (Nat.lt_of_lt_of_le above below)
  | cons input rest ih =>
      obtain ⟨here, later⟩ := (along_cons step V start input rest).mp valid
      obtain ⟨grows, counted⟩ := ih later
      have final : run step start (input :: rest) = run step (step start input) rest := rfl
      rw [final]
      cases reported : event start input with
      | none =>
          rw [events_quiet step event start input rest reported, counted, still start input here reported]
          exact ⟨still start input here reported ▸ grows, rfl⟩
      | some first =>
          obtain ⟨lower, upper, moved⟩ := moves start input first here reported
          rw [events_reported step event start input rest first reported, List.countP_cons, counted, lower, upper]
          refine ⟨Nat.le_trans moved grows, ?_⟩
          simp only [decide_eq_true_eq]
          split <;> split <;> split <;> omega

end Windows

end EventRuns
