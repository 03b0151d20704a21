import OpsSwitchd.EventRuns

set_option autoImplicit false

namespace Periodic

open Runs EventRuns

-- A job that is due at a deadline, stays busy until an attempt completes it and
-- is then due again after the interval.
structure Job where
  interval : Int
  deadline : Int
  busy : Bool
deriving DecidableEq, Repr

structure Attempt where
  interval : Int
  started : Int
  ended : Int
  completes : Bool
deriving DecidableEq, Repr

variable (past : Int)

def retune (job : Job) (interval : Int) : Job :=
  if job.interval = interval then job else { job with interval := interval, deadline := past }

def due (job : Job) (now : Int) : Bool := decide (job.deadline ≤ now)

def settle (job : Job) (input : Attempt) : Job :=
  if due job input.started then
    if input.completes then { job with busy := false, deadline := input.ended + job.interval } else { job with busy := true }
  else job

def attempt (job : Job) (input : Attempt) : Job := settle (retune past job input.interval) input

theorem attempt_early (job : Job) (input : Attempt) (same : job.interval = input.interval)
    (early : due job input.started = false) : attempt past job input = job := by
  simp [attempt, retune, same, settle, early]

section Spacing

structure Traced where
  job : Job
  changes : Nat
  clock : Int
deriving DecidableEq, Repr

structure Firing where
  time : Int
  interval : Int
  changes : Nat
deriving DecidableEq, Repr

def retuned (s : Traced) (interval : Int) : Traced :=
  { s with job := retune past s.job interval, changes := if s.job.interval = interval then s.changes else s.changes + 1 }

def settled (s : Traced) (input : Attempt) : Traced := { s with job := settle s.job input, clock := input.ended }

def traced (s : Traced) (input : Attempt) : Traced := settled (retuned past s input.interval) input

def fired (s : Traced) (input : Attempt) : Option Firing :=
  let s := retuned past s input.interval
  if due s.job input.started && !s.job.busy then some ⟨input.started, s.job.interval, s.changes⟩ else none

theorem traced_job (s : Traced) (input : Attempt) : (traced past s input).job = attempt past s.job input := rfl

def Timely (s : Traced) (input : Attempt) : Prop := s.clock ≤ input.started ∧ input.started ≤ input.ended

structure Awaited (s : Traced) (firing : Firing) : Prop where
  changes : s.changes ≤ firing.changes
  interval : firing.changes = s.changes → firing.interval = s.job.interval
  idle : firing.changes = s.changes → s.job.busy = false → s.job.deadline ≤ firing.time
  busy : firing.changes = s.changes → s.job.busy = true → s.clock + s.job.interval ≤ firing.time

theorem retuned_awaited (s : Traced) (interval : Int) (firing : Firing) (awaited : Awaited (retuned past s interval) firing) :
    Awaited s firing := by
  by_cases same : s.job.interval = interval
  · simpa only [retuned, retune, same, if_true] using awaited
  · have later := awaited.changes
    simp only [retuned, same, if_false] at later
    exact ⟨by omega, fun now => by omega, fun now => by omega, fun now => by omega⟩

theorem retune_interval (job : Job) (interval : Int) : (retune past job interval).interval = interval := by
  unfold retune
  split
  · assumption
  · rfl

theorem settle_interval (job : Job) (input : Attempt) : (settle job input).interval = job.interval := by
  unfold settle
  split
  · split <;> rfl
  · rfl

theorem settled_awaited (s : Traced) (input : Attempt) (firing : Firing) (timely : Timely s input) (positive : 0 ≤ s.job.interval)
    (awaited : Awaited (settled s input) firing) : Awaited s firing := by
  obtain ⟨began, ended⟩ := timely
  obtain ⟨later, same, idle, busy⟩ := awaited
  simp only [settled, settle_interval] at later same idle busy
  cases reached : due s.job input.started with
  | true =>
      have passed : s.job.deadline ≤ input.started := of_decide_eq_true reached
      cases completes : input.completes with
      | true =>
          simp only [settle, reached, completes, if_true] at idle
          refine ⟨later, same, fun now _ => ?_, fun now _ => ?_⟩
          · have next := idle now trivial
            omega
          · have next := idle now trivial
            omega
      | false =>
          simp only [settle, reached, completes, if_true] at busy
          refine ⟨later, same, fun now _ => ?_, fun now _ => ?_⟩
          · have next := busy now rfl
            omega
          · have next := busy now rfl
            omega
  | false =>
      simp only [settle, reached, Bool.false_eq_true, if_false] at idle busy
      refine ⟨later, same, idle, fun now working => ?_⟩
      have next := busy now working
      omega

theorem fired_iff (s : Traced) (input : Attempt) (firing : Firing) :
    fired past s input = some firing ↔
      due (retuned past s input.interval).job input.started = true ∧ (retuned past s input.interval).job.busy = false ∧
        firing = ⟨input.started, (retuned past s input.interval).job.interval, (retuned past s input.interval).changes⟩ := by
  simp only [fired]
  split
  · rename_i both
    simp only [Bool.and_eq_true, Bool.not_eq_true'] at both
    simp only [both, true_and, Option.some.injEq]
    exact eq_comm
  · rename_i neither
    simp only [Bool.and_eq_true, Bool.not_eq_true'] at neither
    constructor
    · intro reported
      cases reported
    · rintro ⟨reached, idle, _⟩
      exact absurd ⟨reached, idle⟩ neither

theorem firings_spaced (floor : Int) (positive : 0 ≤ floor) (start : Traced) (inputs : List Attempt)
    (given : ∀ input ∈ inputs, floor ≤ input.interval) (timely : Along (traced past) Timely start inputs) :
    (events (traced past) (fired past) start inputs).Pairwise (fun first second =>
      first.changes = second.changes → floor ≤ first.interval ∧ first.time + first.interval ≤ second.time) := by
  have valid : Along (traced past) (fun s input => Timely s input ∧ floor ≤ input.interval) start inputs :=
    fun before input after split => ⟨timely before input after split, given input (by simp [split])⟩
  have came (s : Traced) (input : Attempt) (firing : Firing) (_ : True)
      (_ : Timely s input ∧ floor ≤ input.interval) (reported : fired past s input = some firing) (_ : True) :
      Awaited s firing := by
    obtain ⟨reached, idle, rfl⟩ := (fired_iff past s input firing).mp reported
    refine retuned_awaited past s input.interval _
      ⟨Nat.le_refl _, fun _ => rfl, fun _ _ => of_decide_eq_true reached, fun _ working => ?_⟩
    rw [idle] at working
    cases working
  have narrows (s : Traced) (input : Attempt) (firing : Firing) (_ : True)
      (now : Timely s input ∧ floor ≤ input.interval) (later : Awaited (traced past s input) firing) : Awaited s firing :=
    retuned_awaited past s input.interval firing
      (settled_awaited _ input firing now.1 (by simpa only [retuned, retune_interval] using Int.le_trans positive now.2) later)
  have apart (s : Traced) (input : Attempt) (first second : Firing) (_ : True)
      (now : Timely s input ∧ floor ≤ input.interval) (reported : fired past s input = some first) (_ : True)
      (later : Awaited (traced past s input) second) :
      first.changes = second.changes → floor ≤ first.interval ∧ first.time + first.interval ≤ second.time := by
    obtain ⟨reached, _, rfl⟩ := (fired_iff past s input first).mp reported
    intro same
    refine ⟨by simpa only [retuned, retune_interval] using now.2, ?_⟩
    have ended := now.1.2
    obtain ⟨_, _, idle, busy⟩ := later
    simp only [traced, settled, settle_interval] at idle busy
    cases completes : input.completes with
    | true =>
        have next := idle same.symm (by simp [settle, reached, completes])
        simp only [settle, reached, completes, if_true] at next
        dsimp only
        omega
    | false =>
        have next := busy same.symm (by simp [settle, reached, completes])
        dsimp only
        omega
  exact (events_pairwise (fun _ => True) Awaited (fun _ _ _ _ => trivial) came narrows apart trivial valid).imp (fun spaced => spaced trivial trivial)

end Spacing

end Periodic
