import OpsSwitchd.BufmonTrigger
import OpsSwitchd.EventRuns
import Mathlib.Data.Int.Init
import Mathlib.Order.Lattice

set_option autoImplicit false

namespace OpsSwitchd.Bufmon

-- int has 32 bits: the conversion from time_t keeps the low ones, and so does
-- the increment of the counter.
def toInt32 (value : Int) : Int := value.bmod 0x100000000

def timeNow (msec : Nat) : Nat := msec / 1000

-- A return of poll_block. triggered says that the sequence number has changed;
-- checked and stored are the two readings of the clock that follow.
structure Wakeup where
  triggered : Bool
  checked : Nat
  stored : Nat
  ordered : checked ≤ stored

inductive LoopOp where
  | systemConfigUpdate (row : SystemRow)
  | enterPoll
  | wakeup (wake : Wakeup)

inductive Outcome where
  | triggerCollection
  | limited
  | reset
  | periodic
deriving DecidableEq, Repr

def wakeTrigger (wake : Wakeup) (thread : StatsThread) : Outcome × StatsThread :=
  let thread := { thread with triggerReportsCount := toInt32 (thread.triggerReportsCount + 1) }
  if thread.triggerReportsCount > thread.triggerRateLimit ∨ (wake.checked : Int) < thread.nextTriggerMsec then
    (.limited, triggerRateLimit true { thread with triggerDisabled := true })
  else
    (.triggerCollection, { thread with nextTriggerMsec := wake.stored + defaultTriggerReportInterval, polling := false })

def wakeTimeout (wake : Wakeup) (thread : StatsThread) : Outcome × StatsThread :=
  if timeNow wake.checked - thread.lastRateLimitTime > defaultTriggerRateLimitDuration then
    let thread := liftRateLimit
      { thread with lastRateLimitTime := toInt32 (timeNow wake.stored), triggerReportsCount := 0 }
    (.reset, { thread with polling := false })
  else (.periodic, { thread with polling := false })

def wakeUp (wake : Wakeup) (thread : StatsThread) : Outcome × StatsThread :=
  if wake.triggered then wakeTrigger wake thread else wakeTimeout wake thread

def loopStep (thread : StatsThread) : LoopOp → StatsThread
  | .systemConfigUpdate row => threadStep thread (.systemConfigUpdate row)
  | .enterPoll => threadStep thread .enterPoll
  | .wakeup wake => if thread.polling then (wakeUp wake thread).2 else thread

structure Report where
  outcome : Outcome
  msec : Nat
deriving DecidableEq, Repr

def reportAt (thread : StatsThread) : LoopOp → Option Report
  | .wakeup wake => if thread.polling then some ⟨(wakeUp wake thread).1, wake.checked⟩ else none
  | _ => none

def loopStart (msec : Nat) : StatsThread := threadStart (toInt32 (timeNow msec))

def reports (msec : Nat) (ops : List LoopOp) : List Report := EventRuns.events loopStep reportAt (loopStart msec) ops

structure RateLimited (limit : Int) (reports : List Report) : Prop where
  bounded : ∀ before window after, reports = before ++ (window ++ after) →
    (∀ report ∈ window, report.outcome ≠ .reset) →
    (window.countP (fun report => report.outcome = .triggerCollection) : Int) ≤ max limit 0
  spaced : reports.Pairwise (fun a b =>
    a.outcome = .triggerCollection → b.outcome = .triggerCollection → a.msec + 100 ≤ b.msec)
  resets : reports.Pairwise (fun a b => a.outcome = .reset → b.outcome = .reset → a.msec + 60 * 1000 < b.msec)

def NotificationsFollow (thread : StatsThread) (op : LoopOp) : Prop :=
  (∀ wake, op = .wakeup wake → thread.polling = true → wake.triggered = true →
    (reportAt thread op).map Report.outcome ≠ some .triggerCollection → (loopStep thread op).notifications = false) ∧
  (thread.notifications = false → (loopStep thread op).notifications = true →
    (reportAt thread op).map Report.outcome = some .reset)

def intMax : Int := 0x7fffffff

def IntsFit (thread : StatsThread) : LoopOp → Prop
  | .wakeup wake => thread.polling = true →
      (wake.triggered = true → thread.triggerReportsCount < intMax) ∧
      (wake.triggered = false → timeNow wake.checked - thread.lastRateLimitTime > defaultTriggerRateLimitDuration →
        timeNow wake.stored ≤ intMax)
  | _ => True

theorem to_int32_id (value : Int) (nonneg : 0 ≤ value) (fits : value ≤ intMax) : toInt32 value = value := by
  unfold toInt32 intMax at *
  exact Int.bmod_eq_of_le (by omega) (by omega)

theorem lift_rate_limit_fields (thread : StatsThread) :
    (liftRateLimit thread).triggerReportsCount = thread.triggerReportsCount ∧
      (liftRateLimit thread).nextTriggerMsec = thread.nextTriggerMsec ∧
      (liftRateLimit thread).lastRateLimitTime = thread.lastRateLimitTime ∧ (liftRateLimit thread).cfg = thread.cfg := by
  cases limited : thread.triggerDisabled with
  | false => simp [liftRateLimit, limited]
  | true =>
      cases on : thread.cfg.thresholdTriggerCollectionEnabled <;> simp [liftRateLimit, limited, triggerRateLimit, on]

inductive Woken (wake : Wakeup) (thread : StatsThread) : Outcome × StatsThread → Prop where
  | triggerCollection (within : thread.triggerReportsCount + 1 ≤ thread.triggerRateLimit)
      (due : thread.nextTriggerMsec ≤ wake.checked) :
      Woken wake thread (.triggerCollection, { thread with
        triggerReportsCount := thread.triggerReportsCount + 1
        nextTriggerMsec := wake.stored + defaultTriggerReportInterval
        polling := false })
  | limited :
      Woken wake thread (.limited, { thread with
        triggerReportsCount := thread.triggerReportsCount + 1
        triggerDisabled := true
        notifications := false })
  | reset (elapsed : thread.lastRateLimitTime + defaultTriggerRateLimitDuration < timeNow wake.checked) (next : StatsThread)
      (count : next.triggerReportsCount = 0) (last : next.lastRateLimitTime = timeNow wake.stored)
      (due : next.nextTriggerMsec = thread.nextTriggerMsec) (cfg : next.cfg = thread.cfg) (left : next.polling = false) :
      Woken wake thread (.reset, next)
  | periodic : Woken wake thread (.periodic, { thread with polling := false })

theorem wake_trigger_woken (wake : Wakeup) (thread : StatsThread)
    (nonneg : 0 ≤ thread.triggerReportsCount) (fits : thread.triggerReportsCount < intMax) :
    Woken wake thread (wakeTrigger wake thread) := by
  have counted : toInt32 (thread.triggerReportsCount + 1) = thread.triggerReportsCount + 1 :=
    to_int32_id _ (by omega) (by omega)
  unfold wakeTrigger
  rw [counted]
  dsimp only
  split
  · exact .limited
  · rename_i passed
    rw [not_or, not_lt, not_lt] at passed
    exact .triggerCollection passed.1 passed.2

theorem wake_timeout_woken (wake : Wakeup) (thread : StatsThread)
    (fits : timeNow wake.checked - thread.lastRateLimitTime > defaultTriggerRateLimitDuration → timeNow wake.stored ≤ intMax) :
    Woken wake thread (wakeTimeout wake thread) := by
  unfold wakeTimeout
  split
  · rename_i elapsed
    have stored : toInt32 (timeNow wake.stored) = timeNow wake.stored := to_int32_id _ (by omega) (fits elapsed)
    rw [stored]
    have kept := lift_rate_limit_fields { thread with lastRateLimitTime := timeNow wake.stored, triggerReportsCount := 0 }
    exact .reset (by omega) _ kept.1 kept.2.2.1 kept.2.1 kept.2.2.2 rfl
  · exact .periodic

theorem wake_up_woken (wake : Wakeup) (thread : StatsThread) (nonneg : 0 ≤ thread.triggerReportsCount)
    (polling : thread.polling = true) (fits : IntsFit thread (.wakeup wake)) : Woken wake thread (wakeUp wake thread) := by
  obtain ⟨counts, stores⟩ := fits polling
  unfold wakeUp
  cases triggered : wake.triggered with
  | true => exact wake_trigger_woken wake thread nonneg (counts triggered)
  | false => exact wake_timeout_woken wake thread (stores triggered)

structure LimitInv (limit : Int) (thread : StatsThread) : Prop where
  nonneg : 0 ≤ thread.triggerReportsCount
  configured : thread.cfg.enabled = true → thread.cfg.thresholdTriggerRateLimit = limit
  read : thread.polling = true → thread.triggerRateLimit = limit

def Steady (limit : Int) (thread : StatsThread) (op : LoopOp) : Prop :=
  IntsFit thread op ∧ ∀ row, op = .systemConfigUpdate row → (systemConfigUpdate row).thresholdTriggerRateLimit = limit

structure SameMarks (thread next : StatsThread) : Prop where
  count : next.triggerReportsCount = thread.triggerReportsCount
  due : next.nextTriggerMsec = thread.nextTriggerMsec
  last : next.lastRateLimitTime = thread.lastRateLimitTime

theorem enter_poll_marks (thread : StatsThread) : SameMarks thread (threadStep thread .enterPoll) := by
  unfold threadStep enterPoll
  dsimp only
  split
  · exact ⟨rfl, rfl, rfl⟩
  · split <;> exact ⟨rfl, rfl, rfl⟩

theorem loop_step_cases (limit : Int) (thread : StatsThread) (op : LoopOp) (inv : LimitInv limit thread)
    (steady : Steady limit thread op) :
    (reportAt thread op = none ∧ SameMarks thread (loopStep thread op)) ∨
      ∃ wake outcome, thread.polling = true ∧ reportAt thread op = some ⟨outcome, wake.checked⟩ ∧
        Woken wake thread (outcome, loopStep thread op) := by
  cases op with
  | systemConfigUpdate row => exact .inl ⟨rfl, rfl, rfl, rfl⟩
  | enterPoll => exact .inl ⟨rfl, enter_poll_marks thread⟩
  | wakeup wake =>
      simp only [reportAt, loopStep]
      by_cases polling : thread.polling = true
      · refine .inr ⟨wake, (wakeUp wake thread).1, polling, by rw [if_pos polling], ?_⟩
        rw [if_pos polling]
        exact wake_up_woken wake thread inv.nonneg polling steady.1
      · rw [if_neg polling, if_neg polling]
        exact .inl ⟨rfl, rfl, rfl, rfl⟩

theorem woken_inv (limit : Int) (wake : Wakeup) (thread : StatsThread) (woken : Outcome × StatsThread)
    (inv : LimitInv limit thread) (after : Woken wake thread woken) : LimitInv limit woken.2 := by
  have counted : 0 ≤ thread.triggerReportsCount + 1 := by
    have nonneg := inv.nonneg
    omega
  cases after with
  | triggerCollection within due => exact ⟨counted, inv.configured, fun polling => by cases polling⟩
  | limited => exact ⟨counted, inv.configured, inv.read⟩
  | reset elapsed next count last due cfg left =>
      exact ⟨count.ge, cfg ▸ inv.configured, fun polling => by rw [left] at polling; cases polling⟩
  | periodic => exact ⟨inv.nonneg, inv.configured, fun polling => by cases polling⟩

theorem loop_step_inv (limit : Int) (thread : StatsThread) (op : LoopOp) (inv : LimitInv limit thread)
    (steady : Steady limit thread op) : LimitInv limit (loopStep thread op) := by
  cases op with
  | systemConfigUpdate row => exact ⟨inv.nonneg, fun _ => steady.2 row rfl, inv.read⟩
  | enterPoll =>
      simp only [loopStep, threadStep, enterPoll]
      split
      · exact inv
      · split
        · rename_i enabled
          exact ⟨inv.nonneg, inv.configured, fun _ => inv.configured enabled⟩
        · exact inv
  | wakeup wake =>
      rw [loopStep]
      split
      · rename_i polling
        exact woken_inv limit wake thread _ inv (wake_up_woken wake thread inv.nonneg polling steady.1)
      · exact inv

theorem woken_trigger_due (wake : Wakeup) (thread : StatsThread) (woken : Outcome × StatsThread)
    (after : Woken wake thread woken) :
    thread.nextTriggerMsec ≤ woken.2.nextTriggerMsec ∧
      (woken.1 = .triggerCollection → thread.nextTriggerMsec ≤ wake.checked ∧
        wake.checked + (100 : Nat) ≤ woken.2.nextTriggerMsec) := by
  have ordered := wake.ordered
  cases after with
  | triggerCollection within due =>
      have later : (wake.checked : Int) + (100 : Nat) ≤ wake.stored + defaultTriggerReportInterval := by
        rw [defaultTriggerReportInterval]
        omega
      exact ⟨by dsimp only; omega, fun _ => ⟨due, later⟩⟩
  | limited => exact ⟨le_refl _, fun other => by cases other⟩
  | reset elapsed next count last due cfg left => exact ⟨due.ge, fun other => by cases other⟩
  | periodic => exact ⟨le_refl _, fun other => by cases other⟩

def resetDue (thread : StatsThread) : Int := (thread.lastRateLimitTime + defaultTriggerRateLimitDuration + 1) * 1000

theorem woken_reset_due (wake : Wakeup) (thread : StatsThread) (woken : Outcome × StatsThread)
    (after : Woken wake thread woken) :
    resetDue thread ≤ resetDue woken.2 ∧
      (woken.1 = .reset → resetDue thread ≤ wake.checked ∧ wake.checked + (60 * 1000 + 1 : Nat) ≤ resetDue woken.2) := by
  have ordered := wake.ordered
  unfold resetDue
  cases after with
  | triggerCollection within due => exact ⟨le_refl _, fun other => by cases other⟩
  | limited => exact ⟨le_refl _, fun other => by cases other⟩
  | reset elapsed next count last due cfg left =>
      have stored := Nat.div_le_div_right (c := 1000) ordered
      simp only [defaultTriggerRateLimitDuration, timeNow, last] at elapsed ⊢
      exact ⟨by omega, fun _ => ⟨by omega, by omega⟩⟩
  | periodic => exact ⟨le_refl _, fun other => by cases other⟩

theorem woken_budget (limit : Int) (wake : Wakeup) (thread : StatsThread) (woken : Outcome × StatsThread)
    (read : thread.triggerRateLimit = limit) (after : Woken wake thread woken) (unended : woken.1 ≠ .reset) :
    (limit - woken.2.triggerReportsCount).toNat + (if woken.1 = .triggerCollection then 1 else 0) ≤
      (limit - thread.triggerReportsCount).toNat := by
  cases after with
  | triggerCollection within due =>
      rw [read] at within
      rw [if_pos rfl]
      dsimp only
      omega
  | limited =>
      rw [if_neg (fun other => by cases other)]
      dsimp only
      omega
  | reset elapsed next count last due cfg left => exact absurd rfl unended
  | periodic => rw [if_neg (fun other => by cases other), Nat.add_zero]

section Run

variable {limit : Int} {start : StatsThread} {ops : List LoopOp} (initial : LimitInv limit start)
  (steady : Runs.Along loopStep (Steady limit) start ops)

include initial steady

theorem outcomes_apart (outcome : Outcome) (gap : Nat) (due : StatsThread → Int)
    (idle : ∀ thread next, SameMarks thread next → due next = due thread)
    (moved : ∀ wake thread woken, Woken wake thread woken → due thread ≤ due woken.2 ∧
      (woken.1 = outcome → due thread ≤ wake.checked ∧ wake.checked + gap ≤ due woken.2)) :
    (EventRuns.events loopStep reportAt start ops).Pairwise (fun a b =>
      a.outcome = outcome → b.outcome = outcome → a.msec + gap ≤ b.msec) := by
  have marks (thread : StatsThread) (op : LoopOp) (inv : LimitInv limit thread) (here : Steady limit thread op) :
      due thread ≤ due (loopStep thread op) ∧ ∀ report, reportAt thread op = some report → report.outcome = outcome →
        due thread ≤ report.msec ∧ report.msec + gap ≤ due (loopStep thread op) := by
    rcases loop_step_cases limit thread op inv here with ⟨silent, same⟩ | ⟨wake, seen, _, reported, after⟩
    · refine ⟨(idle _ _ same).ge, fun report found => ?_⟩
      rw [silent] at found
      cases found
    · obtain ⟨grows, met⟩ := moved wake thread _ after
      refine ⟨grows, fun report found => ?_⟩
      rw [reported] at found
      obtain rfl := Option.some.inj found
      exact met
  refine EventRuns.events_pairwise (fun report : Report => report.outcome = outcome)
    (fun thread (report : Report) => due thread ≤ report.msec) (loop_step_inv limit) ?_ ?_ ?_ initial steady
  · intro thread op report inv here reported kind
    exact ((marks thread op inv here).2 report reported kind).1
  · intro thread op report inv here later
    exact (marks thread op inv here).1.trans later
  · intro thread op a b inv here reported kind later
    have gone := ((marks thread op inv here).2 a reported kind).2
    omega

theorem window_bounded (before window after : List Report)
    (split : EventRuns.events loopStep reportAt start ops = before ++ (window ++ after))
    (unended : ∀ report ∈ window, report.outcome ≠ .reset) :
    (window.countP (fun report => report.outcome = .triggerCollection) : Int) ≤ max limit 0 := by
  rw [← Int.toNat_eq_max, Int.ofNat_le]
  refine EventRuns.events_window_bounded (fun report => report.outcome = .reset) _
    (fun thread => (limit - thread.triggerReportsCount).toNat) (loop_step_inv limit) ?_ ?_ ?_ initial steady before window
    after split (fun report inside => decide_eq_false (unended report inside))
  · intro thread op inv here silent
    rcases loop_step_cases limit thread op inv here with ⟨_, same⟩ | ⟨wake, seen, _, reported, _⟩
    · rw [same.count]
    · rw [silent] at reported
      cases reported
  · intro thread op report inv here found going
    rcases loop_step_cases limit thread op inv here with ⟨silent, _⟩ | ⟨wake, seen, polling, reported, after⟩
    · rw [silent] at found
      cases found
    · rw [reported] at found
      obtain rfl := Option.some.inj found
      have spent := woken_budget limit wake thread _ (inv.read polling) after (of_decide_eq_false going)
      simpa only [decide_eq_true_eq] using spent
  · intro thread inv
    have nonneg := inv.nonneg
    omega

theorem run_rate_limited : RateLimited limit (EventRuns.events loopStep reportAt start ops) where
  bounded := window_bounded initial steady
  spaced := outcomes_apart initial steady .triggerCollection 100 StatsThread.nextTriggerMsec
    (fun _ _ same => same.due) woken_trigger_due
  resets := outcomes_apart initial steady .reset (60 * 1000 + 1) resetDue
    (fun _ _ same => by rw [resetDue, same.last, resetDue]) woken_reset_due

end Run

theorem wake_up_notifications (wake : Wakeup) (thread : StatsThread) :
    ((wakeUp wake thread).1 ≠ .triggerCollection → wake.triggered = true → (wakeUp wake thread).2.notifications = false) ∧
      (thread.notifications = false → (wakeUp wake thread).2.notifications = true → (wakeUp wake thread).1 = .reset) := by
  unfold wakeUp wakeTrigger wakeTimeout
  cases wake.triggered with
  | true =>
      simp only [if_true]
      split
      · simp [triggerRateLimit]
      · exact ⟨fun other => absurd rfl other, fun off on => absurd (off.symm.trans on) (by decide)⟩
  | false =>
      simp only [Bool.false_eq_true, if_false, false_implies, implies_true, true_and]
      split
      · exact fun _ _ => rfl
      · exact fun off on => absurd (off.symm.trans on) (by decide)

theorem enter_poll_notifications (thread : StatsThread) :
    (threadStep thread .enterPoll).notifications = thread.notifications := by
  simp only [threadStep, enterPoll]
  split
  · rfl
  · split <;> rfl

theorem notifications_follow (thread : StatsThread) (op : LoopOp) : NotificationsFollow thread op := by
  have unchanged (same : (loopStep thread op).notifications = thread.notifications) :
      thread.notifications = false → (loopStep thread op).notifications = true →
        (reportAt thread op).map Report.outcome = some .reset := by
    intro off on
    rw [same, off] at on
    cases on
  cases op with
  | systemConfigUpdate row => exact ⟨fun wake other => LoopOp.noConfusion other, unchanged rfl⟩
  | enterPoll => exact ⟨fun wake other => LoopOp.noConfusion other, unchanged (enter_poll_notifications thread)⟩
  | wakeup wake =>
      cases polling : thread.polling with
      | false =>
          refine ⟨fun _ _ woken => ?_, unchanged (by simp [loopStep, polling])⟩
          rw [polling] at woken
          cases woken
      | true =>
          obtain ⟨disabled, enabled⟩ := wake_up_notifications wake thread
          have next : loopStep thread (.wakeup wake) = (wakeUp wake thread).2 := by rw [loopStep, if_pos polling]
          have seen : (reportAt thread (.wakeup wake)).map Report.outcome = some (wakeUp wake thread).1 := by
            rw [reportAt, if_pos polling, Option.map_some]
          unfold NotificationsFollow
          rw [next, seen]
          refine ⟨fun other same _ triggered uncollected => ?_, fun off on => congrArg some (enabled off on)⟩
          obtain rfl := LoopOp.wakeup.inj same
          exact disabled (fun collected => uncollected (congrArg some collected)) triggered

theorem loop_step_once (thread : StatsThread) (wake : Wakeup) (nonneg : 0 ≤ thread.triggerReportsCount)
    (fits : IntsFit thread (.wakeup wake)) (once : wake.stored = wake.checked) :
    loopStep thread (.wakeup wake) =
      threadStep thread (if wake.triggered then .trigger wake.checked else .timeout (timeNow wake.checked)) := by
  cases polling : thread.polling with
  | false => cases wake.triggered <;> simp [loopStep, threadStep, polling]
  | true =>
      obtain ⟨counts, stores⟩ := fits polling
      cases triggered : wake.triggered with
      | true =>
          have counted : toInt32 (thread.triggerReportsCount + 1) = thread.triggerReportsCount + 1 :=
            to_int32_id _ (by omega) (counts triggered)
          simp only [loopStep, threadStep, polling, if_true, wakeUp, triggered, wakeTrigger, handleTrigger, counted, once]
          split <;> rfl
      | false =>
          simp only [loopStep, threadStep, polling, if_true, wakeUp, triggered, Bool.false_eq_true, if_false, wakeTimeout,
            handleTimeout]
          split
          · rename_i elapsed
            rw [to_int32_id _ (Int.natCast_nonneg _) (stores triggered elapsed), once]
          · rfl

theorem trigger_rate_limited (limit : Int) (msec : Nat) (ops : List LoopOp)
    (constant : ∀ row, .systemConfigUpdate row ∈ ops → (systemConfigUpdate row).thresholdTriggerRateLimit = limit)
    (fits : Runs.Along loopStep IntsFit (loopStart msec) ops) :
    RateLimited limit (reports msec ops) ∧ Runs.Along loopStep NotificationsFollow (loopStart msec) ops := by
  have initial : LimitInv limit (loopStart msec) :=
    ⟨le_refl _, fun enabled => Bool.noConfusion enabled, fun polling => Bool.noConfusion polling⟩
  have steady : Runs.Along loopStep (Steady limit) (loopStart msec) ops := by
    intro before op after split
    refine ⟨fits before op after split, fun row update => constant row ?_⟩
    rw [split, update]
    exact List.mem_append_right _ List.mem_cons_self
  exact ⟨run_rate_limited initial steady, fun _ op _ _ => notifications_follow _ op⟩

def timeoutAt (sec : Nat) : LoopOp := .wakeup ⟨false, sec * 1000, sec * 1000, Nat.le_refl _⟩

def triggerAt (msec : Nat) : LoopOp := .wakeup ⟨true, msec, msec, Nat.le_refl _⟩

def limitConfig (limit : String) : SystemRow :=
  ⟨[(.enabled, "true"), (.thresholdTriggerCollectionEnabled, "true"), (.triggerRateLimit, limit)], false, true⟩

def limitedRun : List LoopOp :=
  [.systemConfigUpdate (limitConfig "1"), .enterPoll, triggerAt 1000, .enterPoll, triggerAt 2000, timeoutAt 61]

theorem second_trigger_limited : RateLimited 1 (reports 0 limitedRun) ∧
    (reports 0 limitedRun).map Report.outcome = [.triggerCollection, .limited, .reset] := by
  refine ⟨(trigger_rate_limited 1 0 limitedRun ?_ ?_).1, by decide⟩
  · intro row inside
    obtain rfl : row = limitConfig "1" := by simpa [limitedRun, triggerAt, timeoutAt] using inside
    decide
  · have triggerFits (thread : StatsThread) (msec : Nat) (small : thread.triggerReportsCount < intMax) :
        IntsFit thread (triggerAt msec) := fun _ => ⟨fun _ => small, fun other => Bool.noConfusion other⟩
    simp only [limitedRun, Runs.along_cons]
    refine ⟨trivial, trivial, triggerFits _ _ (by decide), trivial, triggerFits _ _ (by decide), fun _ => ?_, ?_⟩
    · exact ⟨fun other => Bool.noConfusion other, fun _ _ => by decide⟩
    · exact Runs.along_nil _ _ _

def lateRun : List LoopOp :=
  [.systemConfigUpdate (limitConfig "60"), .enterPoll, timeoutAt 0x80000000, .enterPoll, timeoutAt 0x80000005]

-- From 2^31 seconds on the stored time is negative, and every timeout is later
-- than it by more than a minute.
theorem late_resets_five_seconds_apart : ¬ RateLimited 60 (reports (0x7fffff9c * 1000) lateRun) := by
  intro limited
  have twice : reports (0x7fffff9c * 1000) lateRun =
      [⟨.reset, 0x80000000 * 1000⟩, ⟨.reset, 0x80000005 * 1000⟩] := by decide
  have apart := limited.resets
  rw [twice] at apart
  exact absurd (List.rel_of_pairwise_cons apart List.mem_cons_self rfl rfl) (by decide)

end OpsSwitchd.Bufmon
