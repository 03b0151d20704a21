import OpsSwitchd.Bufmon
import OpsSwitchd.Runs

set_option autoImplicit false

namespace OpsSwitchd.Bufmon

-- The statistics thread between two wake-ups. notifications is the state that
-- bufmon_trigger_enable leaves in the provider; polling is the inner loop, and
-- outside it the thread is at the head of the outer one.
structure StatsThread where
  cfg : SystemConfig
  notifications : Bool
  polling : Bool
  triggerReportsCount : Int
  triggerRateLimit : Int
  triggerDisabled : Bool
  nextTriggerMsec : Int
  lastRateLimitTime : Int
deriving DecidableEq, Repr

inductive ThreadOp where
  | systemConfigUpdate (row : SystemRow)
  | enterPoll
  | trigger (msec : Int)
  | timeout (sec : Int)

def triggerRateLimit (flag : Bool) (thread : StatsThread) : StatsThread :=
  if flag then { thread with notifications := false }
  else if thread.cfg.thresholdTriggerCollectionEnabled then { thread with notifications := true }
  else thread

-- The head of the outer loop waits on the condition while monitoring is off.
def enterPoll (thread : StatsThread) : StatsThread :=
  if thread.cfg.enabled then { thread with triggerRateLimit := thread.cfg.thresholdTriggerRateLimit, polling := true }
  else thread

def handleTrigger (msec : Int) (thread : StatsThread) : StatsThread :=
  let thread := { thread with triggerReportsCount := thread.triggerReportsCount + 1 }
  if thread.triggerReportsCount > thread.triggerRateLimit ∨ msec < thread.nextTriggerMsec then
    triggerRateLimit true { thread with triggerDisabled := true }
  else { thread with nextTriggerMsec := msec + defaultTriggerReportInterval, polling := false }

def liftRateLimit (thread : StatsThread) : StatsThread :=
  if thread.triggerDisabled then triggerRateLimit false { thread with triggerDisabled := false } else thread

def handleTimeout (sec : Int) (thread : StatsThread) : StatsThread :=
  let thread :=
    if sec - thread.lastRateLimitTime > defaultTriggerRateLimitDuration then
      liftRateLimit { thread with lastRateLimitTime := sec, triggerReportsCount := 0 }
    else thread
  { thread with polling := false }

-- bufmon_run_stats_update follows each wake-up; it touches nothing of this state.
def threadStep (thread : StatsThread) : ThreadOp → StatsThread
  | .systemConfigUpdate row => { thread with cfg := systemConfigUpdate row }
  | .enterPoll => if thread.polling then thread else enterPoll thread
  | .trigger msec => if thread.polling then handleTrigger msec thread else thread
  | .timeout sec => if thread.polling then handleTimeout sec thread else thread

def NotificationsHeard (thread : StatsThread) : Prop :=
  thread.triggerDisabled = false → thread.cfg.thresholdTriggerCollectionEnabled = true → thread.notifications = true

instance (thread : StatsThread) : Decidable (NotificationsHeard thread) :=
  inferInstanceAs (Decidable (thread.triggerDisabled = false → thread.cfg.thresholdTriggerCollectionEnabled = true →
    thread.notifications = true))

def SwitchedOnHeard (thread : StatsThread) : ThreadOp → Prop
  | .systemConfigUpdate row => (systemConfigUpdate row).thresholdTriggerCollectionEnabled = true →
      thread.notifications = true ∨ thread.triggerDisabled = true
  | _ => True

theorem handle_trigger_heard (msec : Int) (thread : StatsThread) (heard : NotificationsHeard thread) :
    NotificationsHeard (handleTrigger msec thread) := by
  unfold handleTrigger
  dsimp only
  split
  · intro unlimited
    cases unlimited
  · exact heard

theorem lift_rate_limit_heard (thread : StatsThread) (heard : NotificationsHeard thread) :
    NotificationsHeard (liftRateLimit thread) := by
  unfold liftRateLimit
  split
  · intro _ on
    cases threshold : thread.cfg.thresholdTriggerCollectionEnabled with
    | true => simp [triggerRateLimit, threshold]
    | false => simp [triggerRateLimit, threshold] at on
  · exact heard

theorem handle_timeout_heard (sec : Int) (thread : StatsThread) (heard : NotificationsHeard thread) :
    NotificationsHeard (handleTimeout sec thread) := by
  unfold handleTimeout
  dsimp only
  split
  · exact lift_rate_limit_heard _ heard
  · exact heard

theorem thread_step_heard (thread : StatsThread) (op : ThreadOp) (heard : NotificationsHeard thread) (_ : True)
    (met : SwitchedOnHeard thread op) : NotificationsHeard (threadStep thread op) := by
  cases op with
  | systemConfigUpdate row =>
      intro unlimited on
      rcases met on with heard | limited
      · exact heard
      · exact absurd unlimited (by simp [threadStep, limited])
  | enterPoll =>
      simp only [threadStep, enterPoll]
      split
      · exact heard
      · split <;> exact heard
  | trigger msec =>
      rw [threadStep]
      split
      · exact handle_trigger_heard msec thread heard
      · exact heard
  | timeout sec =>
      rw [threadStep]
      split
      · exact handle_timeout_heard sec thread heard
      · exact heard

theorem heard_needs (thread : StatsThread) (op : ThreadOp) (_ : NotificationsHeard thread) (_ : True)
    (heard : NotificationsHeard (threadStep thread op)) : SwitchedOnHeard thread op := by
  cases op with
  | systemConfigUpdate row =>
      intro on
      cases limited : thread.triggerDisabled with
      | true => exact .inr rfl
      | false => exact .inl (heard limited on)
  | enterPoll => trivial
  | trigger msec => trivial
  | timeout sec => trivial

def threadStart (time : Int) : StatsThread := ⟨idleConfig, true, false, 0, 0, false, 0, time⟩

theorem notifications_heard_iff_switched_on_heard (time : Int) (ops : List ThreadOp) :
    Runs.Always threadStep NotificationsHeard (threadStart time) ops ↔
      Runs.Along threadStep SwitchedOnHeard (threadStart time) ops :=
  Runs.always_iff_along (fun _ heard => heard) thread_step_heard heard_needs (fun _ _ => rfl) (fun _ _ _ _ => trivial)

def triggerConfig (threshold : String) : SystemRow :=
  ⟨[(.enabled, "true"), (.thresholdTriggerCollectionEnabled, threshold)], false, true⟩

-- The limit expires while threshold collection is off, so nothing is switched
-- on; afterwards the thread no longer knows that anything is off.
theorem limit_expires_while_collection_is_off :
    ¬ Runs.Always threadStep NotificationsHeard (threadStart 0)
      [.systemConfigUpdate (triggerConfig "true"), .enterPoll, .trigger 1000, .enterPoll, .trigger 1050,
        .systemConfigUpdate (triggerConfig "false"), .timeout 61, .systemConfigUpdate (triggerConfig "true")] := by
  intro all
  exact absurd (all _ [] (List.append_nil _).symm) (by decide)

end OpsSwitchd.Bufmon
