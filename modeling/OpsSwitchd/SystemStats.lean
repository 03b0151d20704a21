import OpsSwitchd.Handover
import OpsSwitchd.StatusUpdate

set_option autoImplicit false

namespace OpsSwitchd.SystemStats

open Handover

-- number is the order in which the collector began, begun the enabling in which
-- it did, and period the one in which the snapshot was published.
structure Snapshot where
  number : Nat
  begun : Nat
  period : Nat
deriving DecidableEq, Repr

inductive Latch where
  | raw
  | clear
  | set
deriving DecidableEq, Repr

inductive Collector where
  | absent
  | checking
  | asleep
  | gathering (number begun : Nat)
  | resting
deriving DecidableEq, Repr

inductive Pc where
  | idle
  | reconfigure
  | stats
deriving DecidableEq, Repr

-- row is other_config:enable-statistics of the Open_vSwitch row, if there is
-- one, and column its statistics. stale says that the IDL has moved on from
-- idl_seqno; misused, that the latch was touched before latch_init.
structure State where
  row : Option Bool
  stale : Bool
  pc : Pc
  enabled : Bool
  started : Bool
  period : Nat
  latch : Latch
  misused : Bool
  collector : Collector
  next : Nat
  slot : Slot Snapshot
  column : Option Snapshot
  recorded : List (Snapshot × Nat)
  leaked : List Snapshot
deriving DecidableEq, Repr

inductive Step where
  | idlRun (lock : StatusUpdate.Lock) (update : Option (Option Bool))
  | reconfigure (applied : Bool)
  | runSystemStats (applied : Bool)
  | wait
  | check
  | spuriousWakeup
  | publish
  | rested
deriving DecidableEq, Repr

def touchLatch (s : State) (latch : Latch) : State :=
  if s.latch = .raw then { s with misused := true } else { s with latch := latch }

def discardStats (s : State) : State := { s with slot := drop s.slot }

def startCollector (s : State) : State :=
  if s.started then s else { s with collector := .checking, latch := .clear, started := true }

def condSignal (s : State) : State := if s.collector = .asleep then { s with collector := .checking } else s

def systemStatsEnable (s : State) (enable : Bool) : State :=
  if s.enabled = enable then s
  else if enable then { condSignal (discardStats (startCollector s)) with enabled := true, period := s.period + 1 }
  else { s with enabled := false }

def systemStatsRun (s : State) : State × Option Snapshot :=
  match s.slot.pending with
  | none => (s, none)
  | some snapshot =>
      let s := touchLatch s .clear
      if s.enabled then ({ s with slot := take s.slot }, some snapshot) else (discardStats s, none)

def systemStatsWait (s : State) : State := if s.enabled then touchLatch s s.latch else s

-- Without a row the configuration is null_cfg, which enables nothing and has
-- no column to clear.
def reconfigureSystemStats (s : State) (applied : Bool) : State :=
  let enable := s.row.getD false
  let s := systemStatsEnable s enable
  if enable = false ∧ applied = true then { s with column := none } else s

def runSystemStats (s : State) (applied : Bool) : State :=
  match systemStatsRun s with
  | (s, none) => s
  | (s, some snapshot) =>
      if s.row.isSome then
        { s with column := if applied then some snapshot else s.column, recorded := s.recorded ++ [(snapshot, s.period)] }
      else { s with leaked := s.leaked ++ [snapshot] }

def receive (s : State) (update : Option (Option Bool)) : State :=
  match update with
  | none => s
  | some row => { s with row := row, stale := true, column := if row.isSome then s.column else none }

def step (s : State) : Step → State
  | .idlRun lock update =>
      if s.pc = .idle then
        let s := receive s update
        match lock with
        | .contended => systemStatsEnable s false
        | .missing => s
        | .held => { s with pc := if s.stale then .reconfigure else .stats }
      else s
  | .reconfigure applied =>
      if s.pc = .reconfigure then { reconfigureSystemStats s applied with stale := false, pc := .stats } else s
  | .runSystemStats applied => if s.pc = .stats then { runSystemStats s applied with pc := .idle } else s
  | .wait => if s.pc = .idle then systemStatsWait s else s
  | .check =>
      if s.collector = .checking then
        if s.enabled then { s with collector := .gathering s.next s.period, next := s.next + 1 } else { s with collector := .asleep }
      else s
  | .spuriousWakeup => if s.collector = .asleep then { s with collector := .checking } else s
  | .publish =>
      match s.collector with
      | .gathering number begun =>
          { touchLatch { s with slot := put s.slot ⟨number, begun, s.period⟩ } .set with collector := .resting }
      | _ => s
  | .rested => if s.collector = .resting then { s with collector := .checking } else s

def initial (row : Option Bool) (column : Option Snapshot) : State :=
  ⟨row, true, .idle, false, false, 0, .raw, false, .absent, 0, Handover.empty, column, [], []⟩

def woken (s : State) : Collector :=
  if s.started then if s.collector = .asleep then .checking else s.collector else .checking

theorem woken_awake (s : State) : woken s ≠ .asleep := by
  unfold woken
  split
  · split
    · simp
    · assumption
  · simp

theorem enable_on (s : State) (off : s.enabled = false) :
    systemStatsEnable s true =
      { s with enabled := true, period := s.period + 1, slot := drop s.slot, started := true, collector := woken s,
               latch := if s.started then s.latch else .clear } := by
  simp only [systemStatsEnable, off, condSignal, discardStats, startCollector, woken]
  cases started : s.started with
  | false => simp
  | true =>
      by_cases asleep : s.collector = .asleep
      · simp [started, asleep]
      · simp [started, asleep]

theorem enabled_by_enable (s : State) : (systemStatsEnable s true).enabled = true := by
  unfold systemStatsEnable
  split
  · assumption
  · rfl

theorem enable_off (s : State) : systemStatsEnable s false = { s with enabled := false } := by
  unfold systemStatsEnable
  split
  · rename_i same
    rw [← same]
  · rfl

structure Heard (s : State) : Prop where
  ready : s.started = true → s.latch ≠ .raw
  unstarted : s.started = false → s.collector = .absent ∧ s.slot.pending = none ∧ s.enabled = false
  used : s.misused = false
  asleep : s.collector = .asleep → s.enabled = false
  signalled : s.slot.pending ≠ none → s.latch = .set

theorem touch_ready (s : State) (latch : Latch) (ready : s.latch ≠ .raw) :
    touchLatch s latch = { s with latch := latch } := if_neg ready

theorem pending_ready (s : State) (heard : Heard s) (waiting : s.slot.pending ≠ none) : s.latch ≠ .raw := by
  rw [heard.signalled waiting]
  decide

theorem collector_started (s : State) (heard : Heard s) (there : s.collector ≠ .absent) : s.started = true :=
  Bool.of_not_eq_false (fun fresh => there (heard.unstarted fresh).1)

theorem enabled_ready (s : State) (heard : Heard s) (enabled : s.enabled = true) : s.latch ≠ .raw := by
  refine heard.ready (Bool.of_not_eq_false (fun fresh => ?_))
  rw [(heard.unstarted fresh).2.2] at enabled
  cases enabled

inductive Turn (s : State) : State → Prop where
  | none : Turn s s
  | received (row : Option Bool) (idle : s.pc = .idle) :
      Turn s { s with row := row, stale := true, column := if row.isSome then s.column else none }
  | contended : Turn s { s with enabled := false }
  | entered (idle : s.pc = .idle) : Turn s { s with pc := if s.stale then .reconfigure else .stats }
  | switchedOn (row : s.row = some true) (off : s.enabled = false) :
      Turn s { s with enabled := true, period := s.period + 1, slot := drop s.slot, started := true, collector := woken s,
                      latch := if s.started then s.latch else .clear, stale := false, pc := .stats }
  | stayedOn (row : s.row = some true) (on : s.enabled = true) : Turn s { s with stale := false, pc := .stats }
  | switchedOff (row : s.row.getD false = false) (applied : Bool) :
      Turn s { s with enabled := false, column := if applied then none else s.column, stale := false, pc := .stats }
  | nothing (empty : s.slot.pending = none) : Turn s { s with pc := .idle }
  | recorded (here : s.pc = .stats) (snapshot : Snapshot) (waiting : s.slot.pending = some snapshot) (on : s.enabled = true)
      (row : s.row.isSome = true) (applied : Bool) :
      Turn s { s with latch := .clear, slot := take s.slot, column := if applied then some snapshot else s.column,
                      recorded := s.recorded ++ [(snapshot, s.period)], pc := .idle }
  | leaked (here : s.pc = .stats) (snapshot : Snapshot) (waiting : s.slot.pending = some snapshot) (on : s.enabled = true)
      (row : s.row = none) :
      Turn s { s with latch := .clear, slot := take s.slot, leaked := s.leaked ++ [snapshot], pc := .idle }
  | dropped (snapshot : Snapshot) (waiting : s.slot.pending = some snapshot) (off : s.enabled = false) :
      Turn s { s with latch := .clear, slot := drop s.slot, pc := .idle }
  | began (checking : s.collector = .checking) (on : s.enabled = true) :
      Turn s { s with collector := .gathering s.next s.period, next := s.next + 1 }
  | slept (checking : s.collector = .checking) (off : s.enabled = false) : Turn s { s with collector := .asleep }
  | returned (waiting : s.collector = .asleep ∨ s.collector = .resting) : Turn s { s with collector := .checking }
  | published (number begun : Nat) (busy : s.collector = .gathering number begun) :
      Turn s { s with slot := put s.slot ⟨number, begun, s.period⟩, latch := .set, collector := .resting }

theorem run_cases (s : State) (heard : Heard s) :
    s.slot.pending = none ∧ systemStatsRun s = (s, none) ∨
      ∃ snapshot, s.slot.pending = some snapshot ∧
        (s.enabled = true ∧ systemStatsRun s = ({ s with latch := .clear, slot := take s.slot }, some snapshot) ∨
          s.enabled = false ∧ systemStatsRun s = ({ s with latch := .clear, slot := drop s.slot }, none)) := by
  unfold systemStatsRun
  cases waiting : s.slot.pending with
  | none => exact .inl ⟨rfl, rfl⟩
  | some snapshot =>
      refine .inr ⟨snapshot, rfl, ?_⟩
      simp only [touch_ready s _ (pending_ready s heard (by simp [waiting])), discardStats]
      cases s.enabled <;> simp

theorem run_turn (s : State) (applied : Bool) (heard : Heard s) (here : s.pc = .stats) :
    Turn s { runSystemStats s applied with pc := .idle } := by
  unfold runSystemStats
  rcases run_cases s heard with ⟨empty, same⟩ | ⟨snapshot, waiting, ⟨on, taken⟩ | ⟨off, dropped⟩⟩
  · rw [same]
    exact .nothing empty
  · rw [taken]
    dsimp only
    split
    · rename_i row
      exact .recorded here snapshot waiting on row applied
    · rename_i row
      exact .leaked here snapshot waiting on (by simpa using row)
  · rw [dropped]
    exact .dropped snapshot waiting off

theorem reconfigure_off (s : State) (applied : Bool) (off : s.row.getD false = false) :
    reconfigureSystemStats s applied = { s with enabled := false, column := if applied then none else s.column } := by
  simp only [reconfigureSystemStats, off, enable_off, true_and]
  cases applied <;> rfl

theorem reconfigure_on (s : State) (applied : Bool) (on : s.row.getD false = true) :
    reconfigureSystemStats s applied = systemStatsEnable s true := by
  simp [reconfigureSystemStats, on]

theorem reconfigure_turn (s : State) (applied : Bool) :
    Turn s { reconfigureSystemStats s applied with stale := false, pc := .stats } := by
  cases row : s.row.getD false with
  | false =>
      rw [reconfigure_off s applied row]
      exact .switchedOff row applied
  | true =>
      have asked : s.row = some true := by
        cases stored : s.row with
        | none => simp [stored] at row
        | some flag => simpa [stored] using row
      rw [reconfigure_on s applied row]
      cases enabled : s.enabled with
      | true =>
          rw [systemStatsEnable, if_pos enabled]
          exact .stayedOn asked enabled
      | false =>
          rw [enable_on s enabled]
          exact .switchedOn asked enabled

theorem wait_same (s : State) (heard : Heard s) : systemStatsWait s = s := by
  unfold systemStatsWait
  split
  · rename_i enabled
    rw [touch_ready s _ (enabled_ready s heard enabled)]
  · rfl

theorem receive_turn (s : State) (update : Option (Option Bool)) (idle : s.pc = .idle) :
    Turn s (receive s update) ∧ (receive s update).pc = .idle := by
  cases update with
  | none => exact ⟨.none, idle⟩
  | some row => exact ⟨.received row idle, idle⟩

theorem step_turns (s : State) (input : Step) (heard : Heard s) : ∃ middle, Turn s middle ∧ Turn middle (step s input) := by
  cases input with
  | idlRun lock update =>
      simp only [step]
      split
      · rename_i idle
        obtain ⟨received, still⟩ := receive_turn s update idle
        refine ⟨_, received, ?_⟩
        cases lock with
        | contended =>
            simp only [enable_off]
            exact .contended
        | missing => exact .none
        | held => exact .entered still
      · exact ⟨s, .none, .none⟩
  | reconfigure applied =>
      simp only [step]
      split
      · exact ⟨s, .none, reconfigure_turn s applied⟩
      · exact ⟨s, .none, .none⟩
  | runSystemStats applied =>
      simp only [step]
      split
      · rename_i here
        exact ⟨s, .none, run_turn s applied heard here⟩
      · exact ⟨s, .none, .none⟩
  | wait =>
      simp only [step, wait_same s heard, ite_self]
      exact ⟨s, .none, .none⟩
  | check =>
      simp only [step]
      split
      · rename_i checking
        split
        · rename_i on
          exact ⟨s, .none, .began checking on⟩
        · rename_i off
          exact ⟨s, .none, .slept checking (by simpa using off)⟩
      · exact ⟨s, .none, .none⟩
  | spuriousWakeup =>
      simp only [step]
      split
      · rename_i sleeping
        exact ⟨s, .none, .returned (.inl sleeping)⟩
      · exact ⟨s, .none, .none⟩
  | publish =>
      refine ⟨s, .none, ?_⟩
      cases busy : s.collector with
      | gathering number begun =>
          have ready := heard.ready (collector_started s heard (by simp [busy]))
          have turned := Turn.published number begun busy
          simpa [step, busy, touchLatch, ready] using turned
      | _ => simpa only [step, busy] using Turn.none
  | rested =>
      simp only [step]
      split
      · rename_i resting
        exact ⟨s, .none, .returned (.inr resting)⟩
      · exact ⟨s, .none, .none⟩

theorem emptied_heard (s : State) (slot : Slot Snapshot) (heard : Heard s) (snapshot : Snapshot)
    (waiting : s.slot.pending = some snapshot) (empty : slot.pending = none) :
    Heard { s with latch := .clear, slot := slot } := by
  refine ⟨fun _ => by simp, fun fresh => ?_, heard.used, heard.asleep, fun left => absurd empty left⟩
  exact absurd ((heard.unstarted fresh).2.1.symm.trans waiting) (by simp)

theorem turn_heard (s next : State) (turn : Turn s next) (heard : Heard s) : Heard next := by
  cases turn with
  | none => exact heard
  | received row idle => exact ⟨heard.ready, heard.unstarted, heard.used, heard.asleep, heard.signalled⟩
  | contended =>
      exact ⟨heard.ready, fun fresh => ⟨(heard.unstarted fresh).1, (heard.unstarted fresh).2.1, rfl⟩, heard.used,
        fun _ => rfl, heard.signalled⟩
  | entered idle => exact ⟨heard.ready, heard.unstarted, heard.used, heard.asleep, heard.signalled⟩
  | switchedOn row off =>
      refine ⟨fun _ => ?_, fun fresh => Bool.noConfusion fresh, heard.used, fun asleep => absurd asleep (woken_awake s),
        fun waiting => absurd rfl waiting⟩
      cases started : s.started with
      | true => simpa using heard.ready started
      | false => simp
  | stayedOn row on => exact ⟨heard.ready, heard.unstarted, heard.used, heard.asleep, heard.signalled⟩
  | switchedOff row applied =>
      exact ⟨heard.ready, fun fresh => ⟨(heard.unstarted fresh).1, (heard.unstarted fresh).2.1, rfl⟩, heard.used,
        fun _ => rfl, heard.signalled⟩
  | nothing empty => exact ⟨heard.ready, heard.unstarted, heard.used, heard.asleep, heard.signalled⟩
  | recorded here snapshot waiting on row applied =>
      have cleared := emptied_heard s (take s.slot) heard snapshot waiting rfl
      exact ⟨cleared.ready, cleared.unstarted, cleared.used, cleared.asleep, cleared.signalled⟩
  | leaked here snapshot waiting on row =>
      have cleared := emptied_heard s (take s.slot) heard snapshot waiting rfl
      exact ⟨cleared.ready, cleared.unstarted, cleared.used, cleared.asleep, cleared.signalled⟩
  | dropped snapshot waiting off =>
      have cleared := emptied_heard s (drop s.slot) heard snapshot waiting rfl
      exact ⟨cleared.ready, cleared.unstarted, cleared.used, cleared.asleep, cleared.signalled⟩
  | began checking on =>
      have started := collector_started s heard (by simp [checking])
      exact ⟨heard.ready, fun fresh => absurd (started.symm.trans fresh) (by decide), heard.used,
        fun asleep => Collector.noConfusion asleep, heard.signalled⟩
  | slept checking off =>
      have started := collector_started s heard (by simp [checking])
      exact ⟨heard.ready, fun fresh => absurd (started.symm.trans fresh) (by decide), heard.used, fun _ => off, heard.signalled⟩
  | returned waiting =>
      have started := collector_started s heard (by rcases waiting with asleep | resting <;> simp [*])
      exact ⟨heard.ready, fun fresh => absurd (started.symm.trans fresh) (by decide), heard.used,
        fun asleep => Collector.noConfusion asleep, heard.signalled⟩
  | published number begun busy =>
      have started := collector_started s heard (by simp [busy])
      exact ⟨fun _ => by simp, fun fresh => absurd (started.symm.trans fresh) (by decide), heard.used,
        fun asleep => Collector.noConfusion asleep, fun _ => rfl⟩

theorem step_heard (s : State) (input : Step) (heard : Heard s) : Heard (step s input) := by
  obtain ⟨middle, first, second⟩ := step_turns s input heard
  exact turn_heard _ _ second (turn_heard _ _ first heard)

theorem initial_heard (row : Option Bool) (column : Option Snapshot) : Heard (initial row column) :=
  ⟨fun fresh => Bool.noConfusion fresh, fun _ => ⟨rfl, rfl, rfl⟩, rfl, fun _ => rfl, fun waiting => absurd rfl waiting⟩

theorem collector_always_heard (row : Option Bool) (column : Option Snapshot) (inputs : List Step) :
    Runs.Always step Heard (initial row column) inputs :=
  Runs.invariant_always (V := fun _ _ => True) (fun s input heard _ => step_heard s input heard) (initial_heard row column)
    (fun _ _ _ _ => trivial)

theorem turns_always {P : State → Prop} (keep : ∀ s next, Turn s next → Heard s → P s → P next) {row : Option Bool}
    {column : Option Snapshot} (first : P (initial row column)) (inputs : List Step) :
    Runs.Always step P (initial row column) inputs := by
  have both : ∀ s input, Heard s ∧ P s → True → Heard (step s input) ∧ P (step s input) := by
    rintro s input ⟨heard, now⟩ _
    obtain ⟨middle, one, two⟩ := step_turns s input heard
    have later := turn_heard _ _ one heard
    exact ⟨turn_heard _ _ two later, keep _ _ two later (keep _ _ one heard now)⟩
  exact Runs.always_mono (fun _ now => now.2)
    (Runs.invariant_always both ⟨initial_heard row column, first⟩ (fun _ _ _ _ => trivial))

end OpsSwitchd.SystemStats
