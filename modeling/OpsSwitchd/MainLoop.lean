import OpsSwitchd.NeighborHits
import OpsSwitchd.Periodic
import OpsSwitchd.StatusUpdate

set_option autoImplicit false

namespace OpsSwitchd.MainLoop

open Periodic StatusUpdate

def statusCheckAgainMsec : Int := 100

structure Database where
  row : Bool
  statsUpdateInterval : Option Int
  enableStatistics : Bool
  neighbors : Bool
  ifaces : List StatusUpdate.Iface
  bridges : List String
  vrfs : List String

-- One iteration of the main loop: the answers of the IDL, of the clock and of
-- the commits. waited is the time at which bridge_wait was called before it.
-- typeWork and ofprotoWork say which datapath types and ofprotos have something
-- to do, and snapshot that system statistics wait to be picked up.
structure Turn where
  lock : Lock
  seqno : Nat
  connectivitySeq : Nat
  netdevChangeSeq : String → Nat
  daemonizeStatus : TxnStatus
  statsStatus : TxnStatus
  status : TxnStatus
  typeWork : String → Bool
  ofprotoWork : String → Bool
  snapshot : Bool
  waited : Int
  statsStarted : Int
  statsEnded : Int
  neighborsStarted : Int
  neighborsEnded : Int

-- lock and seqno are those of the last ovsdb_idl_run; daemonized counts the
-- calls of daemonize_complete, worked is what bridge_run__ found to do, and
-- snapshots counts the system statistics. Of stats only the job is in the source.
structure Loop where
  lock : Lock
  seqno : Nat
  status : BridgeStatus
  daemonizeTxn : Bool
  daemonized : Nat
  stats : Traced
  neighbors : Job
  types : List String
  bridges : List String
  vrfs : List String
  worked : List String
  systemStats : Bool
  snapshots : Nat
deriving DecidableEq, Repr

def statsInterval (db : Database) : Int := max (db.statsUpdateInterval.getD 5000) 5000

def statsAttempt (db : Database) (input : Turn) : Attempt :=
  ⟨statsInterval db, input.statsStarted, input.statsEnded, input.statsStatus != .incomplete⟩

def runStatsUpdate (db : Database) (stats : Traced) (input : Turn) : Traced :=
  if db.row then traced llongMin stats (statsAttempt db input) else stats

-- The timer of run_neighbor_update; its transaction is never kept.
def runNeighborUpdate (db : Database) (neighbors : Job) (input : Turn) : Job :=
  if db.neighbors then
    attempt llongMin neighbors ⟨neighborHitBitUpdateInterval, input.neighborsStarted, input.neighborsEnded, true⟩
  else neighbors

def statusInput (db : Nat → Database) (input : Turn) : RunInput :=
  ⟨input.lock, input.seqno, (db input.seqno).ifaces, input.connectivitySeq, input.netdevChangeSeq, input.status⟩

-- The transaction of the first reconfiguration is the one that is kept.
def daemonizeTxn (s : Loop) (input : Turn) : Bool :=
  s.daemonizeTxn || (input.seqno != s.status.idlSeqno && !s.status.initialConfigDone)

def daemonizes (s : Loop) (input : Turn) : Bool := daemonizeTxn s input && input.daemonizeStatus != .incomplete

def worked (s : Loop) (input : Turn) : List String :=
  s.types.filter input.typeWork ++ (s.bridges.filter input.ofprotoWork ++ s.vrfs.filter input.ofprotoWork)

def systemStats (db : Nat → Database) (s : Loop) (input : Turn) : Bool :=
  if input.seqno = s.status.idlSeqno then s.systemStats else (db input.seqno).enableStatistics

-- SSL and the run blocks of the plugins are left out.
def bridgeRun (db : Nat → Database) (s : Loop) (input : Turn) : Loop :=
  let seen := { s with lock := input.lock, seqno := input.seqno, worked := []
                       status := StatusUpdate.bridgeRun s.status (statusInput db input) }
  match input.lock with
  | .contended => { seen with bridges := [], vrfs := [], systemStats := false }
  | .missing => seen
  | .held =>
      { seen with
        worked := worked s input
        bridges := if input.seqno = s.status.idlSeqno then s.bridges else (db input.seqno).bridges
        vrfs := if input.seqno = s.status.idlSeqno then s.vrfs else (db input.seqno).vrfs
        daemonizeTxn := daemonizeTxn s input && !daemonizes s input
        daemonized := if daemonizes s input then s.daemonized + 1 else s.daemonized
        stats := runStatsUpdate (db input.seqno) s.stats input
        systemStats := systemStats db s input
        snapshots := if input.snapshot && systemStats db s input then s.snapshots + 1 else s.snapshots
        neighbors := runNeighborUpdate (db input.seqno) s.neighbors input }

def initial (types : List String) (seqno : Nat) (now : Int) : Loop where
  lock := .missing
  seqno := seqno
  status := initialStatus seqno
  daemonizeTxn := false
  daemonized := 0
  stats := ⟨⟨0, llongMin, false⟩, 0, now⟩
  neighbors := ⟨0, llongMin, false⟩
  types := types
  bridges := []
  vrfs := []
  worked := []
  systemStats := false
  snapshots := 0

section Daemonize

structure Released (s : Loop) : Prop where
  before : s.status.initialConfigDone = false → s.daemonizeTxn = false ∧ s.daemonized = 0
  after : s.status.initialConfigDone = true → s.daemonized = if s.daemonizeTxn then 0 else 1

theorem update_keeps (status : BridgeStatus) (input : RunInput) :
    (runStatusUpdate status input).initialConfigDone = status.initialConfigDone ∧
      (runStatusUpdate status input).idlSeqno = status.idlSeqno := by
  have started : (startStatusTxn status input).initialConfigDone = status.initialConfigDone ∧
      (startStatusTxn status input).idlSeqno = status.idlSeqno := by
    unfold startStatusTxn
    split <;> exact ⟨rfl, rfl⟩
  unfold runStatusUpdate commitStatusTxn
  split
  · exact started
  · split <;> exact started

theorem reconfigure_keeps (status : BridgeStatus) (input : RunInput) :
    (runReconfigure status input).initialConfigDone = (status.initialConfigDone || input.seqno != status.idlSeqno) ∧
      (runReconfigure status input).idlSeqno = input.seqno := by
  unfold runReconfigure
  split
  · rename_i same
    exact ⟨by simp [same], same.symm⟩
  · rename_i differs
    split
    · rename_i done
      exact ⟨by simp [done], rfl⟩
    · exact ⟨by simp [differs], rfl⟩

theorem held_keeps (status : BridgeStatus) (input : RunInput) (held : input.lock = .held) :
    (StatusUpdate.bridgeRun status input).initialConfigDone = (status.initialConfigDone || input.seqno != status.idlSeqno) ∧
      (StatusUpdate.bridgeRun status input).idlSeqno = input.seqno := by
  have updated := update_keeps (runReconfigure status input) input
  rw [StatusUpdate.bridgeRun, held]
  dsimp only
  rw [updated.1, updated.2]
  exact reconfigure_keeps status input

theorem bridge_run_held (db : Nat → Database) (s : Loop) (input : Turn) (held : input.lock = .held) :
    bridgeRun db s input =
      { lock := .held, seqno := input.seqno, status := StatusUpdate.bridgeRun s.status (statusInput db input)
        types := s.types
        worked := worked s input
        bridges := if input.seqno = s.status.idlSeqno then s.bridges else (db input.seqno).bridges
        vrfs := if input.seqno = s.status.idlSeqno then s.vrfs else (db input.seqno).vrfs
        daemonizeTxn := daemonizeTxn s input && !daemonizes s input
        daemonized := if daemonizes s input then s.daemonized + 1 else s.daemonized
        stats := runStatsUpdate (db input.seqno) s.stats input
        systemStats := systemStats db s input
        snapshots := if input.snapshot && systemStats db s input then s.snapshots + 1 else s.snapshots
        neighbors := runNeighborUpdate (db input.seqno) s.neighbors input } := by
  simp only [bridgeRun, held]

theorem bridge_run_released (db : Nat → Database) (s : Loop) (input : Turn) (released : Released s) (_ : True) :
    Released (bridgeRun db s input) := by
  obtain ⟨before, after⟩ := released
  cases lock : input.lock with
  | contended =>
      simp only [bridgeRun, StatusUpdate.bridgeRun, statusInput, lock]
      exact ⟨before, after⟩
  | missing =>
      simp only [bridgeRun, StatusUpdate.bridgeRun, statusInput, lock]
      exact ⟨before, after⟩
  | held =>
      rw [bridge_run_held db s input lock]
      have kept : (StatusUpdate.bridgeRun s.status (statusInput db input)).initialConfigDone =
          (s.status.initialConfigDone || input.seqno != s.status.idlSeqno) :=
        (held_keeps s.status (statusInput db input) lock).1
      cases done : s.status.initialConfigDone with
      | true =>
          rw [done, Bool.true_or] at kept
          refine ⟨fun early => absurd (early.symm.trans kept) (by decide), fun _ => ?_⟩
          have counted := after done
          cases outstanding : s.daemonizeTxn with
          | true =>
              rw [outstanding] at counted
              cases answered : input.daemonizeStatus != .incomplete <;>
                simp [daemonizes, daemonizeTxn, outstanding, answered, counted]
          | false =>
              rw [outstanding] at counted
              simp [daemonizes, daemonizeTxn, outstanding, done, counted]
      | false =>
          obtain ⟨free, none⟩ := before done
          rw [done, Bool.false_or] at kept
          cases moved : input.seqno != s.status.idlSeqno with
          | true =>
              refine ⟨fun early => absurd (early.symm.trans (kept.trans moved)) (by decide), fun _ => ?_⟩
              cases answered : input.daemonizeStatus != .incomplete <;>
                simp [daemonizes, daemonizeTxn, free, done, none, moved, answered]
          | false =>
              refine ⟨fun _ => ?_, fun late => absurd (late.symm.trans (kept.trans moved)) (by decide)⟩
              simp [daemonizes, daemonizeTxn, free, none, moved]

theorem initial_released (types : List String) (seqno : Nat) (now : Int) : Released (initial types seqno now) :=
  ⟨fun _ => ⟨rfl, rfl⟩, fun done => Bool.noConfusion done⟩

theorem daemonized_once (db : Nat → Database) (types : List String) (seqno : Nat) (now : Int) (inputs : List Turn) :
    Runs.Always (bridgeRun db) Released (initial types seqno now) inputs :=
  Runs.invariant_always (bridge_run_released db) (initial_released types seqno now) (fun _ _ _ _ => trivial)

end Daemonize

section Waiting

inductive WakeSource where
  | idl
  | daemonizeTxn
  | ofprotoType (type : String)
  | ofproto (name : String)
  | statusTxn
  | connectivity (seqno : Nat)
  | timer (deadline : Int)
  | latch
deriving DecidableEq, Repr

def statusUpdateWait (s : Loop) (now : Int) : List WakeSource :=
  if s.lock ≠ .held then []
  else if s.status.statusTxn.isSome then [.statusTxn]
  else if s.status.tryAgain then [.timer (now + statusCheckAgainMsec)]
  else [.connectivity s.status.connectivitySeqno]

-- Without a bridge the statistics timer is not waited for; the ofprotos of the
-- VRFs and the timer of the neighbors never are.
def bridgeWait (s : Loop) (now : Int) : List WakeSource :=
  [.idl] ++ (if s.daemonizeTxn then [.daemonizeTxn] else []) ++ s.types.map .ofprotoType ++
    (if s.bridges.isEmpty then [] else s.bridges.map .ofproto ++ [.timer s.stats.job.deadline]) ++
    statusUpdateWait s now ++ (if s.systemStats then [.latch] else [])

def Ready (s : Loop) (input : Turn) : WakeSource → Prop
  | .idl => input.lock ≠ s.lock ∨ input.seqno ≠ s.seqno
  | .daemonizeTxn => input.daemonizeStatus ≠ .incomplete
  | .ofprotoType type => input.typeWork type = true
  | .ofproto name => input.ofprotoWork name = true
  | .statusTxn => input.status ≠ .incomplete
  | .connectivity seqno => input.connectivitySeq ≠ seqno
  | .timer deadline => deadline ≤ input.statsStarted
  | .latch => input.snapshot = true

structure Unasked (s next : Loop) (input : Turn) : Prop where
  daemonize : next.daemonizeTxn = s.daemonizeTxn ∧ next.daemonized = s.daemonized
  seen : next.lock = s.lock ∧ next.seqno = s.seqno ∧ next.bridges = s.bridges ∧ next.vrfs = s.vrfs
  worked : next.worked = [] ∨ next.worked = s.vrfs.filter input.ofprotoWork
  snapshots : next.snapshots = s.snapshots
  status : next.status = s.status ∨ s.status.statusTxn = none ∧ s.status.tryAgain = true
  stats : next.stats.job = s.stats.job ∨ s.bridges = [] ∧ due s.stats.job input.statsStarted = true
  neighbors : next.neighbors = s.neighbors ∨ due s.neighbors input.neighborsStarted = true

structure Settled (db : Nat → Database) (s : Loop) : Prop where
  seqno : s.lock = .held → s.status.idlSeqno = s.seqno
  stats : s.lock = .held → (db s.seqno).row = true → s.stats.job.interval = statsInterval (db s.seqno)
  neighbors : s.lock = .held → (db s.seqno).neighbors = true → s.neighbors.interval = neighborHitBitUpdateInterval
  contended : s.lock = .contended → s.bridges = [] ∧ s.vrfs = [] ∧ s.systemStats = false ∧ s.status.ifaces = []

theorem attempt_interval (past : Int) (job : Job) (input : Attempt) : (attempt past job input).interval = input.interval := by
  rw [attempt, settle_interval, retune_interval]

theorem bridge_run_settled (db : Nat → Database) (s : Loop) (input : Turn) : Settled db (bridgeRun db s input) := by
  cases lock : input.lock with
  | contended =>
      simp only [bridgeRun, StatusUpdate.bridgeRun, statusInput, lock]
      exact ⟨fun held => Lock.noConfusion held, fun held => Lock.noConfusion held, fun held => Lock.noConfusion held,
        fun _ => ⟨rfl, rfl, rfl, rfl⟩⟩
  | missing =>
      simp only [bridgeRun, StatusUpdate.bridgeRun, statusInput, lock]
      exact ⟨fun held => Lock.noConfusion held, fun held => Lock.noConfusion held, fun held => Lock.noConfusion held,
        fun contended => Lock.noConfusion contended⟩
  | held =>
      rw [bridge_run_held db s input lock]
      refine ⟨fun _ => (held_keeps s.status (statusInput db input) lock).2, fun _ row => ?_, fun _ some => ?_,
        fun contended => Lock.noConfusion contended⟩
      · rw [runStatsUpdate, if_pos row, traced_job, attempt_interval]
        rfl
      · rw [runNeighborUpdate, if_pos some, attempt_interval]

theorem status_unasked (db : Nat → Database) (s : Loop) (input : Turn) (held : s.lock = .held) (same : input.lock = s.lock)
    (known : input.seqno = s.status.idlSeqno)
    (asleep : ∀ source ∈ statusUpdateWait s input.waited, ¬ Ready s input source) :
    StatusUpdate.bridgeRun s.status (statusInput db input) = s.status ∨
      s.status.statusTxn = none ∧ s.status.tryAgain = true := by
  have reconfigured : runReconfigure s.status (statusInput db input) = s.status := if_pos known
  have ran : StatusUpdate.bridgeRun s.status (statusInput db input) = runStatusUpdate s.status (statusInput db input) := by
    simp only [StatusUpdate.bridgeRun, statusInput, same, held] at reconfigured ⊢
    rw [reconfigured]
  rw [ran]
  unfold statusUpdateWait at asleep
  rw [if_neg (not_not.mpr held)] at asleep
  cases outstanding : s.status.statusTxn with
  | some txn =>
      have pending : input.status = .incomplete := by simpa [outstanding, Ready] using asleep
      left
      rw [runStatusUpdate, start_outstanding s.status _ txn outstanding]
      simp only [commitStatusTxn, outstanding, statusInput, pending, if_true]
  | none =>
      cases again : s.status.tryAgain with
      | true => exact .inr ⟨rfl, rfl⟩
      | false =>
          have unchanged : input.connectivitySeq = s.status.connectivitySeqno := by
            simpa [outstanding, again, Ready] using asleep
          left
          have idle : startStatusTxn s.status (statusInput db input) = s.status := by
            simp [startStatusTxn, statusInput, unchanged, again]
          rw [runStatusUpdate, idle]
          simp only [commitStatusTxn, outstanding]

theorem early_or_due (job : Job) (input : Attempt) (same : job.interval = input.interval) :
    attempt llongMin job input = job ∨ due job input.started = true := by
  cases reached : due job input.started with
  | true => exact .inr rfl
  | false => exact .inl (attempt_early llongMin job input same reached)

theorem stats_unasked (db : Nat → Database) (s : Loop) (input : Turn) (settled : Settled db s) (held : s.lock = .held)
    (known : input.seqno = s.seqno) (asleep : ∀ source ∈ bridgeWait s input.waited, ¬ Ready s input source) :
    (runStatsUpdate (db input.seqno) s.stats input).job = s.stats.job ∨
      s.bridges = [] ∧ due s.stats.job input.statsStarted = true := by
  unfold runStatsUpdate
  rw [known]
  split
  · rename_i row
    rcases early_or_due s.stats.job (statsAttempt (db s.seqno) input) (settled.stats held row) with early | reached
    · exact .inl early
    · cases bridges : s.bridges with
      | nil => exact .inr ⟨rfl, reached⟩
      | cons br rest => exact absurd (of_decide_eq_true reached) (asleep (.timer s.stats.job.deadline) (by simp [bridgeWait, bridges]))
  · exact .inl rfl

theorem neighbors_unasked (db : Nat → Database) (s : Loop) (input : Turn) (settled : Settled db s) (held : s.lock = .held)
    (known : input.seqno = s.seqno) :
    runNeighborUpdate (db input.seqno) s.neighbors input = s.neighbors ∨
      due s.neighbors input.neighborsStarted = true := by
  unfold runNeighborUpdate
  rw [known]
  split
  · rename_i filled
    exact early_or_due s.neighbors _ (settled.neighbors held filled)
  · exact .inl rfl

theorem worked_unasked (s : Loop) (input : Turn) (asleep : ∀ source ∈ bridgeWait s input.waited, ¬ Ready s input source) :
    worked s input = s.vrfs.filter input.ofprotoWork := by
  have types : s.types.filter input.typeWork = [] := by
    refine List.filter_eq_nil_iff.mpr (fun type member => asleep (.ofprotoType type) ?_)
    simp [bridgeWait, member]
  have bridges : s.bridges.filter input.ofprotoWork = [] := by
    refine List.filter_eq_nil_iff.mpr (fun name member => asleep (.ofproto name) ?_)
    simp [bridgeWait, List.ne_nil_of_mem member, member]
  rw [worked, types, bridges, List.nil_append, List.nil_append]

theorem bridge_run_unasked (db : Nat → Database) (s : Loop) (input : Turn) (settled : Settled db s)
    (asleep : ∀ source ∈ bridgeWait s input.waited, ¬ Ready s input source) : Unasked s (bridgeRun db s input) input := by
  have quiet : input.lock = s.lock ∧ input.seqno = s.seqno := by
    simpa only [Ready, not_or, not_not] using asleep .idl (by simp [bridgeWait])
  obtain ⟨same, known⟩ := quiet
  cases lock : s.lock with
  | contended =>
      obtain ⟨bare, unrouted, off, gone⟩ := settled.contended lock
      have ifaces : { s.status with ifaces := [] } = s.status := by rw [← gone]
      have ran : bridgeRun db s input = { s with worked := [] } := by
        simp only [bridgeRun, StatusUpdate.bridgeRun, statusInput, same, lock, known, ifaces, bare, unrouted, off]
      rw [ran]
      exact ⟨⟨rfl, rfl⟩, ⟨rfl, rfl, rfl, rfl⟩, .inl rfl, rfl, .inl rfl, .inl rfl, .inl rfl⟩
  | missing =>
      have ran : bridgeRun db s input = { s with worked := [] } := by
        simp only [bridgeRun, StatusUpdate.bridgeRun, statusInput, same, lock, known]
      rw [ran]
      exact ⟨⟨rfl, rfl⟩, ⟨rfl, rfl, rfl, rfl⟩, .inl rfl, rfl, .inl rfl, .inl rfl, .inl rfl⟩
  | held =>
      have processed : input.seqno = s.status.idlSeqno := known.trans (settled.seqno lock).symm
      have outstanding : daemonizeTxn s input = s.daemonizeTxn := by simp [daemonizeTxn, processed]
      have unanswered : daemonizes s input = false := by
        cases kept : s.daemonizeTxn with
        | false => simp [daemonizes, outstanding, kept]
        | true =>
            have pending : input.daemonizeStatus = .incomplete := by
              simpa [Ready] using asleep .daemonizeTxn (by simp [bridgeWait, kept])
            simp [daemonizes, pending]
      have unpicked : (input.snapshot && systemStats db s input) = false := by
        cases on : s.systemStats with
        | false => simp [systemStats, processed, on]
        | true =>
            have empty : input.snapshot = false := by
              simpa [Ready] using asleep .latch (by simp [bridgeWait, on])
            simp [empty]
      rw [bridge_run_held db s input (same.trans lock)]
      refine ⟨⟨?_, ?_⟩, ⟨lock.symm, known, ?_, ?_⟩, .inr (worked_unasked s input asleep), ?_, ?_, ?_, ?_⟩
      · simp [outstanding, unanswered]
      · simp [unanswered]
      · simp [processed]
      · simp [processed]
      · simp [unpicked]
      · exact status_unasked db s input lock same processed
          (fun source member => asleep source (List.mem_append_left _ (List.mem_append_right _ member)))
      · exact stats_unasked db s input settled lock known asleep
      · exact neighbors_unasked db s input settled lock known

theorem initial_settled (db : Nat → Database) (types : List String) (seqno : Nat) (now : Int) :
    Settled db (initial types seqno now) :=
  ⟨fun held => Lock.noConfusion held, fun held => Lock.noConfusion held, fun held => Lock.noConfusion held,
    fun contended => Lock.noConfusion contended⟩

theorem unasked_iterations_idle (db : Nat → Database) (types : List String) (seqno : Nat) (now : Int) (inputs : List Turn) :
    Runs.Along (bridgeRun db)
      (fun s input => (∀ source ∈ bridgeWait s input.waited, ¬ Ready s input source) →
        Unasked s (bridgeRun db s input) input) (initial types seqno now) inputs := by
  have settled : Runs.Always (bridgeRun db) (Settled db) (initial types seqno now) inputs :=
    Runs.invariant_always (V := fun _ _ => True) (fun s input _ _ => bridge_run_settled db s input)
      (initial_settled db types seqno now) (fun _ _ _ _ => trivial)
  intro before input after split
  exact bridge_run_unasked db _ input (settled before (input :: after) split)

end Waiting

section Statistics

def gathered (db : Nat → Database) (s : Loop) (input : Turn) : Option Firing :=
  if input.lock = .held ∧ (db input.seqno).row = true then fired llongMin s.stats (statsAttempt (db input.seqno) input) else none

def statsAttempts (db : Nat → Database) (inputs : List Turn) : List Attempt :=
  inputs.filterMap (fun input =>
    if input.lock = .held ∧ (db input.seqno).row = true then some (statsAttempt (db input.seqno) input) else none)

theorem bridge_run_stats (db : Nat → Database) (s : Loop) (input : Turn) :
    (bridgeRun db s input).stats =
      if input.lock = .held ∧ (db input.seqno).row = true then traced llongMin s.stats (statsAttempt (db input.seqno) input)
      else s.stats := by
  cases lock : input.lock with
  | contended => simp [bridgeRun, lock]
  | missing => simp [bridgeRun, lock]
  | held => simp [bridge_run_held db s input lock, runStatsUpdate]

theorem stats_attempts_cons (db : Nat → Database) (input : Turn) (rest : List Turn) :
    statsAttempts db (input :: rest) =
      if input.lock = .held ∧ (db input.seqno).row = true then statsAttempt (db input.seqno) input :: statsAttempts db rest
      else statsAttempts db rest := by
  unfold statsAttempts
  rw [List.filterMap_cons]
  split
  · rename_i skipped
    split at skipped
    · cases skipped
    · rename_i unheld
      rw [if_neg unheld]
  · rename_i made called
    split at called
    · rename_i held
      rw [if_pos held, Option.some.inj called]
    · cases called

theorem gathered_events (db : Nat → Database) (s : Loop) (inputs : List Turn) :
    EventRuns.events (bridgeRun db) (gathered db) s inputs =
      EventRuns.events (traced llongMin) (fired llongMin) s.stats (statsAttempts db inputs) := by
  induction inputs generalizing s with
  | nil => rfl
  | cons input rest ih =>
      have later := ih (bridgeRun db s input)
      rw [bridge_run_stats] at later
      rw [stats_attempts_cons, EventRuns.events, gathered]
      split
      · rename_i held
        rw [if_pos held] at later
        rw [EventRuns.events, later]
      · rename_i unheld
        rw [if_neg unheld] at later
        rw [later]
        rfl

def Chronological : Int → List Turn → Prop
  | _, [] => True
  | now, input :: rest => now ≤ input.statsStarted ∧ input.statsStarted ≤ input.statsEnded ∧ Chronological input.statsEnded rest

theorem attempts_timely (db : Nat → Database) (s : Traced) (now : Int) (reached : s.clock ≤ now) (inputs : List Turn)
    (chronological : Chronological now inputs) : Runs.Along (traced llongMin) Timely s (statsAttempts db inputs) := by
  induction inputs generalizing s now with
  | nil => exact Runs.along_nil _ _ _
  | cons input rest ih =>
      obtain ⟨started, ended, later⟩ := chronological
      rw [stats_attempts_cons]
      split
      · refine (Runs.along_cons _ _ _ _ _).mpr ⟨⟨?_, ended⟩, ih _ input.statsEnded ?_ later⟩
        · exact Int.le_trans reached started
        · exact Int.le_refl _
      · exact ih s input.statsEnded (by omega) later

theorem attempts_interval (db : Nat → Database) (inputs : List Turn) :
    ∀ attempted ∈ statsAttempts db inputs, 5000 ≤ attempted.interval := by
  intro attempted member
  obtain ⟨input, _, called⟩ := List.mem_filterMap.mp member
  split at called
  · rw [← Option.some.inj called]
    exact Int.le_max_right _ _
  · cases called

theorem statistics_gathered_apart (db : Nat → Database) (types : List String) (seqno : Nat) (now : Int) (inputs : List Turn)
    (chronological : Chronological now inputs) :
    (EventRuns.events (bridgeRun db) (gathered db) (initial types seqno now) inputs).Pairwise (fun first second =>
      first.changes = second.changes → 5000 ≤ first.interval ∧ first.time + first.interval ≤ second.time) := by
  rw [gathered_events]
  refine firings_spaced llongMin 5000 (by decide) _ _ (attempts_interval db inputs)
    (attempts_timely db _ now (Int.le_refl _) inputs chronological)

def plainDatabase : Database := ⟨true, some 6000, false, false, [], ["bridge_normal"], []⟩

def plainTurn (now : Int) : Turn :=
  ⟨.held, 1, 0, fun _ => 0, .success, .success, .success, fun _ => false, fun _ => false, false, now, now, now, now, now⟩

theorem statistics_gathered_twice :
    EventRuns.events (bridgeRun (fun _ => plainDatabase)) (gathered (fun _ => plainDatabase)) (initial [] 0 0)
        [plainTurn 10, plainTurn 5500, plainTurn 6010] = [⟨10, 6000, 1⟩, ⟨6010, 6000, 1⟩] ∧
      (EventRuns.events (bridgeRun (fun _ => plainDatabase)) (gathered (fun _ => plainDatabase)) (initial [] 0 0)
        [plainTurn 10, plainTurn 5500, plainTurn 6010]).Pairwise (fun first second =>
          first.changes = second.changes → 5000 ≤ first.interval ∧ first.time + first.interval ≤ second.time) :=
  ⟨by decide, statistics_gathered_apart (fun _ => plainDatabase) [] 0 0 [plainTurn 10, plainTurn 5500, plainTurn 6010]
    ⟨by decide, by decide, by decide, by decide, by decide, by decide, trivial⟩⟩

end Statistics

end OpsSwitchd.MainLoop
