import OpsSwitchd.Rows
import OpsSwitchd.Runs

set_option autoImplicit false

namespace OpsSwitchd.StatusUpdate

structure Iface where
  name : String
  synthetic : Bool
  type : Option String
  changeSeq : Nat
deriving DecidableEq, Repr

-- requests and tryAgain are those of the moment at which the contents were
-- collected, wanted the interfaces whose status the bridge keeps.
structure StatusTxn where
  written : List String
  wanted : List String
  requests : Nat
  tryAgain : Bool
deriving DecidableEq, Repr

-- requests counts the reconfigurations that set status_txn_try_again;
-- republished says whether the last of them has been honoured.
structure BridgeStatus where
  initialConfigDone : Bool
  idlSeqno : Nat
  ifaces : List Iface
  statusTxn : Option StatusTxn
  tryAgain : Bool
  connectivitySeqno : Nat
  requests : Nat
  republished : Bool
deriving DecidableEq, Repr

inductive Lock where
  | contended
  | missing
  | held
deriving DecidableEq, Repr

structure RunInput where
  lock : Lock
  seqno : Nat
  ifaces : List Iface
  connectivitySeq : Nat
  netdevChangeSeq : String → Nat
  status : TxnStatus

-- The status of the other interfaces is updated from subsystem.c.
def refreshable (iface : Iface) : Bool :=
  !iface.synthetic && iface.type.isSome && iface.type != some "system" && iface.type != some "loopback"

def refreshes (tryAgain : Bool) (netdevChangeSeq : String → Nat) (iface : Iface) : Bool :=
  refreshable iface && (iface.changeSeq != netdevChangeSeq iface.name || tryAgain)

def ifaceRefreshNetdevStatus (tryAgain : Bool) (netdevChangeSeq : String → Nat) (iface : Iface) : Iface :=
  if refreshes tryAgain netdevChangeSeq iface then { iface with changeSeq := netdevChangeSeq iface.name } else iface

def collectStatus (s : BridgeStatus) (input : RunInput) : StatusTxn where
  written := (s.ifaces.filter (refreshes s.tryAgain input.netdevChangeSeq)).map Iface.name
  wanted := (s.ifaces.filter refreshable).map Iface.name
  requests := s.requests
  tryAgain := s.tryAgain

def startStatusTxn (s : BridgeStatus) (input : RunInput) : BridgeStatus :=
  if s.statusTxn = none ∧ (input.connectivitySeq ≠ s.connectivitySeqno ∨ s.tryAgain = true) then
    { s with
      connectivitySeqno := input.connectivitySeq
      statusTxn := some (collectStatus s input)
      ifaces := s.ifaces.map (ifaceRefreshNetdevStatus s.tryAgain input.netdevChangeSeq) }
  else s

def succeeded (status : TxnStatus) : Bool := status == .success || status == .unchanged

def honours (s : BridgeStatus) (txn : StatusTxn) : Bool :=
  txn.requests == s.requests && txn.tryAgain && txn.written == txn.wanted

def commitStatusTxn (s : BridgeStatus) (status : TxnStatus) : BridgeStatus :=
  match s.statusTxn with
  | none => s
  | some txn =>
      if status = .incomplete then s
      else
        { s with
          statusTxn := none
          tryAgain := !succeeded status
          republished := s.republished || (succeeded status && honours s txn) }

def runStatusUpdate (s : BridgeStatus) (input : RunInput) : BridgeStatus :=
  commitStatusTxn (startStatusTxn s input) input.status

-- The initial configuration does not ask for the status to be published again.
def runReconfigure (s : BridgeStatus) (input : RunInput) : BridgeStatus :=
  if input.seqno = s.idlSeqno then s
  else if s.initialConfigDone then
    { s with idlSeqno := input.seqno, ifaces := input.ifaces, tryAgain := true,
             requests := s.requests + 1, republished := false }
  else { s with idlSeqno := input.seqno, ifaces := input.ifaces, initialConfigDone := true }

def bridgeRun (s : BridgeStatus) (input : RunInput) : BridgeStatus :=
  match input.lock with
  | .contended => { s with ifaces := [] }
  | .missing => s
  | .held => runStatusUpdate (runReconfigure s input) input

def initialStatus (seqno : Nat) : BridgeStatus := ⟨false, seqno, [], none, false, 0x8000000000000000, 0, true⟩

def Honoured (s : BridgeStatus) : Prop := s.tryAgain = false → s.republished = true

def NoStaleSuccess (s : BridgeStatus) (input : RunInput) : Prop :=
  input.lock = .held → succeeded input.status = true →
    ∀ txn ∈ s.statusTxn, txn.requests = (runReconfigure s input).requests

structure Inv (s : BridgeStatus) : Prop where
  honoured : Honoured s
  past : ∀ txn ∈ s.statusTxn, txn.requests ≤ s.requests
  stale : ∀ txn ∈ s.statusTxn, txn.requests < s.requests → s.republished = false
  current : ∀ txn ∈ s.statusTxn, txn.requests = s.requests → txn.tryAgain = false → s.republished = true
  complete : ∀ txn ∈ s.statusTxn, txn.tryAgain = true → txn.written = txn.wanted

section Updates

variable (s : BridgeStatus) (input : RunInput)

theorem inv_without_txn (free : s.statusTxn = none) (honoured : Honoured s) : Inv s := by
  refine ⟨honoured, ?_, ?_, ?_, ?_⟩ <;> simp [free]

theorem collect_complete (again : s.tryAgain = true) :
    (collectStatus s input).written = (collectStatus s input).wanted := by
  have same : refreshes s.tryAgain input.netdevChangeSeq = refreshable := by
    funext iface
    simp [refreshes, again]
  simp only [collectStatus, same]

theorem reconfigure_txn : (runReconfigure s input).statusTxn = s.statusTxn := by
  unfold runReconfigure
  split
  · rfl
  · split <;> rfl

theorem reconfigure_inv (inv : Inv s) : Inv (runReconfigure s input) := by
  unfold runReconfigure
  split
  · exact inv
  · split
    · refine ⟨fun reset => ?_, fun txn out => ?_, fun _ _ _ => rfl, fun txn out same => ?_, inv.complete⟩
      · cases reset
      · exact Nat.le_succ_of_le (inv.past txn out)
      · have older := inv.past txn out
        dsimp only at same
        omega
    · exact ⟨inv.honoured, inv.past, inv.stale, inv.current, inv.complete⟩

theorem start_inv (inv : Inv s) : Inv (startStatusTxn s input) := by
  unfold startStatusTxn
  split
  · have every : ∀ txn ∈ some (collectStatus s input), txn = collectStatus s input := fun _ out => (Option.some.inj out).symm
    refine ⟨inv.honoured, fun txn out => ?_, fun txn out older => ?_, fun txn out _ plain => ?_, fun txn out again => ?_⟩
    · rw [every txn out]
      exact Nat.le_refl _
    · rw [every txn out] at older
      exact absurd older (Nat.lt_irrefl _)
    · rw [every txn out] at plain
      exact inv.honoured plain
    · rw [every txn out] at again ⊢
      exact collect_complete s input again
  · exact inv

theorem start_fresh (fresh : ∀ txn ∈ s.statusTxn, txn.requests = s.requests) :
    ∀ txn ∈ (startStatusTxn s input).statusTxn, txn.requests = (startStatusTxn s input).requests := by
  unfold startStatusTxn
  split
  · intro txn out
    rw [← Option.some.inj out]
    rfl
  · exact fresh

theorem start_outstanding (txn : StatusTxn) (out : s.statusTxn = some txn) :
    startStatusTxn s input = s := by
  rw [startStatusTxn, if_neg (fun free => by simp [out] at free)]

theorem commit_inv (status : TxnStatus) (inv : Inv s)
    (fresh : succeeded status = true → ∀ txn ∈ s.statusTxn, txn.requests = s.requests) :
    Inv (commitStatusTxn s status) := by
  unfold commitStatusTxn
  cases out : s.statusTxn with
  | none => exact inv
  | some txn =>
      dsimp only
      split
      · exact inv
      · refine inv_without_txn _ rfl (fun reset => ?_)
        have success : succeeded status = true := by simpa using reset
        have same := fresh success txn out
        cases again : txn.tryAgain with
        | false => simp [inv.current txn out same again]
        | true => simp [success, honours, same, again, inv.complete txn out again]

theorem bridge_run_inv (inv : Inv s) (_ : True) (fresh : NoStaleSuccess s input) :
    Inv (bridgeRun s input) := by
  unfold bridgeRun
  cases lock : input.lock with
  | contended => exact ⟨inv.honoured, inv.past, inv.stale, inv.current, inv.complete⟩
  | missing => exact inv
  | held =>
      refine commit_inv _ _ (start_inv _ _ (reconfigure_inv s input inv)) (fun success => ?_)
      refine start_fresh _ _ (fun txn out => ?_)
      rw [reconfigure_txn] at out
      exact fresh lock success txn out

theorem stale_success_breaks (status : TxnStatus) (inv : Inv s) (txn : StatusTxn)
    (out : s.statusTxn = some txn) (older : txn.requests < s.requests) (success : succeeded status = true) :
    ¬ Honoured (commitStatusTxn s status) := by
  have complete : status ≠ .incomplete := by
    rintro rfl
    cases success
  intro honoured
  have reset : (commitStatusTxn s status).tryAgain = false := by simp [commitStatusTxn, out, complete, success]
  have published := honoured reset
  simp [commitStatusTxn, out, complete, honours, inv.stale txn out older, Nat.ne_of_lt older] at published

theorem honoured_needs_fresh (inv : Inv s) (_ : True)
    (honoured : Honoured (bridgeRun s input)) : NoStaleSuccess s input := by
  intro lock success txn out
  have reconfigured := reconfigure_inv s input inv
  have still : (runReconfigure s input).statusTxn = some txn := (reconfigure_txn s input).trans out
  by_contra differs
  have older : txn.requests < (runReconfigure s input).requests :=
    Nat.lt_of_le_of_ne (reconfigured.past txn still) differs
  rw [bridgeRun, lock] at honoured
  dsimp only [runStatusUpdate] at honoured
  rw [start_outstanding _ input txn still] at honoured
  exact stale_success_breaks _ _ reconfigured txn still older success honoured

end Updates

theorem republish_honoured_iff_no_stale_success (seqno : Nat) (inputs : List RunInput) :
    Runs.Always bridgeRun Honoured (initialStatus seqno) inputs ↔
      Runs.Along bridgeRun NoStaleSuccess (initialStatus seqno) inputs := by
  have initial : Inv (initialStatus seqno) := inv_without_txn _ rfl (fun _ => rfl)
  exact Runs.always_iff_along (fun _ inv => inv.honoured) bridge_run_inv honoured_needs_fresh initial
    (fun _ _ _ _ => trivial)

-- The transaction is outstanding when the configuration changes: its success
-- ends the retry, and the interface is not published again.
theorem outstanding_success_ends_retry :
    ¬ Runs.Always bridgeRun Honoured (initialStatus 0)
      [⟨.held, 1, [⟨"vlan10", false, some "internal", 0⟩], 1, fun _ => 1, .success⟩,
       ⟨.held, 1, [], 2, fun _ => 1, .incomplete⟩,
       ⟨.held, 2, [⟨"vlan10", false, some "internal", 1⟩], 2, fun _ => 1, .success⟩] := by
  intro all
  exact absurd (all _ [] (List.append_nil _).symm (by decide)) (by decide)

end OpsSwitchd.StatusUpdate
