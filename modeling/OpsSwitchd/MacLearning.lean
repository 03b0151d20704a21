import OpsSwitchd.HashOrder
import OpsSwitchd.Rows
import OpsSwitchd.Runs

set_option autoImplicit false

namespace OpsSwitchd

inductive MacEvent where
  | undefined
  | add
  | del
  | move
deriving DecidableEq, Repr

-- mac is the address as ETH_ADDR_FMT prints it. serial tells two events with
-- the same data apart; the program does not see it.
structure MlearnNode where
  vlan : Int
  mac : String
  oper : MacEvent
  portName : String
  serial : Nat
deriving DecidableEq, Repr

structure MacRow where
  macAddr : String
  dynamic : Bool
  macVlan : Option Int
  bridge : String
  port : String
deriving DecidableEq, Repr

-- One call of run(). asicInterface is none without an ASIC interface, and says
-- otherwise whether it has get_mac_learning_hmap. settled is what becomes of a
-- transaction that is destroyed while it is incomplete.
structure LearningInput where
  idl : Bool
  asicInterface : Option Bool
  mhmap : Bool
  macTxn : Bool
  order : HashOrder
  bridgeOfPort : String → Option String
  vlanRow : Int → Bool
  status : TxnStatus
  settled : Bool

def sameMacEntry (node : MlearnNode) (row : MacRow) : Bool :=
  row.macAddr == node.mac && row.dynamic && row.macVlan == some node.vlan

def mlearnPluginDbAddLocalMacEntry (input : LearningInput) (table : List MacRow) (node : MlearnNode) : List MacRow :=
  match input.bridgeOfPort node.portName with
  | none => table
  | some bridge =>
      if table.any (sameMacEntry node) then
        table.map (fun row => if sameMacEntry node row then { row with bridge := bridge, port := node.portName } else row)
      else
        table ++ [{ macAddr := node.mac, dynamic := true, bridge := bridge, port := node.portName,
                    macVlan := if input.vlanRow node.vlan then some node.vlan else none }]

def mlearnPluginDbDelLocalMacEntry (table : List MacRow) (node : MlearnNode) : List MacRow :=
  table.filter (fun row => !sameMacEntry node row)

def writeMlearnNode (input : LearningInput) (table : List MacRow) (node : MlearnNode) : List MacRow :=
  match node.oper with
  | .add => mlearnPluginDbAddLocalMacEntry input table node
  | .move => mlearnPluginDbAddLocalMacEntry input table node
  | _ => mlearnPluginDbDelLocalMacEntry table node

def commitApplied (status : TxnStatus) (settled : Bool) : Bool :=
  match status with
  | .success => true
  | .unchanged => true
  | .incomplete => settled
  | _ => false

structure TakenBatch where
  batch : List MlearnNode
  seqno : Nat
  applied : Bool
deriving DecidableEq, Repr

-- recorded are the events of the hardware that no call has handed over yet,
-- taken the batches so far, the oldest first.
structure MacLearning where
  recorded : List MlearnNode
  events : Nat
  seq : Nat
  maclearnSeqno : Nat
  macTable : List MacRow
  taken : List TakenBatch
deriving DecidableEq, Repr

def macTxnApplied (input : LearningInput) : Bool := input.macTxn && commitApplied input.status input.settled

-- The transaction is destroyed after its one commit, whatever that returned.
def macLearningUpdateDb (s : MacLearning) (input : LearningInput) : MacLearning :=
  if !input.idl then s
  else
    match input.asicInterface with
    | none => s
    | some false => s
    | some true =>
        if !input.mhmap then s
        else
          { s with
            recorded := []
            taken := s.taken ++ [⟨s.recorded, s.maclearnSeqno, macTxnApplied input⟩]
            macTable :=
              if macTxnApplied input then (input.order.walk s.recorded).foldl (writeMlearnNode input) s.macTable
              else s.macTable }

def macLearningReconfigure (s : MacLearning) (input : LearningInput) : MacLearning :=
  if s.seq ≠ s.maclearnSeqno then macLearningUpdateDb { s with maclearnSeqno := s.seq } input else s

inductive LearningOp where
  | record (vlan : Int) (mac : String) (oper : MacEvent) (portName : String)
  | trigger
  | run (input : LearningInput)

def recordEvent (s : MacLearning) (node : MlearnNode) : MacLearning :=
  { s with recorded := s.recorded ++ [{ node with serial := s.events }], events := s.events + 1 }

def learningStep (s : MacLearning) : LearningOp → MacLearning
  | .record vlan mac oper portName => recordEvent s ⟨vlan, mac, oper, portName, 0⟩
  | .trigger => { s with seq := s.seq + 1 }
  | .run input => macLearningReconfigure s input

def initialLearning : MacLearning := ⟨[], 0, 0, 0x8000000000000000, [], []⟩

def Takes (s : MacLearning) (input : LearningInput) : Prop :=
  s.seq ≠ s.maclearnSeqno ∧ input.idl = true ∧ input.asicInterface = some true ∧ input.mhmap = true

def takeBatch (s : MacLearning) (input : LearningInput) : MacLearning :=
  { s with
    maclearnSeqno := s.seq
    recorded := []
    taken := s.taken ++ [⟨s.recorded, s.seq, macTxnApplied input⟩]
    macTable :=
      if macTxnApplied input then (input.order.walk s.recorded).foldl (writeMlearnNode input) s.macTable else s.macTable }

theorem run_takes_or_skips (s : MacLearning) (input : LearningInput) :
    (Takes s input ∧ macLearningReconfigure s input = takeBatch s input) ∨
      (¬ Takes s input ∧ ∃ seqno, macLearningReconfigure s input = { s with maclearnSeqno := seqno }) := by
  unfold macLearningReconfigure
  split
  · rename_i changed
    unfold macLearningUpdateDb Takes
    cases idl : input.idl with
    | false => exact .inr ⟨by simp, s.seq, rfl⟩
    | true =>
        match interface : input.asicInterface with
        | none => exact .inr ⟨by simp, s.seq, rfl⟩
        | some false => exact .inr ⟨by simp, s.seq, rfl⟩
        | some true =>
            cases handed : input.mhmap with
            | false => exact .inr ⟨by simp, s.seq, rfl⟩
            | true => exact .inl ⟨⟨changed, rfl, rfl, rfl⟩, rfl⟩
  · rename_i same
    exact .inr ⟨fun takes => same takes.1, s.maclearnSeqno, rfl⟩

def allEvents (s : MacLearning) : List MlearnNode := s.taken.flatMap TakenBatch.batch ++ s.recorded

def Numbered (s : MacLearning) : Prop := (allEvents s).map MlearnNode.serial = List.range s.events

instance (s : MacLearning) : Decidable (Numbered s) := inferInstanceAs (Decidable (_ = _))

theorem numbered_step (s : MacLearning) (op : LearningOp) (numbered : Numbered s) : Numbered (learningStep s op) := by
  cases op with
  | record vlan mac oper portName =>
      have one : (allEvents (learningStep s (.record vlan mac oper portName))).map MlearnNode.serial =
          (allEvents s).map MlearnNode.serial ++ [s.events] := by
        simp [allEvents, learningStep, recordEvent]
      rw [Numbered, one, numbered]
      exact List.range_succ.symm
  | trigger => exact numbered
  | run input =>
      rw [learningStep]
      rcases run_takes_or_skips s input with ⟨_, eq⟩ | ⟨_, seqno, eq⟩
      · rw [eq, Numbered, takeBatch, allEvents]
        simpa [allEvents, Numbered] using numbered
      · rw [eq]
        exact numbered

theorem numbered_run (s : MacLearning) (ops : List LearningOp) (numbered : Numbered s) :
    Numbered (Runs.run learningStep s ops) := by
  induction ops generalizing s with
  | nil => exact numbered
  | cons op rest ih => exact ih (learningStep s op) (numbered_step s op numbered)

def SubmittedAgain (s : MacLearning) (before : List TakenBatch) (batch : TakenBatch) (node : MlearnNode) : Prop :=
  ∃ ops later, (Runs.run learningStep s ops).taken = before ++ batch :: later ∧ ∃ next ∈ later, node ∈ next.batch

def Dropped (s : MacLearning) (before : List TakenBatch) (batch : TakenBatch) : Prop :=
  batch.applied = false ∧ ∃ node ∈ batch.batch, ¬ SubmittedAgain s before batch node

structure EventsKept (s : MacLearning) : Prop where
  kept : ∀ before batch later, s.taken = before ++ batch :: later →
    batch.applied = true ∨ ∀ node ∈ batch.batch, SubmittedAgain s before batch node
  behind : ∀ before batch later, s.taken = before ++ batch :: later → Dropped s before batch →
    s.maclearnSeqno < batch.seqno

theorem not_submitted_again (s : MacLearning) (numbered : Numbered s) (before : List TakenBatch) (batch : TakenBatch)
    (node : MlearnNode) (member : node ∈ batch.batch) : ¬ SubmittedAgain s before batch node := by
  rintro ⟨ops, later, taken, next, here, again⟩
  have distinct : ((allEvents (Runs.run learningStep s ops)).map MlearnNode.serial).Nodup := by
    rw [numbered_run s ops numbered]
    exact List.nodup_range
  have once := distinct.of_map
  rw [allEvents, taken, List.flatMap_append, List.flatMap_cons] at once
  have twice := (List.nodup_append.mp (List.nodup_append.mp (List.nodup_append.mp once).1).2.1).2.2
  exact twice node member node (List.mem_flatMap.mpr ⟨next, here, again⟩) rfl

def BatchApplied (s : MacLearning) : LearningOp → Prop
  | .run input => Takes s input → s.recorded = [] ∨ macTxnApplied input = true
  | _ => True

structure AppliedInv (s : MacLearning) : Prop where
  numbered : Numbered s
  applied : ∀ batch ∈ s.taken, batch.batch = [] ∨ batch.applied = true

theorem applied_kept (s : MacLearning) (inv : AppliedInv s) : EventsKept s := by
  have kept : ∀ before batch later, s.taken = before ++ batch :: later →
      batch.applied = true ∨ ∀ node ∈ batch.batch, SubmittedAgain s before batch node := by
    intro before batch later taken
    rcases inv.applied batch (by simp [taken]) with empty | applied
    · exact .inr (fun node member => by simp [empty] at member)
    · exact .inl applied
  refine ⟨kept, fun before batch later taken dropped => ?_⟩
  obtain ⟨unapplied, node, member, lost⟩ := dropped
  rcases kept before batch later taken with applied | again
  · simp [unapplied] at applied
  · exact absurd (again node member) lost

theorem applied_step (s : MacLearning) (op : LearningOp) (inv : AppliedInv s) (_ : True) (applied : BatchApplied s op) :
    AppliedInv (learningStep s op) := by
  refine ⟨numbered_step s op inv.numbered, ?_⟩
  cases op with
  | record vlan mac oper portName => exact inv.applied
  | trigger => exact inv.applied
  | run input =>
      rw [learningStep]
      rcases run_takes_or_skips s input with ⟨takes, eq⟩ | ⟨_, seqno, eq⟩
      · rw [eq]
        intro batch member
        rcases List.mem_append.mp member with earlier | here
        · exact inv.applied batch earlier
        · obtain rfl := List.mem_singleton.mp here
          exact applied takes
      · rw [eq]
        exact inv.applied

theorem kept_needs_applied (s : MacLearning) (op : LearningOp) (inv : AppliedInv s) (_ : True)
    (kept : EventsKept (learningStep s op)) : BatchApplied s op := by
  cases op with
  | record vlan mac oper portName => trivial
  | trigger => trivial
  | run input =>
      intro takes
      have numbered := numbered_step s (.run input) inv.numbered
      have eq : learningStep s (.run input) = takeBatch s input := by
        rcases run_takes_or_skips s input with ⟨_, eq⟩ | ⟨skips, _⟩
        · exact eq
        · exact absurd takes skips
      rcases kept.kept s.taken ⟨s.recorded, s.seq, macTxnApplied input⟩ [] (by rw [eq]; rfl) with applied | again
      · exact .inr applied
      · refine .inl (List.eq_nil_iff_forall_not_mem.mpr (fun node member => ?_))
        exact not_submitted_again _ numbered s.taken _ node member (again node member)

theorem events_kept_iff_applied (ops : List LearningOp) :
    Runs.Always learningStep EventsKept initialLearning ops ↔ Runs.Along learningStep BatchApplied initialLearning ops := by
  have initial : AppliedInv initialLearning := ⟨rfl, by simp [initialLearning]⟩
  exact Runs.always_iff_along applied_kept applied_step kept_needs_applied initial (fun _ _ _ _ => trivial)

def learningRun (status : TxnStatus) : LearningInput :=
  ⟨true, some true, true, true, .listed, fun _ => some "bridge_normal", fun _ => true, status, false⟩

-- TXN_TRY_AGAIN is not even logged: the address never reaches the MAC table.
theorem failed_commit_drops_events :
    ¬ Runs.Always learningStep EventsKept initialLearning
      [.record 10 "00:00:00:00:00:01" .add "1", .trigger, .run (learningRun .tryAgain)] := by
  intro all
  have kept := all _ [] (List.append_nil _).symm
  rcases kept.kept [] ⟨[⟨10, "00:00:00:00:00:01", .add, "1", 0⟩], 1, false⟩ [] rfl with applied | again
  · cases applied
  · exact not_submitted_again _ (by decide) [] _ _ List.mem_cons_self (again _ List.mem_cons_self)

end OpsSwitchd
