import OpsSwitchd.Runs
import OpsSwitchd.SubsystemPublish

set_option autoImplicit false

namespace OpsSwitchd.Subsystems

def Converged (state : StatusState) : Prop := ∀ all, state.tables = some all → eachIface all (Shown state)

def Converges (state : StatusState) : Prop :=
  ∀ input : RunInput, input.hasLock = true → input.seqno = state.idlSeqno → input.applied = true →
    Converged (subsystemRun state input)

def RowsNamed (rows : List SubsystemRow) : Prop :=
  ∀ row ∈ rows, ∀ iface ∈ row.interfaces, ∀ other ∈ rows, ∀ twin ∈ other.interfaces,
    iface.uuid = twin.uuid → iface.name = twin.name

instance (rows : List SubsystemRow) : Decidable (RowsNamed rows) :=
  inferInstanceAs (Decidable (∀ row ∈ rows, ∀ iface ∈ row.interfaces, ∀ other ∈ rows, ∀ twin ∈ other.interfaces,
    iface.uuid = twin.uuid → iface.name = twin.name))

def OpValid (_ : StatusState) : StatusOp → Prop
  | .netdevChange _ _ => True
  | .subsystemRun input => RowsNamed (input.cfg.getD [])

structure Listed (all : List Subsystem) : Prop extends Tables all where
  oneDevice : eachIface all (fun iface => eachIface all (fun twin => iface.cfg.uuid = twin.cfg.uuid → iface.name = twin.name))

structure StatusTables (state : StatusState) (all : List Subsystem) : Prop extends Listed all where
  seen : eachIface all (fun iface => iface.changeSeq ≤ (state.netdevs iface.name).changeSeq)
  shown : eachIface all (fun iface => iface.changeSeq = (state.netdevs iface.name).changeSeq → Shown state iface)

def StatusInv (state : StatusState) : Prop := ∀ all, state.tables = some all → StatusTables state all

theorem refreshed_listed (netdevs : String → Netdev) (all : List Subsystem) (listed : Listed all) :
    Listed (all.map (refreshSubsystem netdevs)) := by
  refine ⟨⟨?_, ?_, (mem_refreshed netdevs all _).mpr ?_⟩, (mem_refreshed netdevs all _).mpr ?_⟩
  · rw [Keyed.Unique, List.map_map]
    exact listed.names
  · intro ss member
    obtain ⟨before, old, rfl⟩ := List.mem_map.mp member
    have same : (before.ifaceByName.map (fun iface => (ifaceRefreshNetdevStatus netdevs iface).1)).map Iface.name =
        before.ifaceByName.map Iface.name := by
      rw [List.map_map]
      exact List.map_congr_left (fun iface _ => refresh_name netdevs iface)
    rw [Keyed.Unique, refreshSubsystem, same]
    exact listed.ifaces before old
  · intro ss member iface present
    rw [refresh_subsystem]
    exact listed.null ss member iface present
  · intro ss member iface present
    refine (mem_refreshed netdevs all _).mpr (fun other old twin kept => ?_)
    simp only [refresh_cfg, refresh_name]
    exact listed.oneDevice ss member iface present other old twin kept

theorem reconfigure_listed (env : Env) (rows : List SubsystemRow) (all : List Subsystem) (tables : Tables all)
    (kept : nothingRemoved rows all = true) (named : RowsNamed rows) : Listed (reconfigureResult env rows all).1 := by
  refine ⟨reconfigure_tables env rows all tables, fun ss member iface present other member' twin present' same => ?_⟩
  have wanted := reconfigure_wanted env rows all tables kept ss member iface present
  have wanted' := reconfigure_wanted env rows all tables kept other member' twin present'
  have owner := Keyed.lookup_mem SubsystemRow.name (reconfigure_entry env rows all tables ss member).1
  have owner' := Keyed.lookup_mem SubsystemRow.name (reconfigure_entry env rows all tables other member').1
  have names := named ss.cfg owner iface.cfg (Keyed.lookup_mem InterfaceRow.name wanted) other.cfg owner' twin.cfg
    (Keyed.lookup_mem InterfaceRow.name wanted') same
  rwa [Keyed.lookup_key InterfaceRow.name wanted, Keyed.lookup_key InterfaceRow.name wanted'] at names

theorem run_reconfigure_listed (state : StatusState) (input : RunInput) (before middle : List Subsystem)
    (writes : List StatusWrite) (listed : Listed before)
    (named : input.seqno ≠ state.idlSeqno → RowsNamed (input.cfg.getD []))
    (reconfigured : runReconfigure state input before = some (middle, writes)) :
    Listed middle ∧ ∀ write ∈ writes, ∃ ss ∈ middle, ∃ iface ∈ ss.ifaceByName, WriteOf state.netdevs write iface := by
  have handles := (reconfigured_handles state input before listed.toTables middle writes reconfigured).2
  refine ⟨?_, fun write member => ?_⟩
  · unfold runReconfigure at reconfigured
    split at reconfigured
    · rename_i changed
      rw [subsystem_reconfigure_null _ _ before listed.toTables] at reconfigured
      split at reconfigured
      · rename_i kept
        obtain rfl := congrArg Prod.fst (Option.some.inj reconfigured)
        exact reconfigure_listed _ _ before listed.toTables kept (named changed)
      · cases reconfigured
    · obtain rfl := congrArg Prod.fst (Option.some.inj reconfigured)
      exact listed
  · obtain ⟨entry, inside, made, _⟩ := handles.early write member
    obtain ⟨ss, here, iface, present, uuid, device, _⟩ := handles.present entry inside
    exact ⟨ss, here, iface, present, by rw [WriteOf, uuid, device]; exact made⟩

structure RunResult (netdevs : String → Netdev) (all : List Subsystem) (txn : List StatusWrite) : Prop extends Listed all where
  current : eachIface all (fun iface => iface.changeSeq = (netdevs iface.name).changeSeq)
  written : ∀ write ∈ txn, ∃ ss ∈ all, ∃ iface ∈ ss.ifaceByName, WriteOf netdevs write iface

theorem run_result (state : StatusState) (input : RunInput) (inv : StatusInv state)
    (named : input.seqno ≠ state.idlSeqno → RowsNamed (input.cfg.getD [])) (all : List Subsystem) (txn : List StatusWrite)
    (ended : runTransaction state input = some (all, txn)) : RunResult state.netdevs all txn := by
  obtain ⟨before, middle, writes, tables, reconfigured, rfl, rfl⟩ := run_transaction_cases state input all txn ended
  obtain ⟨listed, created⟩ := run_reconfigure_listed state input before middle writes (inv before tables).toListed named
    reconfigured
  refine ⟨refreshed_listed state.netdevs middle listed, (mem_refreshed _ _ _).mpr ?_, fun write member => ?_⟩
  · intro ss _ iface _
    rw [refresh_name]
    exact refresh_change_seq state.netdevs iface
  · have source : ∃ ss ∈ middle, ∃ iface ∈ ss.ifaceByName, WriteOf state.netdevs write iface := by
      rcases List.mem_append.mp member with early | late
      · exact created write early
      · obtain ⟨ss, present, iface, entry, _, made⟩ := (mem_status_writes _ middle write).mp late
        exact ⟨ss, present, iface, entry, made⟩
    obtain ⟨ss, present, iface, entry, made⟩ := source
    refine ⟨_, List.mem_map_of_mem present, _, List.mem_map_of_mem entry, ?_⟩
    rw [WriteOf, refresh_cfg, refresh_name]
    exact made

theorem run_result_shown (state : StatusState) (input : RunInput) (all : List Subsystem) (txn : List StatusWrite)
    (result : RunResult state.netdevs all txn) (ss : Subsystem) (member : ss ∈ all) (iface : Iface)
    (present : iface ∈ ss.ifaceByName) :
    (if input.applied then Writes.apply txn state.db else state.db) iface.cfg.uuid =
        statusColumns (state.netdevs iface.name) ↔
      (input.applied = true ∧ ∃ write ∈ txn, write.1 = iface.cfg.uuid) ∨ Shown state iface := by
  have agree : ∀ write ∈ txn, write.1 = iface.cfg.uuid → write.2 = statusColumns (state.netdevs iface.name) := by
    intro write written same
    obtain ⟨other, member', twin, present', made⟩ := result.written write written
    rw [made] at same ⊢
    rw [result.oneDevice other member' twin present' ss member iface present same]
  cases arrives : input.applied with
  | false => simp [Shown]
  | true =>
      by_cases written : ∃ write ∈ txn, write.1 = iface.cfg.uuid
      · rw [if_pos rfl, Writes.apply_agree txn state.db _ _ agree written]
        simp [written]
      · rw [if_pos rfl, Writes.apply_untouched txn state.db _ (fun write member same => written ⟨write, member, same⟩)]
        simp [written, Shown]

theorem subsystem_run_ended (state : StatusState) (input : RunInput) (lock : input.hasLock = true) (all : List Subsystem)
    (txn : List StatusWrite) (ended : runTransaction state input = some (all, txn)) :
    subsystemRun state input = { state with
      tables := some all
      idlSeqno := input.seqno
      db := if input.applied then Writes.apply txn state.db else state.db } := by
  simp [subsystemRun, lock, ended]

theorem run_keeps (state : StatusState) (input : RunInput) (inv : StatusInv state)
    (named : input.seqno ≠ state.idlSeqno → RowsNamed (input.cfg.getD [])) (writes : RunWrites state input) :
    StatusInv (subsystemRun state input) := by
  cases lock : input.hasLock with
  | false => simpa [subsystemRun, lock] using inv
  | true =>
      cases ended : runTransaction state input with
      | none =>
          intro all same
          simp [subsystemRun, lock, ended] at same
      | some result =>
          obtain ⟨all, txn⟩ := result
          have spec := run_result state input inv named all txn ended
          rw [subsystem_run_ended state input lock all txn ended]
          intro after same
          obtain rfl := Option.some.inj same
          refine ⟨spec.toListed, fun ss member iface present => Nat.le_of_eq (spec.current ss member iface present), ?_⟩
          intro ss member iface present _
          exact (run_result_shown state input all txn spec ss member iface present).mpr
            (writes lock (all, txn) ended ss member iface present)

theorem netdev_change_keeps (state : StatusState) (name : String) (netdev : Netdev) (inv : StatusInv state) :
    StatusInv (netdevChange state name netdev) := by
  intro all same
  have before := inv all same
  -- The changed device is ahead of every interface that has its name.
  have ahead : ∀ ss ∈ all, ∀ iface ∈ ss.ifaceByName, iface.name = name →
      iface.changeSeq < ((netdevChange state name netdev).netdevs iface.name).changeSeq := by
    rintro ss member iface present rfl
    simpa [netdevChange] using Nat.lt_succ_of_le (before.seen ss member iface present)
  have other : ∀ iface : Iface, iface.name ≠ name →
      (netdevChange state name netdev).netdevs iface.name = state.netdevs iface.name :=
    fun iface different => Function.update_of_ne different _ _
  refine ⟨before.toListed, fun ss member iface present => ?_, fun ss member iface present current => ?_⟩
  · by_cases here : iface.name = name
    · exact Nat.le_of_lt (ahead ss member iface present here)
    · dsimp only
      rw [other iface here]
      exact before.seen ss member iface present
  · by_cases here : iface.name = name
    · exact absurd current (Nat.ne_of_lt (ahead ss member iface present here))
    · rw [other iface here] at current
      rw [Shown, other iface here]
      exact before.shown ss member iface present current

theorem status_step_keeps (state : StatusState) (op : StatusOp) (inv : StatusInv state) (valid : OpValid state op)
    (publishes : StepPublishes state op) : StatusInv (statusStep state op) := by
  cases op with
  | netdevChange name netdev => exact netdev_change_keeps state name netdev inv
  | subsystemRun input =>
      exact run_keeps state input inv (fun _ => valid) ((run_publishes_iff state input (fun all here => (inv all here).toTables)).mp publishes)

theorem plain_run_writes (state : StatusState) (input : RunInput) (inv : StatusInv state)
    (plain : input.seqno = state.idlSeqno) (applied : input.applied = true) : RunWrites state input := by
  rintro _ ⟨all, txn⟩ ended
  obtain ⟨before, middle, writes, tables, reconfigured, rfl, rfl⟩ := run_transaction_cases state input all txn ended
  rw [runReconfigure, if_neg (by simpa using plain)] at reconfigured
  obtain ⟨rfl, rfl⟩ := Prod.mk.inj (Option.some.inj reconfigured)
  refine (mem_refreshed _ _ _).mpr (fun ss member iface present => ?_)
  simp only [Shown, refresh_cfg, refresh_name]
  by_cases current : iface.changeSeq = (state.netdevs iface.name).changeSeq
  · exact .inr ((inv before tables).shown ss member iface present current)
  · refine .inl ⟨applied, (iface.cfg.uuid, statusColumns (state.netdevs iface.name)), ?_, rfl⟩
    exact List.mem_append_right _ ((mem_status_writes _ before _).mpr ⟨ss, member, iface, present, current, rfl⟩)

theorem status_inv_converges (state : StatusState) (inv : StatusInv state) : Converges state := by
  intro input lock plain applied after same
  have named : input.seqno ≠ state.idlSeqno → RowsNamed (input.cfg.getD []) := fun changed => absurd plain changed
  have kept := run_keeps state input inv named (plain_run_writes state input inv plain applied)
  cases ended : runTransaction state input with
  | none => simp [subsystemRun, lock, ended] at same
  | some result =>
      obtain ⟨all, txn⟩ := result
      have spec := run_result state input inv named all txn ended
      rw [subsystem_run_ended state input lock all txn ended] at kept same ⊢
      obtain rfl := Option.some.inj same
      exact fun ss member iface present =>
        (kept all rfl).shown ss member iface present (spec.current ss member iface present)

def plainRun (state : StatusState) : RunInput :=
  ⟨true, state.idlSeqno, some [], HashOrder.listed, fun _ _ => false, true⟩

theorem settled_run (state : StatusState) (all : List Subsystem) (tables : state.tables = some all)
    (current : eachIface all (fun iface => iface.changeSeq = (state.netdevs iface.name).changeSeq)) :
    runTransaction state (plainRun state) = some (all, []) := by
  have same : all.map (refreshSubsystem state.netdevs) = all := by
    conv => rhs; rw [← List.map_id all]
    refine List.map_congr_left (fun ss member => ?_)
    have ifaces : ss.ifaceByName.map (fun iface => (ifaceRefreshNetdevStatus state.netdevs iface).1) = ss.ifaceByName := by
      conv => rhs; rw [← List.map_id ss.ifaceByName]
      exact List.map_congr_left (fun iface present => by
        simp [ifaceRefreshNetdevStatus, current ss member iface present])
    rw [refreshSubsystem, ifaces]
    rfl
  have silent : (runStatusUpdate (runEnv state (plainRun state)) all).2 = [] := by
    refine List.eq_nil_iff_forall_not_mem.mpr (fun write member => ?_)
    obtain ⟨ss, present, iface, entry, changed, _⟩ := (mem_status_writes _ all write).mp member
    exact changed (current ss present iface entry)
  simp only [runTransaction, tables, runReconfigure, plainRun]
  simp only [plainRun] at silent
  simp [runStatusUpdate, runEnv] at silent ⊢
  exact ⟨same, silent⟩

theorem converges_needs (state : StatusState) (input : RunInput) (inv : StatusInv state)
    (named : input.seqno ≠ state.idlSeqno → RowsNamed (input.cfg.getD []))
    (converges : Converges (subsystemRun state input)) : RunWrites state input := by
  rintro lock ⟨all, txn⟩ ended ss member iface present
  have spec := run_result state input inv named all txn ended
  have after := subsystem_run_ended state input lock all txn ended
  have settled := settled_run (subsystemRun state input) all (by rw [after]) (by rw [after]; exact spec.current)
  have again := subsystem_run_ended _ (plainRun (subsystemRun state input)) rfl all [] settled
  have shown := converges (plainRun (subsystemRun state input)) rfl rfl rfl all (by rw [again]) ss member iface present
  rw [again, after] at shown
  exact (run_result_shown state input all txn spec ss member iface present).mp shown

theorem status_step_needs (state : StatusState) (op : StatusOp) (inv : StatusInv state) (valid : OpValid state op)
    (converges : Converges (statusStep state op)) : StepPublishes state op := by
  cases op with
  | netdevChange name netdev => trivial
  | subsystemRun input =>
      exact (run_publishes_iff state input (fun all here => (inv all here).toTables)).mpr (converges_needs state input inv (fun _ => valid) converges)

def statusStart (idlSeqno : Nat) (netdevs : String → Netdev) (db : Uuid → StatusColumns) : StatusState :=
  ⟨some [], idlSeqno, netdevs, db⟩

theorem status_start_inv (idlSeqno : Nat) (netdevs : String → Netdev) (db : Uuid → StatusColumns) :
    StatusInv (statusStart idlSeqno netdevs db) := by
  intro all same
  obtain rfl := Option.some.inj same
  refine ⟨⟨⟨Keyed.unique_nil Subsystem.name, ?_, ?_⟩, ?_⟩, ?_, ?_⟩ <;>
    exact fun ss member => by cases member

theorem status_converges_iff_published (idlSeqno : Nat) (netdevs : String → Netdev) (db : Uuid → StatusColumns)
    (ops : List StatusOp) (valid : Runs.Along statusStep OpValid (statusStart idlSeqno netdevs db) ops) :
    Runs.Always statusStep Converges (statusStart idlSeqno netdevs db) ops ↔
      Runs.Along statusStep StepPublishes (statusStart idlSeqno netdevs db) ops :=
  Runs.always_iff_along status_inv_converges status_step_keeps status_step_needs
    (status_start_inv idlSeqno netdevs db) valid

def emptyColumns : StatusColumns := ⟨[], none, none, none, none, none, none, none, none⟩

def downNetdev : Netdev := ⟨1, none, some false, false, 0, none, none, none⟩

def upNetdev : Netdev := ⟨1, none, some true, true, 1, none, some 1500, none⟩

def oneInterface (seqno : Nat) (applied : Bool) : StatusOp :=
  .subsystemRun ⟨true, seqno, some [⟨"base", [⟨1, "1", 0⟩]⟩], HashOrder.listed, fun _ _ => true, applied⟩

theorem applied_status_converges :
    Runs.Always statusStep Converges (statusStart 0 (fun _ => downNetdev) (fun _ => emptyColumns))
      [oneInterface 1 true, .netdevChange "1" upNetdev, oneInterface 1 true] := by
  refine (status_converges_iff_published 0 (fun _ => downNetdev) (fun _ => emptyColumns) _ ?_).mpr ?_
  · simp only [Runs.along_cons, OpValid, oneInterface]
    exact ⟨by decide, trivial, by decide, Runs.along_nil _ _ _⟩
  · simp only [Runs.along_cons, StepPublishes, oneInterface]
    exact ⟨by decide, trivial, by decide, Runs.along_nil _ _ _⟩

-- The transaction that reports the link up fails; no later one writes the row.
theorem failed_status_write_is_lost :
    ¬ Runs.Always statusStep Converges (statusStart 0 (fun _ => downNetdev) (fun _ => emptyColumns))
      [oneInterface 1 true, .netdevChange "1" upNetdev, oneInterface 1 false] := by
  intro all
  have converges := all _ [] (List.append_nil _).symm
  have shown := converges ⟨true, 1, some [], HashOrder.listed, fun _ _ => false, true⟩ rfl (by decide) rfl
    [⟨"base", ⟨"base", [⟨1, "1", 0⟩]⟩, [⟨"1", none, 2, ⟨1, "1", 0⟩⟩]⟩] (by decide)
    ⟨"base", ⟨"base", [⟨1, "1", 0⟩]⟩, [⟨"1", none, 2, ⟨1, "1", 0⟩⟩]⟩ List.mem_cons_self
    ⟨"1", none, 2, ⟨1, "1", 0⟩⟩ List.mem_cons_self
  revert shown
  decide

end OpsSwitchd.Subsystems
