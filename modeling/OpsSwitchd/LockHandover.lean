import OpsSwitchd.EventRuns
import OpsSwitchd.OwnerSets
import OpsSwitchd.Settling
import OpsSwitchd.StatusUpdate

set_option autoImplicit false

namespace OpsSwitchd.LockHandover

open StatusUpdate (Lock)

section Rows

-- OVSREC_IDL_IS_ROW_MODIFIED: the row has changed after the given sequence number.
def interfaceSince (rowSeqno : Uuid → Nat) (seen : Nat) (row : InterfaceRow) : InterfaceRow :=
  { row with modified := decide (seen < rowSeqno row.uuid) }

def portSince (rowSeqno : Uuid → Nat) (seen : Nat) (row : PortRow) : PortRow :=
  { row with
    interfaces := row.interfaces.map (interfaceSince rowSeqno seen)
    modified := decide (seen < rowSeqno row.uuid) }

def cfgSince (rowSeqno : Uuid → Nat) (seen : Nat) (cfg : OpenVswitchRow) : OpenVswitchRow where
  bridges := cfg.bridges.map (fun row => { row with ports := row.ports.map (portSince rowSeqno seen) })
  vrfs := cfg.vrfs.map (fun row => { row with ports := row.ports.map (portSince rowSeqno seen) })

def portRows (cfg : OpenVswitchRow) : List PortRow := cfg.bridges.flatMap BridgeRow.ports ++ cfg.vrfs.flatMap VrfRow.ports

end Rows

section Daemon

-- idl_seqno, which is moved on after the reconfiguration, so that the flags of
-- the rows are those since the last one.
structure Daemon where
  switch : Switch
  idlSeqno : Nat

structure Turn where
  lock : Lock
  seqno : Nat
  rowSeqno : Uuid → Nat
  tables : Reconfiguration

def seenSince (turn : Turn) (seen : Nat) : Reconfiguration :=
  { turn.tables with cfg := cfgSince turn.rowSeqno seen turn.tables.cfg }

-- While another daemon has the lock every bridge and every VRF is destroyed,
-- but idl_seqno stays where it is.
def bridgeRun (daemon : Daemon) (turn : Turn) : Daemon :=
  match turn.lock with
  | .contended => { daemon with switch := ⟨[], []⟩ }
  | .missing => daemon
  | .held =>
      if turn.seqno ≠ daemon.idlSeqno then
        ⟨bridgeReconfigure daemon.switch (seenSince turn daemon.idlSeqno), turn.seqno⟩
      else daemon

def reconfigured (daemon : Daemon) (turn : Turn) : Option (Nat × Nat) :=
  match turn.lock with
  | .held => if turn.seqno ≠ daemon.idlSeqno then some (daemon.idlSeqno, turn.seqno) else none
  | _ => none

theorem idle_turn_seqno (daemon : Daemon) (turn : Turn) (idle : reconfigured daemon turn = none) :
    (bridgeRun daemon turn).idlSeqno = daemon.idlSeqno := by
  unfold reconfigured at idle
  unfold bridgeRun
  cases lock : turn.lock with
  | contended => rfl
  | missing => rfl
  | held =>
      rw [lock] at idle
      dsimp only at idle ⊢
      split at idle
      · cases idle
      · next same => rw [if_neg same]

theorem reconfigured_seqno (daemon : Daemon) (turn : Turn) (window : Nat × Nat) (ran : reconfigured daemon turn = some window) :
    window = (daemon.idlSeqno, turn.seqno) ∧ (bridgeRun daemon turn).idlSeqno = turn.seqno := by
  unfold reconfigured at ran
  unfold bridgeRun
  cases lock : turn.lock with
  | contended =>
      rw [lock] at ran
      cases ran
  | missing =>
      rw [lock] at ran
      cases ran
  | held =>
      rw [lock] at ran
      dsimp only at ran ⊢
      split at ran
      · next differs =>
          rw [if_pos differs]
          exact ⟨(Option.some.inj ran).symm, rfl⟩
      · cases ran

theorem changes_flagged_once (daemon : Daemon) (turns : List Turn)
    (grows : Runs.Along bridgeRun (fun daemon turn => daemon.idlSeqno ≤ turn.seqno) daemon turns) (change : Nat)
    (new : daemon.idlSeqno < change) :
    (EventRuns.events bridgeRun reconfigured daemon turns).countP (fun window => window.1 < change ∧ change ≤ window.2) =
      if change ≤ (Runs.run bridgeRun daemon turns).idlSeqno then 1 else 0 := by
  have covered := (EventRuns.events_cover_once Daemon.idlSeqno Prod.fst Prod.snd (fun daemon turn _ idle => idle_turn_seqno daemon turn idle)
    (fun daemon turn window ahead ran => by
      obtain ⟨rfl, next⟩ := reconfigured_seqno daemon turn window ran
      rw [next]
      exact ⟨rfl, rfl, ahead⟩) grows change).2
  simp only [new, true_and] at covered
  exact covered

def sampleTurn (lock : Lock) (seqno : Nat) : Turn :=
  ⟨lock, seqno, fun _ => 1, plainReconfiguration [] [flaggedPort false] []⟩

def lockLostTurns : List Turn := [sampleTurn .held 1, sampleTurn .contended 2, sampleTurn .missing 2, sampleTurn .held 3]

theorem change_awaits_lock :
    (EventRuns.events bridgeRun reconfigured ⟨⟨[], []⟩, 0⟩ lockLostTurns).countP (fun window => window.1 < 2 ∧ 2 ≤ window.2) = 1 := by
  refine (changes_flagged_once ⟨⟨[], []⟩, 0⟩ lockLostTurns ?_ 2 (by decide)).trans (by decide)
  refine (Runs.along_cons _ _ _ _ _).mpr ⟨by decide, (Runs.along_cons _ _ _ _ _).mpr ⟨by decide, ?_⟩⟩
  exact (Runs.along_cons _ _ _ _ _).mpr ⟨by decide, (Runs.along_cons _ _ _ _ _).mpr ⟨by decide, Runs.along_nil _ _ _⟩⟩

end Daemon

section Ports

def RowUnflagged (row : PortRow) : Prop := row.modified = false ∧ ∀ iface ∈ row.interfaces, iface.modified = false

def PortUnflagged (port : Port) : Prop :=
  (∀ row ∈ port.cfg, row.modified = false) ∧ ∀ iface ∈ port.ifaces, iface.cfg.modified = false

theorem unflagged_needs_nothing (port : Port) (unflagged : PortUnflagged port) : portNeedsConfigure port = false := by
  unfold portNeedsConfigure
  rw [Bool.or_eq_false_iff]
  constructor
  · cases cfg : port.cfg with
    | none => rfl
    | some row => exact unflagged.1 row cfg
  · rw [List.any_eq_false]
    intro iface inside
    rw [unflagged.2 iface inside]
    exact Bool.false_ne_true

structure Unregistered (br : Bridge) : Prop where
  rows : ∀ cfg ∈ br.cfg, ∀ row ∈ cfg.ports, RowUnflagged row
  ports : ∀ port ∈ br.ports, PortUnflagged port
  calls : ∀ port, .bundleRegister port ∉ br.calls

theorem more_calls_unregistered (br after : Bridge) (cfg : after.cfg = br.cfg) (ports : after.ports = br.ports)
    (calls : ∃ more, after.calls = br.calls ++ more ∧ ∀ port, .bundleRegister port ∉ more) (here : Unregistered br) :
    Unregistered after := by
  obtain ⟨more, appended, quiet⟩ := calls
  refine ⟨cfg ▸ here.rows, ports ▸ here.ports, fun port member => ?_⟩
  rw [appended] at member
  rcases List.mem_append.mp member with before | now
  · exact here.calls port before
  · exact quiet port now

variable {br : Bridge}

theorem asks_unregistered (after : Bridge) (asks : Asks br after) (here : Unregistered br) : Unregistered after := by
  have frame := asks_frame br after asks
  exact more_calls_unregistered br after frame.cfg (asks_ports br after asks) frame.calls here

theorem emit_unregistered (call : OfprotoCall) (other : ∀ port, OfprotoCall.bundleRegister port ≠ call) (here : Unregistered br) :
    Unregistered (br.emit call) :=
  more_calls_unregistered br _ rfl rfl ⟨[call], rfl, fun port member => other port (List.mem_singleton.mp member)⟩ here

theorem replace_unregistered (addr : Nat) (f : Port → Port) (keeps : ∀ port, PortUnflagged port → PortUnflagged (f port))
    (here : Unregistered br) : Unregistered { br with ports := Keyed.replace portAddr addr f br.ports } := by
  refine ⟨here.rows, fun port member => ?_, here.calls⟩
  rcases (Keyed.mem_replace portAddr).mp member with ⟨same, _⟩ | ⟨old, stored, _, rfl⟩
  · exact here.ports port same
  · exact keeps old (here.ports old stored)

theorem iface_unregister_unregistered (iface : IfaceRef) (here : Unregistered br) : Unregistered (ifaceUnregister br iface) := by
  unfold ifaceUnregister
  cases iface.ofpPort with
  | none => exact here
  | some number =>
      dsimp only
      split
      · have told := emit_unregistered (.portUnregister number) (fun _ => OfprotoCall.noConfusion) here
        exact ⟨told.rows, told.ports, told.calls⟩
      · exact ⟨here.rows, here.ports, here.calls⟩

theorem iface_destroy_unregistered (iface : IfaceRef) (here : Unregistered br) : Unregistered (ifaceDestroy' br iface) := by
  have fewer := replace_unregistered iface.port.addr (fun port => { port with ifaces := Keyed.remove ifaceAddr iface.addr port.ifaces })
    (fun port unflagged => ⟨unflagged.1, fun stored inside => unflagged.2 stored ((Keyed.mem_remove ifaceAddr).mp inside).1⟩)
    (iface_unregister_unregistered iface here)
  exact ⟨fewer.rows, fewer.ports, fewer.calls⟩

theorem foldl_unregistered {α : Type} (step : Bridge → α → Bridge) (items : List α)
    (each : ∀ br, ∀ a ∈ items, Unregistered br → Unregistered (step br a)) (here : Unregistered br) :
    Unregistered (items.foldl step br) :=
  Keyed.foldl_keeps step Unregistered each here

theorem port_destroy_unregistered (port : PortRef) (here : Unregistered br) : Unregistered (portDestroy br port) := by
  have told : Unregistered (if br.ofproto then br.emit (.bundleUnregister port.name) else br) := by
    split
    · exact emit_unregistered _ (fun _ => OfprotoCall.noConfusion) here
    · exact here
  have emptied := foldl_unregistered (fun br (iface : Iface) => ifaceDestroy' br iface.self)
    (portIfaces (if br.ofproto then br.emit (.bundleUnregister port.name) else br) port)
    (fun next iface _ valid => iface_destroy_unregistered iface.self valid) told
  exact ⟨emptied.rows, fun left member => emptied.ports left ((Keyed.mem_remove portAddr).mp member).1, emptied.calls⟩

theorem destroy_empty_unregistered (port : PortRef) (here : Unregistered br) :
    Unregistered (if portIfaces br port = [] then portDestroy br port else br) := by
  split
  · exact port_destroy_unregistered port here
  · exact here

theorem del_ifaces_unregistered (port : PortRef) (row : PortRow) (here : Unregistered br) : Unregistered (portDelIfaces br port row) := by
  refine foldl_unregistered _ _ (fun next iface _ valid => ?_) here
  split
  · exact valid
  · exact destroy_empty_unregistered _ (iface_destroy_unregistered iface.self valid)

theorem set_cfg_unregistered (port : PortRef) (cfg : Option PortRow) (unflagged : ∀ row ∈ cfg, row.modified = false)
    (here : Unregistered br) : Unregistered (portSetCfg br port cfg) :=
  replace_unregistered port.addr (fun port => { port with cfg := cfg }) (fun _ stored => ⟨unflagged, stored.2⟩) here

theorem update_iface_unregistered (platform : Platform) (row : InterfaceRow) (unflagged : row.modified = false)
    (here : Unregistered br) : Unregistered (updateIface platform br row) := by
  unfold updateIface
  cases br.ifaceLookup row.name with
  | none => exact here
  | some iface =>
      refine replace_unregistered iface.port.addr _ (fun port stored => ⟨stored.1, fun later inside => ?_⟩) here
      rcases (Keyed.mem_replace ifaceAddr).mp inside with ⟨same, _⟩ | ⟨old, _, _, rfl⟩
      · exact stored.2 later same
      · exact unflagged

variable {wantedPorts : List PortRow}

theorem update_ifaces_unregistered (env : Env) (unflagged : ∀ row ∈ wantedPorts, RowUnflagged row) (here : Unregistered br) :
    Unregistered (updateIfaces env br wantedPorts) := by
  refine foldl_unregistered _ _ (fun next row walked valid => ?_) here
  have listed : row ∈ wantedPorts := (env.order.mem_walk _ _).mp walked
  exact foldl_unregistered _ _ (fun later iface inside same =>
    update_iface_unregistered env.platform iface ((unflagged row listed).2 iface inside) same) valid

theorem lookup_unflagged (unflagged : ∀ row ∈ wantedPorts, RowUnflagged row) (name : String) :
    ∀ row ∈ Keyed.lookup PortRow.name name wantedPorts, row.modified = false :=
  fun row found => (unflagged row (Keyed.lookup_mem PortRow.name found)).1

theorem del_ports_unregistered (env : Env) (unflagged : ∀ row ∈ wantedPorts, RowUnflagged row) (here : Unregistered br) :
    Unregistered (bridgeDelPorts env br wantedPorts) := by
  refine update_ifaces_unregistered env unflagged (foldl_unregistered _ _ (fun next port _ valid => ?_) here)
  have entered := set_cfg_unregistered port.self _ (lookup_unflagged unflagged port.self.name) valid
  unfold bridgeDelPort
  cases found : Keyed.lookup PortRow.name port.self.name wantedPorts with
  | none => exact port_destroy_unregistered port.self (found ▸ entered)
  | some row => exact del_ifaces_unregistered port.self row (found ▸ entered)

theorem vrf_del_ports_unregistered (env : Env) (vrf : Vrf) (unflagged : ∀ row ∈ wantedPorts, RowUnflagged row)
    (here : Unregistered vrf.up) : Unregistered (vrfDelPorts env vrf wantedPorts).up := by
  refine update_ifaces_unregistered env unflagged
    (Keyed.foldl_keeps (vrfDelPort env wantedPorts) (fun vrf => Unregistered vrf.up) (fun next port _ valid => ?_) here)
  have entered := set_cfg_unregistered port.self _ (lookup_unflagged unflagged port.self.name) valid
  unfold vrfDelPort
  cases found : Keyed.lookup PortRow.name port.self.name wantedPorts with
  | none =>
      have asked := delete_port_neighbors_asks env (next.withUp (portSetCfg next.up port.self none)) port
      exact port_destroy_unregistered port.self (asks_unregistered _ asked (found ▸ entered))
  | some row => exact del_ifaces_unregistered port.self row (found ▸ entered)

theorem check_ofproto_port_unregistered (kept : OfprotoPort → Iface → Bool) (work : Bridge × List Nat) (entry : OfprotoPort)
    (here : Unregistered work.1) : Unregistered (checkOfprotoPort kept work entry).1 := by
  unfold checkOfprotoPort
  cases work.1.ifaceLookup entry.name with
  | none => exact here
  | some iface =>
      dsimp only
      split
      · exact here
      · exact destroy_empty_unregistered _ (iface_destroy_unregistered iface here)

theorem reconfigure_ports_unregistered (kept : OfprotoPort → Iface → Bool) (order : HashOrder) (dump : List OfprotoPort)
    (here : Unregistered br) : Unregistered (deleteOrReconfigurePorts kept order br dump) := by
  have checked : Unregistered (dump.foldl (checkOfprotoPort kept) (br, [])).1 :=
    Keyed.foldl_keeps (checkOfprotoPort kept) (fun work => Unregistered work.1)
      (fun work entry _ valid => check_ofproto_port_unregistered kept work entry valid) here
  refine foldl_unregistered _ _ (fun next port _ valid => ?_) (foldl_unregistered _ _ (fun next number _ valid => ?_) checked)
  · refine destroy_empty_unregistered port.self (foldl_unregistered _ _ (fun later iface _ same => ?_) valid)
    split
    · exact same
    · exact iface_destroy_unregistered iface.self same
  · exact emit_unregistered _ (fun _ => OfprotoCall.noConfusion) valid

theorem append_iface_unregistered (addr : Nat) (iface : Iface) (quiet : iface.cfg.modified = false) (here : Unregistered br) :
    Unregistered { br with
      ports := Keyed.replace portAddr addr (fun port => { port with ifaces := port.ifaces ++ [iface] }) br.ports } := by
  refine replace_unregistered addr _ (fun port stored => ⟨stored.1, fun later inside => ?_⟩) here
  rcases List.mem_append.mp inside with before | last
  · exact stored.2 later before
  · rw [List.mem_singleton.mp last]
    exact quiet

theorem port_create_unregistered (port : PortRow) (unflagged : RowUnflagged port) (here : Unregistered br) :
    Unregistered (portCreate br port).1 := by
  have new : PortUnflagged ⟨⟨br.nextAddr, port.name⟩, some port, []⟩ :=
    ⟨fun cfg same => Option.some.inj same ▸ unflagged.1, List.forall_mem_nil _⟩
  exact ⟨here.rows, List.forall_mem_cons.mpr ⟨new, here.ports⟩, here.calls⟩

theorem iface_create_unregistered (env : Env) (doCreate : IfaceDoCreate) (row : InterfaceRow) (port : PortRow)
    (unflagged : RowUnflagged port) (quiet : row.modified = false) (here : Unregistered br) :
    Unregistered (ifaceCreate env doCreate br row port) := by
  unfold ifaceCreate
  cases doCreate port row with
  | none => exact here
  | some number =>
      cases br.portLookup port.name with
      | some known =>
          have grown := append_iface_unregistered known.self.addr ⟨⟨br.nextAddr, row.name, known.self, number⟩,
            ifaceGetType env.platform row br.cfg, row⟩ quiet here
          exact ⟨grown.rows, grown.ports, grown.calls⟩
      | none =>
          have grown := append_iface_unregistered br.nextAddr ⟨⟨br.nextAddr + 1, row.name, ⟨br.nextAddr, port.name⟩, number⟩,
            ifaceGetType env.platform row br.cfg, row⟩ quiet (port_create_unregistered port unflagged here)
          exact ⟨grown.rows, grown.ports, grown.calls⟩

theorem add_ports_unregistered (env : Env) (doCreate : IfaceDoCreate) (unflagged : ∀ row ∈ wantedPorts, RowUnflagged row)
    (here : Unregistered br) : Unregistered (bridgeAddPorts env doCreate br wantedPorts) := by
  refine foldl_unregistered _ _ (fun next port walked valid => ?_) here
  have rows := unflagged port ((env.order.mem_walk _ _).mp walked)
  refine foldl_unregistered _ _ (fun later row inside same => ?_) valid
  unfold addWantedIface
  split
  · exact same
  · exact iface_create_unregistered env doCreate row port rows (rows.2 row inside) same

theorem configure_ports_unregistered (order : HashOrder) (here : Unregistered br) : Unregistered (configurePorts order br) := by
  rw [configure_ports_idle order (fun port member => unflagged_needs_nothing port (here.ports port member))]
  exact here

end Ports

section Owners

variable (input : Reconfiguration)

theorem bridge_wanted_unflagged (br : Bridge) (here : Unregistered br) : ∀ row ∈ bridgeCollectWantedPorts br, RowUnflagged row := by
  have collected : ∀ cfg ∈ br.cfg, ∀ row ∈ Keyed.collect PortRow.name cfg.ports, RowUnflagged row :=
    fun cfg stored row member => here.rows cfg stored row (Keyed.mem_of_mem_collect PortRow.name member)
  unfold bridgeCollectWantedPorts
  cases stored : br.cfg with
  | none => exact List.forall_mem_nil _
  | some cfg =>
      dsimp only
      split
      · refine List.forall_mem_append.mpr ⟨collected cfg stored, List.forall_mem_singleton.mpr ⟨rfl, ?_⟩⟩
        exact List.forall_mem_singleton.mpr rfl
      · exact collected cfg stored

theorem reconfigure_bridge_unregistered (br after : Bridge) (here : Unregistered br) (done : reconfigureBridge input br = some after) :
    Unregistered after := by
  obtain ⟨ready, created, rfl⟩ := Option.map_eq_some_iff.mp done
  have deleted : Unregistered (bridgeReconfigurePhase input (bridgeDeletePhase input br)) := by
    have dropped := del_ports_unregistered input.env (bridge_wanted_unflagged br here) here
    unfold bridgeReconfigurePhase
    split
    · exact reconfigure_ports_unregistered _ _ _ dropped
    · exact dropped
  generalize bridgeReconfigurePhase input (bridgeDeletePhase input br) = swept at deleted created
  have valid : Unregistered ready := by
    unfold bridgeCreatePhase at created
    split at created
    · exact Option.some.inj created ▸ deleted
    · split at created
      · obtain rfl := Option.some.inj created
        exact ⟨deleted.rows, deleted.ports, deleted.calls⟩
      · cases created
  have added := add_ports_unregistered input.env (input.datapath.bridgeIface ready.name) (bridge_wanted_unflagged ready valid) valid
  have vlans := configure_vlans_only input.env.order (configurePorts input.env.order (bridgeAddPhase input ready))
  exact more_calls_unregistered _ _ vlans.frame.cfg vlans.ports vlans.frame.calls (configure_ports_unregistered input.env.order added)

theorem reconfigure_vrf_unregistered (owner : VrfRow × Vrf) (after : Vrf) (rows : ∀ row ∈ owner.1.ports, RowUnflagged row)
    (here : Unregistered owner.2.up) (done : reconfigureVrf input owner = some after) : Unregistered after.up := by
  obtain ⟨ready, created, rfl⟩ := Option.map_eq_some_iff.mp done
  have wanted : ∀ row ∈ vrfCollectWantedPorts owner.1, RowUnflagged row :=
    fun row member => rows row (Keyed.mem_of_mem_collect PortRow.name member)
  have deleted : Unregistered (vrfReconfigurePhase input (vrfDeletePhase input owner)).2.up ∧
      (vrfReconfigurePhase input (vrfDeletePhase input owner)).1 = owner.1 := by
    have dropped := vrf_del_ports_unregistered input.env owner.2 wanted here
    unfold vrfReconfigurePhase
    split
    · exact ⟨reconfigure_ports_unregistered _ _ _ dropped, rfl⟩
    · exact ⟨dropped, rfl⟩
  generalize vrfReconfigurePhase input (vrfDeletePhase input owner) = swept at deleted created
  have valid : Unregistered ready.2.up ∧ ready.1 = owner.1 := by
    unfold vrfCreatePhase at created
    split at created
    · exact Option.some.inj created ▸ deleted
    · split at created
      · obtain rfl := Option.some.inj created
        exact ⟨⟨deleted.1.rows, deleted.1.ports, deleted.1.calls⟩, deleted.2⟩
      · cases created
  have added := add_ports_unregistered input.env (input.datapath.vrfIface ready.2.up.name) (valid.2 ▸ wanted) valid.1
  exact asks_unregistered _ (vrf_configure_asks input (vrfAddPhase input ready)) (configure_ports_unregistered input.env.order added)

end Owners

section Switch

structure SwitchUnregistered (switch : Switch) : Prop where
  bridges : ∀ br ∈ switch.bridges, Unregistered br
  vrfs : ∀ vrf ∈ switch.vrfs, Unregistered vrf.up

theorem add_del_bridges_unregistered (normalizeType : String → String) (rows : List BridgeRow) (bridges : List Bridge)
    (unflagged : ∀ row ∈ rows, ∀ port ∈ row.ports, RowUnflagged port) (here : ∀ br ∈ bridges, Unregistered br) :
    ∀ br ∈ addDelBridges normalizeType rows bridges, Unregistered br := by
  refine Keyed.foldl_keeps _ (fun made => ∀ br ∈ made, Unregistered br) (fun made row listed valid => ?_) ?_
  · split
    · exact valid
    · refine List.forall_mem_cons.mpr ⟨⟨fun cfg same => ?_, List.forall_mem_nil _, fun _ => List.not_mem_nil⟩, valid⟩
      rw [← Option.some.inj same]
      exact unflagged row listed
  · intro kept member
    obtain ⟨br, old, found⟩ := List.mem_filterMap.mp member
    obtain ⟨_, row, listed, _, rfl⟩ := (keep_bridge_eq_some normalizeType rows br kept).mp found
    refine ⟨fun cfg same => ?_, (here br old).ports, (here br old).calls⟩
    rw [← Option.some.inj same]
    exact unflagged row (Keyed.lookup_mem BridgeRow.name listed)

theorem add_del_vrfs_unregistered (rows : List VrfRow) (vrfs : List Vrf) (unflagged : ∀ row ∈ rows, ∀ port ∈ row.ports, RowUnflagged port)
    (here : ∀ vrf ∈ vrfs, Unregistered vrf.up) :
    ∀ owner ∈ addDelVrfs rows vrfs, (∀ port ∈ owner.1.ports, RowUnflagged port) ∧ Unregistered owner.2.up := by
  refine Keyed.foldl_keeps _ (fun (made : List (VrfRow × Vrf)) => ∀ owner ∈ made, (∀ port ∈ owner.1.ports, RowUnflagged port) ∧
    Unregistered owner.2.up)
    (fun made row listed valid => ?_) ?_
  · split
    · exact valid
    · refine List.forall_mem_cons.mpr ⟨⟨unflagged row listed, fun cfg same => ?_, List.forall_mem_nil _, fun _ => List.not_mem_nil⟩, valid⟩
      cases same
  · intro kept member
    obtain ⟨vrf, old, found⟩ := List.mem_filterMap.mp member
    obtain ⟨_, row, listed, rfl⟩ := (keep_vrf_eq_some rows vrf kept).mp found
    exact ⟨unflagged row (Keyed.lookup_mem VrfRow.name listed), here vrf old⟩

theorem reconfigure_unregistered (switch : Switch) (input : Reconfiguration)
    (unflagged : ∀ row ∈ portRows input.cfg, RowUnflagged row) (here : SwitchUnregistered switch) :
    SwitchUnregistered (bridgeReconfigure switch input) := by
  have bridges := add_del_bridges_unregistered input.datapath.normalizeType input.cfg.bridges switch.bridges
    (fun row listed port inside => unflagged port (List.mem_append_left _ (List.mem_flatMap.mpr ⟨row, listed, inside⟩))) here.bridges
  have vrfs := add_del_vrfs_unregistered input.cfg.vrfs switch.vrfs
    (fun row listed port inside => unflagged port (List.mem_append_right _ (List.mem_flatMap.mpr ⟨row, listed, inside⟩))) here.vrfs
  rw [reconfigure_by_owner]
  constructor
  · intro after member
    obtain ⟨br, present, done⟩ := List.mem_filterMap.mp member
    exact reconfigure_bridge_unregistered input br after (bridges br present) done
  · intro after member
    obtain ⟨owner, present, done⟩ := List.mem_filterMap.mp member
    exact reconfigure_vrf_unregistered input owner after (vrfs owner present).1 (vrfs owner present).2 done

end Switch

section Handover

structure PortsUnchanged (seen : Nat) (turn : Turn) : Prop where
  seqno : seen ≤ turn.seqno
  ports : ∀ row ∈ portRows turn.tables.cfg, turn.rowSeqno row.uuid ≤ seen
  ifaces : ∀ row ∈ portRows turn.tables.cfg, ∀ iface ∈ row.interfaces, turn.rowSeqno iface.uuid ≤ seen

theorem port_rows_since (rowSeqno : Uuid → Nat) (seen : Nat) (cfg : OpenVswitchRow) :
    portRows (cfgSince rowSeqno seen cfg) = (portRows cfg).map (portSince rowSeqno seen) := by
  unfold portRows cfgSince
  simp only [List.flatMap_map, List.map_append, List.map_flatMap]

theorem since_unflagged (turn : Turn) (first seen : Nat) (later : first ≤ seen) (unchanged : PortsUnchanged first turn) :
    ∀ row ∈ portRows (seenSince turn seen).cfg, RowUnflagged row := by
  intro row member
  obtain ⟨source, listed, rfl⟩ := List.mem_map.mp (port_rows_since turn.rowSeqno seen turn.tables.cfg ▸ member)
  refine ⟨decide_eq_false (Nat.not_lt.mpr (Nat.le_trans (unchanged.ports source listed) later)), fun iface inside => ?_⟩
  obtain ⟨old, deeper, rfl⟩ := List.mem_map.mp inside
  exact decide_eq_false (Nat.not_lt.mpr (Nat.le_trans (unchanged.ifaces source listed old deeper) later))

-- The invariant of the run: idl_seqno never goes back behind the loss.
theorem turn_unregistered (first : Nat) (daemon : Daemon) (turn : Turn) (here : first ≤ daemon.idlSeqno ∧ SwitchUnregistered daemon.switch)
    (unchanged : PortsUnchanged first turn) :
    first ≤ (bridgeRun daemon turn).idlSeqno ∧ SwitchUnregistered (bridgeRun daemon turn).switch := by
  unfold bridgeRun
  cases turn.lock with
  | contended => exact ⟨here.1, List.forall_mem_nil _, List.forall_mem_nil _⟩
  | missing => exact here
  | held =>
      dsimp only
      split
      · exact ⟨unchanged.seqno, reconfigure_unregistered daemon.switch _ (since_unflagged turn first daemon.idlSeqno here.1 unchanged) here.2⟩
      · exact here

def NoBundle (daemon : Daemon) : Prop :=
  ∀ port, (∀ br ∈ daemon.switch.bridges, .bundleRegister port ∉ br.calls) ∧
    ∀ vrf ∈ daemon.switch.vrfs, .bundleRegister port ∉ vrf.up.calls

theorem recovered_ports_unregistered (daemon : Daemon) (lost : Turn) (turns : List Turn) (contended : lost.lock = .contended)
    (unchanged : ∀ turn ∈ turns, PortsUnchanged daemon.idlSeqno turn) :
    Runs.Always bridgeRun NoBundle (bridgeRun daemon lost) turns := by
  have destroyed : daemon.idlSeqno ≤ (bridgeRun daemon lost).idlSeqno ∧ SwitchUnregistered (bridgeRun daemon lost).switch := by
    unfold bridgeRun
    rw [contended]
    exact ⟨Nat.le_refl _, List.forall_mem_nil _, List.forall_mem_nil _⟩
  have kept := Runs.invariant_always (turn_unregistered daemon.idlSeqno) destroyed
    ((Runs.along_inputs bridgeRun (PortsUnchanged daemon.idlSeqno) (bridgeRun daemon lost) turns).mpr unchanged)
  refine Runs.always_mono (fun reached valid port => ⟨fun br member => ?_, fun vrf member => ?_⟩) kept
  · exact (valid.2.bridges br member).calls port
  · exact (valid.2.vrfs vrf member).calls port

def configuredDaemon : Daemon := bridgeRun ⟨⟨[], []⟩, 0⟩ (sampleTurn .held 1)

def recoveredDaemon : Daemon := Runs.run bridgeRun (bridgeRun configuredDaemon (sampleTurn .contended 1)) [sampleTurn .held 2]

def registered (daemon : Daemon) (port : String) : Bool :=
  daemon.switch.bridges.any (fun br => br.calls.contains (.bundleRegister port))

theorem recovered_port_unregistered :
    registered configuredDaemon "1" = true ∧ recoveredDaemon.switch.bridges.map (fun br => br.ports.length) = [1] ∧
      NoBundle recoveredDaemon := by
  refine ⟨by decide, by decide, ?_⟩
  refine recovered_ports_unregistered configuredDaemon (sampleTurn .contended 1) [sampleTurn .held 2] rfl ?_ [sampleTurn .held 2] [] rfl
  refine List.forall_mem_singleton.mpr ⟨by decide, fun _ _ => ?_, fun _ _ _ _ => ?_⟩
  · exact Nat.le_refl 1
  · exact Nat.le_refl 1

end Handover

end OpsSwitchd.LockHandover
