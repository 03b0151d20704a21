import OpsSwitchd.CreatedPorts
import OpsSwitchd.HostPorts
import OpsSwitchd.VlanSync

set_option autoImplicit false

namespace OpsSwitchd

inductive MacFlush where
  | byVlan (vlan : Int)
  | byPort (portName : String)
  | byPortVlan (portName : String) (vlan : Int)
  | byTrunk (portName : String) (tgid : Int)
  | byTrunkVlan (portName : String) (tgid : Int) (vlan : Int)
deriving DecidableEq, Repr

-- The tables with their flags for maclearn_idl_seqno, and bond_hw_handle of
-- each struct port by its name.
structure FlushPlugin where
  vlans : IdlTable VlanRow
  ports : IdlTable PortRow
  bondHwHandle : String → Int

def portNameSize : Nat := 16

-- strncpy into settings.port_name.
def portNameField (name : String) : String := String.ofList (name.toList.take portNameSize)

def isLagName (name : String) : Bool := name.toList.take 3 = "lag".toList

def deletedVlanFlush (idlVlans : List VlanRow) (vlan : Vlan) : Option MacFlush :=
  if (Keyed.lookup VlanRow.name vlan.name idlVlans).isSome then none else some (.byVlan vlan.vid)

def macFlushDeletedVlans (order : HashOrder) (br : Bridge) : List MacFlush :=
  (order.walk br.vlans).filterMap (deletedVlanFlush (Keyed.collect VlanRow.name (cfgVlans br)))

-- A LAG without a hardware handle is only logged.
def deletedPortFlush (plugin : FlushPlugin) (wantedPorts : List PortRow) (port : Port) : Option MacFlush :=
  let name := port.self.name
  if (Keyed.lookup PortRow.name name wantedPorts).isSome then none
  else if isLagName name then
    if plugin.bondHwHandle name ≠ -1 then some (.byTrunk (portNameField name) (plugin.bondHwHandle name)) else none
  else some (.byPort (portNameField name))

def macFlushDeletedPorts (plugin : FlushPlugin) (order : HashOrder) (br : Bridge) (wantedPorts : List PortRow) :
    List MacFlush :=
  (order.walk br.ports).filterMap (deletedPortFlush plugin wantedPorts)

def rowsDeleted {ρ : Type} (table : IdlTable ρ) : Bool := !table.rows.isEmpty && table.anyDeleted

def macFlushMonitor (plugin : FlushPlugin) (order : HashOrder) (br : Bridge) (wantedPorts : List PortRow) : List MacFlush :=
  (if rowsDeleted plugin.vlans then macFlushDeletedVlans order br else []) ++
    (if rowsDeleted plugin.ports then macFlushDeletedPorts plugin order br wantedPorts else [])

-- The callback of BLK_BR_DELETE_PORTS, between the collection of the wanted
-- ports of a bridge and its bridge_del_ports.
def bridgeFlushes (plugin : FlushPlugin) (input : Reconfiguration) (br : Bridge) : List MacFlush :=
  macFlushMonitor plugin input.env.order br (bridgeCollectWantedPorts br)

def PortRemoved (input : Reconfiguration) (br : Bridge) (port : Port) : Prop :=
  Keyed.lookup PortRow.name port.self.name (bridgeCollectWantedPorts br) = none ∧
    (bridgeDeletePhase input br).portLookup port.self.name = none

def VlanRemoved (after : Bridge) (vlan : Vlan) : Prop := vlanLookupByName after vlan.name = none

instance (input : Reconfiguration) (br : Bridge) (port : Port) : Decidable (PortRemoved input br port) :=
  inferInstanceAs (Decidable (_ ∧ _))

instance (after : Bridge) (vlan : Vlan) : Decidable (VlanRemoved after vlan) := inferInstanceAs (Decidable (_ = _))

def keptBridges (switch : Switch) (input : Reconfiguration) : List Bridge :=
  addDelBridges input.datapath.normalizeType input.cfg.bridges switch.bridges

def RemovedFlushed (plugin : FlushPlugin) (switch : Switch) (input : Reconfiguration) : Prop :=
  ∀ br ∈ keptBridges switch input,
    (∀ port ∈ br.ports, PortRemoved input br port → isLagName port.self.name = false →
      .byPort port.self.name ∈ bridgeFlushes plugin input br) ∧
    ∀ after ∈ reconfigureBridge input br, ∀ vlan ∈ br.vlans, VlanRemoved after vlan →
      .byVlan vlan.vid ∈ bridgeFlushes plugin input br

def RemovalsSeen (plugin : FlushPlugin) (switch : Switch) (input : Reconfiguration) : Prop :=
  ∀ br ∈ keptBridges switch input,
    (∀ port ∈ br.ports, PortRemoved input br port → isLagName port.self.name = false →
      rowsDeleted plugin.ports = true ∧ port.self.name.toList.length ≤ portNameSize) ∧
    ∀ after ∈ reconfigureBridge input br, ∀ vlan ∈ br.vlans, VlanRemoved after vlan → rowsDeleted plugin.vlans = true

instance (plugin : FlushPlugin) (switch : Switch) (input : Reconfiguration) : Decidable (RemovedFlushed plugin switch input) :=
  inferInstanceAs (Decidable (∀ br ∈ keptBridges switch input, _ ∧ _))

instance (plugin : FlushPlugin) (switch : Switch) (input : Reconfiguration) : Decidable (RemovalsSeen plugin switch input) :=
  inferInstanceAs (Decidable (∀ br ∈ keptBridges switch input, _ ∧ _))

structure VlanSide (br after : Bridge) : Prop where
  vlans : after.vlans = br.vlans
  cfg : after.cfg = br.cfg

section Flushing

variable (plugin : FlushPlugin) (input : Reconfiguration) (br : Bridge) (name : String)

theorem vlan_side_refl : VlanSide br br := ⟨rfl, rfl⟩

theorem vlan_side_trans (br middle after : Bridge) (first : VlanSide br middle) (second : VlanSide middle after) :
    VlanSide br after :=
  ⟨second.vlans.trans first.vlans, second.cfg.trans first.cfg⟩

theorem vlan_side_foldl {α : Type} (step : Bridge → α → Bridge) (each : ∀ br a, VlanSide br (step br a)) (items : List α)
    (br : Bridge) : VlanSide br (items.foldl step br) :=
  Keyed.foldl_keeps step (VlanSide br) (fun next a _ side => vlan_side_trans _ _ _ side (each next a)) (vlan_side_refl br)

theorem iface_unregister_side (iface : IfaceRef) : VlanSide br (ifaceUnregister br iface) := by
  unfold ifaceUnregister
  cases iface.ofpPort with
  | none => exact vlan_side_refl br
  | some ofpPort =>
      dsimp only
      split <;> exact ⟨rfl, rfl⟩

theorem iface_destroy_side' (iface : IfaceRef) : VlanSide br (ifaceDestroy' br iface) :=
  vlan_side_trans _ _ _ (iface_unregister_side br iface) ⟨rfl, rfl⟩

theorem port_destroy_side (port : PortRef) : VlanSide br (portDestroy br port) := by
  unfold portDestroy
  dsimp only
  have told : VlanSide br (if br.ofproto = true then br.emit (.bundleUnregister port.name) else br) := by
    split <;> exact ⟨rfl, rfl⟩
  have emptied := vlan_side_foldl (fun br (iface : Iface) => ifaceDestroy' br iface.self)
    (fun next iface => iface_destroy_side' next iface.self)
  exact vlan_side_trans _ _ _ (vlan_side_trans _ _ _ told (emptied _ _)) ⟨rfl, rfl⟩

theorem iface_destroy_side (iface : IfaceRef) : VlanSide br (ifaceDestroy br iface) := by
  unfold ifaceDestroy
  dsimp only
  split
  · exact vlan_side_trans _ _ _ (iface_destroy_side' br iface) (port_destroy_side _ _)
  · exact iface_destroy_side' br iface

theorem port_del_ifaces_side (port : PortRef) (cfg : PortRow) : VlanSide br (portDelIfaces br port cfg) := by
  refine vlan_side_foldl _ (fun next iface => ?_) _ br
  split
  · exact vlan_side_refl next
  · exact iface_destroy_side next iface.self

theorem bridge_del_port_side (wantedPorts : List PortRow) (br : Bridge) (port : PortRef) :
    VlanSide br (bridgeDelPort wantedPorts br port) := by
  unfold bridgeDelPort
  dsimp only
  refine vlan_side_trans _ (portSetCfg br port (Keyed.lookup PortRow.name port.name wantedPorts)) _ ⟨rfl, rfl⟩ ?_
  split
  · exact port_destroy_side _ port
  · exact port_del_ifaces_side _ port _

theorem update_iface_side (platform : Platform) (br : Bridge) (cfg : InterfaceRow) :
    VlanSide br (updateIface platform br cfg) := by
  unfold updateIface
  split
  · exact ⟨rfl, rfl⟩
  · exact vlan_side_refl br

theorem bridge_delete_phase_side : VlanSide br (bridgeDeletePhase input br) := by
  have deleted := vlan_side_foldl (fun next (port : Port) => bridgeDelPort (bridgeCollectWantedPorts br) next port.self)
    (fun next port => bridge_del_port_side _ next port.self) (input.env.order.walk br.ports) br
  refine vlan_side_trans _ _ _ deleted ?_
  exact vlan_side_foldl (fun next (port : PortRow) => port.interfaces.foldl (updateIface input.env.platform) next)
    (fun next port => vlan_side_foldl _ (update_iface_side _) port.interfaces next) _ _

theorem check_ofproto_port_side (kept : OfprotoPort → Iface → Bool) (br : Bridge) (work : Bridge × List Nat)
    (entry : OfprotoPort) (side : VlanSide br work.1) : VlanSide br (checkOfprotoPort kept work entry).1 := by
  unfold checkOfprotoPort
  split
  · exact side
  · split
    · exact side
    · exact vlan_side_trans _ _ _ side (iface_destroy_side _ _)

theorem drop_vanished_side (names : List String) (br : Bridge) (port : PortRef) :
    VlanSide br (dropVanishedIfaces names br port) := by
  unfold dropVanishedIfaces
  dsimp only
  have dropped : VlanSide br ((portIfaces br port).foldl
      (fun br iface => if iface.self.name ∈ names then br else ifaceDestroy' br iface.self) br) := by
    refine vlan_side_foldl _ (fun next iface => ?_) _ br
    split
    · exact vlan_side_refl next
    · exact iface_destroy_side' next iface.self
  split
  · exact vlan_side_trans _ _ _ dropped (port_destroy_side _ port)
  · exact dropped

theorem bridge_reconfigure_phase_side :
    VlanSide br (bridgeReconfigurePhase input br) := by
  unfold bridgeReconfigurePhase
  split
  · unfold bridgeDeleteOrReconfigurePorts deleteOrReconfigurePorts
    dsimp only
    have checked : VlanSide br
        ((input.datapath.bridgeDump br.name).foldl (checkOfprotoPort ofprotoPortKept) (br, [])).1 :=
      Keyed.foldl_keeps (checkOfprotoPort ofprotoPortKept) (fun work => VlanSide br work.1)
        (fun work entry _ side => check_ofproto_port_side _ br work entry side) (vlan_side_refl br)
    refine vlan_side_trans _ _ _ (vlan_side_trans _ _ _ checked ?_)
      (vlan_side_foldl _ (fun next (port : Port) => drop_vanished_side _ next port.self) _ _)
    exact vlan_side_foldl (fun br ofpPort => br.emit (.portDel ofpPort)) (fun _ _ => ⟨rfl, rfl⟩) _ _
  · exact vlan_side_refl br

theorem add_wanted_iface_side (env : Env) (doCreate : IfaceDoCreate) (portCfg : PortRow) (br : Bridge)
    (ifaceCfg : InterfaceRow) : VlanSide br (addWantedIface env doCreate portCfg br ifaceCfg) := by
  unfold addWantedIface ifaceCreate
  split
  · exact vlan_side_refl br
  · split
    · exact vlan_side_refl br
    · cases br.portLookup portCfg.name <;> exact ⟨rfl, rfl⟩

theorem bridge_add_phase_side : VlanSide br (bridgeAddPhase input br) :=
  vlan_side_foldl _ (fun next port => vlan_side_foldl _ (add_wanted_iface_side _ _ port) port.interfaces next) _ br

theorem configure_ports_side (order : HashOrder) (br : Bridge) : VlanSide br (configurePorts order br) := by
  rw [configure_ports_eq]
  exact ⟨rfl, rfl⟩

theorem bridge_create_phase_side (br ready : Bridge)
    (created : bridgeCreatePhase input br = some ready) : VlanSide br ready := by
  unfold bridgeCreatePhase at created
  split at created
  · obtain rfl := Option.some.inj created
    exact vlan_side_refl br
  · split at created
    · obtain rfl := Option.some.inj created
      exact ⟨rfl, rfl⟩
    · cases created

theorem reconfigured_vlans (br after : Bridge) (done : reconfigureBridge input br = some after) :
    ∃ ready, VlanSide br ready ∧ after = bridgeConfigureVlans input.env.order ready := by
  obtain ⟨ready, created, rfl⟩ := Option.map_eq_some_iff.mp done
  refine ⟨_, ?_, rfl⟩
  have deleted := vlan_side_trans _ _ _ (bridge_delete_phase_side input br) (bridge_reconfigure_phase_side input _)
  have made := vlan_side_trans _ _ _ deleted (bridge_create_phase_side input _ ready created)
  exact vlan_side_trans _ _ _ (vlan_side_trans _ _ _ made (bridge_add_phase_side input ready)) (configure_ports_side _ _)

theorem add_new_vlan_present (row : VlanRow) (name : String)
    (present : row.name = name ∨ (vlanLookupByName br name).isSome) : (vlanLookupByName (addNewVlan br row) name).isSome := by
  rw [add_new_vlan_lookup]
  split
  · rfl
  · rename_i other
    exact present.resolve_left (fun same => other same.symm)

theorem add_new_vlans_present (rows : List VlanRow) (br : Bridge) (name : String)
    (present : (∃ row ∈ rows, row.name = name) ∨ (vlanLookupByName br name).isSome) :
    (vlanLookupByName (rows.foldl addNewVlan br) name).isSome := by
  induction rows generalizing br with
  | nil => simpa using present
  | cons row rest ih =>
      refine ih (addNewVlan br row) ?_
      rcases present with ⟨found, member, same⟩ | here
      · rcases List.mem_cons.mp member with rfl | later
        · exact .inr (add_new_vlan_present br found name (.inl same))
        · exact .inl ⟨found, later, same⟩
      · exact .inr (add_new_vlan_present br row name (.inr here))

theorem check_vlan_change_present (vlan : Vlan) (name : String)
    (present : (vlanLookupByName br name).isSome) : (vlanLookupByName (checkVlanChange br vlan) name).isSome := by
  rw [check_vlan_change_lookup]
  split
  · simpa using present
  · exact present

theorem configured_vlan_stays (order : HashOrder) (br : Bridge) (name : String)
    (wanted : (Keyed.lookup VlanRow.name name (Keyed.collect VlanRow.name (cfgVlans br))).isSome) :
    (vlanLookupByName (bridgeConfigureVlans order br) name).isSome := by
  obtain ⟨row, found⟩ := Option.isSome_iff_exists.mp wanted
  refine Keyed.foldl_keeps checkVlanChange (fun next => (vlanLookupByName next name).isSome)
    (fun next vlan _ present => check_vlan_change_present next vlan name present) ?_
  refine add_new_vlans_present _ _ name (.inl ⟨row, ?_, Keyed.lookup_key VlanRow.name found⟩)
  exact (order.mem_walk _ _).mpr (Keyed.lookup_mem VlanRow.name found)

theorem removed_vlan_unwanted (br after : Bridge) (done : reconfigureBridge input br = some after)
    (vlan : Vlan) (removed : VlanRemoved after vlan) :
    (Keyed.lookup VlanRow.name vlan.name (Keyed.collect VlanRow.name (cfgVlans br))).isSome = false := by
  obtain ⟨ready, side, rfl⟩ := reconfigured_vlans input br after done
  cases wanted : (Keyed.lookup VlanRow.name vlan.name (Keyed.collect VlanRow.name (cfgVlans br))).isSome with
  | false => rfl
  | true =>
      have same : cfgVlans ready = cfgVlans br := by rw [cfgVlans, side.cfg, cfgVlans]
      have stays := configured_vlan_stays input.env.order ready vlan.name (by rw [same]; exact wanted)
      rw [show vlanLookupByName _ vlan.name = none from removed] at stays
      cases stays

theorem deleted_port_flush_cases (wantedPorts : List PortRow) (port : Port) (flush : MacFlush)
    (made : deletedPortFlush plugin wantedPorts port = some flush) :
    (∃ handle, flush = .byTrunk (portNameField port.self.name) handle) ∨ flush = .byPort (portNameField port.self.name) := by
  unfold deletedPortFlush at made
  dsimp only at made
  split at made
  · cases made
  · split at made
    · split at made
      · exact .inl ⟨_, (Option.some.inj made).symm⟩
      · cases made
    · exact .inr (Option.some.inj made).symm

theorem vlan_flush_iff (vlan : Vlan) (member : vlan ∈ br.vlans)
    (unwanted : (Keyed.lookup VlanRow.name vlan.name (Keyed.collect VlanRow.name (cfgVlans br))).isSome = false) :
    .byVlan vlan.vid ∈ bridgeFlushes plugin input br ↔ rowsDeleted plugin.vlans = true := by
  have never : MacFlush.byVlan vlan.vid ∉ macFlushDeletedPorts plugin input.env.order br (bridgeCollectWantedPorts br) := by
    intro flushed
    obtain ⟨port, _, made⟩ := List.mem_filterMap.mp flushed
    rcases deleted_port_flush_cases _ _ port _ made with ⟨_, other⟩ | other <;> cases other
  have issued : MacFlush.byVlan vlan.vid ∈ macFlushDeletedVlans input.env.order br := by
    refine List.mem_filterMap.mpr ⟨vlan, (input.env.order.mem_walk _ _).mpr member, ?_⟩
    rw [deletedVlanFlush, unwanted]
    rfl
  unfold bridgeFlushes macFlushMonitor
  cases rowsDeleted plugin.vlans <;> cases rowsDeleted plugin.ports <;> simp [never, issued]

theorem port_name_field_eq_iff : portNameField name = name ↔ name.toList.length ≤ portNameSize := by
  rw [portNameField, ← String.toList_inj, String.toList_ofList, List.take_eq_self_iff]

theorem port_name_field_short : (portNameField name).toList.length ≤ portNameSize := by
  rw [portNameField, String.toList_ofList]
  exact List.length_take_le _ _

theorem port_flush_iff (port : Port)
    (member : port ∈ br.ports) (unwanted : Keyed.lookup PortRow.name port.self.name (bridgeCollectWantedPorts br) = none)
    (plain : isLagName port.self.name = false) :
    .byPort port.self.name ∈ bridgeFlushes plugin input br ↔
      rowsDeleted plugin.ports = true ∧ port.self.name.toList.length ≤ portNameSize := by
  have never : MacFlush.byPort port.self.name ∉ macFlushDeletedVlans input.env.order br := by
    intro flushed
    obtain ⟨vlan, _, made⟩ := List.mem_filterMap.mp flushed
    unfold deletedVlanFlush at made
    split at made <;> cases made
  have issued : MacFlush.byPort port.self.name ∈
      macFlushDeletedPorts plugin input.env.order br (bridgeCollectWantedPorts br) ↔
        port.self.name.toList.length ≤ portNameSize := by
    constructor
    · intro flushed
      obtain ⟨other, _, made⟩ := List.mem_filterMap.mp flushed
      rcases deleted_port_flush_cases _ _ other _ made with ⟨_, trunk⟩ | named
      · cases trunk
      · rw [MacFlush.byPort.inj named]
        exact port_name_field_short other.self.name
    · intro short
      refine List.mem_filterMap.mpr ⟨port, (input.env.order.mem_walk _ _).mpr member, ?_⟩
      simp [deletedPortFlush, unwanted, plain, (port_name_field_eq_iff port.self.name).mpr short]
  unfold bridgeFlushes macFlushMonitor
  cases rowsDeleted plugin.vlans <;> cases rowsDeleted plugin.ports <;> simp [never, issued]

end Flushing

theorem removed_flushed_iff_seen (plugin : FlushPlugin) (switch : Switch) (input : Reconfiguration) :
    RemovedFlushed plugin switch input ↔ RemovalsSeen plugin switch input := by
  refine forall_congr' (fun br => forall_congr' (fun _ => and_congr ?_ ?_))
  · refine forall_congr' (fun port => forall_congr' (fun member => forall_congr' (fun removed => forall_congr' (fun plain => ?_))))
    exact port_flush_iff plugin input br port member removed.1 plain
  · refine forall_congr' (fun after => forall_congr' (fun done => forall_congr' (fun vlan => forall_congr' (fun member =>
      forall_congr' (fun removed => ?_)))))
    exact vlan_flush_iff plugin input br vlan member (removed_vlan_unwanted input br after done vlan removed)

-- The port moves to the VRF: no Port row is deleted, and none of its addresses
-- is flushed.
theorem moved_port_is_not_flushed :
    ¬ RemovedFlushed ⟨⟨[], false, false, false⟩, ⟨[flaggedPort false], false, false, false⟩, fun _ => -1⟩ bridgeWithPort
      (plainReconfiguration ["1"] [] [flaggedPort false]) := by
  decide

end OpsSwitchd
