import OpsSwitchd.PortsSound

set_option autoImplicit false

namespace OpsSwitchd

section Rows

-- The rows as the next run sees them if nothing changes: no flag is set.
def InterfaceRow.quiet (row : InterfaceRow) : InterfaceRow := { row with modified := false }

def PortRow.quiet (row : PortRow) : PortRow :=
  { row with interfaces := row.interfaces.map InterfaceRow.quiet, modified := false }

def VlanRow.quiet (row : VlanRow) : VlanRow := { row with inserted := false, modified := false }

def BridgeRow.quiet (row : BridgeRow) : BridgeRow :=
  { row with ports := row.ports.map PortRow.quiet, vlans := row.vlans.map VlanRow.quiet }

def VrfRow.quiet (row : VrfRow) : VrfRow := { row with ports := row.ports.map PortRow.quiet }

def Iface.quiet (iface : Iface) : Iface := { iface with cfg := iface.cfg.quiet }

def Port.quiet (port : Port) : Port := { port with cfg := port.cfg.map PortRow.quiet, ifaces := port.ifaces.map Iface.quiet }

def Vlan.quiet (vlan : Vlan) : Vlan := { vlan with cfg := vlan.cfg.quiet }

def Bridge.quiet (br : Bridge) : Bridge :=
  { br with cfg := br.cfg.map BridgeRow.quiet, ports := br.ports.map Port.quiet, vlans := br.vlans.map Vlan.quiet }

def Vrf.quiet (vrf : Vrf) : Vrf := { vrf with up := vrf.up.quiet }

def Switch.quiet (switch : Switch) : Switch := ⟨switch.bridges.map Bridge.quiet, switch.vrfs.map Vrf.quiet⟩

theorem quiet_iface_type (platform : Platform) (row : InterfaceRow) (cfg : Option BridgeRow) :
    ifaceGetType platform row (cfg.map BridgeRow.quiet) = ifaceGetType platform row cfg := by
  cases cfg <;> rfl

theorem quiet_new_ifaces (row : PortRow) : newIfaces row.quiet = newIfaces row := by
  unfold newIfaces PortRow.quiet
  rw [List.filter_map, List.map_map]
  rfl

theorem bridge_wanted_quiet (br : Bridge) :
    bridgeCollectWantedPorts { br with cfg := br.cfg.map BridgeRow.quiet } = (bridgeCollectWantedPorts br).map PortRow.quiet := by
  unfold bridgeCollectWantedPorts
  cases br.cfg with
  | none => rfl
  | some cfg =>
      have collected : Keyed.collect PortRow.name (cfg.ports.map PortRow.quiet) =
          (Keyed.collect PortRow.name cfg.ports).map PortRow.quiet := Keyed.collect_map PortRow.name PortRow.quiet (fun _ => rfl) cfg.ports
      have lookup := Keyed.lookup_map PortRow.name br.name PortRow.quiet (fun _ => rfl) (Keyed.collect PortRow.name cfg.ports)
      dsimp only [Option.map_some]
      rw [show cfg.quiet.ports = cfg.ports.map PortRow.quiet from rfl, collected, lookup]
      by_cases missing : bridgeGetControllers cfg ≠ [] ∧
          Keyed.lookup PortRow.name br.name (Keyed.collect PortRow.name cfg.ports) = none
      · rw [if_pos missing, if_pos ⟨missing.1, by rw [missing.2]; rfl⟩, List.map_append]
        rfl
      · rw [if_neg missing, if_neg (fun also => missing ⟨also.1, Option.map_eq_none_iff.mp also.2⟩)]

theorem vrf_wanted_quiet (row : VrfRow) : vrfCollectWantedPorts row.quiet = (vrfCollectWantedPorts row).map PortRow.quiet :=
  Keyed.collect_map PortRow.name PortRow.quiet (fun _ => rfl) row.ports

end Rows

section UpToDate

def DistinctIfaces (wantedPorts : List PortRow) : Prop := Keyed.Unique InterfaceRow.name (wantedPorts.flatMap PortRow.interfaces)

structure UpToDate (platform : Platform) (wantedPorts : List PortRow) (br : Bridge) : Prop where
  index : BridgeIndex br
  ofproto : br.ofproto = true
  rows : Keyed.Unique PortRow.name wantedPorts
  distinct : DistinctIfaces wantedPorts
  ports : ∀ port ∈ br.ports, ∃ row ∈ wantedPorts, port.cfg = some row ∧ row.name = port.self.name ∧
    ∀ iface ∈ port.ifaces, iface.cfg ∈ row.interfaces
  ifaces : ∀ port ∈ br.ports, ∀ iface ∈ port.ifaces, iface.cfg.name = iface.self.name ∧ iface.cfg.type ≠ "null" ∧
    iface.type = ifaceGetType platform iface.cfg br.cfg
  present : ∀ row ∈ wantedPorts, ∀ iface ∈ row.interfaces, (br.ifaceLookup iface.name).isSome

variable {platform : Platform} {wantedPorts : List PortRow} {br : Bridge}

theorem up_to_date_row (current : UpToDate platform wantedPorts br) (port : Port) (member : port ∈ br.ports) :
    Keyed.lookup PortRow.name port.self.name wantedPorts = port.cfg := by
  obtain ⟨row, listed, stored, named, _⟩ := current.ports port member
  rw [stored, ← named]
  exact Keyed.lookup_of_mem PortRow.name current.rows listed

theorem iface_row_wanted (current : UpToDate platform wantedPorts br) (port : Port) (member : port ∈ br.ports) (iface : Iface)
    (inside : iface ∈ port.ifaces) : ∃ row ∈ wantedPorts, iface.cfg ∈ row.interfaces := by
  obtain ⟨row, listed, _, _, rows⟩ := current.ports port member
  exact ⟨row, listed, rows iface inside⟩

theorem iface_named (current : UpToDate platform wantedPorts br) (port : Port) (member : port ∈ br.ports) (iface : Iface)
    (inside : iface ∈ port.ifaces) (row : PortRow) (stored : port.cfg = some row) : iface.self.name ∈ newIfaces row := by
  obtain ⟨other, _, also, _, rows⟩ := current.ports port member
  obtain rfl := Option.some.inj (stored.symm.trans also)
  obtain ⟨named, real, _⟩ := current.ifaces port member iface inside
  exact List.mem_map.mpr ⟨iface.cfg, List.mem_filter.mpr ⟨rows iface inside, decide_eq_true real⟩, named⟩

theorem up_to_date_quiet_cfg (current : UpToDate platform wantedPorts br) :
    UpToDate platform wantedPorts { br with cfg := br.cfg.map BridgeRow.quiet } where
  index := current.index
  ofproto := current.ofproto
  rows := current.rows
  distinct := current.distinct
  ports := current.ports
  ifaces := fun port member iface inside => by
    rw [quiet_iface_type]
    exact current.ifaces port member iface inside
  present := current.present

end UpToDate

section DeletePhase

variable {platform : Platform} {wantedPorts : List PortRow} {br : Bridge}

def rowsGiven (wantedPorts : List PortRow) (visited : List Port) (port : Port) : Port :=
  if port.self ∈ visited.map Port.self then { port with cfg := Keyed.lookup PortRow.name port.self.name wantedPorts } else port

theorem rows_given_self (wantedPorts : List PortRow) (visited : List Port) (port : Port) :
    (rowsGiven wantedPorts visited port).self = port.self ∧ (rowsGiven wantedPorts visited port).ifaces = port.ifaces := by
  unfold rowsGiven
  split <;> exact ⟨rfl, rfl⟩

theorem quiet_lookup (name : String) : Keyed.lookup PortRow.name name (wantedPorts.map PortRow.quiet) =
    (Keyed.lookup PortRow.name name wantedPorts).map PortRow.quiet :=
  Keyed.lookup_map PortRow.name name PortRow.quiet (fun _ => rfl) wantedPorts

theorem port_ifaces_given (index : BridgeIndex br) (visited : List Port) (port : Port) (member : port ∈ br.ports) :
    portIfaces { br with ports := br.ports.map (rowsGiven (wantedPorts.map PortRow.quiet) visited) } port.self = port.ifaces := by
  have found := Keyed.lookup_map portAddr (portAddr port) (rowsGiven (wantedPorts.map PortRow.quiet) visited)
    (fun other => congrArg PortRef.addr (rows_given_self _ visited other).1) br.ports
  rw [Keyed.lookup_of_mem portAddr index.addrs member] at found
  unfold portIfaces portAt
  dsimp only
  rw [show port.self.addr = portAddr port from rfl, found]
  exact (rows_given_self _ visited port).2

theorem del_port_quiet (current : UpToDate platform wantedPorts br) (visited : List Port) (port : Port) (member : port ∈ br.ports) :
    bridgeDelPort (wantedPorts.map PortRow.quiet)
        { br with ports := br.ports.map (rowsGiven (wantedPorts.map PortRow.quiet) visited) } port.self =
      { br with ports := br.ports.map (rowsGiven (wantedPorts.map PortRow.quiet) (visited ++ [port])) } := by
  obtain ⟨row, _, stored, _, _⟩ := current.ports port member
  have found : Keyed.lookup PortRow.name port.self.name (wantedPorts.map PortRow.quiet) = some row.quiet := by
    rw [quiet_lookup, up_to_date_row current port member, stored]
    rfl
  have given : portSetCfg { br with ports := br.ports.map (rowsGiven (wantedPorts.map PortRow.quiet) visited) } port.self (some row.quiet) =
      { br with ports := br.ports.map (rowsGiven (wantedPorts.map PortRow.quiet) (visited ++ [port])) } := by
    unfold portSetCfg Keyed.replace
    refine congrArg (fun ports => { br with ports := ports }) ?_
    rw [List.map_map]
    refine List.map_congr_left (fun other there => ?_)
    have self := rows_given_self (wantedPorts.map PortRow.quiet) visited other
    simp only [Function.comp_apply, portAddr, self.1]
    by_cases here : other.self.addr = port.self.addr
    · obtain rfl := Keyed.unique_mem_eq portAddr current.index.addrs there member here
      have last : other.self ∈ (visited ++ [other]).map Port.self := List.mem_map_of_mem (by simp)
      rw [if_pos rfl, rowsGiven, rowsGiven, if_pos last, found]
      split <;> rfl
    · have kept : other.self ∈ (visited ++ [port]).map Port.self ↔ other.self ∈ visited.map Port.self := by
        rw [List.map_append, List.mem_append, List.map_singleton, List.mem_singleton,
          or_iff_left (fun same => here (congrArg PortRef.addr same))]
      rw [if_neg here, rowsGiven, rowsGiven]
      simp only [kept]
  unfold bridgeDelPort
  rw [found]
  dsimp only
  rw [given, portDelIfaces, port_ifaces_given current.index (visited ++ [port]) port member]
  refine Keyed.foldl_idle _ (fun iface inside => if_pos ?_)
  rw [quiet_new_ifaces]
  exact iface_named current port member iface inside row stored

theorem del_ports_quiet (order : HashOrder) (current : UpToDate platform wantedPorts br) :
    (order.walk br.ports).foldl (fun br port => bridgeDelPort (wantedPorts.map PortRow.quiet) br port.self) br =
      { br with ports := br.ports.map (fun port => { port with cfg := port.cfg.map PortRow.quiet }) } := by
  have none : br.ports.map (rowsGiven (wantedPorts.map PortRow.quiet) []) = br.ports :=
    (List.map_congr_left (fun _ _ => if_neg List.not_mem_nil)).trans (List.map_id _)
  have started : br = { br with ports := br.ports.map (rowsGiven (wantedPorts.map PortRow.quiet) []) } := by rw [none]
  have loop := Keyed.foldl_invariant (fun br (port : Port) => bridgeDelPort (wantedPorts.map PortRow.quiet) br port.self)
    (order.walk br.ports)
    (fun visited next => next = { br with ports := br.ports.map (rowsGiven (wantedPorts.map PortRow.quiet) visited) })
    (fun visited port rest next split reached => by
      rw [reached]
      exact del_port_quiet current visited port ((order.mem_walk _ _).mp (by rw [split]; simp)))
    started
  rw [loop]
  refine congrArg (fun ports => { br with ports := ports }) (List.map_congr_left (fun port member => ?_))
  have walked : port.self ∈ (order.walk br.ports).map Port.self := List.mem_map_of_mem ((order.mem_walk _ _).mpr member)
  rw [rowsGiven, if_pos walked, quiet_lookup, up_to_date_row current port member]

theorem retag_rows_to (cfg : Option BridgeRow) (rows : List InterfaceRow) (iface : Iface) (row : InterfaceRow) (listed : row ∈ rows)
    (named : row.name = iface.self.name) (only : ∀ other ∈ rows, other.name = iface.self.name → other = row) :
    rows.foldl (retagIface platform cfg) iface = { iface with cfg := row, type := ifaceGetType platform row cfg } := by
  induction rows generalizing iface with
  | nil => cases listed
  | cons other rest ih =>
      have later : ∀ row ∈ rest, row.name = iface.self.name → row = _ := fun row member => only row (List.mem_cons_of_mem other member)
      rw [List.foldl_cons, retagIface]
      by_cases same : iface.self.name = other.name
      · obtain rfl := only other List.mem_cons_self same.symm
        rw [if_pos same]
        by_cases again : other ∈ rest
        · exact ih _ again named later
        · refine Keyed.foldl_idle _ (fun absent member => if_neg (fun equal => again ?_))
          rw [← later absent member equal.symm]
          exact member
      · rw [if_neg same]
        have left : row ∈ rest := (List.mem_cons.mp listed).resolve_left (fun equal => same (by rw [← named, equal]))
        exact ih iface left named later

theorem update_only_ports (env : Env) (br : Bridge) (wantedPorts : List PortRow) :
    updateIfaces env br wantedPorts = { br with ports := (updateIfaces env br wantedPorts).ports } := by
  have one : ∀ (next : Bridge) (row : InterfaceRow), next = { br with ports := next.ports } →
      updateIface env.platform next row = { br with ports := (updateIface env.platform next row).ports } := by
    intro next row same
    unfold updateIface
    split
    · rw [same]
      rfl
    · exact same
  exact Keyed.foldl_keeps (fun br (port : PortRow) => port.interfaces.foldl (updateIface env.platform) br)
    (fun next => next = { br with ports := next.ports })
    (fun next port _ same => Keyed.foldl_keeps (updateIface env.platform) (fun next => next = { br with ports := next.ports })
      (fun later row _ => one later row) same) rfl

theorem mem_wanted_quiet (env : Env) (wantedPorts : List PortRow) (row : InterfaceRow) :
    row ∈ wantedIfaces env (wantedPorts.map PortRow.quiet) ↔
      ∃ port ∈ wantedPorts, ∃ iface ∈ port.interfaces, iface.quiet = row := by
  unfold wantedIfaces
  rw [List.mem_flatMap]
  constructor
  · rintro ⟨port, walked, inside⟩
    obtain ⟨old, listed, rfl⟩ := List.mem_map.mp ((env.order.mem_walk _ _).mp walked)
    obtain ⟨iface, there, rfl⟩ := List.mem_map.mp inside
    exact ⟨old, listed, iface, there, rfl⟩
  · rintro ⟨port, listed, iface, there, rfl⟩
    exact ⟨port.quiet, (env.order.mem_walk _ _).mpr (List.mem_map_of_mem listed), List.mem_map_of_mem there⟩

theorem distinct_rows (distinct : DistinctIfaces wantedPorts) (port other : PortRow) (here : port ∈ wantedPorts)
    (there : other ∈ wantedPorts) (iface row : InterfaceRow) (inside : iface ∈ port.interfaces) (also : row ∈ other.interfaces)
    (same : iface.name = row.name) : iface = row :=
  Keyed.unique_mem_eq InterfaceRow.name distinct (List.mem_flatMap.mpr ⟨port, here, inside⟩) (List.mem_flatMap.mpr ⟨other, there, also⟩) same

theorem retag_quiet (env : Env) (current : UpToDate env.platform wantedPorts br) (port : Port) (member : port ∈ br.ports) (iface : Iface)
    (inside : iface ∈ port.ifaces) :
    (wantedIfaces env (wantedPorts.map PortRow.quiet)).foldl (retagIface env.platform br.cfg) iface = iface.quiet := by
  obtain ⟨row, listed, here⟩ := iface_row_wanted current port member iface inside
  obtain ⟨named, _, type⟩ := current.ifaces port member iface inside
  have wanted := (mem_wanted_quiet env wantedPorts iface.cfg.quiet).mpr ⟨row, listed, iface.cfg, here, rfl⟩
  rw [retag_rows_to br.cfg _ iface iface.cfg.quiet wanted named (fun other also same => ?_)]
  · have kept : ifaceGetType env.platform iface.cfg.quiet br.cfg = iface.type := type.symm
    rw [kept]
    rfl
  · obtain ⟨owner, there, source, deeper, rfl⟩ := (mem_wanted_quiet env wantedPorts other).mp also
    rw [distinct_rows current.distinct owner row there listed source iface.cfg deeper here (same.trans named.symm)]

theorem quiet_rows_index (index : BridgeIndex br) :
    BridgeIndex { br with ports := br.ports.map (fun port => { port with cfg := port.cfg.map PortRow.quiet }) } := by
  have bare : (br.ports.map (fun port => { port with cfg := port.cfg.map PortRow.quiet })).map Port.bare = br.ports.map Port.bare := by
    rw [List.map_map]
    rfl
  rw [BridgeIndex, ← port_index_bare, ← bare, port_index_bare] at index
  exact index

theorem delete_ports_quiet (env : Env) (current : UpToDate env.platform wantedPorts br) :
    bridgeDelPorts env br (wantedPorts.map PortRow.quiet) = { br with ports := br.ports.map Port.quiet } := by
  unfold bridgeDelPorts
  dsimp only
  rw [del_ports_quiet env.order current]
  generalize given : ({ br with ports := br.ports.map (fun port => { port with cfg := port.cfg.map PortRow.quiet }) } : Bridge) = loaded
  have index : BridgeIndex loaded := given ▸ quiet_rows_index current.index
  have retags := update_wanted_retags env loaded (wantedPorts.map PortRow.quiet) index
  rw [update_only_ports, retags.ports, ← given]
  refine congrArg (fun ports => { br with ports := ports }) ?_
  rw [List.map_map]
  refine List.map_congr_left (fun port member => ?_)
  refine congrArg (fun ifaces => (⟨port.self, port.cfg.map PortRow.quiet, ifaces⟩ : Port)) (List.map_congr_left (fun iface inside => ?_))
  exact retag_quiet env current port member iface inside

end DeletePhase

end OpsSwitchd
