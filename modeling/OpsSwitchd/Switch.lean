import OpsSwitchd.Port
import OpsSwitchd.Reconfigure
import OpsSwitchd.Vlan

set_option autoImplicit false

namespace OpsSwitchd

structure Switch where
  bridges : List Bridge
  vrfs : List Vrf
deriving DecidableEq, Repr

structure OpenVswitchRow where
  bridges : List BridgeRow
  vrfs : List VrfRow

-- What the datapath answers to one reconfiguration, by the name of the owner:
-- ofproto_normalize_type, the port dumps, whether ofproto_create succeeds, and
-- iface_do_create.
structure Datapath where
  normalizeType : String → String
  bridgeDump : String → List OfprotoPort
  vrfDump : String → List OfprotoPort
  createBridge : String → Bool
  createVrf : String → Bool
  bridgeIface : String → IfaceDoCreate
  vrfIface : String → IfaceDoCreate

structure Reconfiguration where
  env : Env
  datapath : Datapath
  cfg : OpenVswitchRow

def nameIgnored (name : String) : Bool := name.toList.contains '/'

def vrfUpName (owner : VrfRow × Vrf) : String := owner.2.up.name

-- What a destroyed bridge asked of its ofproto goes with it.
def keepBridge (normalizeType : String → String) (newBr : List BridgeRow) (br : Bridge) : Option Bridge :=
  match Keyed.lookup BridgeRow.name br.name newBr with
  | none => none
  | some cfg => if br.type = normalizeType cfg.datapathType then some { br with cfg := some cfg } else none

-- A name with a slash is left out of new_br, but the last loop creates it.
def addDelBridges (normalizeType : String → String) (rows : List BridgeRow) (bridges : List Bridge) : List Bridge :=
  let newBr := Keyed.collect BridgeRow.name (rows.filter (fun row => !nameIgnored row.name))
  rows.foldl (fun bridges row =>
      if (Keyed.lookup Bridge.name row.name bridges).isSome then bridges else bridgeCreate normalizeType row :: bridges)
    (bridges.filterMap (keepBridge normalizeType newBr))

def keepVrf (newVrf : List VrfRow) (vrf : Vrf) : Option (VrfRow × Vrf) :=
  (Keyed.lookup VrfRow.name vrf.up.name newVrf).map (fun cfg => (cfg, { vrf with name := cfg.name }))

def addDelVrfs (rows : List VrfRow) (vrfs : List Vrf) : List (VrfRow × Vrf) :=
  let newVrf := Keyed.collect VrfRow.name (rows.filter (fun row => !nameIgnored row.name))
  rows.foldl (fun vrfs row =>
      if (Keyed.lookup vrfUpName row.name vrfs).isSome then vrfs else (row, vrfCreate row) :: vrfs)
    (vrfs.filterMap (keepVrf newVrf))

def portNeedsConfigure (port : Port) : Bool :=
  port.cfg.any PortRow.modified || port.ifaces.any (fun iface => iface.cfg.modified)

-- The part of port_configure that reaches the provider: the bundle.
def portConfigure (br : Bridge) (port : Port) : Bridge := br.emit (.bundleRegister port.self.name)

def configurePorts (order : HashOrder) (br : Bridge) : Bridge :=
  (order.walk br.ports).foldl (fun br port => if portNeedsConfigure port then portConfigure br port else br) br

-- The wanted ports of a bridge are collected once in the source; they depend
-- on its name and its row only, which no phase changes.
def bridgeDeletePhase (input : Reconfiguration) (br : Bridge) : Bridge :=
  bridgeDelPorts input.env br (bridgeCollectWantedPorts br)

def bridgeReconfigurePhase (input : Reconfiguration) (br : Bridge) : Bridge :=
  if br.ofproto then bridgeDeleteOrReconfigurePorts input.env br (input.datapath.bridgeDump br.name) else br

def bridgeCreatePhase (input : Reconfiguration) (br : Bridge) : Option Bridge :=
  if br.ofproto then some br
  else if input.datapath.createBridge br.name then some { br with ofproto := true } else none

def bridgeAddPhase (input : Reconfiguration) (br : Bridge) : Bridge :=
  bridgeAddPorts input.env (input.datapath.bridgeIface br.name) br (bridgeCollectWantedPorts br)

def bridgeConfigurePhase (input : Reconfiguration) (br : Bridge) : Bridge :=
  bridgeConfigureVlans input.env.order (configurePorts input.env.order br)

def vrfDeletePhase (input : Reconfiguration) (owner : VrfRow × Vrf) : VrfRow × Vrf :=
  (owner.1, vrfDelPorts input.env owner.2 (vrfCollectWantedPorts owner.1))

def vrfReconfigurePhase (input : Reconfiguration) (owner : VrfRow × Vrf) : VrfRow × Vrf :=
  if owner.2.up.ofproto then
    (owner.1, vrfDeleteOrReconfigurePorts input.env owner.2 (input.datapath.vrfDump owner.2.up.name))
  else owner

def vrfCreatePhase (input : Reconfiguration) (owner : VrfRow × Vrf) : Option (VrfRow × Vrf) :=
  if owner.2.up.ofproto then some owner
  else if input.datapath.createVrf owner.2.up.name then
    some (owner.1, owner.2.withUp { owner.2.up with ofproto := true })
  else none

def vrfAddPhase (input : Reconfiguration) (owner : VrfRow × Vrf) : Vrf :=
  owner.2.withUp (bridgeAddPorts input.env (input.datapath.vrfIface owner.2.up.name) owner.2.up
    (vrfCollectWantedPorts owner.1))

def vrfConfigurePhase (input : Reconfiguration) (vrf : Vrf) : Vrf :=
  let configured := vrf.up.ports.any portNeedsConfigure
  let vrf := vrf.withUp (configurePorts input.env.order vrf.up)
  let vrf := if configured then vrfAddNeighbors input.env vrf else vrf
  let vrf := vrfReconfigureNeighbors input.env vrf
  let vrf := vrfReconfigureRoutes input.env vrf
  vrfReconfigureNexthops input.env vrf

def bridgeReconfigure (switch : Switch) (input : Reconfiguration) : Switch :=
  let bridges := addDelBridges input.datapath.normalizeType input.cfg.bridges switch.bridges
  let vrfs := addDelVrfs input.cfg.vrfs switch.vrfs
  let bridges := bridges.map (bridgeDeletePhase input)
  let vrfs := vrfs.map (vrfDeletePhase input)
  let bridges := bridges.map (bridgeReconfigurePhase input)
  let vrfs := vrfs.map (vrfReconfigurePhase input)
  let bridges := bridges.filterMap (bridgeCreatePhase input)
  let vrfs := vrfs.filterMap (vrfCreatePhase input)
  let bridges := bridges.map (bridgeAddPhase input)
  let vrfs := vrfs.map (vrfAddPhase input)
  let bridges := bridges.map (bridgeConfigurePhase input)
  let vrfs := vrfs.map (vrfConfigurePhase input)
  ⟨bridges, vrfs⟩

end OpsSwitchd
