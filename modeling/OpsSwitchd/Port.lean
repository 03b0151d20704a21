import OpsSwitchd.Neighbor

set_option autoImplicit false

namespace OpsSwitchd

def portAddr (port : Port) : Nat := port.self.addr

def ifaceAddr (iface : Iface) : Nat := iface.self.addr

def portAt (br : Bridge) (ref : PortRef) : Option Port := Keyed.lookup portAddr ref.addr br.ports

def portIfaces (br : Bridge) (ref : PortRef) : List Iface := ((portAt br ref).map Port.ifaces).getD []

def ifaceAt (br : Bridge) (ref : IfaceRef) : Option Iface := Keyed.lookup ifaceAddr ref.addr (portIfaces br ref.port)

def ifaceUnregister (br : Bridge) (iface : IfaceRef) : Bridge :=
  match iface.ofpPort with
  | none => br
  | some ofpPort =>
      let br := if br.ofproto then br.emit (.portUnregister ofpPort) else br
      { br with ifaces := Keyed.remove IfaceRef.addr iface.addr br.ifaces }

-- iface_destroy__, which leaves the port alone.
def ifaceDestroy' (br : Bridge) (iface : IfaceRef) : Bridge :=
  let br := ifaceUnregister br iface
  { br with
    ports := Keyed.replace portAddr iface.port.addr
      (fun port => { port with ifaces := Keyed.remove ifaceAddr iface.addr port.ifaces }) br.ports
    ifaceByName := Keyed.remove IfaceRef.addr iface.addr br.ifaceByName }

def portDestroy (br : Bridge) (port : PortRef) : Bridge :=
  let br := if br.ofproto then br.emit (.bundleUnregister port.name) else br
  let br := (portIfaces br port).foldl (fun br iface => ifaceDestroy' br iface.self) br
  { br with ports := Keyed.remove portAddr port.addr br.ports }

def ifaceDestroy (br : Bridge) (iface : IfaceRef) : Bridge :=
  let br := ifaceDestroy' br iface
  if portIfaces br iface.port = [] then portDestroy br iface.port else br

def newIfaces (cfg : PortRow) : List String :=
  (cfg.interfaces.filter (fun iface => iface.type ≠ "null")).map InterfaceRow.name

def portDelIfaces (br : Bridge) (port : PortRef) (cfg : PortRow) : Bridge :=
  (portIfaces br port).foldl (fun br iface => if iface.self.name ∈ newIfaces cfg then br else ifaceDestroy br iface.self) br

def portSetCfg (br : Bridge) (port : PortRef) (cfg : Option PortRow) : Bridge :=
  { br with ports := Keyed.replace portAddr port.addr (fun port => { port with cfg := cfg }) br.ports }

def ifaceIsInternal (iface : InterfaceRow) (br : Option BridgeRow) : Bool :=
  iface.type = "internal" || br.any (fun row => iface.name = row.name)

def ifaceGetType (platform : Platform) (iface : InterfaceRow) (br : Option BridgeRow) : String :=
  let type := if ifaceIsInternal iface br then "internal" else if iface.type = "" then "system" else iface.type
  platform.portOpenType ((br.map BridgeRow.datapathType).getD "vrf") type

def ifaceSetCfg (br : Bridge) (iface : IfaceRef) (cfg : InterfaceRow) (type : String) : Bridge :=
  { br with
    ports := Keyed.replace portAddr iface.port.addr (fun port => { port with
      ifaces := Keyed.replace ifaceAddr iface.addr (fun iface => { iface with cfg := cfg, type := type }) port.ifaces })
      br.ports }

def updateIface (platform : Platform) (br : Bridge) (cfg : InterfaceRow) : Bridge :=
  match br.ifaceLookup cfg.name with
  | some iface => ifaceSetCfg br iface cfg (ifaceGetType platform cfg br.cfg)
  | none => br

def updateIfaces (env : Env) (br : Bridge) (wantedPorts : List PortRow) : Bridge :=
  (env.order.walk wantedPorts).foldl (fun br port => port.interfaces.foldl (updateIface env.platform) br) br

def bridgeGetControllers (cfg : BridgeRow) : List String := if cfg.controllers = ["none"] then [] else cfg.controllers

-- A synthesized row is not in the database, so no change of it is ever seen.
def synthLocalPort (name : String) : PortRow := ⟨0, name, [⟨0, name, "internal", false⟩], false⟩

def bridgeCollectWantedPorts (br : Bridge) : List PortRow :=
  match br.cfg with
  | none => []
  | some cfg =>
      let wantedPorts := Keyed.collect PortRow.name cfg.ports
      if bridgeGetControllers cfg ≠ [] ∧ Keyed.lookup PortRow.name br.name wantedPorts = none then
        wantedPorts ++ [synthLocalPort br.name]
      else wantedPorts

def vrfCollectWantedPorts (cfg : VrfRow) : List PortRow := Keyed.collect PortRow.name cfg.ports

def bridgeDelPort (wantedPorts : List PortRow) (br : Bridge) (port : PortRef) : Bridge :=
  let cfg := Keyed.lookup PortRow.name port.name wantedPorts
  let br := portSetCfg br port cfg
  match cfg with
  | none => portDestroy br port
  | some row => portDelIfaces br port row

def bridgeDelPorts (env : Env) (br : Bridge) (wantedPorts : List PortRow) : Bridge :=
  let br := (env.order.walk br.ports).foldl (fun br port => bridgeDelPort wantedPorts br port.self) br
  updateIfaces env br wantedPorts

def Vrf.withUp (vrf : Vrf) (up : Bridge) : Vrf := { vrf with up := up }

def vrfDelPort (env : Env) (wantedPorts : List PortRow) (vrf : Vrf) (port : Port) : Vrf :=
  let cfg := Keyed.lookup PortRow.name port.self.name wantedPorts
  let vrf := vrf.withUp (portSetCfg vrf.up port.self cfg)
  match cfg with
  | none =>
      let vrf := vrfDeletePortNeighbors env vrf port
      vrf.withUp (portDestroy vrf.up port.self)
  | some row => vrf.withUp (portDelIfaces vrf.up port.self row)

def vrfDelPorts (env : Env) (vrf : Vrf) (wantedPorts : List PortRow) : Vrf :=
  let vrf := (env.order.walk vrf.up.ports).foldl (vrfDelPort env wantedPorts) vrf
  vrf.withUp (updateIfaces env vrf.up wantedPorts)

-- One port of the datapath dump, with what netdev_set_config answers for the
-- interface of that name: a true configError is a failure.
structure OfprotoPort where
  name : String
  type : String
  ofpPort : Nat
  configError : Bool
deriving DecidableEq, Repr

def ofprotoPortKept (ofprotoPort : OfprotoPort) (iface : Iface) : Bool :=
  ofprotoPort.type = iface.type && !ofprotoPort.configError

-- OVSREC_INTERFACE_TYPE_VLANSUBINT of the generated schema header.
def interfaceTypeVlansubint : String := "vlansubint"

-- The datapath type of a VLAN subinterface is not compared.
def vrfOfprotoPortKept (ofprotoPort : OfprotoPort) (iface : Iface) : Bool :=
  if iface.cfg.type = interfaceTypeVlansubint then !ofprotoPort.configError else ofprotoPortKept ofprotoPort iface

def checkOfprotoPort (kept : OfprotoPort → Iface → Bool) (work : Bridge × List Nat) (ofprotoPort : OfprotoPort) :
    Bridge × List Nat :=
  match work.1.ifaceLookup ofprotoPort.name with
  | none => (work.1, work.2 ++ [ofprotoPort.ofpPort])
  | some iface =>
      if (ifaceAt work.1 iface).any (kept ofprotoPort) then work
      else (ifaceDestroy work.1 iface, work.2 ++ [ofprotoPort.ofpPort])

def dropVanishedIfaces (ofprotoPorts : List String) (br : Bridge) (port : PortRef) : Bridge :=
  let br := (portIfaces br port).foldl
    (fun br iface => if iface.self.name ∈ ofprotoPorts then br else ifaceDestroy' br iface.self) br
  if portIfaces br port = [] then portDestroy br port else br

def deleteOrReconfigurePorts (kept : OfprotoPort → Iface → Bool) (order : HashOrder) (br : Bridge)
    (dump : List OfprotoPort) : Bridge :=
  let work := dump.foldl (checkOfprotoPort kept) (br, [])
  let br := work.2.foldl (fun br ofpPort => br.emit (.portDel ofpPort)) work.1
  (order.walk br.ports).foldl (fun br port => dropVanishedIfaces (dump.map OfprotoPort.name) br port.self) br

def bridgeDeleteOrReconfigurePorts (env : Env) (br : Bridge) (dump : List OfprotoPort) : Bridge :=
  deleteOrReconfigurePorts ofprotoPortKept env.order br dump

def vrfDeleteOrReconfigurePorts (env : Env) (vrf : Vrf) (dump : List OfprotoPort) : Vrf :=
  vrf.withUp (deleteOrReconfigurePorts vrfOfprotoPortKept env.order vrf.up dump)

def portCreate (br : Bridge) (cfg : PortRow) : Bridge × PortRef :=
  let port : PortRef := ⟨br.nextAddr, cfg.name⟩
  ({ br with nextAddr := br.nextAddr + 1, ports := ⟨port, some cfg, []⟩ :: br.ports }, port)

-- What iface_do_create answers for an interface row of a port row: none is an
-- error, some none an OpenFlow port number OFPP_NONE.
abbrev IfaceDoCreate := PortRow → InterfaceRow → Option (Option Nat)

def ifaceCreate (env : Env) (doCreate : IfaceDoCreate) (br : Bridge) (ifaceCfg : InterfaceRow) (portCfg : PortRow) : Bridge :=
  match doCreate portCfg ifaceCfg with
  | none => br
  | some ofpPort =>
      let (br, port) := match br.portLookup portCfg.name with
        | some port => (br, port.self)
        | none => portCreate br portCfg
      let iface : IfaceRef := ⟨br.nextAddr, ifaceCfg.name, port, ofpPort⟩
      { br with
        nextAddr := br.nextAddr + 1
        ports := Keyed.replace portAddr port.addr (fun port => { port with
          ifaces := port.ifaces ++ [⟨iface, ifaceGetType env.platform ifaceCfg br.cfg, ifaceCfg⟩] }) br.ports
        ifaces := iface :: br.ifaces
        ifaceByName := iface :: br.ifaceByName }

def addWantedIface (env : Env) (doCreate : IfaceDoCreate) (portCfg : PortRow) (br : Bridge) (ifaceCfg : InterfaceRow) :
    Bridge :=
  if (br.ifaceLookup ifaceCfg.name).isSome then br else ifaceCreate env doCreate br ifaceCfg portCfg

def bridgeAddPorts (env : Env) (doCreate : IfaceDoCreate) (br : Bridge) (wantedPorts : List PortRow) : Bridge :=
  (env.order.walk wantedPorts).foldl (fun br port => port.interfaces.foldl (addWantedIface env doCreate port) br) br

end OpsSwitchd
