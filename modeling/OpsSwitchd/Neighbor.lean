import OpsSwitchd.Vrf

set_option autoImplicit false

namespace OpsSwitchd

def neighborHashDelete (vrf : Vrf) (neighbor : Neighbor) : Vrf :=
  { vrf with allNeighbors := Keyed.remove Neighbor.ipAddress neighbor.ipAddress vrf.allNeighbors }

def neighborUpdate (vrf : Vrf) (neighbor : Neighbor) : Vrf :=
  { vrf with allNeighbors := Keyed.replace Neighbor.ipAddress neighbor.ipAddress (fun _ => neighbor) vrf.allNeighbors }

def neighborHostEntry (neighbor : Neighbor) (port : Port) : HostEntry :=
  ⟨port.self.name, neighbor.isIpv6Addr, (neighbor.cfg.map NeighborRow.ipAddress).getD "",
    (neighbor.cfg.bind NeighborRow.mac).getD ""⟩

-- The neighbor is returned when rc is 0; otherwise it has left the hash.
def neighborSetL3HostEntry (env : Env) (vrf : Vrf) (neighbor : Neighbor) : Vrf × Option Neighbor :=
  match neighbor.portName.bind vrf.up.portLookup with
  | none => (neighborHashDelete vrf neighbor, none)
  | some port =>
      let entry := neighborHostEntry neighbor port
      let answer := env.platform.provider.addL3HostEntry vrf.up.calls entry
      let vrf := vrf.emit (.addL3HostEntry entry answer)
      match answer with
      | some l3EgressId =>
          let neighbor := { neighbor with l3EgressId := l3EgressId }
          (neighborUpdate vrf neighbor, some neighbor)
      | none => (neighborHashDelete vrf neighbor, none)

def neighborDeleteL3HostEntry (env : Env) (vrf : Vrf) (neighbor : Neighbor) : Vrf × Neighbor :=
  match neighbor.portName.bind vrf.up.portLookup with
  | none => (vrf, neighbor)
  | some port =>
      let answer := env.platform.provider.deleteL3HostEntry vrf.up.calls port.self.name neighbor.isIpv6Addr
        neighbor.ipAddress
      let vrf := vrf.emit (.deleteL3HostEntry port.self.name neighbor.isIpv6Addr neighbor.ipAddress answer)
      let neighbor := { neighbor with l3EgressId := answer.getD neighbor.l3EgressId }
      (neighborUpdate vrf neighbor, neighbor)

def nonEmptyText (text : Option String) : Option String := text.filter (fun chars => chars ≠ "")

def neighborRowIsIpv6 (env : Env) (row : NeighborRow) : Bool :=
  match row.addressFamily with
  | none => env.platform.inetPton6 row.ipAddress
  | some family => family = "ipv6"

def newNeighbor (env : Env) (row : NeighborRow) : Neighbor :=
  ⟨row.ipAddress, nonEmptyText row.mac, some row, neighborRowIsIpv6 env row, nonEmptyText row.port, -1⟩

-- The tail shared by creation and modification: with a port and a MAC that
-- parses the host entry is set, and on success the routes are updated.
def neighborProgram (env : Env) (vrf : Vrf) (neighbor : Neighbor) : Vrf :=
  if neighbor.portName.isSome && neighbor.mac.any env.platform.etherAton then
    match neighborSetL3HostEntry env vrf neighbor with
    | (vrf, some neighbor) => vrfOfprotoUpdateRouteWithNeighbor env vrf neighbor true
    | (vrf, none) => vrf
  else vrf

def neighborCreate (env : Env) (vrf : Vrf) (row : NeighborRow) : Vrf :=
  let neighbor := newNeighbor env row
  neighborProgram env { vrf with allNeighbors := neighbor :: vrf.allNeighbors,
                                 neighborRows := vrf.neighborRows ++ [row] } neighbor

def neighborDelete (env : Env) (vrf : Vrf) (neighbor : Neighbor) : Vrf :=
  let vrf := vrfOfprotoUpdateRouteWithNeighbor env vrf neighbor false
  let vrf := if neighbor.l3EgressId ≠ -1 then (neighborDeleteL3HostEntry env vrf neighbor).1 else vrf
  neighborHashDelete vrf neighbor

-- The locals of neighbor_modify. oldPort says that old_port points to the
-- port name of the neighbor.
structure NeighborChange where
  neighbor : Neighbor
  addNew : Bool
  deleteOld : Bool
  oldPort : Bool
  newPort : Option String
deriving DecidableEq, Repr

def checkNeighborPort (row : NeighborRow) (change : NeighborChange) : NeighborChange :=
  match row.port with
  | some portName =>
      let change := if change.neighbor.portName.isNone then
          { change with neighbor := { change.neighbor with portName := some portName }, addNew := true } else change
      if change.neighbor.portName ≠ some portName then
        { change with oldPort := true, newPort := some portName, deleteOld := true, addNew := true }
      else change
  | none => if change.neighbor.portName.isSome then { change with oldPort := true, deleteOld := true } else change

def checkNeighborMac (row : NeighborRow) (change : NeighborChange) : NeighborChange :=
  match nonEmptyText row.mac with
  | some mac =>
      let change := if change.neighbor.mac.isNone then
          { change with neighbor := { change.neighbor with mac := some mac }, addNew := true } else change
      if change.neighbor.mac ≠ some mac then
        { change with neighbor := { change.neighbor with mac := some mac }, deleteOld := true, addNew := true }
      else change
  | none =>
      if change.neighbor.mac.isSome then
        { change with neighbor := { change.neighbor with mac := none }, deleteOld := true }
      else change

def settleNeighborPort (change : NeighborChange) (neighbor : Neighbor) : Neighbor :=
  let neighbor := if change.oldPort then { neighbor with portName := none } else neighbor
  if change.newPort.isSome then { neighbor with portName := change.newPort } else neighbor

def neighborModify (env : Env) (vrf : Vrf) (neighbor : Neighbor) (row : NeighborRow) : Vrf :=
  let vrf := { vrf with neighborRows := vrf.neighborRows ++ [row] }
  let change := checkNeighborMac row
    (checkNeighborPort row ⟨{ neighbor with cfg := some row }, false, false, false, none⟩)
  let vrf := neighborUpdate vrf change.neighbor
  let (vrf, neighbor) := if change.deleteOld && change.neighbor.l3EgressId ≠ -1 then
      neighborDeleteL3HostEntry env (vrfOfprotoUpdateRouteWithNeighbor env vrf change.neighbor false) change.neighbor
    else (vrf, change.neighbor)
  let neighbor := settleNeighborPort change neighbor
  let vrf := neighborUpdate vrf neighbor
  if change.addNew then neighborProgram env vrf neighbor else vrf

def vrfDeleteAllNeighbors (env : Env) (vrf : Vrf) : Vrf :=
  (env.order.walk vrf.allNeighbors).foldl (neighborDelete env) vrf

def vrfDeletePortNeighbors (env : Env) (vrf : Vrf) (port : Port) : Vrf :=
  (env.order.walk vrf.allNeighbors).foldl
    (fun vrf neighbor => if neighbor.portName = some port.self.name then neighborDelete env vrf neighbor else vrf) vrf

def addNewNeighbor (env : Env) (vrf : Vrf) (row : NeighborRow) : Vrf :=
  if (neighborHashLookup vrf row.ipAddress).isSome then vrf else neighborCreate env vrf row

def vrfAddNeighbors (env : Env) (vrf : Vrf) : Vrf :=
  env.idl.neighbors.rows.foldl
    (fun vrf row => if vrf.name = row.vrf then addNewNeighbor env vrf row else vrf) vrf

def deleteOldNeighbor (env : Env) (idlNeighbors : List NeighborRow) (vrf : Vrf) (neighbor : Neighbor) : Vrf :=
  let neighbor := { neighbor with cfg := Keyed.lookup NeighborRow.ipAddress neighbor.ipAddress idlNeighbors }
  let vrf := neighborUpdate vrf neighbor
  if neighbor.cfg.isNone then neighborDelete env vrf neighbor else vrf

def checkNeighborChange (env : Env) (vrf : Vrf) (row : NeighborRow) : Vrf :=
  if row.modified && !row.inserted then
    match neighborHashLookup vrf row.ipAddress with
    | some neighbor => neighborModify env vrf neighbor row
    | none => vrf
  else vrf

def currentIdlNeighbors (vrf : Vrf) (rows : List NeighborRow) : List NeighborRow :=
  Keyed.collect NeighborRow.ipAddress (rows.filter (fun row => vrf.name = row.vrf))

-- The add loop and the modify loop walk the rows of every VRF.
def vrfReconfigureNeighbors (env : Env) (vrf : Vrf) : Vrf :=
  let table := env.idl.neighbors
  if table.rows = [] then vrfDeleteAllNeighbors env vrf
  else if !table.anyModified && !table.anyDeleted && !table.anyInserted then vrf
  else
    let idlNeighbors := currentIdlNeighbors vrf table.rows
    let vrf := (env.order.walk vrf.allNeighbors).foldl (deleteOldNeighbor env idlNeighbors) vrf
    let vrf := table.rows.foldl (addNewNeighbor env) vrf
    if table.anyModified then table.rows.foldl (checkNeighborChange env) vrf else vrf

def neighborEnv (neighbors : IdlTable NeighborRow) : Env where
  platform := plainPlatform
  order := HashOrder.listed
  idl := ⟨⟨[], false, false, false⟩, ⟨[], false, false, false⟩, neighbors⟩

def portedVrf : Vrf :=
  let vrf := vrfCreate ⟨"vrf_default", []⟩
  { vrf with up := { vrf.up with ports := [⟨⟨1, "1"⟩, none, []⟩, ⟨⟨2, "2"⟩, none, []⟩] } }

end OpsSwitchd
