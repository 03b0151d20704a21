import OpsSwitchd.Bridge

set_option autoImplicit false

namespace OpsSwitchd

-- The fields of a struct route that are set once, with an allocation identity
-- in place of the address; a nexthop's back pointer refers to these.
structure RouteRef where
  addr : Nat
  pfx : String
  from_ : String
  isIpv6 : Bool
deriving DecidableEq, Repr

structure Nexthop where
  addr : Nat
  ipAddr : Option String
  portName : Option String
  route : RouteRef
  idlRowUuid : Uuid
deriving DecidableEq, Repr

structure Route where
  self : RouteRef
  nexthops : List Nexthop
  idlRowUuid : Uuid
deriving DecidableEq, Repr

structure Neighbor where
  ipAddress : String
  mac : Option String
  cfg : Option NeighborRow
  isIpv6Addr : Bool
  portName : Option String
  l3EgressId : Int
deriving DecidableEq, Repr

-- name is vrf->cfg->name and nexthopStatus the writes of the status column.
-- routeRows and neighborRows record the rows that were given to a route or a
-- neighbor of this VRF; no function reads them.
structure Vrf where
  name : String
  up : Bridge
  allNeighbors : List Neighbor
  allRoutes : List Route
  allNexthops : List Nexthop
  nextAddr : Nat
  nexthopStatus : List (Uuid × Smap)
  routeRows : List RouteRow
  neighborRows : List NeighborRow
deriving DecidableEq, Repr

structure Env where
  platform : Platform
  order : HashOrder
  idl : Idl

def plainPlatform : Platform where
  hashString text := UInt32.ofNat text.length
  etherAton text := text.length = 17
  inetPton6 text := text.contains ':'
  portOpenType _ type := type
  provider :=
    { hasL3RouteAction := true
      addL3HostEntry := fun calls _ => some (calls.length + 1)
      deleteL3HostEntry := fun _ _ _ _ => some (-1)
      nexthopError := fun _ _ _ => none }

def vrfCreate (row : VrfRow) : Vrf where
  name := row.name
  up :=
    { name := row.name, type := "vrf", cfg := none, ofproto := false, ports := [], ifaces := [],
      ifaceByName := [], vlans := [], nextAddr := 0, calls := [] }
  allNeighbors := []
  allRoutes := []
  allNexthops := []
  nextAddr := 0
  nexthopStatus := []
  routeRows := []
  neighborRows := []

def Vrf.emit (vrf : Vrf) (call : OfprotoCall) : Vrf := { vrf with up := vrf.up.emit call }

def vrfIsNhRowSelected (row : NexthopRow) : Bool := row.selected.getD true

def vrfIsRouteRowSelected (row : RouteRow) : Bool := row.selected.getD false

-- snprintf into VRF_ROUTE_HASH_MAXSIZE bytes keeps 63 characters.
def vrfRouteHash (from_ pfx : String) : List Char := (from_.toList ++ ':' :: pfx.toList).take 63

def vrfNhHash (ipAddress portName : Option String) : Option String := ipAddress.or portName

def nhRowKey (row : NexthopRow) : Option String := vrfNhHash row.ipAddress row.ports.head?

def nhRowUsable (row : NexthopRow) : Bool := vrfIsNhRowSelected row && (nhRowKey row).isSome

def nhKey (nh : Nexthop) : Option String := vrfNhHash nh.ipAddr nh.portName

def nhSameText (stored queried : Option String) : Bool := stored.isSome && stored = queried

-- A strcmp with a null query string is undefined in the source; it is taken
-- to differ here.
def vrfRouteNexthopLookup (env : Env) (route : Route) (ipAddress portName : Option String) : Option Nexthop :=
  (vrfNhHash ipAddress portName).bind (fun hashstr =>
    (env.order.walk route.nexthops).find? (fun nh =>
      (nhKey nh).map env.platform.hashString = some (env.platform.hashString hashstr) &&
      (nhSameText nh.ipAddr ipAddress || nhSameText nh.portName portName)))

def routeFamily (isIpv6 : Bool) : RouteFamily := if isIpv6 then .ipv6 else .ipv4

def ofprotoRoute (route : Route) (nexthops : List OfprotoNexthop) : OfprotoRoute :=
  ⟨routeFamily route.self.isIpv6, route.self.pfx, nexthops⟩

def setNexthopStatus (vrf : Vrf) (row : NexthopRow) (status : Smap) : Vrf :=
  { vrf with nexthopStatus := vrf.nexthopStatus ++ [(row.uuid, status)] }

def ofprotoNexthopLookup (env : Env) (route : Route) (id : NhId) : Option Nexthop :=
  match id.type with
  | .ipaddr => vrfRouteNexthopLookup env route (some id.id) none
  | .port => vrfRouteNexthopLookup env route none (some id.id)

def processNexthopRc (env : Env) (route : Route) (vrf : Vrf) (answer : NhId × Option String) : Vrf :=
  match (ofprotoNexthopLookup env route answer.1).bind
      (fun nh => Keyed.lookup NexthopRow.uuid nh.idlRowUuid env.idl.nexthops.rows) with
  | none => vrf
  | some row =>
      match answer.2 with
      | some errStr => setNexthopStatus vrf row [("error", errStr)]
      | none => if (smapGet row.status "error").isSome then setNexthopStatus vrf row [] else vrf

def vrfOfprotoRouteAdd (env : Env) (vrf : Vrf) (nexthops : List OfprotoNexthop) (route : Route) : Vrf :=
  let ofpRoute := ofprotoRoute route nexthops
  let answers := nexthops.map (fun nh => (nh.nh, env.platform.provider.nexthopError vrf.up.calls ofpRoute nh.nh))
  answers.foldl (processNexthopRc env route) (vrf.emit (.l3RouteAction .add ofpRoute))

def vrfOfprotoRouteDelete (vrf : Vrf) (nexthops : List OfprotoNexthop) (route : Route) (delRoute : Bool) : Vrf :=
  vrf.emit (.l3RouteAction (if delRoute then .delete else .deleteNh) (ofprotoRoute route nexthops))

def routeAddr (route : Route) : Nat := route.self.addr

-- The struct route behind a back pointer. A nexthop of the all_nexthops table
-- is owned by a route of all_routes, so the default is never taken.
def routeAt (vrf : Vrf) (ref : RouteRef) : Route :=
  (Keyed.lookup routeAddr ref.addr vrf.allRoutes).getD ⟨ref, [], 0⟩

def vrfOfprotoUpdateRouteWithNeighbor (env : Env) (vrf : Vrf) (neighbor : Neighbor) (resolved : Bool) : Vrf :=
  let state := if resolved then NhState.resolved neighbor.l3EgressId else NhState.unresolved
  ((env.order.walk vrf.allNexthops).filter (fun nh => nh.ipAddr = some neighbor.ipAddress)).foldl
    (fun vrf nh => vrfOfprotoRouteAdd env vrf [⟨⟨.ipaddr, neighbor.ipAddress⟩, state⟩] (routeAt vrf nh.route)) vrf

def neighborHashLookup (vrf : Vrf) (ipAddress : String) : Option Neighbor :=
  Keyed.lookup Neighbor.ipAddress ipAddress vrf.allNeighbors

def resolvedEgress (vrf : Vrf) (ipAddress : String) : Option Int :=
  (neighborHashLookup vrf ipAddress).bind (fun neighbor =>
    if neighbor.l3EgressId > 0 then some neighbor.l3EgressId else none)

def vrfOfprotoSetNh (vrf : Vrf) (nh : Nexthop) : OfprotoNexthop :=
  match nh.portName with
  | some portName => ⟨⟨.port, portName⟩, .unresolved⟩
  | none =>
      let ipAddr := nh.ipAddr.getD ""
      ⟨⟨.ipaddr, ipAddr⟩, (resolvedEgress vrf ipAddr).elim .unresolved .resolved⟩

-- none when n_nexthops is left alone.
def vrfOfprotoUpdateResolvedNh (vrf : Vrf) (nh : Nexthop) : Option OfprotoNexthop :=
  match nh.portName with
  | some portName => some ⟨⟨.port, portName⟩, .unresolved⟩
  | none =>
      let ipAddr := nh.ipAddr.getD ""
      (resolvedEgress vrf ipAddr).map (fun egress => ⟨⟨.ipaddr, ipAddr⟩, .resolved egress⟩)

-- The local state of a function that edits one route: the VRF, the struct
-- route it holds a pointer to, and the nexthops filled into ofp_route.
structure RouteWork where
  vrf : Vrf
  route : Route
  ofp : List OfprotoNexthop

def vrfNexthopDelete (vrf : Vrf) (route : Route) (nh : Nexthop) : Vrf × Route :=
  let vrf := if nh.ipAddr.isSome then
      { vrf with allNexthops := Keyed.remove Nexthop.addr nh.addr vrf.allNexthops } else vrf
  (vrf, { route with nexthops := Keyed.remove Nexthop.addr nh.addr route.nexthops })

def vrfNexthopAdd (vrf : Vrf) (route : Route) (row : NexthopRow) : Option (Vrf × Route × Nexthop) :=
  let insert (ipAddr portName : Option String) : Vrf × Route × Nexthop :=
    let nh : Nexthop := ⟨vrf.nextAddr, ipAddr, portName, route.self, row.uuid⟩
    ({ vrf with
        nextAddr := vrf.nextAddr + 1
        allNexthops := if ipAddr.isSome then nh :: vrf.allNexthops else vrf.allNexthops },
      { route with nexthops := nh :: route.nexthops }, nh)
  match row.ipAddress with
  | some ipAddress => some (insert (some ipAddress) none)
  | none => row.ports.head?.map (fun portName => insert none (some portName))

def addNexthopRow (work : RouteWork) (row : NexthopRow) : RouteWork :=
  if nhRowUsable row then
    match vrfNexthopAdd work.vrf work.route row with
    | some (vrf, route, _) => { work with vrf := vrf, route := route }
    | none => work
  else work

def resolvedNexthopOf (env : Env) (work : RouteWork) (row : NexthopRow) : Option OfprotoNexthop :=
  if nhRowUsable row then
    (vrfRouteNexthopLookup env work.route row.ipAddress row.ports.head?).bind (vrfOfprotoUpdateResolvedNh work.vrf)
  else none

def copyToCpuNexthopOf (env : Env) (work : RouteWork) (row : NexthopRow) : Option OfprotoNexthop :=
  if vrfIsNhRowSelected row && row.ipAddress.isSome then
    (vrfRouteNexthopLookup env work.route row.ipAddress none).map
      (fun nh => ⟨⟨.ipaddr, nh.ipAddr.getD ""⟩, .unresolved⟩)
  else none

def vrfOfprotoAddResolvedNh (env : Env) (vrf : Vrf) (row : RouteRow) (route : Route) : RouteWork :=
  let work := row.nexthops.foldl addNexthopRow ⟨vrf, route, []⟩
  let resolved := row.nexthops.filterMap (resolvedNexthopOf env work)
  let ofp := if resolved = [] then (row.nexthops.findSome? (copyToCpuNexthopOf env work)).toList else resolved
  { work with ofp := ofp }

def addNexthopToAsic (work : RouteWork) (row : NexthopRow) : RouteWork :=
  if nhRowUsable row then
    match vrfNexthopAdd work.vrf work.route row with
    | some (vrf, route, nh) => ⟨vrf, route, work.ofp ++ [vrfOfprotoSetNh vrf nh]⟩
    | none => work
  else work

def routeKey (route : Route) : String × String := (route.self.from_, route.self.pfx)

def routeRowKey (row : RouteRow) : String × String := (row.from_, row.pfx)

def vrfRouteHashLookup (vrf : Vrf) (row : RouteRow) : Option Route :=
  Keyed.lookup routeKey (routeRowKey row) vrf.allRoutes

def dropNexthop (work : RouteWork) (nh : Nexthop) : RouteWork :=
  let dropped := vrfNexthopDelete work.vrf work.route nh
  ⟨dropped.1, dropped.2, work.ofp ++ [vrfOfprotoSetNh work.vrf nh]⟩

def vrfRouteDelete (env : Env) (vrf : Vrf) (route : Route) : Vrf :=
  let vrf := { vrf with allRoutes := Keyed.remove routeAddr (routeAddr route) vrf.allRoutes }
  let work := (env.order.walk route.nexthops).foldl dropNexthop ⟨vrf, route, []⟩
  if work.ofp = [] then work.vrf else vrfOfprotoRouteDelete work.vrf work.ofp work.route true

def newRouteRef (vrf : Vrf) (row : RouteRow) : RouteRef :=
  ⟨vrf.nextAddr, row.pfx, row.from_, row.addressFamily = some "ipv6"⟩

def fillNewRoute (env : Env) (vrf : Vrf) (row : RouteRow) (route : Route) : RouteWork :=
  if row.nexthops.length > 1 then vrfOfprotoAddResolvedNh env vrf row route
  else row.nexthops.foldl addNexthopToAsic ⟨vrf, route, []⟩

def vrfRouteAdd (env : Env) (vrf : Vrf) (row : RouteRow) : Vrf :=
  let route : Route := ⟨newRouteRef vrf row, [], 0⟩
  let work := fillNewRoute env { vrf with nextAddr := vrf.nextAddr + 1, routeRows := vrf.routeRows ++ [row] } row route
  let vrf := if work.ofp = [] then work.vrf else vrfOfprotoRouteAdd env work.vrf work.ofp work.route
  { vrf with allRoutes := { work.route with idlRowUuid := row.uuid } :: vrf.allRoutes }

def currentIdlNhs (row : RouteRow) : List NexthopRow := Keyed.collect nhRowKey (row.nexthops.filter nhRowUsable)

def deleteOldNexthop (idlNhs : List NexthopRow) (work : RouteWork) (nh : Nexthop) : RouteWork :=
  if (Keyed.lookup nhRowKey (nhKey nh) idlNhs).isSome then work else dropNexthop work nh

def addNewNexthop (env : Env) (ecmp : Bool) (work : RouteWork) (row : NexthopRow) : RouteWork :=
  if (vrfRouteNexthopLookup env work.route row.ipAddress row.ports.head?).isSome then work
  else match vrfNexthopAdd work.vrf work.route row with
    | none => work
    | some (vrf, route, nh) =>
        if ecmp then ⟨vrf, route, work.ofp ++ (vrfOfprotoUpdateResolvedNh vrf nh).toList⟩
        else ⟨vrf, route, work.ofp ++ [vrfOfprotoSetNh vrf nh]⟩

def storeRoute (vrf : Vrf) (route : Route) : Vrf :=
  { vrf with allRoutes := Keyed.replace routeAddr (routeAddr route) (fun _ => route) vrf.allRoutes }

def vrfRouteModify (env : Env) (vrf : Vrf) (route : Route) (row : RouteRow) : Vrf :=
  let idlNhs := currentIdlNhs row
  let vrf := { vrf with routeRows := vrf.routeRows ++ [row] }
  let work := (env.order.walk route.nexthops).foldl (deleteOldNexthop idlNhs) ⟨vrf, route, []⟩
  let vrf := if work.ofp = [] then work.vrf else vrfOfprotoRouteDelete work.vrf work.ofp work.route false
  let work := (env.order.walk idlNhs).foldl (addNewNexthop env (row.nexthops.length > 1)) ⟨vrf, work.route, []⟩
  let vrf := if work.ofp = [] then work.vrf else vrfOfprotoRouteAdd env work.vrf work.ofp work.route
  storeRoute vrf work.route

end OpsSwitchd
