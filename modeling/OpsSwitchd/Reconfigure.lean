import OpsSwitchd.Neighbor

set_option autoImplicit false

namespace OpsSwitchd

def isRouteNhRowsModified (row : RouteRow) : Bool := row.nexthops.any (fun nh => nh.modified && !nh.inserted)

def routeRowHash (row : RouteRow) : List Char := vrfRouteHash row.from_ row.pfx

def currentIdlRoutes (vrf : Vrf) (rows : List RouteRow) : List RouteRow :=
  Keyed.collect routeRowHash (rows.filter (fun row => vrfIsRouteRowSelected row && vrf.name = row.vrf))

def deleteOldRoute (env : Env) (idlRoutes : List RouteRow) (vrf : Vrf) (route : Route) : Vrf :=
  if (Keyed.lookup routeRowHash (vrfRouteHash route.self.from_ route.self.pfx) idlRoutes).isSome then vrf
  else vrfRouteDelete env vrf route

def addNewRoute (env : Env) (vrf : Vrf) (row : RouteRow) : Vrf :=
  if (vrfRouteHashLookup vrf row).isSome then vrf else vrfRouteAdd env vrf row

def checkRouteChange (env : Env) (vrf : Vrf) (row : RouteRow) : Vrf :=
  if vrf.name = row.vrf && row.modified && !row.inserted then
    match vrfIsRouteRowSelected row, vrfRouteHashLookup vrf row with
    | true, some route => vrfRouteModify env vrf route row
    | true, none => vrfRouteAdd env vrf row
    | false, some route => vrfRouteDelete env vrf route
    | false, none => vrf
  else vrf

-- vrf_reconfigure_ecmp, which comes first, touches neither routes nor neighbors.
def vrfReconfigureRoutes (env : Env) (vrf : Vrf) : Vrf :=
  let table := env.idl.routes
  if !env.platform.provider.hasL3RouteAction then vrf
  else if table.rows = [] then (env.order.walk vrf.allRoutes).foldl (vrfRouteDelete env) vrf
  else if !table.anyModified && !table.anyDeleted && !table.anyInserted then vrf
  else
    let idlRoutes := currentIdlRoutes vrf table.rows
    let vrf := if table.anyDeleted then (env.order.walk vrf.allRoutes).foldl (deleteOldRoute env idlRoutes) vrf else vrf
    let vrf := if table.anyInserted then (env.order.walk idlRoutes).foldl (addNewRoute env) vrf else vrf
    if table.anyModified then table.rows.foldl (checkRouteChange env) vrf else vrf

def checkRouteNexthops (env : Env) (vrf : Vrf) (row : RouteRow) : Vrf :=
  if isRouteNhRowsModified row then
    match vrfRouteHashLookup vrf row with
    | some route => vrfRouteModify env vrf route row
    | none => vrf
  else vrf

-- The rows of every VRF are walked, and the lookup key has no VRF in it.
def vrfReconfigureNexthops (env : Env) (vrf : Vrf) : Vrf :=
  if env.idl.nexthops.rows = [] then vrf
  else if env.idl.nexthops.anyModified then env.idl.routes.rows.foldl (checkRouteNexthops env) vrf
  else vrf

end OpsSwitchd
