import OpsSwitchd.NexthopTables
import OpsSwitchd.RequestSlots
import OpsSwitchd.VrfOps

set_option autoImplicit false

namespace OpsSwitchd

structure TablesOf (vrf : Vrf) (tables : NhTables) : Prop where
  routes : tables.allRoutes = vrf.allRoutes
  nexthops : tables.allNexthops = vrf.allNexthops
  nextAddr : tables.nextAddr = vrf.nextAddr

structure SameWork (work : RouteWork) (tablesWork : NhTablesWork) : Prop where
  tables : TablesOf work.vrf tablesWork.tables
  route : tablesWork.route = work.route

theorem cached_same (hash : String → UInt32) (work : RouteWork) (tablesWork : NhTablesWork) (row : NexthopRow)
    (key : (nhRowKey row).isSome) (ofp : List OfprotoNexthop) (same : SameWork work tablesWork) :
    SameWork (work.cached row ofp) (tablesNexthopAdd hash tablesWork row) := by
  obtain ⟨text, keyed⟩ := Option.isSome_iff_exists.mp key
  obtain ⟨⟨routes, nexthops, nextAddr⟩, route⟩ := same
  rw [tables_nexthop_add_eq hash tablesWork row text keyed, RouteWork.cached]
  dsimp only
  rw [route, nextAddr, nexthops]
  refine ⟨⟨routes, ?_, rfl⟩, rfl⟩
  by_cases ip : (newNexthop work.route.self work.vrf.nextAddr row).ipAddr.isSome = true <;> simp [pushNexthop, ip]

theorem cached_usable_same (hash : String → UInt32) (work : RouteWork) (tablesWork : NhTablesWork) (row : NexthopRow)
    (ofp : List OfprotoNexthop) (same : SameWork work tablesWork) :
    SameWork (if nhRowUsable row then work.cached row ofp else work)
      (if nhRowUsable row then tablesNexthopAdd hash tablesWork row else tablesWork) := by
  by_cases usable : nhRowUsable row = true
  · rw [if_pos usable, if_pos usable]
    exact cached_same hash work tablesWork row (usable_key row usable) ofp same
  · rw [if_neg usable, if_neg usable]
    exact same

theorem drop_nexthop_same (work : RouteWork) (tablesWork : NhTablesWork) (nh : Nexthop) (same : SameWork work tablesWork) :
    SameWork (dropNexthop work nh) (tablesNexthopDelete tablesWork nh) := by
  obtain ⟨⟨routes, nexthops, nextAddr⟩, route⟩ := same
  unfold dropNexthop vrfNexthopDelete tablesNexthopDelete
  rw [route, nexthops]
  by_cases ip : nh.ipAddr.isSome = true
  · simp only [ip, if_true]
    exact ⟨⟨routes, rfl, nextAddr⟩, rfl⟩
  · simp only [ip, Bool.false_eq_true, if_false]
    exact ⟨⟨routes, rfl, nextAddr⟩, rfl⟩

theorem delete_old_same (row : RouteRow) (work : RouteWork) (tablesWork : NhTablesWork) (nh : Nexthop)
    (same : SameWork work tablesWork) :
    SameWork (deleteOldNexthop (currentIdlNhs row) work nh) (tablesDeleteOld row tablesWork nh) := by
  unfold deleteOldNexthop tablesDeleteOld
  rw [← nhWanted]
  split
  · exact same
  · exact drop_nexthop_same work tablesWork nh same

theorem tables_lookup_eq (env : Env) (work : NhTablesWork) (ipAddress portName : Option String)
    (hashed : ∀ nh ∈ work.route.nexthops,
      (nhKey nh).map env.platform.hashString = some (work.tables.nodeHash nh.addr)) :
    tablesNexthopLookup env.platform.hashString env.order work ipAddress portName =
      vrfRouteNexthopLookup env work.route ipAddress portName := by
  unfold tablesNexthopLookup vrfRouteNexthopLookup
  congr 1
  funext hashstr
  have stored : ∀ nh ∈ env.order.walk work.route.nexthops,
      decide (work.tables.nodeHash nh.addr = env.platform.hashString hashstr) =
      decide ((nhKey nh).map env.platform.hashString = some (env.platform.hashString hashstr)) := by
    intro nh member
    simp only [hashed nh ((env.order.mem_walk _ _).mp member), Option.some.injEq]
  generalize env.order.walk work.route.nexthops = walked at stored
  induction walked with
  | nil => rfl
  | cons nh rest ih =>
      rw [List.find?_cons, List.find?_cons, stored nh List.mem_cons_self,
        ih (fun other member => stored other (List.mem_cons_of_mem nh member))]

theorem add_new_same (env : Env) (ecmp : Bool) (work : RouteWork) (tablesWork : NhTablesWork) (row : NexthopRow)
    (hashed : ∀ nh ∈ tablesWork.route.nexthops,
      (nhKey nh).map env.platform.hashString = some (tablesWork.tables.nodeHash nh.addr))
    (same : SameWork work tablesWork) :
    SameWork (addNewNexthop env ecmp work row) (tablesAddNew env.platform.hashString env.order tablesWork row) := by
  rw [add_new_nexthop_cached, addsNexthop, tablesAddNew, tables_lookup_eq env tablesWork _ _ hashed, same.route]
  cases vrfRouteNexthopLookup env work.route row.ipAddress row.ports.head? with
  | some nh => exact same
  | none =>
      by_cases key : (nhRowKey row).isSome
      · rw [key]
        exact cached_same _ work tablesWork row key _ same
      · rw [tables_nexthop_add_refused _ tablesWork row (Option.not_isSome_iff_eq_none.mp key)]
        simpa [key] using same

theorem route_add_tables (env : Env) (vrf : Vrf) (tables : NhTables) (row : RouteRow) (same : TablesOf vrf tables) :
    TablesOf (vrfRouteAdd env vrf row) (tablesRouteAdd env.platform.hashString tables row) := by
  have started : SameWork ⟨{ vrf with nextAddr := vrf.nextAddr + 1, routeRows := vrf.routeRows ++ [row] },
      ⟨newRouteRef vrf row, [], 0⟩, []⟩ ⟨{ tables with nextAddr := tables.nextAddr + 1 },
        ⟨⟨tables.nextAddr, row.pfx, row.from_, row.addressFamily = some "ipv6"⟩, [], 0⟩⟩ := by
    refine ⟨⟨same.routes, same.nexthops, ?_⟩, ?_⟩
    · exact congrArg (· + 1) same.nextAddr
    · rw [same.nextAddr]
      rfl
  have filled : SameWork (fillNewRoute env { vrf with nextAddr := vrf.nextAddr + 1, routeRows := vrf.routeRows ++ [row] } row
      ⟨newRouteRef vrf row, [], 0⟩) (row.nexthops.foldl
        (fun work nh => if nhRowUsable nh then tablesNexthopAdd env.platform.hashString work nh else work)
        ⟨{ tables with nextAddr := tables.nextAddr + 1 },
          ⟨⟨tables.nextAddr, row.pfx, row.from_, row.addressFamily = some "ipv6"⟩, [], 0⟩⟩) := by
    unfold fillNewRoute vrfOfprotoAddResolvedNh
    split
    · have cached := List.foldl_rel started (fun nh (_ : nh ∈ row.nexthops) work tablesWork here =>
        add_nexthop_row_eq work nh ▸ cached_usable_same env.platform.hashString work tablesWork nh _ here)
      exact ⟨cached.tables, cached.route⟩
    · exact List.foldl_rel started (fun nh (_ : nh ∈ row.nexthops) work tablesWork here =>
        add_nexthop_to_asic_eq work nh ▸ cached_usable_same env.platform.hashString work tablesWork nh _ here)
  unfold vrfRouteAdd tablesRouteAdd
  dsimp only
  obtain ⟨status, requested⟩ := route_add_request env (fillNewRoute env
    { vrf with nextAddr := vrf.nextAddr + 1, routeRows := vrf.routeRows ++ [row] } row ⟨newRouteRef vrf row, [], 0⟩).vrf _ _
  rw [requested]
  refine ⟨?_, filled.tables.nexthops, filled.tables.nextAddr⟩
  dsimp only
  rw [filled.route, filled.tables.routes]
  rfl

theorem route_delete_tables (env : Env) (vrf : Vrf) (tables : NhTables) (route : Route) (same : TablesOf vrf tables) :
    TablesOf (vrfRouteDelete env vrf route) (tablesRouteDelete env.order tables route) := by
  have started : SameWork ⟨{ vrf with allRoutes := Keyed.remove routeAddr (routeAddr route) vrf.allRoutes }, route, []⟩
      ⟨{ tables with allRoutes := Keyed.remove routeAddr (routeAddr route) tables.allRoutes }, route⟩ :=
    ⟨⟨congrArg (Keyed.remove routeAddr (routeAddr route)) same.routes, same.nexthops, same.nextAddr⟩, rfl⟩
  have dropped := List.foldl_rel started (fun nh (_ : nh ∈ env.order.walk route.nexthops) work tablesWork here =>
    drop_nexthop_same work tablesWork nh here)
  unfold vrfRouteDelete tablesRouteDelete
  dsimp only
  rw [route_delete_request]
  exact ⟨dropped.tables.routes, dropped.tables.nexthops, dropped.tables.nextAddr⟩

theorem route_modify_tables (env : Env) (vrf : Vrf) (tables : NhTables) (route : Route) (row : RouteRow)
    (member : route ∈ tables.allRoutes) (inv : TablesInv env.platform.hashString tables tables.allRoutes)
    (same : TablesOf vrf tables) :
    TablesOf (vrfRouteModify env vrf route row) (tablesRouteModify env.platform.hashString env.order tables route row) := by
  have started : SameWork ⟨{ vrf with routeRows := vrf.routeRows ++ [row] }, route, []⟩ ⟨tables, route⟩ :=
    ⟨⟨same.routes, same.nexthops, same.nextAddr⟩, rfl⟩
  have kept := List.foldl_rel started (fun nh (_ : nh ∈ env.order.walk route.nexthops) work tablesWork here =>
    delete_old_same row work tablesWork nh here)
  have opened := tables_inv_perm _ tables _ _ (Keyed.perm_cons_remove routeAddr inv.addrs member) inv
  have hashed := tables_delete_inv _ _ ((env.order.walk route.nexthops).filter (fun nh => !nhWanted row nh)) ⟨tables, route⟩
    (fun nh present => (env.order.mem_walk _ _).mp (List.mem_filter.mp present).1) opened
  rw [← tables_delete_old_fold] at hashed
  have keptSame : SameWork (modifyKept env vrf route row)
      ((env.order.walk route.nexthops).foldl (tablesDeleteOld row) ⟨tables, route⟩) := by
    unfold modifyKept
    dsimp only
    rw [route_delete_request]
    exact ⟨⟨kept.tables.routes, kept.tables.nexthops, kept.tables.nextAddr⟩, kept.route⟩
  -- The simulation of the second loop carries the stored hashes along.
  obtain ⟨done, _⟩ : SameWork
      ((env.order.walk (currentIdlNhs row)).foldl (addNewNexthop env (row.nexthops.length > 1)) (modifyKept env vrf route row))
      ((env.order.walk (currentIdlNhs row)).foldl (tablesAddNew env.platform.hashString env.order)
        ((env.order.walk route.nexthops).foldl (tablesDeleteOld row) ⟨tables, route⟩)) ∧
      TablesInv env.platform.hashString
        ((env.order.walk (currentIdlNhs row)).foldl (tablesAddNew env.platform.hashString env.order)
          ((env.order.walk route.nexthops).foldl (tablesDeleteOld row) ⟨tables, route⟩)).tables
        (((env.order.walk (currentIdlNhs row)).foldl (tablesAddNew env.platform.hashString env.order)
          ((env.order.walk route.nexthops).foldl (tablesDeleteOld row) ⟨tables, route⟩)).route ::
            Keyed.remove routeAddr (routeAddr route) tables.allRoutes) := by
    refine List.foldl_rel (r := fun work tablesWork => SameWork work tablesWork ∧
      TablesInv env.platform.hashString tablesWork.tables
        (tablesWork.route :: Keyed.remove routeAddr (routeAddr route) tables.allRoutes)) ⟨keptSame, hashed⟩ ?_
    rintro nh _ work tablesWork ⟨here, stored⟩
    refine ⟨add_new_same env _ work tablesWork nh
      (fun other present => stored.hashed other (List.mem_append_left _ present)) here, ?_⟩
    unfold tablesAddNew
    split
    · exact stored
    · exact tables_nexthop_add_inv _ _ tablesWork nh stored
  rw [route_modify_halves]
  unfold tablesRouteModify
  dsimp only
  obtain ⟨status, requested⟩ := route_add_request env
    ((env.order.walk (currentIdlNhs row)).foldl (addNewNexthop env (row.nexthops.length > 1)) (modifyKept env vrf route row)).vrf
    ((env.order.walk (currentIdlNhs row)).foldl (addNewNexthop env (row.nexthops.length > 1)) (modifyKept env vrf route row)).ofp
    ((env.order.walk (currentIdlNhs row)).foldl (addNewNexthop env (row.nexthops.length > 1)) (modifyKept env vrf route row)).route
  rw [requested]
  refine ⟨?_, done.tables.nexthops, done.tables.nextAddr⟩
  unfold storeRoute
  dsimp only
  rw [done.route, done.tables.routes]
  rfl

def tablesInput (vrf : Vrf) (input : Env × VrfOp) : Option (HashOrder × TablesOp) :=
  match input.2 with
  | .routeAdd row => some (input.1.order, .add row)
  | .routeModify row => (vrfRouteHashLookup vrf row).map (fun route => (input.1.order, .modify (routeAddr route) row))
  | .routeDelete key => (Keyed.lookup routeKey key vrf.allRoutes).map (fun route => (input.1.order, .delete (routeAddr route)))
  | _ => none

theorem tables_of_frame (vrf after : Vrf) (ip : String) (tables : NhTables) (frame : NeighborFrame vrf after ip)
    (same : TablesOf vrf tables) : TablesOf after tables := by
  obtain ⟨calls, neighbors, status, rows, rfl, _⟩ := frame
  exact ⟨same.routes, same.nexthops, same.nextAddr⟩

theorem vrf_step_tables (vrf : Vrf) (tables : NhTables) (input : Env × VrfOp)
    (inv : TablesInv input.1.platform.hashString tables tables.allRoutes) (same : TablesOf vrf tables) :
    TablesOf (vrfStep vrf input) ((tablesInput vrf input).elim tables (tablesStep input.1.platform.hashString tables)) := by
  obtain ⟨env, op⟩ := input
  have cached : ∀ route ∈ vrf.allRoutes, route ∈ tables.allRoutes ∧
      Keyed.lookup routeAddr (routeAddr route) tables.allRoutes = some route := by
    intro route member
    rw [← same.routes] at member
    exact ⟨member, Keyed.lookup_of_mem routeAddr inv.addrs member⟩
  have kind := vrf_step_kind vrf env op
  cases op with
  | routeAdd row => exact route_add_tables env vrf tables row same
  | routeModify row =>
      cases found : vrfRouteHashLookup vrf row with
      | none => simpa only [vrfStep, tablesInput, found, Option.map_none, Option.elim_none] using same
      | some route =>
          obtain ⟨member, here⟩ := cached route (Keyed.lookup_mem routeKey found)
          simp only [vrfStep, tablesInput, found, Option.map_some, Option.elim_some, tablesStep, here]
          exact route_modify_tables env vrf tables route row member inv same
  | routeDelete key =>
      cases found : Keyed.lookup routeKey key vrf.allRoutes with
      | none => simpa only [vrfStep, tablesInput, found, Option.map_none, Option.elim_none] using same
      | some route =>
          obtain ⟨_, here⟩ := cached route (Keyed.lookup_mem routeKey found)
          simp only [vrfStep, tablesInput, found, Option.map_some, Option.elim_some, tablesStep, here]
          exact route_delete_tables env vrf tables route same
  | neighborCreate row =>
      generalize vrfStep vrf (env, .neighborCreate row) = after at kind
      cases kind with
      | created _ _ frame => exact tables_of_frame vrf after _ tables frame same
  | neighborModify row =>
      generalize vrfStep vrf (env, .neighborModify row) = after at kind
      cases kind with
      | changed _ _ frame => exact tables_of_frame vrf after _ tables frame same
  | neighborDelete ip =>
      generalize vrfStep vrf (env, .neighborDelete ip) = after at kind
      cases kind with
      | withdrawn _ _ frame => exact tables_of_frame vrf after _ tables frame same
  | ports ports => exact ⟨same.routes, same.nexthops, same.nextAddr⟩

end OpsSwitchd
