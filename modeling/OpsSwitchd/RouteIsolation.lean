import OpsSwitchd.Bystander
import OpsSwitchd.RouteRebuild

set_option autoImplicit false

namespace OpsSwitchd

-- The Nexthop table decides which status columns are written and nothing
-- else that a route function does.
def Vrf.withStatus (vrf : Vrf) (status : List (Uuid × Smap)) : Vrf := { vrf with nexthopStatus := status }

def RouteWork.withStatus (work : RouteWork) (status : List (Uuid × Smap)) : RouteWork :=
  { work with vrf := work.vrf.withStatus status }

def Env.withNexthopTable (env : Env) (nexthops : IdlTable NexthopRow) : Env :=
  { env with idl := { env.idl with nexthops := nexthops } }

def SameButStatus (vrf other : Vrf) : Prop := ∃ status, other = vrf.withStatus status

theorem drop_nexthop_status (status : List (Uuid × Smap)) (work : RouteWork) (nh : Nexthop) :
    dropNexthop (work.withStatus status) nh = (dropNexthop work nh).withStatus status := by
  unfold dropNexthop vrfNexthopDelete
  cases nh.ipAddr <;> rfl

theorem delete_old_nexthop_status (idlNhs : List NexthopRow) (status : List (Uuid × Smap)) (work : RouteWork) (nh : Nexthop) :
    deleteOldNexthop idlNhs (work.withStatus status) nh = (deleteOldNexthop idlNhs work nh).withStatus status := by
  unfold deleteOldNexthop
  split
  · rfl
  · exact drop_nexthop_status status work nh

theorem add_nexthop_row_status (status : List (Uuid × Smap)) (work : RouteWork) (row : NexthopRow) :
    addNexthopRow (work.withStatus status) row = (addNexthopRow work row).withStatus status := by
  rw [add_nexthop_row_eq, add_nexthop_row_eq]
  split <;> rfl

theorem add_nexthop_to_asic_status (status : List (Uuid × Smap)) (work : RouteWork) (row : NexthopRow) :
    addNexthopToAsic (work.withStatus status) row = (addNexthopToAsic work row).withStatus status := by
  rw [add_nexthop_to_asic_eq, add_nexthop_to_asic_eq]
  split <;> rfl

theorem add_new_nexthop_status (env : Env) (nexthops : IdlTable NexthopRow) (ecmp : Bool) (status : List (Uuid × Smap))
    (work : RouteWork) (row : NexthopRow) :
    addNewNexthop (env.withNexthopTable nexthops) ecmp (work.withStatus status) row =
      (addNewNexthop env ecmp work row).withStatus status := by
  have adds : addsNexthop (env.withNexthopTable nexthops) (work.withStatus status) row = addsNexthop env work row := rfl
  rw [add_new_nexthop_cached, add_new_nexthop_cached, adds]
  split <;> rfl

theorem foldl_status {α : Type} (step next : RouteWork → α → RouteWork) (status : List (Uuid × Smap))
    (each : ∀ work a, next (work.withStatus status) a = (step work a).withStatus status) (items : List α) (work : RouteWork) :
    items.foldl next (work.withStatus status) = (items.foldl step work).withStatus status :=
  List.foldl_hom (fun work : RouteWork => work.withStatus status) each

theorem fill_new_route_status (env : Env) (nexthops : IdlTable NexthopRow) (status : List (Uuid × Smap)) (vrf : Vrf)
    (row : RouteRow) (route : Route) :
    fillNewRoute (env.withNexthopTable nexthops) (vrf.withStatus status) row route =
      (fillNewRoute env vrf row route).withStatus status := by
  have added : row.nexthops.foldl addNexthopRow ⟨vrf.withStatus status, route, []⟩ =
      (row.nexthops.foldl addNexthopRow ⟨vrf, route, []⟩).withStatus status :=
    foldl_status addNexthopRow addNexthopRow status (add_nexthop_row_status status) row.nexthops ⟨vrf, route, []⟩
  have sent : row.nexthops.foldl addNexthopToAsic ⟨vrf.withStatus status, route, []⟩ =
      (row.nexthops.foldl addNexthopToAsic ⟨vrf, route, []⟩).withStatus status :=
    foldl_status addNexthopToAsic addNexthopToAsic status (add_nexthop_to_asic_status status) row.nexthops ⟨vrf, route, []⟩
  unfold fillNewRoute vrfOfprotoAddResolvedNh
  rw [added, sent]
  split <;> rfl

def sendAdded (env : Env) (work : RouteWork) : Vrf :=
  if work.ofp = [] then work.vrf else vrfOfprotoRouteAdd env work.vrf work.ofp work.route

def addWork (env : Env) (vrf : Vrf) (row : RouteRow) : RouteWork :=
  fillNewRoute env (newRouteWork vrf row).vrf row (newRouteWork vrf row).route

def modifiedWork (env : Env) (vrf : Vrf) (route : Route) (row : RouteRow) : RouteWork :=
  (env.order.walk (currentIdlNhs row)).foldl (addNewNexthop env (row.nexthops.length > 1)) (modifyKept env vrf route row)

def insertRoute (route : Route) (vrf : Vrf) : Vrf := { vrf with allRoutes := route :: vrf.allRoutes }

theorem route_modify_parts (env : Env) (vrf : Vrf) (route : Route) (row : RouteRow) :
    vrfRouteModify env vrf route row =
      storeRoute (sendAdded env (modifiedWork env vrf route row)) (modifiedWork env vrf route row).route :=
  route_modify_halves env vrf route row

theorem route_add_parts (env : Env) (vrf : Vrf) (row : RouteRow) :
    vrfRouteAdd env vrf row =
      insertRoute { (addWork env vrf row).route with idlRowUuid := row.uuid } (sendAdded env (addWork env vrf row)) := rfl

theorem send_added_blind (env : Env) (nexthops : IdlTable NexthopRow) (status : List (Uuid × Smap)) (work : RouteWork) :
    SameButStatus (sendAdded env work) (sendAdded (env.withNexthopTable nexthops) (work.withStatus status)) := by
  obtain ⟨left, added⟩ := route_add_request env work.vrf work.ofp work.route
  obtain ⟨right, addedRight⟩ := route_add_request (env.withNexthopTable nexthops) (work.vrf.withStatus status) work.ofp work.route
  exact ⟨right, addedRight.trans (congrArg (fun vrf : Vrf => vrf.withStatus right) added).symm⟩

theorem modified_work_status (env : Env) (nexthops : IdlTable NexthopRow) (status : List (Uuid × Smap)) (vrf : Vrf) (route : Route)
    (row : RouteRow) :
    modifiedWork (env.withNexthopTable nexthops) (vrf.withStatus status) route row =
      (modifiedWork env vrf route row).withStatus status := by
  have dropped : (env.order.walk route.nexthops).foldl (deleteOldNexthop (currentIdlNhs row))
      (modifyWork (vrf.withStatus status) route row) =
      ((env.order.walk route.nexthops).foldl (deleteOldNexthop (currentIdlNhs row)) (modifyWork vrf route row)).withStatus status :=
    foldl_status _ _ status (delete_old_nexthop_status (currentIdlNhs row) status) (env.order.walk route.nexthops)
      (modifyWork vrf route row)
  have kept : modifyKept (env.withNexthopTable nexthops) (vrf.withStatus status) route row =
      (modifyKept env vrf route row).withStatus status := by
    have order : (env.withNexthopTable nexthops).order = env.order := rfl
    simp only [modifyKept, order, dropped, route_delete_request]
    rfl
  unfold modifiedWork
  rw [kept]
  exact foldl_status _ _ status (add_new_nexthop_status env nexthops (row.nexthops.length > 1) status)
    (env.order.walk (currentIdlNhs row)) (modifyKept env vrf route row)

section Blind

variable (env : Env) (nexthops : IdlTable NexthopRow) {vrf other : Vrf} (same : SameButStatus vrf other)

include same

theorem route_delete_blind (route : Route) :
    SameButStatus (vrfRouteDelete env vrf route) (vrfRouteDelete (env.withNexthopTable nexthops) other route) := by
  obtain ⟨status, rfl⟩ := same
  rw [vrf_route_delete_eq, vrf_route_delete_eq]
  exact ⟨status, rfl⟩

theorem route_add_blind (row : RouteRow) :
    SameButStatus (vrfRouteAdd env vrf row) (vrfRouteAdd (env.withNexthopTable nexthops) other row) := by
  obtain ⟨status, rfl⟩ := same
  have work : addWork (env.withNexthopTable nexthops) (vrf.withStatus status) row = (addWork env vrf row).withStatus status :=
    fill_new_route_status env nexthops status (newRouteWork vrf row).vrf row (newRouteWork vrf row).route
  obtain ⟨later, sent⟩ := send_added_blind env nexthops status (addWork env vrf row)
  refine ⟨later, ?_⟩
  rw [route_add_parts, route_add_parts, work, sent]
  rfl

theorem route_modify_blind (route : Route) (row : RouteRow) :
    SameButStatus (vrfRouteModify env vrf route row) (vrfRouteModify (env.withNexthopTable nexthops) other route row) := by
  obtain ⟨status, rfl⟩ := same
  obtain ⟨later, sent⟩ := send_added_blind env nexthops status (modifiedWork env vrf route row)
  refine ⟨later, ?_⟩
  rw [route_modify_parts, route_modify_parts, modified_work_status, sent]
  rfl

theorem delete_old_route_blind (idl : List RouteRow) (route : Route) :
    SameButStatus (deleteOldRoute env idl vrf route) (deleteOldRoute (env.withNexthopTable nexthops) idl other route) := by
  unfold deleteOldRoute
  split
  · exact same
  · exact route_delete_blind env nexthops same route

theorem add_new_route_blind (row : RouteRow) :
    SameButStatus (addNewRoute env vrf row) (addNewRoute (env.withNexthopTable nexthops) other row) := by
  have looked : vrfRouteHashLookup other row = vrfRouteHashLookup vrf row := by
    obtain ⟨status, rfl⟩ := same
    rfl
  unfold addNewRoute
  rw [looked]
  split
  · exact same
  · exact route_add_blind env nexthops same row

theorem check_route_change_blind (row : RouteRow) :
    SameButStatus (checkRouteChange env vrf row) (checkRouteChange (env.withNexthopTable nexthops) other row) := by
  have looked : vrfRouteHashLookup other row = vrfRouteHashLookup vrf row := by
    obtain ⟨status, rfl⟩ := same
    rfl
  have named : other.name = vrf.name := by
    obtain ⟨status, rfl⟩ := same
    rfl
  unfold checkRouteChange
  rw [looked, named]
  split
  · split
    · exact route_modify_blind env nexthops same _ row
    · exact route_add_blind env nexthops same row
    · exact route_delete_blind env nexthops same _
    · exact same
  · exact same

theorem check_route_nexthops_blind (row : RouteRow) :
    SameButStatus (checkRouteNexthops env vrf row) (checkRouteNexthops (env.withNexthopTable nexthops) other row) := by
  have looked : vrfRouteHashLookup other row = vrfRouteHashLookup vrf row := by
    obtain ⟨status, rfl⟩ := same
    rfl
  unfold checkRouteNexthops
  rw [looked]
  split
  · split
    · exact route_modify_blind env nexthops same _ row
    · exact same
  · exact same

omit same in
theorem foldl_blind {α : Type} (step next : Vrf → α → Vrf) (each : ∀ a, ∀ {vrf other : Vrf}, SameButStatus vrf other →
      SameButStatus (step vrf a) (next other a)) (items : List α) {vrf other : Vrf} (same : SameButStatus vrf other) :
    SameButStatus (items.foldl step vrf) (items.foldl next other) := by
  induction items generalizing vrf other with
  | nil => exact same
  | cons a rest ih => exact ih (each a same)

end Blind

def Edits (start work : RouteWork) : Prop :=
  work.route.self = start.route.self ∧ work.vrf.allRoutes = start.vrf.allRoutes

theorem foldl_edits {α : Type} (step : RouteWork → α → RouteWork) (each : ∀ work a, Edits work (step work a)) (items : List α)
    (work : RouteWork) : Edits work (items.foldl step work) :=
  Keyed.foldl_keeps step (Edits work)
    (fun next a _ edited => ⟨(each next a).1.trans edited.1, (each next a).2.trans edited.2⟩) ⟨rfl, rfl⟩

theorem delete_old_nexthop_edits (idlNhs : List NexthopRow) (work : RouteWork) (nh : Nexthop) :
    Edits work (deleteOldNexthop idlNhs work nh) := by
  unfold deleteOldNexthop dropNexthop vrfNexthopDelete
  split
  · exact ⟨rfl, rfl⟩
  · cases nh.ipAddr <;> exact ⟨rfl, rfl⟩

theorem add_nexthop_row_edits (work : RouteWork) (row : NexthopRow) : Edits work (addNexthopRow work row) := by
  rw [add_nexthop_row_eq]
  split <;> exact ⟨rfl, rfl⟩

theorem add_nexthop_to_asic_edits (work : RouteWork) (row : NexthopRow) : Edits work (addNexthopToAsic work row) := by
  rw [add_nexthop_to_asic_eq]
  split <;> exact ⟨rfl, rfl⟩

theorem add_new_nexthop_edits (env : Env) (ecmp : Bool) (work : RouteWork) (row : NexthopRow) :
    Edits work (addNewNexthop env ecmp work row) := by
  rw [add_new_nexthop_cached]
  split <;> exact ⟨rfl, rfl⟩

theorem send_added_routes (env : Env) (work : RouteWork) : (sendAdded env work).allRoutes = work.vrf.allRoutes := by
  obtain ⟨status, added⟩ := route_add_request env work.vrf work.ofp work.route
  rw [sendAdded, added]
  rfl

theorem add_work_edits (env : Env) (vrf : Vrf) (row : RouteRow) :
    (addWork env vrf row).route.self = newRouteRef vrf row ∧ (addWork env vrf row).vrf.allRoutes = vrf.allRoutes := by
  unfold addWork fillNewRoute
  split
  · exact foldl_edits addNexthopRow add_nexthop_row_edits row.nexthops ⟨_, ⟨newRouteRef vrf row, [], 0⟩, []⟩
  · exact foldl_edits addNexthopToAsic add_nexthop_to_asic_edits row.nexthops ⟨_, ⟨newRouteRef vrf row, [], 0⟩, []⟩

theorem modified_work_edits (env : Env) (vrf : Vrf) (route : Route) (row : RouteRow) :
    (modifiedWork env vrf route row).route.self = route.self ∧ (modifiedWork env vrf route row).vrf.allRoutes = vrf.allRoutes := by
  have dropped := foldl_edits _ (delete_old_nexthop_edits (currentIdlNhs row)) (env.order.walk route.nexthops) (modifyWork vrf route row)
  have kept : (modifyKept env vrf route row).route.self = route.self ∧ (modifyKept env vrf route row).vrf.allRoutes = vrf.allRoutes := by
    simp only [modifyKept, route_delete_request]
    exact dropped
  have added := foldl_edits _ (add_new_nexthop_edits env (row.nexthops.length > 1)) (env.order.walk (currentIdlNhs row))
    (modifyKept env vrf route row)
  exact ⟨added.1.trans kept.1, added.2.trans kept.2⟩

def RoutesWithin (name : String) (keys : String × String → Prop) (vrf : Vrf) : Prop :=
  vrf.name = name ∧ ∀ route ∈ vrf.allRoutes, keys (routeKey route)

section Within

variable (env : Env) {name : String} {keys : String × String → Prop} {vrf : Vrf} (within : RoutesWithin name keys vrf)

include within

theorem route_delete_within (route : Route) : RoutesWithin name keys (vrfRouteDelete env vrf route) := by
  refine ⟨(routed_name _ _ _ (route_delete_routed env vrf route)).trans within.1, ?_⟩
  rw [route_delete_routes]
  exact fun other member => within.2 other ((Keyed.mem_remove routeAddr).mp member).1

theorem route_add_within (row : RouteRow) (key : keys (routeRowKey row)) : RoutesWithin name keys (vrfRouteAdd env vrf row) := by
  refine ⟨(routed_name _ _ _ (route_add_routed env vrf row)).trans within.1, ?_⟩
  have edits := add_work_edits env vrf row
  intro route member
  rw [route_add_parts, insertRoute, send_added_routes, edits.2] at member
  rcases List.mem_cons.mp member with rfl | old
  · unfold routeKey
    rw [edits.1]
    exact key
  · exact within.2 route old

theorem route_modify_within (route : Route) (row : RouteRow) (key : keys (routeKey route)) :
    RoutesWithin name keys (vrfRouteModify env vrf route row) := by
  refine ⟨(routed_name _ _ _ (route_modify_routed env vrf route row)).trans within.1, ?_⟩
  have edits := modified_work_edits env vrf route row
  intro other member
  rw [route_modify_parts, storeRoute, send_added_routes, edits.2] at member
  rcases (Keyed.mem_replace routeAddr).mp member with ⟨old, _⟩ | ⟨_, _, _, rfl⟩
  · exact within.2 other old
  · unfold routeKey
    rw [edits.1]
    exact key

theorem delete_old_route_within (idl : List RouteRow) (route : Route) :
    RoutesWithin name keys (deleteOldRoute env idl vrf route) := by
  unfold deleteOldRoute
  split
  · exact within
  · exact route_delete_within env within route

theorem add_new_route_within (row : RouteRow) (key : keys (routeRowKey row)) :
    RoutesWithin name keys (addNewRoute env vrf row) := by
  unfold addNewRoute
  split
  · exact within
  · exact route_add_within env within row key

theorem found_route_within (row : RouteRow) (route : Route) (found : vrfRouteHashLookup vrf row = some route) :
    keys (routeKey route) :=
  within.2 route (hash_lookup_member vrf row route found).1

theorem check_route_change_within (row : RouteRow)
    (key : name = row.vrf → vrfIsRouteRowSelected row = true → keys (routeRowKey row)) :
    RoutesWithin name keys (checkRouteChange env vrf row) := by
  unfold checkRouteChange
  split
  · rename_i acts
    have own : name = row.vrf := by
      rw [← within.1]
      simpa using (Bool.and_eq_true_iff.mp (Bool.and_eq_true_iff.mp acts).1).1
    split
    · rename_i found
      exact route_modify_within env within _ row (found_route_within within row _ found)
    · rename_i selected _
      exact route_add_within env within row (key own selected)
    · exact route_delete_within env within _
    · exact within
  · exact within

theorem check_route_nexthops_within (row : RouteRow) : RoutesWithin name keys (checkRouteNexthops env vrf row) := by
  unfold checkRouteNexthops
  split
  · split
    · rename_i found
      exact route_modify_within env within _ row (found_route_within within row _ found)
    · exact within
  · exact within

end Within

def RouteKeyOf (vrf : Vrf) (rows : List RouteRow) (key : String × String) : Prop :=
  (∃ route ∈ vrf.allRoutes, routeKey route = key) ∨
    ∃ row ∈ rows, vrf.name = row.vrf ∧ vrfIsRouteRowSelected row = true ∧ routeRowKey row = key

instance (vrf : Vrf) (rows : List RouteRow) (key : String × String) : Decidable (RouteKeyOf vrf rows key) :=
  inferInstanceAs (Decidable (_ ∨ _))

-- vrf_reconfigure_routes with its passes seen over the own rows. A pass whose
-- flag is set by other VRFs only finds nothing to do.
def routePhases (env : Env) (vrf : Vrf) (own : List RouteRow) (deletes inserts modifies : Bool) : Vrf :=
  let idlRoutes := Keyed.collect routeRowHash (own.filter vrfIsRouteRowSelected)
  let vrf := if deletes then (env.order.walk vrf.allRoutes).foldl (deleteOldRoute env idlRoutes) vrf else vrf
  let vrf := if inserts then (env.order.walk idlRoutes).foldl (addNewRoute env) vrf else vrf
  if modifies then own.foldl (checkRouteChange env) vrf else vrf

def tableDeletes (table : IdlTable RouteRow) : Bool := table.anyDeleted || table.rows.isEmpty

theorem current_idl_routes_key (vrf : Vrf) (rows : List RouteRow) (row : RouteRow) (member : row ∈ currentIdlRoutes vrf rows) :
    RouteKeyOf vrf rows (routeRowKey row) := by
  rw [current_idl_routes_eq] at member
  obtain ⟨listed, own, selected⟩ := (selected_rows_mem _ _ _).mp (Keyed.mem_of_mem_collect routeRowHash member)
  exact .inr ⟨row, listed, own, selected, rfl⟩

section Passes

variable (env : Env) (vrf : Vrf) (rows : List RouteRow)

theorem delete_pass_within (idl : List RouteRow) (deletes : Bool) :
    RoutesWithin vrf.name (RouteKeyOf vrf rows)
      (if deletes then (env.order.walk vrf.allRoutes).foldl (deleteOldRoute env idl) vrf else vrf) := by
  have start : RoutesWithin vrf.name (RouteKeyOf vrf rows) vrf := ⟨rfl, fun route member => .inl ⟨route, member, rfl⟩⟩
  split
  · exact Keyed.foldl_keeps (deleteOldRoute env idl) (RoutesWithin vrf.name (RouteKeyOf vrf rows))
      (fun s route _ within => delete_old_route_within env within idl route) start
  · exact start

theorem insert_pass_within (s : Vrf) (inserts : Bool) (within : RoutesWithin vrf.name (RouteKeyOf vrf rows) s) :
    RoutesWithin vrf.name (RouteKeyOf vrf rows)
      (if inserts then (env.order.walk (currentIdlRoutes vrf rows)).foldl (addNewRoute env) s else s) := by
  split
  · exact Keyed.foldl_keeps (addNewRoute env) (RoutesWithin vrf.name (RouteKeyOf vrf rows)) (fun next row member inv =>
      add_new_route_within env inv row (current_idl_routes_key vrf rows row ((env.order.mem_walk _ _).mp member))) within
  · exact within

theorem modify_loop_within (s : Vrf) (within : RoutesWithin vrf.name (RouteKeyOf vrf rows) s) :
    RoutesWithin vrf.name (RouteKeyOf vrf rows) (rows.foldl (checkRouteChange env) s) :=
  Keyed.foldl_keeps (checkRouteChange env) (RoutesWithin vrf.name (RouteKeyOf vrf rows)) (fun _ row member inv =>
    check_route_change_within env inv row (fun own selected => .inr ⟨row, member, own, selected, rfl⟩)) within

theorem check_routes_own (s : Vrf) (within : RoutesWithin vrf.name (RouteKeyOf vrf rows) s) :
    rows.foldl (checkRouteChange env) s = (ownRows vrf.name rows).foldl (checkRouteChange env) s := by
  refine Keyed.foldl_filter (checkRouteChange env) (fun row => decide (vrf.name = row.vrf))
    (RoutesWithin vrf.name (RouteKeyOf vrf rows)) (fun _ row member inv =>
      check_route_change_within env inv row (fun own selected => .inr ⟨row, member, own, selected, rfl⟩)) ?_ within
  intro next row _ inv foreign
  unfold checkRouteChange
  rw [inv.1, foreign]
  rfl

end Passes

theorem reconfigure_routes_own (env : Env) (vrf : Vrf) (action : env.platform.provider.hasL3RouteAction = true) :
    vrfReconfigureRoutes env vrf = routePhases env vrf (ownRows vrf.name env.idl.routes.rows)
      (tableDeletes env.idl.routes) env.idl.routes.anyInserted env.idl.routes.anyModified ∧
    RoutesWithin vrf.name (RouteKeyOf vrf env.idl.routes.rows) (vrfReconfigureRoutes env vrf) := by
  by_cases empty : env.idl.routes.rows = []
  · have walked : env.order.walk ([] : List RouteRow) = [] := (env.order.walk_eq_nil []).mpr rfl
    have deleted : deleteOldRoute env [] = vrfRouteDelete env := rfl
    rw [reconfigure_routes_empty env vrf action empty]
    refine ⟨by simp [routePhases, tableDeletes, empty, ownRows, Keyed.collect, walked, deleted], ?_⟩
    exact deleted ▸ delete_pass_within env vrf env.idl.routes.rows [] true
  · have idl : Keyed.collect routeRowHash ((ownRows vrf.name env.idl.routes.rows).filter vrfIsRouteRowSelected) =
        currentIdlRoutes vrf env.idl.routes.rows := (current_idl_routes_eq vrf env.idl.routes.rows).symm
    have deletes : tableDeletes env.idl.routes = env.idl.routes.anyDeleted := by
      rw [tableDeletes, List.isEmpty_eq_false_iff.mpr empty, Bool.or_false]
    have within := insert_pass_within env vrf env.idl.routes.rows _ env.idl.routes.anyInserted
      (delete_pass_within env vrf env.idl.routes.rows (currentIdlRoutes vrf env.idl.routes.rows) env.idl.routes.anyDeleted)
    have own := check_routes_own env vrf env.idl.routes.rows _ within
    have modified := modify_loop_within env vrf env.idl.routes.rows _ within
    rw [reconfigure_routes_phases env vrf action empty]
    unfold modifyPhase insertPhase deletePhase routePhases
    simp only [idl, deletes]
    refine ⟨by rw [own], ?_⟩
    split
    · exact modified
    · exact within

def deletesRoute (vrf : Vrf) (table : IdlTable RouteRow) : Bool :=
  tableDeletes table && vrf.allRoutes.any (fun route =>
    (Keyed.lookup routeRowHash (vrfRouteHash route.self.from_ route.self.pfx) (currentIdlRoutes vrf table.rows)).isNone)

def insertsRoute (vrf : Vrf) (table : IdlTable RouteRow) : Bool :=
  table.anyInserted && (currentIdlRoutes vrf table.rows).any (fun row => (vrfRouteHashLookup vrf row).isNone)

def modifiesRoute (vrf : Vrf) (table : IdlTable RouteRow) : Bool :=
  table.anyModified && (ownRows vrf.name table.rows).any routeChanged

theorem delete_pass_effective (env : Env) (vrf : Vrf) (idl : List RouteRow) (deletes : Bool) :
    (if deletes then (env.order.walk vrf.allRoutes).foldl (deleteOldRoute env idl) vrf else vrf) =
      if deletes && vrf.allRoutes.any (fun route =>
        (Keyed.lookup routeRowHash (vrfRouteHash route.self.from_ route.self.pfx) idl).isNone) then
        (env.order.walk vrf.allRoutes).foldl (deleteOldRoute env idl) vrf
      else vrf := by
  cases lacking : vrf.allRoutes.any (fun route =>
      (Keyed.lookup routeRowHash (vrfRouteHash route.self.from_ route.self.pfx) idl).isNone) with
  | true => rw [Bool.and_true]
  | false =>
      have nothing : (env.order.walk vrf.allRoutes).foldl (deleteOldRoute env idl) vrf = vrf := by
        refine Keyed.foldl_keeps (deleteOldRoute env idl) (fun s => s = vrf) ?_ rfl
        rintro s route member rfl
        have found := List.any_eq_false.mp lacking route ((env.order.mem_walk _ _).mp member)
        rw [deleteOldRoute, if_pos (by simpa [Option.isSome_iff_ne_none] using found)]
      simp [nothing]

theorem insert_pass_effective (env : Env) (vrf s : Vrf) (idl : List RouteRow) (inserts : Bool)
    (kept : ∀ row ∈ idl, (vrfRouteHashLookup vrf row).isSome → (vrfRouteHashLookup s row).isSome) :
    (if inserts then (env.order.walk idl).foldl (addNewRoute env) s else s) =
      if inserts && idl.any (fun row => (vrfRouteHashLookup vrf row).isNone) then
        (env.order.walk idl).foldl (addNewRoute env) s
      else s := by
  cases missing : idl.any (fun row => (vrfRouteHashLookup vrf row).isNone) with
  | true => rw [Bool.and_true]
  | false =>
      have nothing : (env.order.walk idl).foldl (addNewRoute env) s = s := by
        refine Keyed.foldl_keeps (addNewRoute env) (fun next => next = s) ?_ rfl
        rintro next row member rfl
        have present := (env.order.mem_walk _ _).mp member
        have found := List.any_eq_false.mp missing row present
        rw [addNewRoute, if_pos (kept row present (by simpa [Option.isSome_iff_ne_none] using found))]
      simp [nothing]

theorem modify_pass_effective (env : Env) (s : Vrf) (own : List RouteRow) (modifies : Bool) :
    (if modifies then own.foldl (checkRouteChange env) s else s) =
      if modifies && own.any routeChanged then own.foldl (checkRouteChange env) s else s := by
  cases changed : own.any routeChanged with
  | true => rw [Bool.and_true]
  | false =>
      have nothing : own.foldl (checkRouteChange env) s = s := by
        refine Keyed.foldl_keeps (checkRouteChange env) (fun next => next = s) ?_ rfl
        rintro next row member rfl
        have quiet := List.any_eq_false.mp changed row member
        unfold routeChanged at quiet
        rw [checkRouteChange, if_neg (by rw [Bool.and_assoc]; simp_all)]
      simp [nothing]

theorem delete_pass_keeps_idl (env : Env) (vrf : Vrf) (cache : RouteCache vrf) (idl : List RouteRow) (deletes : Bool)
    (row : RouteRow) (member : row ∈ idl) (found : (vrfRouteHashLookup vrf row).isSome) :
    (vrfRouteHashLookup (if deletes then (env.order.walk vrf.allRoutes).foldl (deleteOldRoute env idl) vrf else vrf) row).isSome := by
  split
  · have view := (delete_phase_routes env vrf.name vrf ⟨cache, rfl⟩ idl).2 (routeRowKey row)
    have hashed : (Keyed.lookup routeRowHash (vrfRouteHash (routeRowKey row).1 (routeRowKey row).2) idl).isSome :=
      (Keyed.lookup_some_iff_exists routeRowHash).mpr ⟨row, member, rfl⟩
    rw [if_pos hashed] at view
    rw [hash_lookup_view, view, ← hash_lookup_view]
    exact found
  · exact found

theorem reconfigure_routes_effective (env : Env) (vrf : Vrf) (cache : RouteCache vrf) :
    vrfReconfigureRoutes env vrf = if env.platform.provider.hasL3RouteAction then
      routePhases env vrf (ownRows vrf.name env.idl.routes.rows) (deletesRoute vrf env.idl.routes) (insertsRoute vrf env.idl.routes)
        (modifiesRoute vrf env.idl.routes) else vrf := by
  split
  · rename_i action
    have idl : Keyed.collect routeRowHash ((ownRows vrf.name env.idl.routes.rows).filter vrfIsRouteRowSelected) =
        currentIdlRoutes vrf env.idl.routes.rows := (current_idl_routes_eq vrf env.idl.routes.rows).symm
    rw [(reconfigure_routes_own env vrf action).1]
    unfold routePhases
    simp only [idl]
    rw [modify_pass_effective, insert_pass_effective env vrf _ _ _
      (fun row member => delete_pass_keeps_idl env vrf cache _ _ row member), delete_pass_effective]
    rfl
  · rename_i action
    rw [vrfReconfigureRoutes, Bool.not_eq_true _ |>.mp action]
    rfl

theorem reconfigure_routes_within (env : Env) (vrf : Vrf) :
    RoutesWithin vrf.name (RouteKeyOf vrf env.idl.routes.rows) (vrfReconfigureRoutes env vrf) := by
  cases action : env.platform.provider.hasL3RouteAction with
  | true => exact (reconfigure_routes_own env vrf action).2
  | false =>
      rw [vrfReconfigureRoutes, action]
      exact ⟨rfl, fun route member => .inl ⟨route, member, rfl⟩⟩

theorem route_phases_blind (env : Env) (nexthops : IdlTable NexthopRow) (vrf : Vrf) (own : List RouteRow)
    (deletes inserts modifies : Bool) :
    SameButStatus (routePhases env vrf own deletes inserts modifies)
      (routePhases (env.withNexthopTable nexthops) vrf own deletes inserts modifies) := by
  have start : SameButStatus vrf vrf := ⟨vrf.nexthopStatus, rfl⟩
  have pass : ∀ (runs : Bool) {a b c d : Vrf}, SameButStatus a b → SameButStatus c d →
      SameButStatus (if runs then a else c) (if runs then b else d) := by
    intro runs a b c d first second
    cases runs
    · exact second
    · exact first
  have deleted := pass deletes (foldl_blind _ _ (fun route _ _ same => delete_old_route_blind env nexthops same
    (Keyed.collect routeRowHash (own.filter vrfIsRouteRowSelected)) route) (env.order.walk vrf.allRoutes) start) start
  have inserted := pass inserts (foldl_blind _ _ (fun row _ _ same => add_new_route_blind env nexthops same row)
    (env.order.walk (Keyed.collect routeRowHash (own.filter vrfIsRouteRowSelected))) deleted) deleted
  exact pass modifies (foldl_blind _ _ (fun row _ _ same => check_route_change_blind env nexthops same row) own inserted) inserted

def reconfigureRoutesAndNexthops (env : Env) (vrf : Vrf) : Vrf :=
  vrfReconfigureNexthops env (vrfReconfigureRoutes env vrf)

def ownRoute (vrf : Vrf) (row : RouteRow) : Bool := decide (vrf.name = row.vrf)

def nexthopTurn (vrf : Vrf) (row : RouteRow) : Bool := isRouteNhRowsModified row && (vrfRouteHashLookup vrf row).isSome

theorem check_route_nexthops_idle (env : Env) (vrf : Vrf) (row : RouteRow) (idle : nexthopTurn vrf row = false) :
    checkRouteNexthops env vrf row = vrf := by
  unfold nexthopTurn at idle
  unfold checkRouteNexthops
  split
  · rename_i modified
    rw [modified, Bool.true_and, ← Bool.not_eq_true, Option.not_isSome_iff_eq_none] at idle
    rw [idle]
  · rfl

def ForeignNexthopsApart (vrf : Vrf) (table : IdlTable RouteRow) : Prop :=
  ∀ row ∈ table.rows, vrf.name ≠ row.vrf → isRouteNhRowsModified row = true → ¬ RouteKeyOf vrf table.rows (routeRowKey row)

instance (vrf : Vrf) (table : IdlTable RouteRow) : Decidable (ForeignNexthopsApart vrf table) :=
  inferInstanceAs (Decidable (∀ row ∈ table.rows, _))

theorem nexthop_loop_quiet (env : Env) (vrf s : Vrf) (table : IdlTable RouteRow) (apart : ForeignNexthopsApart vrf table)
    (within : RoutesWithin vrf.name (RouteKeyOf vrf table.rows) s) :
    Bystander.Quiet (checkRouteNexthops env) (ownRoute vrf) nexthopTurn s table.rows := by
  rw [Bystander.quiet_iff_turns]
  intro before row after split foreign
  have still : RoutesWithin vrf.name (RouteKeyOf vrf table.rows)
      ((before.filter (ownRoute vrf)).foldl (checkRouteNexthops env) s) :=
    Keyed.foldl_keeps (checkRouteNexthops env) (RoutesWithin vrf.name (RouteKeyOf vrf table.rows))
      (fun _ own _ inv => check_route_nexthops_within env inv own) within
  unfold nexthopTurn
  cases modified : isRouteNhRowsModified row with
  | false => rfl
  | true =>
      rw [Bool.true_and, Option.isSome_eq_false_iff, Option.isNone_iff_eq_none, vrfRouteHashLookup, Keyed.lookup_none_iff]
      intro route member same
      exact apart row (by simp [split]) (of_decide_eq_false foreign) modified (same ▸ still.2 route member)

@[mk_iff] structure SameOwnRoutes (vrf : Vrf) (idl other : Idl) : Prop where
  rows : ownRows vrf.name idl.routes.rows = ownRows vrf.name other.routes.rows
  referenced : ∀ row ∈ ownRows vrf.name idl.routes.rows, ∀ nh ∈ row.nexthops, nh ∈ idl.nexthops.rows ∧ nh ∈ other.nexthops.rows
  anyModified : idl.nexthops.anyModified = other.nexthops.anyModified

instance (vrf : Vrf) (idl other : Idl) : Decidable (SameOwnRoutes vrf idl other) :=
  decidable_of_iff _ (sameOwnRoutes_iff vrf idl other).symm

-- The flags of the Route table, which the rows of any VRF set, start no pass
-- that has work in the VRF on one side only; and with changed nexthops about,
-- those of the other VRFs are apart from the routes of the VRF.
@[mk_iff] structure RoutesUndisturbed (vrf : Vrf) (idl other : Idl) : Prop where
  deletes : deletesRoute vrf idl.routes = deletesRoute vrf other.routes
  inserts : insertsRoute vrf idl.routes = insertsRoute vrf other.routes
  modifies : modifiesRoute vrf idl.routes = modifiesRoute vrf other.routes
  left : idl.nexthops.anyModified = true → ForeignNexthopsApart vrf idl.routes
  right : idl.nexthops.anyModified = true → ForeignNexthopsApart vrf other.routes

instance (vrf : Vrf) (idl other : Idl) : Decidable (RoutesUndisturbed vrf idl other) :=
  decidable_of_iff _ (routesUndisturbed_iff vrf idl other).symm

theorem nexthop_loop_own (env : Env) (vrf s : Vrf)
    (referenced : ∀ row ∈ ownRows vrf.name env.idl.routes.rows, ∀ nh ∈ row.nexthops, nh ∈ env.idl.nexthops.rows)
    (apart : env.idl.nexthops.anyModified = true → ForeignNexthopsApart vrf env.idl.routes)
    (within : RoutesWithin vrf.name (RouteKeyOf vrf env.idl.routes.rows) s) :
    vrfReconfigureNexthops env s = if env.idl.nexthops.anyModified then
      (ownRows vrf.name env.idl.routes.rows).foldl (checkRouteNexthops env) s else s := by
  unfold vrfReconfigureNexthops
  by_cases empty : env.idl.nexthops.rows = []
  · have nothing : (ownRows vrf.name env.idl.routes.rows).foldl (checkRouteNexthops env) s = s := by
      refine Keyed.foldl_keeps (checkRouteNexthops env) (fun next => next = s) ?_ rfl
      rintro next row member rfl
      have bare : row.nexthops = [] := by
        rw [List.eq_nil_iff_forall_not_mem]
        intro nh listed
        have present := referenced row member nh listed
        simp [empty] at present
      simp [checkRouteNexthops, isRouteNhRowsModified, bare]
    rw [if_pos empty, nothing, ite_self]
  · rw [if_neg empty]
    split
    · rename_i any
      exact Bystander.foldl_quiet (check_route_nexthops_idle env) (nexthop_loop_quiet env vrf s env.idl.routes (apart any) within)
    · rfl

def RoutesIsolated (env other : Env) (vrf : Vrf) : Prop :=
  (reconfigureRoutesAndNexthops env vrf).allRoutes = (reconfigureRoutesAndNexthops other vrf).allRoutes ∧
  (reconfigureRoutesAndNexthops env vrf).allNexthops = (reconfigureRoutesAndNexthops other vrf).allNexthops ∧
  (reconfigureRoutesAndNexthops env vrf).up.calls = (reconfigureRoutesAndNexthops other vrf).up.calls

def Env.withIdl (env : Env) (idl : Idl) : Env := { env with idl := idl }

theorem reconfigure_routes_blind (env : Env) (other : Idl) (vrf : Vrf) (cache : RouteCache vrf)
    (same : SameOwnRoutes vrf env.idl other) (quiet : RoutesUndisturbed vrf env.idl other) :
    SameButStatus (vrfReconfigureRoutes env vrf) (vrfReconfigureRoutes (env.withIdl other) vrf) := by
  rw [reconfigure_routes_effective env vrf cache, reconfigure_routes_effective (env.withIdl other) vrf cache]
  have phases := route_phases_blind env other.nexthops vrf (ownRows vrf.name env.idl.routes.rows) (deletesRoute vrf env.idl.routes)
    (insertsRoute vrf env.idl.routes) (modifiesRoute vrf env.idl.routes)
  rw [same.rows, quiet.deletes, quiet.inserts, quiet.modifies] at phases ⊢
  have action : (env.withIdl other).platform.provider.hasL3RouteAction = env.platform.provider.hasL3RouteAction := rfl
  rw [action]
  split
  · exact phases
  · exact ⟨vrf.nexthopStatus, rfl⟩

def bgpRouteOf (vrf pfx : String) (uuid : Uuid) (nexthop : NexthopRow) (inserted : Bool) : RouteRow :=
  ⟨uuid, vrf, "BGP", pfx, some "ipv4", some true, [nexthop], inserted, false⟩

def cachedRouteVrf : Vrf :=
  reconfigureRoutesAndNexthops (nexthopEnv ⟨[bgpRouteOf "vrf_default" "10.0.0.0/24" 1 (nexthopOf 11 "1.1.1.1" true true false) true],
    true, false, false⟩ ⟨[nexthopOf 11 "1.1.1.1" true true false], true, false, false⟩) (vrfCreate ⟨"vrf_default", []⟩)

-- A row that another VRF deletes starts the delete pass, which takes a cached
-- route that has lost its row.
example :
    let table := fun anyDeleted => nexthopEnv
      ⟨[bgpRouteOf "vrf_red" "10.1.0.0/24" 2 (nexthopOf 12 "9.9.9.9" true false false) false], false, false, anyDeleted⟩
      ⟨[nexthopOf 12 "9.9.9.9" true false false], false, false, false⟩
    SameOwnRoutes cachedRouteVrf (table true).idl (table false).idl ∧
      (reconfigureRoutesAndNexthops (table true) cachedRouteVrf).allRoutes = [] ∧
      (reconfigureRoutesAndNexthops (table false) cachedRouteVrf).allRoutes = cachedRouteVrf.allRoutes := by
  decide

end OpsSwitchd
