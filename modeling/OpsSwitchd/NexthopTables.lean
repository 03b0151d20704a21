import OpsSwitchd.RouteCache
import OpsSwitchd.Runs

set_option autoImplicit false

namespace OpsSwitchd

-- The route cache with the hash fields of its intrusive nodes. nodeHash and
-- vrfNodeHash are node.hash and vrf_node.hash of the struct nexthop at an
-- address; hmap_insert writes them and a lookup compares with them.
structure NhTables where
  allRoutes : List Route
  allNexthops : List Nexthop
  nextAddr : Nat
  nodeHash : Nat → UInt32
  vrfNodeHash : Nat → UInt32

structure NhTablesWork where
  tables : NhTables
  route : Route

def insertNexthop (hash : String → UInt32) (work : NhTablesWork) (ipAddr portName : Option String) (uuid : Uuid)
    (hashstr : String) : NhTablesWork :=
  let addr := work.tables.nextAddr
  let nh : Nexthop := ⟨addr, ipAddr, portName, work.route.self, uuid⟩
  ⟨{ work.tables with
      nextAddr := addr + 1
      nodeHash := Function.update work.tables.nodeHash addr (hash hashstr)
      allNexthops := if ipAddr.isSome then nh :: work.tables.allNexthops else work.tables.allNexthops
      vrfNodeHash := if ipAddr.isSome then Function.update work.tables.vrfNodeHash addr (hash hashstr)
        else work.tables.vrfNodeHash },
    { work.route with nexthops := nh :: work.route.nexthops }⟩

-- vrf_nexthop_add; a row with neither an IP address nor a port is refused.
def tablesNexthopAdd (hash : String → UInt32) (work : NhTablesWork) (row : NexthopRow) : NhTablesWork :=
  match row.ipAddress with
  | some ipAddress => insertNexthop hash work (some ipAddress) none row.uuid ipAddress
  | none =>
      match row.ports.head? with
      | some portName => insertNexthop hash work none (some portName) row.uuid portName
      | none => work

def tablesNexthopDelete (work : NhTablesWork) (nh : Nexthop) : NhTablesWork :=
  ⟨{ work.tables with
      allNexthops := if nh.ipAddr.isSome then Keyed.remove Nexthop.addr nh.addr work.tables.allNexthops
        else work.tables.allNexthops },
    { work.route with nexthops := Keyed.remove Nexthop.addr nh.addr work.route.nexthops }⟩

def tablesNexthopLookup (hash : String → UInt32) (order : HashOrder) (work : NhTablesWork)
    (ipAddress portName : Option String) : Option Nexthop :=
  (vrfNhHash ipAddress portName).bind (fun hashstr =>
    (order.walk work.route.nexthops).find? (fun nh =>
      decide (work.tables.nodeHash nh.addr = hash hashstr) &&
      (nhSameText nh.ipAddr ipAddress || nhSameText nh.portName portName)))

-- Both branches of vrf_route_add cache every usable nexthop of the row.
def tablesRouteAdd (hash : String → UInt32) (tables : NhTables) (row : RouteRow) : NhTables :=
  let ref : RouteRef := ⟨tables.nextAddr, row.pfx, row.from_, row.addressFamily = some "ipv6"⟩
  let work := row.nexthops.foldl (fun work nh => if nhRowUsable nh then tablesNexthopAdd hash work nh else work)
    ⟨{ tables with nextAddr := tables.nextAddr + 1 }, ⟨ref, [], 0⟩⟩
  { work.tables with allRoutes := { work.route with idlRowUuid := row.uuid } :: work.tables.allRoutes }

def tablesRouteDelete (order : HashOrder) (tables : NhTables) (route : Route) : NhTables :=
  ((order.walk route.nexthops).foldl tablesNexthopDelete
    ⟨{ tables with allRoutes := Keyed.remove routeAddr (routeAddr route) tables.allRoutes }, route⟩).tables

def tablesDeleteOld (row : RouteRow) (work : NhTablesWork) (nh : Nexthop) : NhTablesWork :=
  if nhWanted row nh then work else tablesNexthopDelete work nh

def tablesAddNew (hash : String → UInt32) (order : HashOrder) (work : NhTablesWork) (row : NexthopRow) : NhTablesWork :=
  if (tablesNexthopLookup hash order work row.ipAddress row.ports.head?).isSome then work else tablesNexthopAdd hash work row

def tablesRouteModify (hash : String → UInt32) (order : HashOrder) (tables : NhTables) (route : Route) (row : RouteRow) :
    NhTables :=
  let kept := (order.walk route.nexthops).foldl (tablesDeleteOld row) ⟨tables, route⟩
  let work := (order.walk (currentIdlNhs row)).foldl (tablesAddNew hash order) kept
  { work.tables with
    allRoutes := Keyed.replace routeAddr (routeAddr work.route) (fun _ => work.route) work.tables.allRoutes }

inductive TablesOp where
  | add (row : RouteRow)
  | modify (addr : Nat) (row : RouteRow)
  | delete (addr : Nat)

def tablesStep (hash : String → UInt32) (tables : NhTables) (input : HashOrder × TablesOp) : NhTables :=
  match input.2 with
  | .add row => tablesRouteAdd hash tables row
  | .modify addr row =>
      match Keyed.lookup routeAddr addr tables.allRoutes with
      | some route => tablesRouteModify hash input.1 tables route row
      | none => tables
  | .delete addr =>
      match Keyed.lookup routeAddr addr tables.allRoutes with
      | some route => tablesRouteDelete input.1 tables route
      | none => tables

def emptyTables : NhTables := ⟨[], [], 0, fun _ => 0, fun _ => 0⟩

structure CacheIndexed (hash : String → UInt32) (tables : NhTables) : Prop where
  addrs : Keyed.Unique routeAddr tables.allRoutes
  index : tables.allNexthops.Perm ((cachedNexthops tables.allRoutes).filter (fun nh => nh.ipAddr.isSome))
  owner : ∀ route ∈ tables.allRoutes, ∀ nh ∈ route.nexthops, nh.route = route.self
  exclusive : ∀ nh ∈ cachedNexthops tables.allRoutes, NhExclusive nh
  hashed : ∀ nh ∈ cachedNexthops tables.allRoutes, (nhKey nh).map hash = some (tables.nodeHash nh.addr)
  vrfHashed : ∀ nh ∈ tables.allNexthops, (nhKey nh).map hash = some (tables.vrfNodeHash nh.addr)

structure TablesInv (hash : String → UInt32) (tables : NhTables) (routes : List Route) : Prop where
  addrs : Keyed.Unique routeAddr routes
  bound : ∀ route ∈ routes, routeAddr route < tables.nextAddr
  nexthops : NexthopIndex tables.nextAddr tables.allNexthops routes
  hashed : ∀ nh ∈ cachedNexthops routes, (nhKey nh).map hash = some (tables.nodeHash nh.addr)
  vrfHashed : ∀ nh ∈ tables.allNexthops, (nhKey nh).map hash = some (tables.vrfNodeHash nh.addr)

section Tables

variable (hash : String → UInt32) (order : HashOrder) (work : NhTablesWork) (tables : NhTables)

theorem tables_inv_indexed (inv : TablesInv hash tables tables.allRoutes) :
    CacheIndexed hash tables :=
  ⟨inv.addrs, inv.nexthops.index, inv.nexthops.owner, inv.nexthops.exclusive, inv.hashed, inv.vrfHashed⟩

theorem tables_inv_perm (routes other : List Route) (same : routes.Perm other)
    (inv : TablesInv hash tables routes) : TablesInv hash tables other where
  addrs := Keyed.unique_perm routeAddr same inv.addrs
  bound := fun route member => inv.bound route (same.mem_iff.mpr member)
  nexthops := nexthop_index_perm _ _ _ _ same inv.nexthops
  hashed := fun nh member => inv.hashed nh ((same.flatMap_right _).mem_iff.mpr member)
  vrfHashed := inv.vrfHashed

theorem tables_inv_store (route : Route) (others stored : List Route) (uuid : Uuid)
    (inv : TablesInv hash tables (route :: others)) :
    TablesInv hash { tables with allRoutes := stored } ({ route with idlRowUuid := uuid } :: others) := by
  refine ⟨inv.addrs, ?_, ⟨inv.nexthops.addrs, inv.nexthops.bound, inv.nexthops.exclusive, ?_, inv.nexthops.index⟩,
    inv.hashed, inv.vrfHashed⟩
  · intro other member
    rcases List.mem_cons.mp member with rfl | old
    · exact inv.bound route List.mem_cons_self
    · exact inv.bound other (List.mem_cons_of_mem _ old)
  · intro other member
    rcases List.mem_cons.mp member with rfl | old
    · exact inv.nexthops.owner route List.mem_cons_self
    · exact inv.nexthops.owner other (List.mem_cons_of_mem _ old)

theorem tables_nexthop_add_eq (row : NexthopRow) (key : String) (keyed : nhRowKey row = some key) :
    tablesNexthopAdd hash work row =
      let nh := newNexthop work.route.self work.tables.nextAddr row
      ⟨{ work.tables with
          nextAddr := work.tables.nextAddr + 1
          nodeHash := Function.update work.tables.nodeHash work.tables.nextAddr (hash key)
          allNexthops := [nh].filter (fun nh => nh.ipAddr.isSome) ++ work.tables.allNexthops
          vrfNodeHash := if nh.ipAddr.isSome then
              Function.update work.tables.vrfNodeHash work.tables.nextAddr (hash key) else work.tables.vrfNodeHash },
        { work.route with nexthops := nh :: work.route.nexthops }⟩ := by
  unfold tablesNexthopAdd insertNexthop newNexthop
  cases ip : row.ipAddress with
  | some ipAddress =>
      obtain rfl : ipAddress = key := by simpa [nhRowKey, vrfNhHash, ip] using keyed
      rfl
  | none =>
      have port : row.ports.head? = some key := by simpa [nhRowKey, vrfNhHash, ip] using keyed
      simp [port]

theorem tables_nexthop_add_refused (row : NexthopRow)
    (none_ : nhRowKey row = none) : tablesNexthopAdd hash work row = work := by
  simp only [nhRowKey, vrfNhHash, Option.or_eq_none_iff] at none_
  simp [tablesNexthopAdd, none_.1, none_.2]

theorem tables_nexthop_add_inv (others : List Route) (work : NhTablesWork) (row : NexthopRow)
    (inv : TablesInv hash work.tables (work.route :: others)) :
    TablesInv hash (tablesNexthopAdd hash work row).tables ((tablesNexthopAdd hash work row).route :: others) := by
  cases keyed : nhRowKey row with
  | none => rwa [tables_nexthop_add_refused hash work row keyed]
  | some key =>
      rw [tables_nexthop_add_eq hash work row key keyed]
      dsimp only
      have extended := nexthop_index_extend _ _ _ _ [row] (fun r member => by simp [List.mem_singleton.mp member, keyed])
        inv.nexthops
      have fresh : ∀ nh ∈ cachedNexthops (work.route :: others), nh.addr ≠ work.tables.nextAddr :=
        fun nh member => Nat.ne_of_lt (inv.nexthops.bound nh member)
      have mine : (nhKey (newNexthop work.route.self work.tables.nextAddr row)).map hash = some (hash key) := by
        rw [new_nexthop_key, keyed]
        rfl
      refine ⟨?_, ?_, extended, ?_, ?_⟩
      · exact inv.addrs
      · intro route member
        rcases List.mem_cons.mp member with rfl | old
        · exact Nat.lt_succ_of_lt (inv.bound work.route List.mem_cons_self)
        · exact Nat.lt_succ_of_lt (inv.bound route (List.mem_cons_of_mem _ old))
      · intro nh member
        dsimp only
        rcases List.mem_cons.mp member with rfl | old
        · rw [mine, new_nexthop_addr, Function.update_self]
        · rw [Function.update_of_ne (fresh nh old)]
          exact inv.hashed nh old
      · intro nh member
        dsimp only
        rcases List.mem_append.mp member with new | old
        · obtain ⟨here, ip⟩ := List.mem_filter.mp new
          obtain rfl := List.mem_singleton.mp here
          rw [if_pos ip, mine, new_nexthop_addr, Function.update_self]
        · have cached := (List.mem_filter.mp (inv.nexthops.index.mem_iff.mp old)).1
          split
          · rw [Function.update_of_ne (fresh nh cached)]
            exact inv.vrfHashed nh old
          · exact inv.vrfHashed nh old

theorem tables_delete_fold (nhs : List Nexthop) (work : NhTablesWork) :
    nhs.foldl tablesNexthopDelete work =
      ⟨{ work.tables with
          allNexthops := Keyed.removeAll Nexthop.addr ((nhs.filter (fun nh => nh.ipAddr.isSome)).map Nexthop.addr)
            work.tables.allNexthops },
        { work.route with nexthops := Keyed.removeAll Nexthop.addr (nhs.map Nexthop.addr) work.route.nexthops }⟩ := by
  induction nhs generalizing work with
  | nil => simp [Keyed.removeAll_nil]
  | cons nh rest ih =>
      rw [List.foldl_cons, ih]
      by_cases ip : nh.ipAddr.isSome = true <;> simp [tablesNexthopDelete, ip, Keyed.removeAll_remove]

theorem tables_delete_old_fold (row : RouteRow) (nhs : List Nexthop) (work : NhTablesWork) :
    nhs.foldl (tablesDeleteOld row) work = (nhs.filter (fun nh => !nhWanted row nh)).foldl tablesNexthopDelete work := by
  induction nhs generalizing work with
  | nil => rfl
  | cons nh rest ih =>
      rw [List.foldl_cons, ih]
      cases wanted : nhWanted row nh <;> simp [tablesDeleteOld, wanted]

theorem tables_delete_inv (others : List Route) (nhs : List Nexthop) (work : NhTablesWork)
    (owned : ∀ nh ∈ nhs, nh ∈ work.route.nexthops) (inv : TablesInv hash work.tables (work.route :: others)) :
    TablesInv hash (nhs.foldl tablesNexthopDelete work).tables ((nhs.foldl tablesNexthopDelete work).route :: others) := by
  rw [tables_delete_fold]
  refine ⟨inv.addrs, ?_, nexthop_index_shrink _ _ _ _ nhs owned inv.nexthops, ?_, ?_⟩
  · intro route member
    rcases List.mem_cons.mp member with rfl | old
    · exact inv.bound work.route List.mem_cons_self
    · exact inv.bound route (List.mem_cons_of_mem _ old)
  · intro nh member
    refine inv.hashed nh ?_
    rcases List.mem_append.mp member with mine | other
    · exact List.mem_append_left _ (List.mem_filter.mp mine).1
    · exact List.mem_append_right _ other
  · intro nh member
    exact inv.vrfHashed nh (List.mem_filter.mp member).1

theorem tables_nexthop_add_only (row : NexthopRow) :
    (tablesNexthopAdd hash work row).tables.allRoutes = work.tables.allRoutes ∧
      routeAddr (tablesNexthopAdd hash work row).route = routeAddr work.route := by
  cases keyed : nhRowKey row with
  | none => rw [tables_nexthop_add_refused hash work row keyed]; exact ⟨rfl, rfl⟩
  | some key => rw [tables_nexthop_add_eq hash work row key keyed]; exact ⟨rfl, rfl⟩

structure LoopInv (hash : String → UInt32) (routes others : List Route) (addr : Nat) (work : NhTablesWork) : Prop where
  inv : TablesInv hash work.tables (work.route :: others)
  routes : work.tables.allRoutes = routes
  addr : routeAddr work.route = addr

theorem loop_inv_add (routes others : List Route) (addr : Nat) (work : NhTablesWork)
    (row : NexthopRow) (loop : LoopInv hash routes others addr work) :
    LoopInv hash routes others addr (tablesNexthopAdd hash work row) := by
  obtain ⟨same, here⟩ := tables_nexthop_add_only hash work row
  exact ⟨tables_nexthop_add_inv hash others work row loop.inv, same.trans loop.routes, here.trans loop.addr⟩

theorem tables_route_add_inv (row : RouteRow) (inv : TablesInv hash tables tables.allRoutes) :
    TablesInv hash (tablesRouteAdd hash tables row) (tablesRouteAdd hash tables row).allRoutes := by
  have started : LoopInv hash tables.allRoutes tables.allRoutes tables.nextAddr
      ⟨{ tables with nextAddr := tables.nextAddr + 1 },
        ⟨⟨tables.nextAddr, row.pfx, row.from_, row.addressFamily = some "ipv6"⟩, [], 0⟩⟩ := by
    refine ⟨⟨?_, ?_, ?_, inv.hashed, inv.vrfHashed⟩, rfl, rfl⟩
    · exact Keyed.unique_cons routeAddr inv.addrs (fun route member => Nat.ne_of_lt (inv.bound route member))
    · intro route member
      rcases List.mem_cons.mp member with rfl | old
      · exact Nat.lt_succ_self _
      · exact Nat.lt_succ_of_lt (inv.bound route old)
    · exact nexthop_index_bare _ _ _ _ _ _ (Nat.le_succ _) inv.nexthops
  have step : ∀ work, ∀ nh ∈ row.nexthops, LoopInv hash tables.allRoutes tables.allRoutes tables.nextAddr work →
      LoopInv hash tables.allRoutes tables.allRoutes tables.nextAddr
        (if nhRowUsable nh then tablesNexthopAdd hash work nh else work) := by
    intro work nh _ loop
    split
    · exact loop_inv_add hash _ _ _ work nh loop
    · exact loop
  have filled := Keyed.foldl_keeps _ _ step started
  unfold tablesRouteAdd
  dsimp only
  rw [filled.routes]
  exact tables_inv_store hash _ _ _ _ row.uuid filled.inv

theorem tables_route_delete_inv (route : Route)
    (member : route ∈ tables.allRoutes) (inv : TablesInv hash tables tables.allRoutes) :
    TablesInv hash (tablesRouteDelete order tables route) (tablesRouteDelete order tables route).allRoutes := by
  have split := Keyed.perm_cons_remove routeAddr inv.addrs member
  have opened := tables_inv_perm hash tables _ _ split inv
  have dropped := tables_delete_inv hash _ (order.walk route.nexthops)
    ⟨{ tables with allRoutes := Keyed.remove routeAddr (routeAddr route) tables.allRoutes }, route⟩
    (fun nh present => (order.mem_walk _ _).mp present)
    ⟨opened.addrs, opened.bound, opened.nexthops, opened.hashed, opened.vrfHashed⟩
  have bare : Keyed.removeAll Nexthop.addr ((order.walk route.nexthops).map Nexthop.addr) route.nexthops = [] := by
    apply List.filter_eq_nil_iff.mpr
    intro nh present
    simpa using ⟨nh, present, rfl⟩
  unfold tablesRouteDelete
  rw [tables_delete_fold] at dropped ⊢
  refine ⟨(List.nodup_cons.mp dropped.addrs).2, fun other present => dropped.bound other (List.mem_cons_of_mem _ present),
    nexthop_index_tail _ _ _ _ bare dropped.nexthops, fun nh present => dropped.hashed nh ?_, dropped.vrfHashed⟩
  exact List.mem_append_right _ present

theorem tables_modify_loop (route : Route)
    (row : RouteRow) (member : route ∈ tables.allRoutes) (inv : TablesInv hash tables tables.allRoutes) :
    LoopInv hash tables.allRoutes (Keyed.remove routeAddr (routeAddr route) tables.allRoutes) (routeAddr route)
      ((order.walk (currentIdlNhs row)).foldl (tablesAddNew hash order)
        ((order.walk route.nexthops).foldl (tablesDeleteOld row) ⟨tables, route⟩)) := by
  have split := Keyed.perm_cons_remove routeAddr inv.addrs member
  have kept := tables_delete_inv hash _ ((order.walk route.nexthops).filter (fun nh => !nhWanted row nh)) ⟨tables, route⟩
    (fun nh present => (order.mem_walk _ _).mp (List.mem_filter.mp present).1) (tables_inv_perm hash tables _ _ split inv)
  rw [← tables_delete_old_fold] at kept
  have started : LoopInv hash tables.allRoutes (Keyed.remove routeAddr (routeAddr route) tables.allRoutes) (routeAddr route)
      ((order.walk route.nexthops).foldl (tablesDeleteOld row) ⟨tables, route⟩) := by
    refine ⟨kept, ?_, ?_⟩
    · rw [tables_delete_old_fold, tables_delete_fold]
    · rw [tables_delete_old_fold, tables_delete_fold]
      rfl
  refine Keyed.foldl_keeps (tablesAddNew hash order) _ ?_ started
  intro work nh _ loop
  unfold tablesAddNew
  split
  · exact loop
  · exact loop_inv_add hash _ _ _ work nh loop

theorem tables_route_modify_inv (route : Route)
    (row : RouteRow) (member : route ∈ tables.allRoutes) (inv : TablesInv hash tables tables.allRoutes) :
    TablesInv hash (tablesRouteModify hash order tables route row) (tablesRouteModify hash order tables route row).allRoutes := by
  have filled := tables_modify_loop hash order tables route row member inv
  unfold tablesRouteModify
  dsimp only
  rw [filled.routes, filled.addr]
  have replaced := Keyed.replace_perm routeAddr inv.addrs member (fun _ =>
    ((order.walk (currentIdlNhs row)).foldl (tablesAddNew hash order)
      ((order.walk route.nexthops).foldl (tablesDeleteOld row) ⟨tables, route⟩)).route)
  have stored := tables_inv_perm hash _ _ _ replaced.symm filled.inv
  exact ⟨stored.addrs, stored.bound, stored.nexthops, stored.hashed, stored.vrfHashed⟩

theorem tables_step_inv (input : HashOrder × TablesOp) (inv : TablesInv hash tables tables.allRoutes) :
    TablesInv hash (tablesStep hash tables input) (tablesStep hash tables input).allRoutes := by
  obtain ⟨order, op⟩ := input
  cases op with
  | add row => exact tables_route_add_inv hash tables row inv
  | modify addr row =>
      simp only [tablesStep]
      cases found : Keyed.lookup routeAddr addr tables.allRoutes with
      | none => exact inv
      | some route => exact tables_route_modify_inv hash order tables route row (Keyed.lookup_mem routeAddr found) inv
  | delete addr =>
      simp only [tablesStep]
      cases found : Keyed.lookup routeAddr addr tables.allRoutes with
      | none => exact inv
      | some route => exact tables_route_delete_inv hash order tables route (Keyed.lookup_mem routeAddr found) inv

theorem empty_tables_inv : TablesInv hash emptyTables emptyTables.allRoutes where
  addrs := Keyed.unique_nil routeAddr
  bound := fun _ member => absurd member List.not_mem_nil
  nexthops := { addrs := Keyed.unique_nil Nexthop.addr
                bound := fun _ member => absurd member List.not_mem_nil
                exclusive := fun _ member => absurd member List.not_mem_nil
                owner := fun _ member => absurd member List.not_mem_nil
                index := .refl [] }
  hashed := fun _ member => absurd member List.not_mem_nil
  vrfHashed := fun _ member => absurd member List.not_mem_nil

end Tables

theorem route_cache_stays_indexed (hash : String → UInt32) (inputs : List (HashOrder × TablesOp)) :
    Runs.Always (tablesStep hash) (CacheIndexed hash) emptyTables inputs := by
  refine Runs.always_mono (tables_inv_indexed hash) ?_
  exact Runs.invariant_always (fun tables input inv (_ : True) => tables_step_inv hash tables input inv)
    (empty_tables_inv hash) (fun _ _ _ _ => trivial)

end OpsSwitchd
