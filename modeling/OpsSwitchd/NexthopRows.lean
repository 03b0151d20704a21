import OpsSwitchd.NexthopTables

set_option autoImplicit false

namespace OpsSwitchd

structure VersionedTables where
  tables : NhTables
  current : Nat → Option RouteRow

def versionedStep (hash : String → UInt32) (s : VersionedTables) (input : HashOrder × TablesOp) : VersionedTables where
  tables := tablesStep hash s.tables input
  current := match input.2 with
    | .add row => Function.update s.current s.tables.nextAddr (some row)
    | .modify addr row => Function.update s.current addr (some row)
    | .delete _ => s.current

def noVersions : VersionedTables := ⟨emptyTables, fun _ => none⟩

def BackedBy (row : RouteRow) (nh : Nexthop) : Prop :=
  ∃ nhRow ∈ row.nexthops, vrfIsNhRowSelected nhRow = true ∧ nhRow.uuid = nh.idlRowUuid ∧ nhRowKey nhRow = nhKey nh

def RowsLive (s : VersionedTables) : Prop :=
  ∀ route ∈ s.tables.allRoutes, ∃ row, s.current (routeAddr route) = some row ∧ ∀ nh ∈ route.nexthops, BackedBy row nh

def NoRowReplaced (s : VersionedTables) (input : HashOrder × TablesOp) : Prop :=
  match input.2 with
  | .modify addr row => ∀ route, Keyed.lookup routeAddr addr s.tables.allRoutes = some route →
      ∀ nh ∈ route.nexthops, nhWanted row nh = true → BackedBy row nh
  | _ => True

theorem usable_row_backs (row : RouteRow) (nhRow : NexthopRow) (member : nhRow ∈ usableNhs row) (ref : RouteRef) (addr : Nat) :
    BackedBy row (newNexthop ref addr nhRow) := by
  obtain ⟨listed, usable⟩ := List.mem_filter.mp member
  refine ⟨nhRow, listed, (Bool.and_eq_true_iff.mp usable).1, ?_, (new_nexthop_key ref addr nhRow).symm⟩
  unfold newNexthop
  cases nhRow.ipAddress <;> rfl

theorem tables_add_members (hash : String → UInt32) (work : NhTablesWork) (nhRow : NexthopRow) (nh : Nexthop) :
    nh ∈ (tablesNexthopAdd hash work nhRow).route.nexthops →
      nh ∈ work.route.nexthops ∨ nh = newNexthop work.route.self work.tables.nextAddr nhRow := by
  cases keyed : nhRowKey nhRow with
  | none =>
      rw [tables_nexthop_add_refused hash work nhRow keyed]
      exact Or.inl
  | some key =>
      rw [tables_nexthop_add_eq hash work nhRow key keyed]
      intro member
      rcases List.mem_cons.mp member with new | old
      · exact Or.inr new
      · exact Or.inl old

theorem tables_add_keeps (hash : String → UInt32) (work : NhTablesWork) (nhRow : NexthopRow) (nh : Nexthop)
    (member : nh ∈ work.route.nexthops) : nh ∈ (tablesNexthopAdd hash work nhRow).route.nexthops := by
  cases keyed : nhRowKey nhRow with
  | none => rwa [tables_nexthop_add_refused hash work nhRow keyed]
  | some key =>
      rw [tables_nexthop_add_eq hash work nhRow key keyed]
      exact List.mem_cons_of_mem _ member

theorem tables_kept_members (order : HashOrder) (tables : NhTables) (route : Route) (row : RouteRow)
    (addrs : Keyed.Unique Nexthop.addr route.nexthops) (nh : Nexthop) :
    nh ∈ ((order.walk route.nexthops).foldl (tablesDeleteOld row) ⟨tables, route⟩).route.nexthops ↔
      nh ∈ route.nexthops ∧ nhWanted row nh = true := by
  rw [tables_delete_old_fold, tables_delete_fold]
  simp only [Keyed.removeAll, List.mem_filter, List.mem_map, decide_eq_true_eq, order.mem_walk, Bool.not_eq_true']
  constructor
  · rintro ⟨member, kept⟩
    refine ⟨member, ?_⟩
    by_contra unwanted
    exact kept ⟨nh, ⟨member, by simpa using unwanted⟩, rfl⟩
  · rintro ⟨member, wanted⟩
    refine ⟨member, ?_⟩
    rintro ⟨other, ⟨present, unwanted⟩, same⟩
    obtain rfl := Keyed.unique_mem_eq Nexthop.addr addrs present member same
    rw [wanted] at unwanted
    cases unwanted

theorem modified_nexthops_backed (hash : String → UInt32) (order : HashOrder) (tables : NhTables) (route : Route)
    (row : RouteRow) (addrs : Keyed.Unique Nexthop.addr route.nexthops) :
    let work := (order.walk (currentIdlNhs row)).foldl (tablesAddNew hash order)
      ((order.walk route.nexthops).foldl (tablesDeleteOld row) ⟨tables, route⟩)
    (∀ nh ∈ work.route.nexthops, BackedBy row nh) ↔ ∀ nh ∈ route.nexthops, nhWanted row nh = true → BackedBy row nh := by
  intro work
  have kept := tables_kept_members order tables route row addrs
  have step : ∀ work, ∀ nhRow ∈ order.walk (currentIdlNhs row),
      ((∀ nh ∈ route.nexthops, nhWanted row nh = true → nh ∈ work.route.nexthops) ∧
        ∀ nh ∈ work.route.nexthops, (nh ∈ route.nexthops ∧ nhWanted row nh = true) ∨ BackedBy row nh) →
      ((∀ nh ∈ route.nexthops, nhWanted row nh = true → nh ∈ (tablesAddNew hash order work nhRow).route.nexthops) ∧
        ∀ nh ∈ (tablesAddNew hash order work nhRow).route.nexthops,
          (nh ∈ route.nexthops ∧ nhWanted row nh = true) ∨ BackedBy row nh) := by
    rintro work nhRow member ⟨keeps, only⟩
    unfold tablesAddNew
    split
    · exact ⟨keeps, only⟩
    · refine ⟨fun nh here wanted => tables_add_keeps hash work nhRow nh (keeps nh here wanted), ?_⟩
      intro nh here
      rcases tables_add_members hash work nhRow nh here with old | rfl
      · exact only nh old
      · exact Or.inr (usable_row_backs row nhRow
          (current_idl_nhs_usable row nhRow ((order.mem_walk _ _).mp member)) _ _)
  have started : (∀ nh ∈ route.nexthops, nhWanted row nh = true →
        nh ∈ ((order.walk route.nexthops).foldl (tablesDeleteOld row) ⟨tables, route⟩).route.nexthops) ∧
      ∀ nh ∈ ((order.walk route.nexthops).foldl (tablesDeleteOld row) ⟨tables, route⟩).route.nexthops,
        (nh ∈ route.nexthops ∧ nhWanted row nh = true) ∨ BackedBy row nh :=
    ⟨fun nh here wanted => (kept nh).mpr ⟨here, wanted⟩, fun nh here => Or.inl ((kept nh).mp here)⟩
  obtain ⟨keeps, only⟩ := Keyed.foldl_keeps _ _ step started
  constructor
  · intro all nh here wanted
    exact all nh (keeps nh here wanted)
  · intro all nh here
    rcases only nh here with ⟨old, wanted⟩ | backed
    · exact all nh old wanted
    · exact backed

structure AddLoop (tables : NhTables) (row : RouteRow) (work : NhTablesWork) : Prop where
  routes : work.tables.allRoutes = tables.allRoutes
  addr : routeAddr work.route = tables.nextAddr
  backed : ∀ nh ∈ work.route.nexthops, BackedBy row nh

theorem add_loop_step (hash : String → UInt32) (tables : NhTables) (row : RouteRow) (work : NhTablesWork) (nhRow : NexthopRow)
    (member : nhRow ∈ row.nexthops) (loop : AddLoop tables row work) :
    AddLoop tables row (if nhRowUsable nhRow then tablesNexthopAdd hash work nhRow else work) := by
  by_cases usable : nhRowUsable nhRow = true
  · rw [if_pos usable]
    obtain ⟨same, here⟩ := tables_nexthop_add_only hash work nhRow
    refine ⟨same.trans loop.routes, here.trans loop.addr, ?_⟩
    intro nh present
    rcases tables_add_members hash work nhRow nh present with old | rfl
    · exact loop.backed nh old
    · exact usable_row_backs row nhRow (List.mem_filter.mpr ⟨member, usable⟩) _ _
  · rw [if_neg usable]
    exact loop

theorem added_route_backed (hash : String → UInt32) (tables : NhTables) (row : RouteRow) :
    ∃ route, (tablesRouteAdd hash tables row).allRoutes = route :: tables.allRoutes ∧
      routeAddr route = tables.nextAddr ∧ ∀ nh ∈ route.nexthops, BackedBy row nh := by
  have started : AddLoop tables row ⟨{ tables with nextAddr := tables.nextAddr + 1 },
      ⟨⟨tables.nextAddr, row.pfx, row.from_, row.addressFamily = some "ipv6"⟩, [], 0⟩⟩ :=
    ⟨rfl, rfl, fun _ member => absurd member List.not_mem_nil⟩
  have loop := Keyed.foldl_keeps _ _ (fun work nhRow member => add_loop_step hash tables row work nhRow member) started
  exact ⟨_, congrArg (_ :: ·) loop.routes, loop.addr, loop.backed⟩

theorem modified_routes (hash : String → UInt32) (order : HashOrder) (tables : NhTables) (route : Route) (row : RouteRow)
    (member : route ∈ tables.allRoutes) (inv : TablesInv hash tables tables.allRoutes) :
    (tablesRouteModify hash order tables route row).allRoutes =
      Keyed.replace routeAddr (routeAddr route) (fun _ => ((order.walk (currentIdlNhs row)).foldl (tablesAddNew hash order)
        ((order.walk route.nexthops).foldl (tablesDeleteOld row) ⟨tables, route⟩)).route) tables.allRoutes ∧
    routeAddr ((order.walk (currentIdlNhs row)).foldl (tablesAddNew hash order)
      ((order.walk route.nexthops).foldl (tablesDeleteOld row) ⟨tables, route⟩)).route = routeAddr route := by
  have filled := tables_modify_loop hash order tables route row member inv
  refine ⟨?_, filled.addr⟩
  unfold tablesRouteModify
  dsimp only
  rw [filled.routes, filled.addr]

theorem versioned_step_iff (hash : String → UInt32) (s : VersionedTables) (input : HashOrder × TablesOp)
    (inv : TablesInv hash s.tables s.tables.allRoutes) (live : RowsLive s) :
    RowsLive (versionedStep hash s input) ↔ NoRowReplaced s input := by
  obtain ⟨order, op⟩ := input
  cases op with
  | add row =>
      refine ⟨fun _ => trivial, fun _ => ?_⟩
      obtain ⟨added, routes, addr, backed⟩ := added_route_backed hash s.tables row
      intro route member
      have listed : route ∈ added :: s.tables.allRoutes := routes ▸ member
      dsimp only [versionedStep]
      rcases List.mem_cons.mp listed with rfl | old
      · exact ⟨row, by rw [addr, Function.update_self], backed⟩
      · rw [Function.update_of_ne (Nat.ne_of_lt (inv.bound route old))]
        exact live route old
  | modify addr row =>
      cases found : Keyed.lookup routeAddr addr s.tables.allRoutes with
      | none =>
          have absent := (Keyed.lookup_none_iff routeAddr).mp found
          have tablesSame : (versionedStep hash s (order, .modify addr row)).tables = s.tables := by
            simp [versionedStep, tablesStep, found]
          refine ⟨fun _ route here => ?_, fun _ route member => ?_⟩
          · rw [found] at here
            cases here
          · rw [tablesSame] at member
            dsimp only [versionedStep]
            rw [Function.update_of_ne (absent route member)]
            exact live route member
      | some route =>
          have cached := Keyed.lookup_mem routeAddr found
          obtain rfl := Keyed.lookup_key routeAddr found
          obtain ⟨routes, same⟩ := modified_routes hash order s.tables route row cached inv
          have stepped : (versionedStep hash s (order, .modify (routeAddr route) row)).tables.allRoutes =
              (tablesRouteModify hash order s.tables route row).allRoutes := by
            simp only [versionedStep, tablesStep, found]
          have backed := modified_nexthops_backed hash order s.tables route row
            (nexthop_index_route_addrs _ _ _ inv.nexthops route cached)
          have condition : NoRowReplaced s (order, .modify (routeAddr route) row) ↔
              ∀ nh ∈ route.nexthops, nhWanted row nh = true → BackedBy row nh := by
            simp [NoRowReplaced, found]
          refine Iff.trans ?_ (backed.trans condition.symm)
          unfold RowsLive
          rw [stepped, routes]
          constructor
          · intro all
            obtain ⟨current, updated, now⟩ := all _ ((Keyed.mem_replace routeAddr).mpr (Or.inr ⟨route, cached, rfl, rfl⟩))
            dsimp only [versionedStep] at updated
            rw [same, Function.update_self, Option.some.injEq] at updated
            exact updated ▸ now
          · intro all other member
            dsimp only [versionedStep]
            rcases (Keyed.mem_replace routeAddr).mp member with ⟨old, different⟩ | ⟨_, _, _, rfl⟩
            · rw [Function.update_of_ne different]
              exact live other old
            · exact ⟨row, by rw [same, Function.update_self], all⟩
  | delete addr =>
      refine ⟨fun _ => trivial, fun _ route member => live route ?_⟩
      simp only [versionedStep, tablesStep] at member
      split at member
      · rw [tablesRouteDelete, tables_delete_fold] at member
        exact ((Keyed.mem_remove routeAddr).mp member).1
      · exact member

structure VersionedInv (hash : String → UInt32) (s : VersionedTables) : Prop where
  tables : TablesInv hash s.tables s.tables.allRoutes
  live : RowsLive s

theorem cached_rows_live_iff (hash : String → UInt32) (inputs : List (HashOrder × TablesOp)) :
    Runs.Always (versionedStep hash) RowsLive noVersions inputs ↔ Runs.Along (versionedStep hash) NoRowReplaced noVersions inputs := by
  refine Runs.always_iff_along (fun s (inv : VersionedInv hash s) => inv.live)
    (fun s input inv (_ : True) kept => ⟨tables_step_inv hash s.tables input inv.tables,
      (versioned_step_iff hash s input inv.tables inv.live).mpr kept⟩)
    (fun s input inv _ live => (versioned_step_iff hash s input inv.tables inv.live).mp live) ?_ (fun _ _ _ _ => trivial)
  exact ⟨empty_tables_inv hash, fun route member => absurd member List.not_mem_nil⟩

def versionRow (nhUuid : Uuid) : RouteRow :=
  ⟨1, "red", "static", "10.0.0.0/8", none, some true, [⟨nhUuid, some "10.0.0.1", [], none, [], true, true⟩], true, true⟩

-- The nexthop row is replaced by another one with the same address: the cached
-- nexthop keeps the UUID of the row that is gone.
theorem replaced_row_leaves_old_uuid : ¬ ∀ inputs, Runs.Always (versionedStep (fun _ => 0)) RowsLive noVersions inputs := by
  intro all
  obtain ⟨row, current, live⟩ := all [(HashOrder.listed, .add (versionRow 7)), (HashOrder.listed, .modify 0 (versionRow 8))]
    _ [] (List.append_nil _).symm ⟨⟨0, "10.0.0.0/8", "static", false⟩,
      [⟨1, some "10.0.0.1", none, ⟨0, "10.0.0.0/8", "static", false⟩, 7⟩], 1⟩ (by decide)
  obtain rfl : versionRow 8 = row := Option.some.inj current
  obtain ⟨nhRow, member, _, uuid, _⟩ := live _ List.mem_cons_self
  obtain rfl := List.mem_singleton.mp member
  exact absurd uuid (by decide)

end OpsSwitchd
