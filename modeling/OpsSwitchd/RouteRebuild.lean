import OpsSwitchd.RouteBatch

set_option autoImplicit false

namespace OpsSwitchd

structure RebuildState extends RouteState where
  nexthops : List NexthopRow

def rebuildStep (state : RebuildState) (env : Env) : RebuildState :=
  ⟨⟨vrfReconfigureNexthops env (vrfReconfigureRoutes env state.vrf), env.idl.routes.rows⟩, env.idl.nexthops.rows⟩

abbrev nexthopRowSame (prior row : NexthopRow) : Prop :=
  prior.ipAddress = row.ipAddress ∧ prior.ports = row.ports ∧ prior.selected = row.selected ∧ prior.status = row.status

@[mk_iff] structure RebuildValid (state : RebuildState) (env : Env) : Prop where
  batch : RouteBatchValid state.toRouteState env
  uuids : Keyed.Unique NexthopRow.uuid env.idl.nexthops.rows
  tracks : Tracks NexthopRow.uuid NexthopRow.inserted NexthopRow.modified nexthopRowSame state.nexthops env.idl.nexthops
  refs : ∀ row ∈ env.idl.routes.rows, ∀ nh ∈ row.nexthops, nh ∈ env.idl.nexthops.rows

instance (state : RebuildState) (env : Env) : Decidable (RebuildValid state env) :=
  decidable_of_iff _ (rebuildValid_iff state env).symm

def CacheRebuilt (state : RebuildState) : Prop :=
  Keyed.Unique routeKey state.vrf.allRoutes ∧
    ∀ key, routeView state.vrf key = (wantedRow state.vrf.name state.rows key).map rowNhKeys

-- The rows that the nexthop loop gives to the route cached under a key; the
-- rows of other VRFs are among them.
def nexthopTurns (env : Env) (key : String × String) : List RouteRow :=
  if !env.idl.nexthops.rows.isEmpty && env.idl.nexthops.anyModified then
    env.idl.routes.rows.filter (fun row => routeRowKey row = key && isRouteNhRowsModified row)
  else []

def RebuildSafe (state : RebuildState) (env : Env) : Prop :=
  ∀ row ∈ selectedRows state.vrf.name env.idl.routes.rows,
    (∀ last ∈ (nexthopTurns env (routeRowKey row)).getLast?, rowNhKeys last = rowNhKeys row) ∧
    ((nexthopTurns env (routeRowKey row)).getLast? = none → row.inserted = true →
      ∀ route ∈ state.vrf.allRoutes, routeKey route = routeRowKey row → routeNhKeys route = rowNhKeys row)

instance (state : RebuildState) (env : Env) : Decidable (RebuildSafe state env) := by
  unfold RebuildSafe
  infer_instance

theorem check_route_nexthops_keeps (env : Env) (name : String) (vrf : Vrf) (row : RouteRow)
    (apart : ∀ nh ∈ usableNhs row, NhRowApart env nh) (valid : RouteCacheOf name vrf) :
    RouteCacheOf name (checkRouteNexthops env vrf row) := by
  unfold checkRouteNexthops
  split
  · cases found : vrfRouteHashLookup vrf row with
    | none => exact valid
    | some route =>
        have member := (hash_lookup_member vrf row route found).1
        exact ⟨route_cache_modify env vrf route row apart member valid.cache,
          (routed_name _ _ _ (route_modify_routed env vrf route row)).trans valid.name⟩
  · exact valid

theorem check_route_nexthops_view (env : Env) (vrf : Vrf) (row : RouteRow) (cache : RouteCache vrf)
    (apart : ∀ nh ∈ usableNhs row, NhRowApart env nh) (key : String × String) :
    routeView (checkRouteNexthops env vrf row) key =
      if routeRowKey row = key && isRouteNhRowsModified row then (routeView vrf key).map (fun _ => rowNhKeys row)
      else routeView vrf key := by
  unfold checkRouteNexthops
  cases isRouteNhRowsModified row with
  | false => simp
  | true =>
      cases found : vrfRouteHashLookup vrf row with
      | none =>
          have absent : routeView vrf (routeRowKey row) = none := congrArg (Option.map routeNhKeys) found
          by_cases here : routeRowKey row = key
          · subst here
            simp [absent]
          · simp [here]
      | some route =>
          obtain ⟨member, same⟩ := hash_lookup_member vrf row route found
          have cached : routeView vrf (routeRowKey row) = some (routeNhKeys route) := congrArg (Option.map routeNhKeys) found
          have view := route_modify_view env vrf route row cache member apart key
          by_cases here : routeRowKey row = key
          · subst here
            simp [view, same, cached]
          · simp [view, same, here, Ne.symm here]

theorem nexthop_loop_view (env : Env) (name : String) (rows : List RouteRow) (apart : RowsApart env rows) (vrf : Vrf)
    (valid : RouteCacheOf name vrf) (key : String × String) :
    routeView (rows.foldl (checkRouteNexthops env) vrf) key = (routeView vrf key).map (fun old =>
      ((rows.filter (fun row => routeRowKey row = key && isRouteNhRowsModified row)).getLast?.map rowNhKeys).getD old) := by
  induction rows generalizing vrf with
  | nil => simp
  | cons row rest ih =>
      have here := check_route_nexthops_view env vrf row valid.cache (apart row (by simp)) key
      have kept := check_route_nexthops_keeps env name vrf row (apart row (by simp)) valid
      rw [List.foldl_cons, ih (fun other member => apart other (by simp [member])) _ kept, here, List.filter_cons]
      split
      · rw [List.getLast?_cons, Option.map_map]
        congr 1
        funext old
        cases (rest.filter (fun row => routeRowKey row = key && isRouteNhRowsModified row)).getLast? <;> rfl
      · rfl

theorem reconfigure_nexthops_view (env : Env) (name : String) (vrf : Vrf) (valid : RouteCacheOf name vrf)
    (apart : RowsApart env env.idl.routes.rows) :
    RouteCacheOf name (vrfReconfigureNexthops env vrf) ∧ ∀ key, routeView (vrfReconfigureNexthops env vrf) key =
      (routeView vrf key).map (fun old => ((nexthopTurns env key).getLast?.map rowNhKeys).getD old) := by
  unfold vrfReconfigureNexthops nexthopTurns
  by_cases empty : env.idl.nexthops.rows = []
  · simp [empty, valid]
  · cases env.idl.nexthops.anyModified with
    | false => simp [empty, valid]
    | true =>
        have some_ : env.idl.nexthops.rows.isEmpty = false := List.isEmpty_eq_false_iff.mpr empty
        simp only [empty, some_, if_false, if_true, Bool.not_false, Bool.and_self]
        exact ⟨Keyed.foldl_keeps (checkRouteNexthops env) (RouteCacheOf name)
          (fun s row member => check_route_nexthops_keeps env name s row (apart row member)) valid,
          nexthop_loop_view env name _ apart vrf valid⟩

structure RebuildInv (state : RebuildState) : Prop where
  cache : RouteCache state.vrf
  uuids : Keyed.Unique RouteRow.uuid state.rows
  keys : Keyed.Unique routeRowKey (ownRows state.vrf.name state.rows)
  nhUuids : Keyed.Unique NexthopRow.uuid state.nexthops
  refs : ∀ row ∈ state.rows, ∀ nh ∈ row.nexthops, nh ∈ state.nexthops
  rebuilt : CacheRebuilt state

theorem usable_keys_congr (prior row : List NexthopRow) (uuids : prior.map NexthopRow.uuid = row.map NexthopRow.uuid)
    (same : ∀ p ∈ prior, ∀ n ∈ row, p.uuid = n.uuid → nexthopRowSame p n) :
    (prior.filter nhRowUsable).map nhRowKey = (row.filter nhRowUsable).map nhRowKey := by
  induction prior generalizing row with
  | nil => rw [List.map_eq_nil_iff.mp uuids.symm]
  | cons p prior ih =>
      cases row with
      | nil => cases uuids
      | cons n row =>
          obtain ⟨first, rest⟩ := List.cons.inj uuids
          obtain ⟨ip, ports, selected, _⟩ := same p (by simp) n (by simp) first
          have key : nhRowKey p = nhRowKey n := by rw [nhRowKey, ip, ports, ← nhRowKey]
          have usable : nhRowUsable p = nhRowUsable n := by
            rw [nhRowUsable, vrfIsNhRowSelected, selected, key, ← vrfIsNhRowSelected, ← nhRowUsable]
          have tail := ih row rest (fun p' left n' right => same p' (by simp [left]) n' (by simp [right]))
          rw [List.filter_cons, List.filter_cons, usable]
          split
          · rw [List.map_cons, List.map_cons, key, tail]
          · exact tail

theorem unchanged_row_keys (state : RebuildState) (env : Env) (inv : RebuildInv state) (valid : RebuildValid state env)
    (row : RouteRow) (member : row ∈ env.idl.routes.rows) (quiet : isRouteNhRowsModified row = false)
    (prior : RouteRow) (old : prior ∈ state.rows) (same : routeRowSame prior row) : rowNhKeys prior = rowNhKeys row := by
  unfold rowNhKeys usableNhs
  rw [usable_keys_congr prior.nexthops row.nexthops same.2]
  intro p left n right equal
  have pOld := inv.refs prior old p left
  have nNow := valid.refs row member n right
  have notInserted : n.inserted = false := by
    rw [Bool.eq_false_iff]
    intro inserted
    exact (valid.tracks.inserted_iff n nNow).mp inserted p pOld equal
  have unmodified : ¬ n.modified = true := by
    intro modified
    have turned : isRouteNhRowsModified row = true :=
      List.any_eq_true.mpr ⟨n, right, by simp [modified, notInserted]⟩
    rw [quiet] at turned
    cases turned
  rw [valid.tracks.modified_iff n nNow notInserted] at unmodified
  push Not at unmodified
  obtain ⟨q, qOld, qSame, kept⟩ := unmodified
  rwa [Keyed.unique_mem_eq NexthopRow.uuid inv.nhUuids pOld qOld (equal.trans qSame.symm)]

theorem no_turn_quiet (state : RebuildState) (env : Env) (valid : RebuildValid state env) (row : RouteRow)
    (member : row ∈ env.idl.routes.rows) (none_ : (nexthopTurns env (routeRowKey row)).getLast? = none) :
    isRouteNhRowsModified row = false := by
  rw [Bool.eq_false_iff]
  intro turned
  obtain ⟨nh, present, changed⟩ := List.any_eq_true.mp turned
  have stored := valid.refs row member nh present
  have modified : env.idl.nexthops.anyModified = true :=
    valid.tracks.any_modified nh stored (Bool.and_eq_true_iff.mp changed).1
  have some_ : env.idl.nexthops.rows.isEmpty = false := by
    rw [List.isEmpty_eq_false_iff]
    exact List.ne_nil_of_mem stored
  rw [List.getLast?_eq_none_iff, nexthopTurns, modified, some_, if_pos (by rfl), List.filter_eq_nil_iff] at none_
  exact none_ row member (by simp [turned])

theorem cached_selected (state : RebuildState) (rebuilt : CacheRebuilt state) : CachedSelected state.toRouteState := by
  intro key
  rw [rebuilt.2 key, Option.isSome_map, wantedRow, Keyed.lookup_some_iff_exists]

def rebuiltKeys (state : RebuildState) (env : Env) (row : RouteRow) : Finset (Option String) :=
  match (nexthopTurns env (routeRowKey row)).getLast? with
  | some last => rowNhKeys last
  | none => if row.inserted then (routeView state.vrf (routeRowKey row)).getD (rowNhKeys row) else rowNhKeys row

theorem routes_view_selected (state : RebuildState) (env : Env) (inv : RebuildInv state) (valid : RebuildValid state env)
    (row : RouteRow) (now : row ∈ selectedRows state.vrf.name env.idl.routes.rows)
    (quiet : isRouteNhRowsModified row = false) :
    routeViewAfter env.idl.routes (some row) (routeView state.vrf (routeRowKey row)) =
      some (if row.inserted then (routeView state.vrf (routeRowKey row)).getD (rowNhKeys row) else rowNhKeys row) := by
  obtain ⟨member, own, selected⟩ := (selected_rows_mem _ _ _).mp now
  have tracks := valid.batch.tracks
  rw [view_after_selected _ row selected]
  cases inserted : row.inserted with
  | true =>
      have any := tracks.any_inserted row member inserted
      simp [routeChanged, inserted, any]
  | false =>
      cases modified : row.modified with
      | true => simp [routeChanged, inserted, modified, tracks.any_modified row member modified]
      | false =>
          have unmodified : ¬ row.modified = true := by simp [modified]
          rw [tracks.modified_iff row member inserted] at unmodified
          push Not at unmodified
          obtain ⟨prior, old, sameUuid, same⟩ := unmodified
          obtain ⟨vrfSame, keySame⟩ := valid.batch.fixed row member prior old sameUuid
          have priorSelected : vrfIsRouteRowSelected prior = true := by
            rw [vrfIsRouteRowSelected, same.1, ← vrfIsRouteRowSelected, selected]
          have wanted : wantedRow state.vrf.name state.rows (routeRowKey row) = some prior :=
            (wanted_row_some_iff _ _ inv.keys _ _).mpr ⟨⟨old, own.trans vrfSame.symm, priorSelected⟩, keySame⟩
          have kept := unchanged_row_keys state env inv valid row member quiet prior old same
          rw [inv.rebuilt.2, wanted, Option.map_some, kept]
          simp [routeChanged, modified]

theorem rebuild_step_view (state : RebuildState) (env : Env) (inv : RebuildInv state) (valid : RebuildValid state env) :
    RouteCacheOf state.vrf.name (rebuildStep state env).vrf ∧ ∀ key, routeView (rebuildStep state env).vrf key =
      (wantedRow state.vrf.name env.idl.routes.rows key).map (rebuiltKeys state env) := by
  have batch := valid.batch
  have cached := cached_selected state inv.rebuilt
  have hashes := batch_hashes_apart state.toRouteState env batch cached inv.cache.keys
  obtain ⟨routesKept, routesView⟩ := reconfigure_routes_view env state.vrf.name state.vrf ⟨inv.cache, rfl⟩ batch.action
    batch.apart batch.keys hashes
  obtain ⟨kept, view⟩ := reconfigure_nexthops_view env state.vrf.name _ routesKept batch.apart
  refine ⟨kept, ?_⟩
  intro key
  have selected := route_view_after_selected state.toRouteState env batch inv.uuids cached key
  change routeView (vrfReconfigureNexthops env (vrfReconfigureRoutes env state.vrf)) key = _
  rw [view key, routesView key]
  cases wanted : wantedRow state.vrf.name env.idl.routes.rows key with
  | none =>
      have absent : routeViewAfter env.idl.routes (ownRow state.vrf.name env.idl.routes.rows key) (routeView state.vrf key) = none := by
        rw [← Option.not_isSome_iff_eq_none, selected]
        rintro ⟨row, now, same⟩
        exact (Keyed.lookup_none_iff routeRowKey).mp wanted row now same
      rw [absent]
      rfl
  | some row =>
      obtain ⟨⟨member, own, isSelected⟩, same⟩ := (wanted_row_some_iff _ _ batch.keys _ _).mp wanted
      subst same
      have now : row ∈ selectedRows state.vrf.name env.idl.routes.rows :=
        (selected_rows_mem _ _ _).mpr ⟨member, own, isSelected⟩
      have here : ownRow state.vrf.name env.idl.routes.rows (routeRowKey row) = some row :=
        Keyed.lookup_of_mem routeRowKey batch.keys ((own_rows_mem _ _ _).mpr ⟨member, own⟩)
      rw [here] at selected ⊢
      unfold rebuiltKeys
      cases turns : (nexthopTurns env (routeRowKey row)).getLast? with
      | some last =>
          obtain ⟨keys, present⟩ := Option.isSome_iff_exists.mp (selected.mpr ⟨row, now, rfl⟩)
          simp [present, turns]
      | none =>
          have quiet := no_turn_quiet state env valid row member turns
          rw [routes_view_selected state env inv valid row now quiet]
          simp [turns]

theorem rebuilt_keys_iff (state : RebuildState) (env : Env) (unique : Keyed.Unique routeKey state.vrf.allRoutes) :
    RebuildSafe state env ↔
      ∀ row ∈ selectedRows state.vrf.name env.idl.routes.rows, rebuiltKeys state env row = rowNhKeys row := by
  refine forall₂_congr (fun row _ => ?_)
  unfold rebuiltKeys
  cases (nexthopTurns env (routeRowKey row)).getLast? with
  | some last => simp
  | none =>
      cases row.inserted with
      | false => simp
      | true =>
          have cached : (∀ route ∈ state.vrf.allRoutes, routeKey route = routeRowKey row → routeNhKeys route = rowNhKeys row) ↔
              (routeView state.vrf (routeRowKey row)).getD (rowNhKeys row) = rowNhKeys row := by
            unfold routeView
            cases found : Keyed.lookup routeKey (routeRowKey row) state.vrf.allRoutes with
            | none =>
                have absent := (Keyed.lookup_none_iff routeKey).mp found
                simp only [Option.map_none, Option.getD_none, iff_true]
                exact fun route member same => absurd same (absent route member)
            | some stored =>
                have member := Keyed.lookup_mem routeKey found
                have same := Keyed.lookup_key routeKey found
                simp only [Option.map_some, Option.getD_some]
                constructor
                · intro all
                  exact all stored member same
                · intro equal route present key
                  rwa [Keyed.unique_mem_eq routeKey unique present member (key.trans same.symm)]
          simpa using cached

theorem rebuild_step_rebuilt_iff (state : RebuildState) (env : Env) (inv : RebuildInv state) (valid : RebuildValid state env) :
    CacheRebuilt (rebuildStep state env) ↔ RebuildSafe state env := by
  obtain ⟨kept, view⟩ := rebuild_step_view state env inv valid
  have keys := valid.batch.keys
  rw [rebuilt_keys_iff state env inv.cache.keys]
  constructor
  · rintro ⟨_, rebuilt⟩ row now
    have wanted : wantedRow state.vrf.name env.idl.routes.rows (routeRowKey row) = some row :=
      Keyed.lookup_of_mem routeRowKey (selected_rows_keys _ _ keys) now
    have same := (view (routeRowKey row)).symm.trans (rebuilt (routeRowKey row))
    rw [kept.name] at same
    change _ = (wantedRow state.vrf.name env.idl.routes.rows (routeRowKey row)).map rowNhKeys at same
    rw [wanted] at same
    exact Option.some.inj same
  · intro safe
    refine ⟨kept.cache.keys, ?_⟩
    intro key
    rw [view key, kept.name]
    change _ = (wantedRow state.vrf.name env.idl.routes.rows key).map rowNhKeys
    cases wanted : wantedRow state.vrf.name env.idl.routes.rows key with
    | none => rfl
    | some row =>
        rw [Option.map_some, Option.map_some, safe row (Keyed.lookup_mem routeRowKey wanted)]

theorem rebuild_step_keeps (state : RebuildState) (env : Env) (inv : RebuildInv state) (valid : RebuildValid state env)
    (safe : RebuildSafe state env) : RebuildInv (rebuildStep state env) := by
  obtain ⟨kept, _⟩ := rebuild_step_view state env inv valid
  refine ⟨kept.cache, valid.batch.uuids, ?_, valid.uuids, valid.refs, (rebuild_step_rebuilt_iff state env inv valid).mpr safe⟩
  rw [kept.name]
  exact valid.batch.keys

def rebuildStart (row : VrfRow) : RebuildState := ⟨⟨vrfCreate row, []⟩, []⟩

theorem rebuild_start_inv (row : VrfRow) : RebuildInv (rebuildStart row) where
  cache := route_cache_start row
  uuids := Keyed.unique_nil RouteRow.uuid
  keys := Keyed.unique_nil routeRowKey
  nhUuids := Keyed.unique_nil NexthopRow.uuid
  refs := fun _ member => nomatch member
  rebuilt := ⟨Keyed.unique_nil routeKey, fun _ => rfl⟩

theorem cache_rebuilt_iff_safe (row : VrfRow) (envs : List Env)
    (valid : Runs.Along rebuildStep RebuildValid (rebuildStart row) envs) :
    Runs.Always rebuildStep CacheRebuilt (rebuildStart row) envs ↔
      Runs.Along rebuildStep RebuildSafe (rebuildStart row) envs :=
  Runs.always_iff_along (fun _ inv => inv.rebuilt) rebuild_step_keeps
    (fun state env inv valid => (rebuild_step_rebuilt_iff state env inv valid).mp) (rebuild_start_inv row) valid

def nexthopEnv (routes : IdlTable RouteRow) (nexthops : IdlTable NexthopRow) : Env where
  platform := plainPlatform
  order := HashOrder.listed
  idl := ⟨routes, nexthops, ⟨[], false, false, false⟩⟩

def nexthopOf (uuid : Uuid) (ip : String) (selected inserted modified : Bool) : NexthopRow :=
  ⟨uuid, some ip, [], some selected, [], inserted, modified⟩

def bgpRoute (uuid : Uuid) (nexthops : List NexthopRow) (inserted : Bool) : RouteRow :=
  ⟨uuid, "vrf_default", "BGP", "10.0.0.0/24", some "ipv4", some true, nexthops, inserted, false⟩

theorem unselected_nexthop_rebuilt :
    let first := [nexthopOf 11 "1.1.1.1" true true false, nexthopOf 12 "2.2.2.2" true true false]
    let second := [nexthopOf 11 "1.1.1.1" true false false, nexthopOf 12 "2.2.2.2" false false true]
    Runs.Always rebuildStep CacheRebuilt (rebuildStart ⟨"vrf_default", []⟩)
      [nexthopEnv ⟨[bgpRoute 1 first true], true, false, false⟩ ⟨first, true, false, false⟩,
       nexthopEnv ⟨[bgpRoute 1 second false], false, false, false⟩ ⟨second, false, true, false⟩] := by
  intro first second
  refine (cache_rebuilt_iff_safe ⟨"vrf_default", []⟩ _ ?_).mpr ?_
  · simp only [Runs.along_cons, Runs.along_nil, and_true]
    decide
  · simp only [Runs.along_cons, Runs.along_nil, and_true]
    decide

-- The key survives the replacement, so no phase looks at the new row.
theorem replaced_route_keeps_nexthops :
    let first := [nexthopOf 11 "1.1.1.1" true true false]
    let second := [nexthopOf 12 "2.2.2.2" true true false]
    let envs := [nexthopEnv ⟨[bgpRoute 1 first true], true, false, false⟩ ⟨first, true, false, false⟩,
      nexthopEnv ⟨[bgpRoute 2 second true], true, false, true⟩ ⟨second, true, false, true⟩]
    Runs.Along rebuildStep RebuildValid (rebuildStart ⟨"vrf_default", []⟩) envs ∧
      ¬ CacheRebuilt (Runs.run rebuildStep (rebuildStart ⟨"vrf_default", []⟩) envs) := by
  intro first second envs
  refine ⟨?_, ?_⟩
  · simp only [envs, Runs.along_cons, Runs.along_nil, and_true]
    decide
  · rintro ⟨_, rebuilt⟩
    exact absurd (rebuilt ("BGP", "10.0.0.0/24")) (by decide)

end OpsSwitchd
