import OpsSwitchd.RouteLoops
import OpsSwitchd.Runs

set_option autoImplicit false

namespace OpsSwitchd

structure RouteState where
  vrf : Vrf
  rows : List RouteRow

abbrev routeRowSame (prior row : RouteRow) : Prop :=
  prior.selected = row.selected ∧ prior.nexthops.map NexthopRow.uuid = row.nexthops.map NexthopRow.uuid

-- Two rows may only share a hash string when they share the key; this holds
-- when no string is truncated and no from contains a colon.
@[mk_iff] structure RouteBatchValid (state : RouteState) (env : Env) : Prop where
  action : env.platform.provider.hasL3RouteAction = true
  uuids : Keyed.Unique RouteRow.uuid env.idl.routes.rows
  tracks : Tracks RouteRow.uuid RouteRow.inserted RouteRow.modified routeRowSame state.rows env.idl.routes
  fixed : ∀ row ∈ env.idl.routes.rows, ∀ prior ∈ state.rows, prior.uuid = row.uuid →
    prior.vrf = row.vrf ∧ routeRowKey prior = routeRowKey row
  keys : Keyed.Unique routeRowKey (ownRows state.vrf.name env.idl.routes.rows)
  hashes : ∀ row ∈ ownRows state.vrf.name env.idl.routes.rows,
    ∀ other ∈ ownRows state.vrf.name state.rows ++ ownRows state.vrf.name env.idl.routes.rows,
    routeRowHash row = routeRowHash other → routeRowKey row = routeRowKey other
  apart : RowsApart env env.idl.routes.rows

instance (state : RouteState) (env : Env) : Decidable (RouteBatchValid state env) :=
  decidable_of_iff _ (routeBatchValid_iff state env).symm

def selectedRows (name : String) (rows : List RouteRow) : List RouteRow := (ownRows name rows).filter vrfIsRouteRowSelected

def wantedRow (name : String) (rows : List RouteRow) (key : String × String) : Option RouteRow :=
  Keyed.lookup routeRowKey key (selectedRows name rows)

section Batches

variable (env : Env) (name : String) (vrf : Vrf) (rows : List RouteRow)

theorem current_idl_routes_eq :
    currentIdlRoutes vrf rows = Keyed.collect routeRowHash (selectedRows vrf.name rows) := by
  unfold currentIdlRoutes selectedRows ownRows
  rw [List.filter_filter]

theorem own_rows_mem (row : RouteRow) :
    row ∈ ownRows name rows ↔ row ∈ rows ∧ name = row.vrf := by
  simp [ownRows]

theorem selected_rows_mem (row : RouteRow) :
    row ∈ selectedRows name rows ↔ row ∈ rows ∧ name = row.vrf ∧ vrfIsRouteRowSelected row = true := by
  rw [selectedRows, List.mem_filter, own_rows_mem, and_assoc]

theorem selected_rows_keys (keys : Keyed.Unique routeRowKey (ownRows name rows)) :
    Keyed.Unique routeRowKey (selectedRows name rows) :=
  Keyed.unique_filter routeRowKey keys _

theorem wanted_row_some_iff (keys : Keyed.Unique routeRowKey (ownRows name rows)) (key : String × String) (row : RouteRow) :
    wantedRow name rows key = some row ↔
      (row ∈ rows ∧ name = row.vrf ∧ vrfIsRouteRowSelected row = true) ∧ routeRowKey row = key := by
  rw [wantedRow, Keyed.lookup_eq_some_iff routeRowKey (selected_rows_keys name rows keys), selected_rows_mem]

theorem hash_unique_keys (hashes : Keyed.Unique routeRowHash rows) :
    Keyed.Unique routeRowKey rows := by
  have composed : rows.map routeRowHash = (rows.map routeRowKey).map (fun key => vrfRouteHash key.1 key.2) := by
    rw [List.map_map]
    rfl
  rw [Keyed.Unique, composed] at hashes
  exact List.Nodup.of_map _ hashes

theorem collected_lookup (hashes : ∀ row ∈ rows, ∀ other ∈ rows, routeRowHash row = routeRowHash other → routeRowKey row = routeRowKey other)
    (keys : Keyed.Unique routeRowKey rows) (key : String × String) :
    Keyed.lookup routeRowKey key (Keyed.collect routeRowHash rows) = Keyed.lookup routeRowKey key rows := by
  have unique : Keyed.Unique routeRowHash rows := by
    refine List.Nodup.map_on ?_ (List.Nodup.of_map _ keys)
    intro a left b right same
    exact Keyed.unique_mem_eq routeRowKey keys left right (hashes a left b right same)
  have collected := hash_unique_keys _ (Keyed.unique_collect routeRowHash rows)
  apply Option.ext
  intro row
  rw [Keyed.lookup_eq_some_iff routeRowKey collected, Keyed.lookup_eq_some_iff routeRowKey keys,
    Keyed.mem_collect_of_unique routeRowHash unique]

-- One run seen at one key: v is the cached entry before it, row the row of
-- this VRF with that key.
def routeViewAfter (table : IdlTable RouteRow) (row : Option RouteRow) (v : Option (Finset (Option String))) :
    Option (Finset (Option String)) :=
  let wanted := row.filter vrfIsRouteRowSelected
  let v := if (table.anyDeleted || table.rows.isEmpty) && wanted.isNone then none else v
  let v := if table.anyInserted then wanted.elim v (fun row => some (v.getD (rowNhKeys row))) else v
  if table.anyModified then
    row.elim v (fun row => if routeChanged row then (if vrfIsRouteRowSelected row then some (rowNhKeys row) else none) else v)
  else v

theorem view_after_selected (table : IdlTable RouteRow) (row : RouteRow) (selected : vrfIsRouteRowSelected row = true)
    (v : Option (Finset (Option String))) :
    routeViewAfter table (some row) v =
      if table.anyModified && routeChanged row then some (rowNhKeys row)
      else if table.anyInserted then some (v.getD (rowNhKeys row)) else v := by
  have wanted : (some row).filter vrfIsRouteRowSelected = some row := by simp [Option.filter, selected]
  unfold routeViewAfter
  cases table.anyModified <;> cases table.anyInserted <;> cases changed : routeChanged row <;>
    simp [wanted, selected, changed]

theorem view_after_unselected (table : IdlTable RouteRow) (row : RouteRow) (unselected : vrfIsRouteRowSelected row = false)
    (v : Option (Finset (Option String))) :
    routeViewAfter table (some row) v =
      if table.anyModified && routeChanged row then none
      else if table.anyDeleted || table.rows.isEmpty then none else v := by
  have unwanted : (some row).filter vrfIsRouteRowSelected = none := by simp [Option.filter, unselected]
  unfold routeViewAfter
  cases table.anyModified <;> cases table.anyInserted <;> cases changed : routeChanged row <;>
    simp [unwanted, unselected, changed]

theorem view_after_absent (table : IdlTable RouteRow) (v : Option (Finset (Option String))) :
    routeViewAfter table none v = if table.anyDeleted || table.rows.isEmpty then none else v := by
  unfold routeViewAfter
  cases table.anyModified <;> cases table.anyInserted <;> simp

def ownRow (name : String) (rows : List RouteRow) (key : String × String) : Option RouteRow :=
  Keyed.lookup routeRowKey key (ownRows name rows)

theorem wanted_row_eq (keys : Keyed.Unique routeRowKey (ownRows name rows))
    (key : String × String) : wantedRow name rows key = (ownRow name rows key).filter vrfIsRouteRowSelected := by
  apply Option.ext
  intro row
  rw [wanted_row_some_iff name rows keys, Option.filter_eq_some_iff, ownRow,
    Keyed.lookup_eq_some_iff routeRowKey keys, own_rows_mem]
  tauto

@[mk_iff] structure HashesApart (name : String) (vrf : Vrf) (rows : List RouteRow) : Prop where
  selected : ∀ row ∈ selectedRows name rows, ∀ other ∈ selectedRows name rows,
    routeRowHash row = routeRowHash other → routeRowKey row = routeRowKey other
  cached : ∀ route ∈ vrf.allRoutes, ∀ row ∈ selectedRows name rows,
    vrfRouteHash route.self.from_ route.self.pfx = routeRowHash row → routeKey route = routeRowKey row

instance (name : String) (vrf : Vrf) (rows : List RouteRow) : Decidable (HashesApart name vrf rows) :=
  decidable_of_iff _ (hashesApart_iff name vrf rows).symm

theorem collected_hash_isSome (hashes : HashesApart name vrf rows) (route : Route) (member : route ∈ vrf.allRoutes) :
    (Keyed.lookup routeRowHash (vrfRouteHash route.self.from_ route.self.pfx)
      (Keyed.collect routeRowHash (selectedRows name rows))).isSome = (wantedRow name rows (routeKey route)).isSome := by
  rw [Keyed.lookup_collect, Bool.eq_iff_iff, Keyed.lookup_some_iff_exists, wantedRow, Keyed.lookup_some_iff_exists]
  constructor
  · rintro ⟨row, present, same⟩
    exact ⟨row, present, (hashes.cached route member row present same.symm).symm⟩
  · rintro ⟨row, present, same⟩
    refine ⟨row, present, ?_⟩
    obtain ⟨fromSame, pfxSame⟩ := Prod.mk.inj same
    simp only [routeRowHash, fromSame, pfxSame]

theorem delete_phase_view (valid : RouteCacheOf name vrf) (rows : List RouteRow) (hashes : HashesApart name vrf rows) :
    let after := (env.order.walk vrf.allRoutes).foldl (deleteOldRoute env (currentIdlRoutes vrf rows)) vrf
    RouteCacheOf name after ∧ ∀ key, routeView after key =
      if (wantedRow name rows key).isNone then none else routeView vrf key := by
  intro after
  obtain ⟨kept, view⟩ := delete_phase_routes env name vrf valid (currentIdlRoutes vrf rows)
  refine ⟨kept, ?_⟩
  intro key
  rw [view key, current_idl_routes_eq, valid.name]
  cases found : Keyed.lookup routeKey key vrf.allRoutes with
  | none =>
      have absent : routeView vrf key = none := congrArg (Option.map routeNhKeys) found
      simp [absent]
  | some route =>
      have member := Keyed.lookup_mem routeKey found
      have same := Keyed.lookup_key routeKey found
      subst same
      have wanted := collected_hash_isSome name vrf rows hashes route member
      change (if (Keyed.lookup routeRowHash (vrfRouteHash route.self.from_ route.self.pfx) _).isSome then _ else _) = _
      rw [wanted]
      cases wantedRow name rows (routeKey route) <;> rfl

theorem current_idl_routes_keys :
    Keyed.Unique routeRowKey (currentIdlRoutes vrf rows) :=
  hash_unique_keys _ (Keyed.unique_collect routeRowHash _)

theorem insert_phase_view (vrf next : Vrf) (valid : RouteCacheOf name next)
    (same : vrf.name = name) (rows : List RouteRow) (apart : RowsApart env rows)
    (keys : Keyed.Unique routeRowKey (ownRows name rows)) (hashes : HashesApart name vrf rows) :
    let after := (env.order.walk (currentIdlRoutes vrf rows)).foldl (addNewRoute env) next
    RouteCacheOf name after ∧ ∀ key, routeView after key =
      (wantedRow name rows key).elim (routeView next key) (fun row => some ((routeView next key).getD (rowNhKeys row))) := by
  intro after
  have idlApart : RowsApart env (currentIdlRoutes vrf rows) := by
    intro row member
    rw [current_idl_routes_eq] at member
    exact apart row ((selected_rows_mem _ _ _).mp (Keyed.mem_of_mem_collect routeRowHash member)).1
  obtain ⟨kept, view⟩ := insert_phase_routes env name next valid _ idlApart (current_idl_routes_keys vrf rows)
  refine ⟨kept, ?_⟩
  intro key
  have collected := collected_lookup (selectedRows name rows) hashes.selected (selected_rows_keys name rows keys) key
  rw [view key, current_idl_routes_eq, same, collected]
  rfl

def deletePhase (env : Env) (vrf : Vrf) : Vrf :=
  if env.idl.routes.anyDeleted then
    (env.order.walk vrf.allRoutes).foldl (deleteOldRoute env (currentIdlRoutes vrf env.idl.routes.rows)) vrf
  else vrf

def insertPhase (env : Env) (vrf next : Vrf) : Vrf :=
  if env.idl.routes.anyInserted then
    (env.order.walk (currentIdlRoutes vrf env.idl.routes.rows)).foldl (addNewRoute env) next
  else next

def modifyPhase (env : Env) (next : Vrf) : Vrf :=
  if env.idl.routes.anyModified then env.idl.routes.rows.foldl (checkRouteChange env) next else next

theorem reconfigure_routes_phases (action : env.platform.provider.hasL3RouteAction = true)
    (some_ : env.idl.routes.rows ≠ []) :
    vrfReconfigureRoutes env vrf = modifyPhase env (insertPhase env vrf (deletePhase env vrf)) := by
  unfold vrfReconfigureRoutes modifyPhase insertPhase deletePhase
  rw [action]
  cases deleted : env.idl.routes.anyDeleted <;> cases inserted : env.idl.routes.anyInserted <;>
    cases modified : env.idl.routes.anyModified <;> simp [some_, deleted, inserted, modified]

theorem reconfigure_routes_empty (action : env.platform.provider.hasL3RouteAction = true)
    (empty : env.idl.routes.rows = []) :
    vrfReconfigureRoutes env vrf = (env.order.walk vrf.allRoutes).foldl (vrfRouteDelete env) vrf := by
  simp [vrfReconfigureRoutes, action, empty]

theorem delete_all_view (valid : RouteCacheOf name vrf) :
    let after := (env.order.walk vrf.allRoutes).foldl (vrfRouteDelete env) vrf
    RouteCacheOf name after ∧ ∀ key, routeView after key = none := by
  intro after
  have walked := Keyed.unique_perm routeAddr (env.order.perm vrf.allRoutes).symm valid.cache.addrs
  obtain ⟨kept, view⟩ := delete_routes_loop env name vrf valid _ walked (fun route => (env.order.mem_walk _ _).mp)
  refine ⟨kept, ?_⟩
  intro key
  rw [view key]
  split
  · rfl
  · rename_i absent
    unfold routeView
    rw [Option.map_eq_none_iff, Keyed.lookup_none_iff]
    intro route member same
    exact absent ⟨route, (env.order.mem_walk _ _).mpr member, same⟩

theorem delete_phase_after (valid : RouteCacheOf name vrf) (hashes : HashesApart name vrf env.idl.routes.rows) :
    RouteCacheOf name (deletePhase env vrf) ∧ ∀ key, routeView (deletePhase env vrf) key =
      if env.idl.routes.anyDeleted && (wantedRow name env.idl.routes.rows key).isNone then none
      else routeView vrf key := by
  unfold deletePhase
  cases env.idl.routes.anyDeleted with
  | false => exact ⟨valid, fun key => by simp⟩
  | true => simpa using delete_phase_view env name vrf valid env.idl.routes.rows hashes

theorem insert_phase_after (valid : RouteCacheOf name vrf)
    (apart : RowsApart env env.idl.routes.rows) (keys : Keyed.Unique routeRowKey (ownRows name env.idl.routes.rows))
    (hashes : HashesApart name vrf env.idl.routes.rows) :
    RouteCacheOf name (insertPhase env vrf (deletePhase env vrf)) ∧
    ∀ key, routeView (insertPhase env vrf (deletePhase env vrf)) key =
      if env.idl.routes.anyInserted then
        (wantedRow name env.idl.routes.rows key).elim (routeView (deletePhase env vrf) key)
          (fun row => some ((routeView (deletePhase env vrf) key).getD (rowNhKeys row)))
      else routeView (deletePhase env vrf) key := by
  have deleted := (delete_phase_after env name vrf valid hashes).1
  unfold insertPhase
  cases env.idl.routes.anyInserted with
  | false => exact ⟨deleted, fun key => by simp⟩
  | true => simpa using insert_phase_view env name vrf _ deleted valid.name env.idl.routes.rows apart keys hashes

theorem reconfigure_routes_view (valid : RouteCacheOf name vrf)
    (action : env.platform.provider.hasL3RouteAction = true) (apart : RowsApart env env.idl.routes.rows)
    (keys : Keyed.Unique routeRowKey (ownRows name env.idl.routes.rows))
    (hashes : HashesApart name vrf env.idl.routes.rows) :
    RouteCacheOf name (vrfReconfigureRoutes env vrf) ∧ ∀ key, routeView (vrfReconfigureRoutes env vrf) key =
      routeViewAfter env.idl.routes (ownRow name env.idl.routes.rows key) (routeView vrf key) := by
  by_cases empty : env.idl.routes.rows = []
  · rw [reconfigure_routes_empty env vrf action empty]
    obtain ⟨kept, view⟩ := delete_all_view env name vrf valid
    refine ⟨kept, ?_⟩
    intro key
    have noRow : ownRow name env.idl.routes.rows key = none := by
      rw [empty]
      rfl
    rw [view key, noRow]
    simp [routeViewAfter, empty]
  · have inserted := insert_phase_after env name vrf valid apart keys hashes
    have modified : RouteCacheOf name (modifyPhase env (insertPhase env vrf (deletePhase env vrf))) ∧
        ∀ key, routeView (modifyPhase env (insertPhase env vrf (deletePhase env vrf))) key =
          if env.idl.routes.anyModified then
            (ownRow name env.idl.routes.rows key).elim (routeView (insertPhase env vrf (deletePhase env vrf)) key)
              (fun row => if routeChanged row then (if vrfIsRouteRowSelected row then some (rowNhKeys row) else none)
                else routeView (insertPhase env vrf (deletePhase env vrf)) key)
          else routeView (insertPhase env vrf (deletePhase env vrf)) key := by
      unfold modifyPhase
      cases env.idl.routes.anyModified with
      | false => exact ⟨inserted.1, fun key => by simp⟩
      | true => simpa [ownRow] using modify_phase_routes env name _ inserted.1 env.idl.routes.rows apart keys
    rw [reconfigure_routes_phases env vrf action empty]
    refine ⟨modified.1, ?_⟩
    intro key
    rw [modified.2, inserted.2, (delete_phase_after env name vrf valid hashes).2, wanted_row_eq name env.idl.routes.rows keys]
    simp [routeViewAfter, empty]

theorem delete_phase_keeps (P : Vrf → Prop)
    (keep : ∀ s route, RouteCache s → route ∈ s.allRoutes → P s → P (vrfRouteDelete env s route)) (vrf : Vrf)
    (cache : RouteCache vrf) (initial : P vrf) : P (deletePhase env vrf) := by
  unfold deletePhase
  split
  · rw [delete_old_routes_filter]
    have walked := Keyed.unique_perm routeAddr (env.order.perm vrf.allRoutes).symm cache.addrs
    exact delete_routes_keeps env P keep vrf cache _ (Keyed.unique_filter routeAddr walked _)
      (fun route member => (env.order.mem_walk _ _).mp (List.mem_filter.mp member).1) initial
  · exact initial

def CachedSelected (state : RouteState) : Prop :=
  ∀ key, (routeView state.vrf key).isSome ↔ (∃ row ∈ selectedRows state.vrf.name state.rows, routeRowKey row = key)

theorem batch_hashes_apart (state : RouteState) (env : Env) (valid : RouteBatchValid state env)
    (cached : CachedSelected state) (keys : Keyed.Unique routeKey state.vrf.allRoutes) :
    HashesApart state.vrf.name state.vrf env.idl.routes.rows := by
  have own : ∀ row ∈ selectedRows state.vrf.name env.idl.routes.rows, row ∈ ownRows state.vrf.name env.idl.routes.rows :=
    fun row member => (List.mem_filter.mp member).1
  refine ⟨?_, ?_⟩
  · intro row member other present same
    exact valid.hashes row (own row member) other (List.mem_append_right _ (own other present)) same
  · intro route member row present same
    have view : (routeView state.vrf (routeKey route)).isSome := by
      simp [routeView, Keyed.lookup_of_mem routeKey keys member]
    obtain ⟨prior, old, equal⟩ := (cached (routeKey route)).mp view
    obtain ⟨fromSame, pfxSame⟩ := Prod.mk.inj equal
    have hash : routeRowHash row = routeRowHash prior := by
      rw [← same, routeRowHash, fromSame, pfxSame]
    rw [← equal]
    exact (valid.hashes row (own row present) prior (List.mem_append_left _ (List.mem_filter.mp old).1) hash).symm

theorem lost_selection (state : RouteState) (env : Env) (valid : RouteBatchValid state env)
    (uuids : Keyed.Unique RouteRow.uuid state.rows) (prior : RouteRow)
    (old : prior ∈ selectedRows state.vrf.name state.rows)
    (lost : ∀ row ∈ selectedRows state.vrf.name env.idl.routes.rows, routeRowKey row ≠ routeRowKey prior) :
    env.idl.routes.anyDeleted = true ∨ ∃ row ∈ ownRows state.vrf.name env.idl.routes.rows,
      routeRowKey row = routeRowKey prior ∧ routeChanged row = true ∧ vrfIsRouteRowSelected row = false ∧
      env.idl.routes.anyModified = true := by
  obtain ⟨priorMember, priorOwn, priorSelected⟩ := (selected_rows_mem _ _ _).mp old
  by_cases remains : ∃ row ∈ env.idl.routes.rows, row.uuid = prior.uuid
  · obtain ⟨row, member, same⟩ := remains
    obtain ⟨vrfSame, keySame⟩ := valid.fixed row member prior priorMember same.symm
    have own : state.vrf.name = row.vrf := priorOwn.trans vrfSame
    have unselected : vrfIsRouteRowSelected row = false := by
      rw [Bool.eq_false_iff]
      intro selected
      exact lost row ((selected_rows_mem _ _ _).mpr ⟨member, own, selected⟩) keySame.symm
    have notInserted : row.inserted = false := by
      rw [Bool.eq_false_iff]
      intro inserted
      exact (valid.tracks.inserted_iff row member).mp inserted prior priorMember same.symm
    have modified : row.modified = true := by
      rw [valid.tracks.modified_iff row member notInserted]
      intro other otherMember otherSame unchanged
      obtain rfl := Keyed.unique_mem_eq RouteRow.uuid uuids otherMember priorMember (otherSame.trans same)
      rw [vrfIsRouteRowSelected, unchanged.1, ← vrfIsRouteRowSelected, unselected] at priorSelected
      cases priorSelected
    exact .inr ⟨row, (own_rows_mem _ _ _).mpr ⟨member, own⟩, keySame.symm, by simp [routeChanged, modified, notInserted],
      unselected, valid.tracks.any_modified row member modified⟩
  · exact .inl (valid.tracks.any_deleted prior priorMember (fun row member same => remains ⟨row, member, same⟩))

theorem gained_selection (state : RouteState) (env : Env) (valid : RouteBatchValid state env) (row : RouteRow)
    (now : row ∈ selectedRows state.vrf.name env.idl.routes.rows)
    (gained : ∀ prior ∈ selectedRows state.vrf.name state.rows, routeRowKey prior ≠ routeRowKey row) :
    env.idl.routes.anyInserted = true ∨ (routeChanged row = true ∧ env.idl.routes.anyModified = true) := by
  obtain ⟨member, own, selected⟩ := (selected_rows_mem _ _ _).mp now
  cases inserted : row.inserted with
  | true => exact .inl (valid.tracks.any_inserted row member inserted)
  | false =>
      have modified : row.modified = true := by
        rw [valid.tracks.modified_iff row member inserted]
        intro prior priorMember same unchanged
        obtain ⟨vrfSame, keySame⟩ := valid.fixed row member prior priorMember same
        have priorSelected : vrfIsRouteRowSelected prior = true := by
          rw [vrfIsRouteRowSelected, unchanged.1, ← vrfIsRouteRowSelected, selected]
        exact gained prior ((selected_rows_mem _ _ _).mpr ⟨priorMember, own.trans vrfSame.symm, priorSelected⟩) keySame
      exact .inr ⟨by simp [routeChanged, modified, inserted], valid.tracks.any_modified row member modified⟩

theorem unselected_key (keys : Keyed.Unique routeRowKey (ownRows name rows))
    (loser : RouteRow) (own : loser ∈ ownRows name rows) (unselected : vrfIsRouteRowSelected loser = false) :
    ∀ row ∈ selectedRows name rows, routeRowKey row ≠ routeRowKey loser := by
  intro row member same
  obtain ⟨rowOwn, selected⟩ := List.mem_filter.mp member
  rw [Keyed.unique_mem_eq routeRowKey keys rowOwn own same, unselected] at selected
  cases selected

end Batches

theorem lost_route (state : RouteState) (env : Env) (valid : RouteBatchValid state env)
    (uuids : Keyed.Unique RouteRow.uuid state.rows) (cached : CachedSelected state) (key : String × String)
    (was : (routeView state.vrf key).isSome)
    (unwanted : ¬ ∃ row ∈ selectedRows state.vrf.name env.idl.routes.rows, routeRowKey row = key) :
    env.idl.routes.anyDeleted = true ∨ ∃ row ∈ ownRows state.vrf.name env.idl.routes.rows, routeRowKey row = key ∧
      routeChanged row = true ∧ vrfIsRouteRowSelected row = false ∧ env.idl.routes.anyModified = true := by
  obtain ⟨prior, old, rfl⟩ := (cached key).mp was
  exact lost_selection state env valid uuids prior old (fun row member same => unwanted ⟨row, member, same⟩)

theorem route_view_after_selected (state : RouteState) (env : Env) (valid : RouteBatchValid state env)
    (uuids : Keyed.Unique RouteRow.uuid state.rows) (cached : CachedSelected state) (key : String × String) :
    (routeViewAfter env.idl.routes (ownRow state.vrf.name env.idl.routes.rows key) (routeView state.vrf key)).isSome ↔
      ∃ row ∈ selectedRows state.vrf.name env.idl.routes.rows, routeRowKey row = key := by
  cases here : ownRow state.vrf.name env.idl.routes.rows key with
  | none =>
      have absent : ¬ ∃ row ∈ selectedRows state.vrf.name env.idl.routes.rows, routeRowKey row = key := by
        rintro ⟨row, member, same⟩
        exact (Keyed.lookup_none_iff routeRowKey).mp here row (List.mem_filter.mp member).1 same
      simp only [absent, iff_false]
      rw [view_after_absent]
      intro some_
      split at some_
      · cases some_
      · rename_i kept
        rcases lost_route state env valid uuids cached key some_ absent with deleted | ⟨row, own, same, _⟩
        · simp [deleted] at kept
        · exact (Keyed.lookup_none_iff routeRowKey).mp here row own same
  | some row =>
      have member := Keyed.lookup_mem routeRowKey here
      have same := Keyed.lookup_key routeRowKey here
      cases selected : vrfIsRouteRowSelected row with
      | true =>
          have now : row ∈ selectedRows state.vrf.name env.idl.routes.rows := List.mem_filter.mpr ⟨member, selected⟩
          simp only [show ∃ row ∈ selectedRows state.vrf.name env.idl.routes.rows, routeRowKey row = key from
            ⟨row, now, same⟩, iff_true]
          rw [view_after_selected _ row selected]
          by_cases before : (routeView state.vrf key).isSome
          · split
            · rfl
            · split
              · rfl
              · exact before
          · have gained := gained_selection state env valid row now (fun prior old equal =>
              before ((cached key).mpr ⟨prior, old, equal.trans same⟩))
            rcases gained with inserted | ⟨changed, modified⟩
            · split
              · rfl
              · rfl
            · simp [changed, modified]
      | false =>
          have absent : ¬ ∃ other ∈ selectedRows state.vrf.name env.idl.routes.rows, routeRowKey other = key := by
            rintro ⟨other, present, equal⟩
            exact unselected_key _ _ valid.keys row member selected other present (equal.trans same.symm)
          simp only [absent, iff_false]
          rw [view_after_unselected _ row selected]
          intro some_
          split at some_
          · cases some_
          · rename_i unchanged
            split at some_
            · cases some_
            · rename_i kept
              rcases lost_route state env valid uuids cached key some_ absent with
                deleted | ⟨other, own, otherSame, changed, _, modified⟩
              · simp [deleted] at kept
              · rw [Keyed.unique_mem_eq routeRowKey valid.keys own member (otherSame.trans same.symm)] at changed
                simp [changed, modified] at unchanged

end OpsSwitchd
