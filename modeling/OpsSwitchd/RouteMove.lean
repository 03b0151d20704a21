import Mathlib.Data.Fintype.Basic
import OpsSwitchd.RouteMirror

set_option autoImplicit false

namespace OpsSwitchd

def routeStep (state : RouteState) (env : Env) : RouteState :=
  ⟨vrfReconfigureRoutes env state.vrf, env.idl.routes.rows⟩

@[mk_iff] structure SingleBatchValid (state : RouteState) (env : Env) : Prop where
  batch : RouteBatchValid state env
  single : ∀ row ∈ ownRows state.vrf.name env.idl.routes.rows, SingleNexthop row
  onePerPrefix : ∀ a ∈ selectedRows state.vrf.name env.idl.routes.rows,
    ∀ b ∈ selectedRows state.vrf.name env.idl.routes.rows, a.pfx = b.pfx → a = b

instance (state : RouteState) (env : Env) : Decidable (SingleBatchValid state env) :=
  decidable_of_iff _ (singleBatchValid_iff state env).symm

def HwFollowsSelection (state : RouteState) : Prop :=
  (∀ pfx, (∃ family, (hwRoute state.vrf.up.calls family pfx).isSome) ↔
    ∃ row ∈ selectedRows state.vrf.name state.rows, row.pfx = pfx) ∧
  ∀ family pfx table, hwRoute state.vrf.up.calls family pfx = some table → ∃ id, (table id).isSome

abbrev Precedes (rows : List RouteRow) (a b : RouteRow) : Prop := [a, b].Sublist rows

-- When the selection of a prefix moves to another row and the row that lost
-- it stays in the table, the delete phase has to run, or the modify loop has
-- to reach the loser first and nothing may have been inserted.
abbrev MoveSafe (state : RouteState) (env : Env) : Prop :=
  ∀ loser ∈ ownRows state.vrf.name env.idl.routes.rows, ∀ winner ∈ selectedRows state.vrf.name env.idl.routes.rows,
    routeChanged loser = true → vrfIsRouteRowSelected loser = false → (vrfRouteHashLookup state.vrf loser).isSome →
    loser.pfx = winner.pfx →
    env.idl.routes.anyDeleted = true ∨
      (env.idl.routes.anyInserted = false ∧ Precedes env.idl.routes.rows loser winner)

instance (state : RouteState) (env : Env) : Decidable (MoveSafe state env) := inferInstance

structure MoveInv (state : RouteState) : Prop where
  cache : RouteCache state.vrf
  mirror : HwMirror state.vrf
  uuids : Keyed.Unique RouteRow.uuid state.rows
  cached : CachedSelected state

theorem move_inv_follows (state : RouteState) (inv : MoveInv state) : HwFollowsSelection state := by
  have selected : ∀ pfx, (∃ route ∈ state.vrf.allRoutes, routePfx route = pfx) ↔
      ∃ row ∈ selectedRows state.vrf.name state.rows, row.pfx = pfx := by
    intro pfx
    constructor
    · rintro ⟨route, member, rfl⟩
      obtain ⟨row, present, same⟩ := (inv.cached (routeKey route)).mp ((route_view_isSome _ _).mpr ⟨route, member, rfl⟩)
      exact ⟨row, present, congrArg Prod.snd same⟩
    · rintro ⟨row, present, rfl⟩
      obtain ⟨route, member, same⟩ := (route_view_isSome _ _).mp ((inv.cached (routeRowKey row)).mpr ⟨row, present, rfl⟩)
      exact ⟨route, member, congrArg Prod.snd same⟩
  refine ⟨?_, ?_⟩
  · intro pfx
    rw [← selected pfx]
    constructor
    · rintro ⟨family, present⟩
      obtain ⟨route, member, _, same⟩ := inv.mirror.cached family pfx present
      exact ⟨route, member, same⟩
    · rintro ⟨route, member, rfl⟩
      obtain ⟨_, table, found, _⟩ := inv.mirror.held route member
      exact ⟨routeFamily route.self.isIpv6, Option.isSome_iff_exists.mpr ⟨table, found⟩⟩
  · intro family pfx table found
    obtain ⟨route, member, rfl, rfl⟩ := inv.mirror.cached family pfx (Option.isSome_iff_exists.mpr ⟨table, found⟩)
    obtain ⟨some_, other, held, programmed⟩ := inv.mirror.held route member
    obtain rfl := Option.some.inj (found.symm.trans held)
    obtain ⟨nh, present⟩ := List.exists_mem_of_ne_nil _ some_
    exact ⟨nhId nh, programmed nh present⟩

theorem own_selected (name : String) (rows : List RouteRow) (row : RouteRow) (member : row ∈ selectedRows name rows) :
    row ∈ ownRows name rows :=
  (List.mem_filter.mp member).1

theorem insert_phase_mirror (env : Env) (name : String) (vrf next : Vrf) (valid : RouteCacheOf name next)
    (same : vrf.name = name) (mirror : HwMirror next) (apart : RowsApart env env.idl.routes.rows)
    (single : ∀ row ∈ ownRows name env.idl.routes.rows, SingleNexthop row)
    (one : ∀ a ∈ selectedRows name env.idl.routes.rows, ∀ b ∈ selectedRows name env.idl.routes.rows, a.pfx = b.pfx → a = b)
    (free : env.idl.routes.anyInserted = true → ∀ route ∈ next.allRoutes, ∀ row ∈ selectedRows name env.idl.routes.rows,
      row.pfx = routePfx route → routeRowKey row = routeKey route) :
    HwMirror (insertPhase env vrf next) := by
  unfold insertPhase
  split
  · rename_i inserted
    have idl : ∀ row ∈ env.order.walk (currentIdlRoutes vrf env.idl.routes.rows), row ∈ selectedRows name env.idl.routes.rows := by
      intro row member
      rw [env.order.mem_walk, current_idl_routes_eq, same] at member
      exact Keyed.mem_of_mem_collect routeRowHash member
    refine (Keyed.foldl_keeps (addNewRoute env) (fun s => RouteCacheOf name s ∧ HwMirror s ∧
      ∀ route ∈ s.allRoutes, ∀ row ∈ selectedRows name env.idl.routes.rows, row.pfx = routePfx route →
        routeRowKey row = routeKey route) ?_ ⟨valid, mirror, free inserted⟩).2.1
    rintro s row member ⟨cache, mirrored, distinct⟩
    have now := idl row member
    have rowApart := apart row ((selected_rows_mem _ _ _).mp now).1
    refine ⟨add_new_route_keeps env name s row rowApart cache, ?_⟩
    unfold addNewRoute
    cases found : vrfRouteHashLookup s row with
    | some route => exact ⟨mirrored, distinct⟩
    | none =>
        have absent := (Keyed.lookup_none_iff routeKey).mp found
        refine ⟨mirror_add env s row rowApart (single row (own_selected _ _ row now)) ?_ mirrored, ?_⟩
        · intro route cached pfxSame
          exact absent route cached (distinct route cached row now pfxSame.symm).symm
        · intro route cached other present pfxSame
          simp only [Option.isSome_none, Bool.false_eq_true, if_false] at cached
          rw [route_add_routes env s row rowApart] at cached
          rcases List.mem_cons.mp cached with rfl | old
          · rw [one other present row now pfxSame]
            rfl
          · exact distinct route old other present pfxSame
  · exact mirror

theorem precedes_split (rows before after : List RouteRow) (a b : RouteRow) (nodup : rows.Nodup)
    (split : rows = before ++ b :: after) (order : Precedes rows a b) : a ∈ before := by
  subst split
  have fresh : b ∉ after := (List.nodup_cons.mp (List.nodup_append.mp nodup).2.1).1
  obtain ⟨left, right, pair, inBefore, inAfter⟩ := List.sublist_append_iff.mp order
  cases left with
  | nil =>
      obtain rfl : right = [a, b] := by simpa using pair.symm
      have later : b ∈ after := by
        cases inAfter with
        | cons _ rest => exact rest.subset (by simp)
        | cons_cons _ rest => exact rest.subset (by simp)
      exact absurd later fresh
  | cons first left =>
      obtain ⟨rfl, _⟩ := List.cons.inj pair
      exact inBefore.subset (by simp)

-- The cached routes between two turns of the modify loop: what is selected,
-- and losers whose turn is still to come.
structure ModifyInv (env : Env) (name : String) (start : Vrf) (before : List RouteRow) (s : Vrf) : Prop where
  cache : RouteCacheOf name s
  mirror : HwMirror s
  pending : ∀ route ∈ s.allRoutes,
    (∃ row ∈ selectedRows name env.idl.routes.rows, routeRowKey row = routeKey route) ∨
    ∃ loser ∈ ownRows name env.idl.routes.rows, routeRowKey loser = routeKey route ∧ routeChanged loser = true ∧
      vrfIsRouteRowSelected loser = false ∧ (vrfRouteHashLookup start loser).isSome ∧ loser ∉ before

theorem modify_inv_skip (env : Env) (name : String) (start : Vrf) (before : List RouteRow) (row : RouteRow) (s : Vrf)
    (inv : ModifyInv env name start before s)
    (other : ∀ route ∈ s.allRoutes, routeRowKey row = routeKey route → row ∈ ownRows name env.idl.routes.rows →
      routeChanged row = true → vrfIsRouteRowSelected row = true) :
    ModifyInv env name start (before ++ [row]) s := by
  refine ⟨inv.cache, inv.mirror, ?_⟩
  intro route member
  rcases inv.pending route member with wanted | ⟨loser, own, same, changed, unselected, cached, waiting⟩
  · exact .inl wanted
  · refine .inr ⟨loser, own, same, changed, unselected, cached, ?_⟩
    intro visited
    rcases List.mem_append.mp visited with earlier | here
    · exact waiting earlier
    · obtain rfl := List.mem_singleton.mp here
      rw [other route member same own changed] at unselected
      cases unselected

theorem modify_inv_update (env : Env) (name : String) (start : Vrf) (before : List RouteRow) (s : Vrf) (route : Route)
    (row : RouteRow) (apart : ∀ nh ∈ usableNhs row, NhRowApart env nh) (single : SingleNexthop row)
    (now : row ∈ selectedRows name env.idl.routes.rows) (found : vrfRouteHashLookup s row = some route)
    (inv : ModifyInv env name start before s) (kept : RouteCacheOf name (vrfRouteModify env s route row)) :
    ModifyInv env name start before (vrfRouteModify env s route row) := by
  have cache := inv.cache.cache
  obtain ⟨cached, sameKey⟩ := hash_lookup_member s row route found
  refine ⟨kept, mirror_modify env s route row cache cached apart single inv.mirror, ?_⟩
  intro other present
  rw [route_modify_routes env s route row apart (route_cache_exclusive s cache route cached)
    (route_cache_nexthop_addrs s cache route cached)] at present
  rcases (Keyed.mem_replace routeAddr).mp present with ⟨old, _⟩ | ⟨_, _, _, rfl⟩
  · exact inv.pending other old
  · exact .inl ⟨row, now, sameKey.symm⟩

theorem modify_inv_add (env : Env) (name : String) (start : Vrf) (before : List RouteRow) (s : Vrf) (row : RouteRow)
    (apart : ∀ nh ∈ usableNhs row, NhRowApart env nh) (single : SingleNexthop row)
    (now : row ∈ selectedRows name env.idl.routes.rows) (found : vrfRouteHashLookup s row = none)
    (one : ∀ other ∈ selectedRows name env.idl.routes.rows, other.pfx = row.pfx → other = row)
    (passed : ∀ loser ∈ ownRows name env.idl.routes.rows, routeChanged loser = true → vrfIsRouteRowSelected loser = false →
      (vrfRouteHashLookup start loser).isSome → loser.pfx = row.pfx → loser ∈ before)
    (inv : ModifyInv env name start before s) (kept : RouteCacheOf name (vrfRouteAdd env s row)) :
    ModifyInv env name start before (vrfRouteAdd env s row) := by
  have absent := (Keyed.lookup_none_iff routeKey).mp found
  refine ⟨kept, mirror_add env s row apart single ?_ inv.mirror, ?_⟩
  · intro route cached pfxSame
    rcases inv.pending route cached with ⟨other, present, same⟩ | ⟨loser, own, same, changed, unselected, hit, waiting⟩
    · have otherIs := one other present ((congrArg Prod.snd same).trans pfxSame)
      exact absent route cached (same.symm.trans (congrArg routeRowKey otherIs))
    · exact waiting (passed loser own changed unselected hit ((congrArg Prod.snd same).trans pfxSame))
  · intro route present
    rw [route_add_routes env s row apart] at present
    rcases List.mem_cons.mp present with rfl | old
    · exact .inl ⟨row, now, rfl⟩
    · exact inv.pending route old

theorem modify_inv_delete (env : Env) (name : String) (start : Vrf) (before : List RouteRow) (s : Vrf) (route : Route)
    (row : RouteRow) (found : vrfRouteHashLookup s row = some route) (inv : ModifyInv env name start before s)
    (kept : RouteCacheOf name (vrfRouteDelete env s route)) :
    ModifyInv env name start (before ++ [row]) (vrfRouteDelete env s route) := by
  obtain ⟨cached, sameKey⟩ := hash_lookup_member s row route found
  refine modify_inv_skip env name start before row _ ⟨kept, mirror_delete env s route inv.cache.cache cached inv.mirror, ?_⟩ ?_
  · intro other present
    rw [route_delete_routes] at present
    exact inv.pending other ((Keyed.mem_remove routeAddr).mp present).1
  · intro other present same
    rw [route_delete_routes] at present
    obtain ⟨old, different⟩ := (Keyed.mem_remove routeAddr).mp present
    exact absurd (congrArg routeAddr (Keyed.unique_mem_eq routeKey inv.cache.cache.keys old cached
      (same.symm.trans sameKey.symm))) different

theorem modify_inv_step (env : Env) (name : String) (start : Vrf) (apart : RowsApart env env.idl.routes.rows)
    (nodup : env.idl.routes.rows.Nodup)
    (single : ∀ row ∈ ownRows name env.idl.routes.rows, SingleNexthop row)
    (one : ∀ a ∈ selectedRows name env.idl.routes.rows, ∀ b ∈ selectedRows name env.idl.routes.rows, a.pfx = b.pfx → a = b)
    (ordered : ∀ loser ∈ ownRows name env.idl.routes.rows, ∀ winner ∈ selectedRows name env.idl.routes.rows,
      routeChanged loser = true → vrfIsRouteRowSelected loser = false → (vrfRouteHashLookup start loser).isSome →
      loser.pfx = winner.pfx → Precedes env.idl.routes.rows loser winner)
    (before : List RouteRow) (row : RouteRow) (after : List RouteRow) (s : Vrf)
    (split : env.idl.routes.rows = before ++ row :: after) (inv : ModifyInv env name start before s) :
    ModifyInv env name start (before ++ [row]) (checkRouteChange env s row) := by
  have member : row ∈ env.idl.routes.rows := by simp [split]
  have rowApart := apart row member
  have kept := check_route_change_keeps env name s row rowApart inv.cache
  unfold checkRouteChange at kept ⊢
  by_cases acts : (decide (s.name = row.vrf) && row.modified && !row.inserted) = true
  · rw [if_pos acts] at kept ⊢
    have own : row ∈ ownRows name env.idl.routes.rows := by
      refine (own_rows_mem _ _ _).mpr ⟨member, ?_⟩
      rw [← inv.cache.name]
      simpa using (Bool.and_eq_true_iff.mp (Bool.and_eq_true_iff.mp acts).1).1
    cases selected : vrfIsRouteRowSelected row with
    | true =>
        have now : row ∈ selectedRows name env.idl.routes.rows := List.mem_filter.mpr ⟨own, selected⟩
        refine modify_inv_skip env name start before row _ ?_ (fun _ _ _ _ _ => selected)
        rw [selected] at kept
        cases found : vrfRouteHashLookup s row with
        | some route =>
            rw [found] at kept
            exact modify_inv_update env name start before s route row rowApart (single row own) now found inv kept
        | none =>
            rw [found] at kept
            refine modify_inv_add env name start before s row rowApart (single row own) now found
              (fun other present same => one other present row now same) ?_ inv kept
            intro loser loserOwn changed unselected hit same
            exact precedes_split _ before after loser row nodup split
              (ordered loser loserOwn row now changed unselected hit same)
    | false =>
        rw [selected] at kept
        cases found : vrfRouteHashLookup s row with
        | some route =>
            rw [found] at kept
            exact modify_inv_delete env name start before s route row found inv kept
        | none =>
            have absent := (Keyed.lookup_none_iff routeKey).mp found
            exact modify_inv_skip env name start before row s inv
              (fun route cached same => absurd same.symm (absent route cached))
  · rw [if_neg acts]
    refine modify_inv_skip env name start before row s inv ?_
    intro route cached same own changed
    have ownName : s.name = row.vrf := inv.cache.name.trans ((own_rows_mem _ _ _).mp own).2
    rw [Bool.and_assoc] at acts
    exact absurd (by simpa [ownName, routeChanged] using changed) acts

theorem delete_phase_pending (state : RouteState) (env : Env) (valid : RouteBatchValid state env) (inv : MoveInv state)
    (key : String × String) (cached : (routeView (deletePhase env state.vrf) key).isSome) :
    (∃ row ∈ selectedRows state.vrf.name env.idl.routes.rows, routeRowKey row = key) ∨
    (env.idl.routes.anyDeleted = false ∧ ∃ loser ∈ ownRows state.vrf.name env.idl.routes.rows, routeRowKey loser = key ∧
      routeChanged loser = true ∧ vrfIsRouteRowSelected loser = false ∧ env.idl.routes.anyModified = true) := by
  have hashes := batch_hashes_apart state env valid inv.cached inv.cache.keys
  rw [(delete_phase_after env state.vrf.name state.vrf ⟨inv.cache, rfl⟩ hashes).2] at cached
  by_cases wanted : ∃ row ∈ selectedRows state.vrf.name env.idl.routes.rows, routeRowKey row = key
  · exact .inl wanted
  · have none_ : wantedRow state.vrf.name env.idl.routes.rows key = none := by
      rw [wantedRow, Keyed.lookup_none_iff]
      exact fun row member same => wanted ⟨row, member, same⟩
    rw [none_] at cached
    cases deleted : env.idl.routes.anyDeleted with
    | true => simp [deleted] at cached
    | false =>
        rw [deleted] at cached
        rcases lost_route state env valid inv.uuids inv.cached key (by simpa using cached) wanted with gone | lost
        · rw [deleted] at gone
          cases gone
        · exact .inr ⟨rfl, lost⟩

theorem pending_loser_safe (state : RouteState) (env : Env) (valid : RouteBatchValid state env) (inv : MoveInv state)
    (safe : MoveSafe state env) (loser : RouteRow) (own : loser ∈ ownRows state.vrf.name env.idl.routes.rows)
    (winner : RouteRow) (now : winner ∈ selectedRows state.vrf.name env.idl.routes.rows)
    (changed : routeChanged loser = true) (unselected : vrfIsRouteRowSelected loser = false)
    (cached : (vrfRouteHashLookup (deletePhase env state.vrf) loser).isSome) (same : loser.pfx = winner.pfx) :
    env.idl.routes.anyInserted = false ∧ Precedes env.idl.routes.rows loser winner := by
  rw [hash_lookup_view] at cached
  rcases delete_phase_pending state env valid inv _ cached with ⟨row, member, equal⟩ | ⟨kept, _⟩
  · exact absurd equal (unselected_key _ _ valid.keys loser own unselected row member)
  · have unchanged : deletePhase env state.vrf = state.vrf := by simp [deletePhase, kept]
    rw [unchanged, ← hash_lookup_view] at cached
    rcases safe loser own winner now changed unselected cached same with deleted | ordered
    · rw [kept] at deleted
      cases deleted
    · exact ordered

theorem reconfigure_routes_mirror (state : RouteState) (env : Env) (valid : SingleBatchValid state env)
    (inv : MoveInv state) (safe : MoveSafe state env) : HwMirror (vrfReconfigureRoutes env state.vrf) := by
  have batch := valid.batch
  have hashes := batch_hashes_apart state env batch inv.cached inv.cache.keys
  have cacheOf : RouteCacheOf state.vrf.name state.vrf := ⟨inv.cache, rfl⟩
  by_cases empty : env.idl.routes.rows = []
  · rw [reconfigure_routes_empty env state.vrf batch.action empty]
    exact delete_routes_keeps env HwMirror (fun s route => mirror_delete env s route) state.vrf inv.cache _
      (Keyed.unique_perm routeAddr (env.order.perm state.vrf.allRoutes).symm inv.cache.addrs)
      (fun route => (env.order.mem_walk _ _).mp) inv.mirror
  · rw [reconfigure_routes_phases env state.vrf batch.action empty]
    have deletedMirror := delete_phase_keeps env HwMirror (fun s route => mirror_delete env s route) state.vrf inv.cache
      inv.mirror
    have deleted := delete_phase_after env state.vrf.name state.vrf cacheOf hashes
    have inserted := insert_phase_after env state.vrf.name state.vrf cacheOf batch.apart batch.keys hashes
    have pending := delete_phase_pending state env batch inv
    have insertedMirror : HwMirror (insertPhase env state.vrf (deletePhase env state.vrf)) := by
      refine insert_phase_mirror env state.vrf.name state.vrf _ deleted.1 rfl deletedMirror batch.apart valid.single
        valid.onePerPrefix ?_
      intro any route member row now pfxSame
      have cached := (route_view_isSome _ _).mpr ⟨route, member, rfl⟩
      rcases pending (routeKey route) cached with ⟨other, present, same⟩ | ⟨_, loser, own, same, changed, unselected, _⟩
      · rw [valid.onePerPrefix row now other present (pfxSame.trans (congrArg Prod.snd same).symm), same]
      · have none_ := (pending_loser_safe state env batch inv safe loser own row now changed unselected
          (by rw [hash_lookup_view, same]; exact cached) ((congrArg Prod.snd same).trans pfxSame.symm)).1
        rw [any] at none_
        cases none_
    unfold modifyPhase
    split
    · refine (Keyed.foldl_invariant (checkRouteChange env) env.idl.routes.rows
        (ModifyInv env state.vrf.name (deletePhase env state.vrf)) ?_ ⟨inserted.1, insertedMirror, ?_⟩).mirror
      · exact modify_inv_step env state.vrf.name _ batch.apart (List.Nodup.of_map _ batch.uuids) valid.single
          valid.onePerPrefix (fun loser own winner now changed unselected cached same =>
            (pending_loser_safe state env batch inv safe loser own winner now changed unselected cached same).2)
      · intro route member
        have cached := (route_view_isSome _ _).mpr ⟨route, member, rfl⟩
        rw [inserted.2] at cached
        by_cases wanted : ∃ row ∈ selectedRows state.vrf.name env.idl.routes.rows, routeRowKey row = routeKey route
        · exact .inl wanted
        · have none_ : wantedRow state.vrf.name env.idl.routes.rows (routeKey route) = none := by
            rw [wantedRow, Keyed.lookup_none_iff]
            exact fun row present same => wanted ⟨row, present, same⟩
          rw [none_, Option.elim_none, ite_self] at cached
          rcases pending _ cached with now | ⟨_, loser, own, same, changed, unselected, _⟩
          · exact .inl now
          · exact .inr ⟨loser, own, same, changed, unselected, by rw [hash_lookup_view, same]; exact cached, by simp⟩
    · exact insertedMirror

theorem route_step_keeps (state : RouteState) (env : Env) (valid : SingleBatchValid state env)
    (safe : MoveSafe state env) (inv : MoveInv state) : MoveInv (routeStep state env) := by
  have batch := valid.batch
  have hashes := batch_hashes_apart state env batch inv.cached inv.cache.keys
  obtain ⟨kept, view⟩ := reconfigure_routes_view env state.vrf.name state.vrf ⟨inv.cache, rfl⟩ batch.action batch.apart
    batch.keys hashes
  refine ⟨kept.cache, reconfigure_routes_mirror state env valid inv safe, batch.uuids, ?_⟩
  intro key
  change (routeView (vrfReconfigureRoutes env state.vrf) key).isSome ↔
    ∃ row ∈ selectedRows (vrfReconfigureRoutes env state.vrf).name env.idl.routes.rows, routeRowKey row = key
  rw [kept.name, view key]
  exact route_view_after_selected state env batch inv.uuids inv.cached key

def routeStart (row : VrfRow) : RouteState := ⟨vrfCreate row, []⟩

theorem move_start_inv (row : VrfRow) : MoveInv (routeStart row) where
  cache := route_cache_start row
  mirror := by
    refine ⟨Keyed.unique_nil routePfx, ?_, ?_⟩
    · intro family pfx present
      cases present
    · intro route member
      cases member
  uuids := Keyed.unique_nil RouteRow.uuid
  cached := by
    intro key
    constructor
    · intro cached
      cases cached
    · rintro ⟨row, member, _⟩
      cases member

theorem hw_follows_safe_moves (row : VrfRow) (envs : List Env)
    (valid : Runs.Along routeStep SingleBatchValid (routeStart row) envs)
    (safe : Runs.Along routeStep MoveSafe (routeStart row) envs) :
    Runs.Always routeStep HwFollowsSelection (routeStart row) envs := by
  have both : Runs.Along routeStep (fun state env => SingleBatchValid state env ∧ MoveSafe state env) (routeStart row) envs :=
    fun before env after split => ⟨valid before env after split, safe before env after split⟩
  exact Runs.always_mono move_inv_follows (Runs.invariant_always
    (fun state env inv holds => route_step_keeps state env holds.1 holds.2 inv) (move_start_inv row) both)

def routeEnv (routes : IdlTable RouteRow) : Env where
  platform := plainPlatform
  order := HashOrder.listed
  idl := ⟨routes, ⟨[], false, false, false⟩, ⟨[], false, false, false⟩⟩

def nexthopVia (uuid : Uuid) (ip : String) : NexthopRow := ⟨uuid, some ip, [], some true, [], false, false⟩

def bgpRow (selected inserted : Bool) : RouteRow :=
  ⟨1, "vrf_default", "BGP", "10.0.0.0/24", some "ipv4", some selected, [nexthopVia 11 "1.1.1.1"], inserted, !inserted⟩

def staticRow (selected inserted : Bool) : RouteRow :=
  ⟨2, "vrf_default", "static", "10.0.0.0/24", some "ipv4", some selected, [nexthopVia 12 "2.2.2.2"], inserted, !inserted⟩

theorem moved_selection_follows :
    Runs.Always routeStep HwFollowsSelection (routeStart ⟨"vrf_default", []⟩)
      [routeEnv ⟨[bgpRow true true, staticRow false true], true, false, false⟩,
       routeEnv ⟨[bgpRow false false, staticRow true false], false, true, false⟩] := by
  refine hw_follows_safe_moves ⟨"vrf_default", []⟩ _ ?_ ?_
  · simp only [Runs.along_cons, Runs.along_nil, and_true]
    decide
  · simp only [Runs.along_cons, Runs.along_nil, and_true]
    decide

-- The insert phase adds the prefix for the static route; the modify phase
-- then deletes the BGP route, and with it the prefix.
theorem moved_selection_loses_prefix :
    let envs := [routeEnv ⟨[bgpRow true true], true, false, false⟩,
      routeEnv ⟨[bgpRow false false, staticRow true true], true, true, false⟩]
    Runs.Along routeStep SingleBatchValid (routeStart ⟨"vrf_default", []⟩) envs ∧
      ¬ HwFollowsSelection (Runs.run routeStep (routeStart ⟨"vrf_default", []⟩) envs) := by
  intro envs
  refine ⟨?_, ?_⟩
  · simp only [envs, Runs.along_cons, Runs.along_nil, and_true]
    decide
  · rintro ⟨follows, _⟩
    obtain ⟨family, present⟩ := (follows "10.0.0.0/24").mpr ⟨staticRow true true, by decide, rfl⟩
    cases family with
    | ipv4 => exact absurd present (by decide)
    | ipv6 => exact absurd present (by decide)

end OpsSwitchd
