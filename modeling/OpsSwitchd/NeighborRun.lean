import OpsSwitchd.NeighborCache
import OpsSwitchd.Runs

set_option autoImplicit false

namespace OpsSwitchd

structure NeighborState where
  vrf : Vrf
  rows : List NeighborRow

def neighborStep (state : NeighborState) (env : Env) : NeighborState :=
  ⟨vrfReconfigureNeighbors env state.vrf, env.idl.neighbors.rows⟩

abbrev neighborRowSame (prior row : NeighborRow) : Prop :=
  prior.mac = row.mac ∧ prior.port = row.port ∧ prior.addressFamily = row.addressFamily

structure NeighborBatchValid (aton : String → Bool) (state : NeighborState) (env : Env) : Prop where
  contract : HostContract aton env
  succeed : AddsSucceed env
  own : ∀ row ∈ env.idl.neighbors.rows, state.vrf.name = row.vrf
  ips : Keyed.Unique NeighborRow.ipAddress env.idl.neighbors.rows
  uuids : Keyed.Unique NeighborRow.uuid env.idl.neighbors.rows
  tracks : Tracks NeighborRow.uuid NeighborRow.inserted NeighborRow.modified neighborRowSame state.rows env.idl.neighbors
  fixed : ∀ row ∈ env.idl.neighbors.rows, ∀ prior ∈ state.rows, prior.uuid = row.uuid → prior.ipAddress = row.ipAddress
  ports : ∀ row ∈ env.idl.neighbors.rows, ∀ name ∈ row.port, (state.vrf.up.portLookup name).isSome

def rowView (row : NeighborRow) : Option String × Option String := (nonEmptyText row.mac, row.port)

def rowHost (aton : String → Bool) (row : NeighborRow) : Option (String × String) :=
  row.port.bind (fun port => ((nonEmptyText row.mac).filter aton).map (fun mac => (port, mac)))

def NeighborsFollow (aton : String → Bool) (state : NeighborState) : Prop :=
  Keyed.Unique Neighbor.ipAddress state.vrf.allNeighbors ∧ ∀ ip,
    neighborView state.vrf ip = (Keyed.lookup NeighborRow.ipAddress ip state.rows).map rowView ∧
    (hwHost state.vrf.up.calls ip).map (fun host => (host.port, host.mac)) =
      (Keyed.lookup NeighborRow.ipAddress ip state.rows).bind (rowHost aton)

def NeighborJoinSafe (state : NeighborState) (env : Env) : Prop :=
  ∀ row ∈ env.idl.neighbors.rows, row.inserted = true →
    (∀ neighbor ∈ state.vrf.allNeighbors, neighbor.ipAddress = row.ipAddress →
      neighbor.mac = nonEmptyText row.mac ∧ neighbor.portName = row.port) ∧
    ((∀ neighbor ∈ state.vrf.allNeighbors, neighbor.ipAddress ≠ row.ipAddress) → row.port ≠ some "")

def createdView (row : NeighborRow) : Option String × Option String := (nonEmptyText row.mac, nonEmptyText row.port)

structure NeighborCacheOf (aton : String → Bool) (origin vrf : Vrf) : Prop where
  cache : NeighborCache aton vrf
  ports : vrf.up.ports = origin.up.ports
  name : vrf.name = origin.name

section Run

variable (aton : String → Bool) (state : NeighborState) (env : Env)

theorem neighbor_cache_of_done (origin vrf after : Vrf) (ip : String)
    (view : Option (Option String × Option String)) (valid : NeighborCacheOf aton origin vrf)
    (done : NeighborDone aton env vrf after ip view) : NeighborCacheOf aton origin after :=
  ⟨neighbor_cache_done aton env vrf after ip view valid.cache done, done.ports.trans valid.ports, done.name.trans valid.name⟩

theorem neighbor_walk_view (succeed : AddsSucceed env) (vrf : Vrf)
    (cache : NeighborCache aton vrf) (step : Vrf → Neighbor → Vrf)
    (view : Neighbor → Option (Option String × Option String))
    (body : ∀ s neighbor, NeighborCache aton s → neighborHashLookup s neighbor.ipAddress = some neighbor →
      NeighborDone aton env s (step s neighbor) neighbor.ipAddress (view neighbor)) :
    let after := (env.order.walk vrf.allNeighbors).foldl step vrf
    NeighborCacheOf aton vrf after ∧ ∀ ip, neighborView after ip = (neighborHashLookup vrf ip).bind view := by
  intro after
  have walked := Keyed.unique_perm Neighbor.ipAddress (env.order.perm vrf.allNeighbors).symm cache.unique
  have loop := Keyed.foldl_invariant step (env.order.walk vrf.allNeighbors) (fun before s =>
    NeighborCacheOf aton vrf s ∧
    (∀ ip, (∀ neighbor ∈ before, neighbor.ipAddress ≠ ip) → neighborHashLookup s ip = neighborHashLookup vrf ip) ∧
    ∀ neighbor ∈ before, neighborView s neighbor.ipAddress = view neighbor) ?_
    ⟨⟨cache, rfl, rfl⟩, fun _ _ => rfl, fun _ member => nomatch member⟩
  · obtain ⟨kept, untouched, visited⟩ := loop
    refine ⟨kept, ?_⟩
    intro ip
    cases found : neighborHashLookup vrf ip with
    | none =>
        have absent := (Keyed.lookup_none_iff Neighbor.ipAddress).mp found
        have same := untouched ip (fun neighbor member => absent neighbor ((env.order.mem_walk _ _).mp member))
        rw [neighborView, same, found]
        rfl
    | some neighbor =>
        have member := (env.order.mem_walk _ _).mpr (Keyed.lookup_mem Neighbor.ipAddress found)
        rw [← Keyed.lookup_key Neighbor.ipAddress found]
        exact visited neighbor member
  · rintro before neighbor rest s split ⟨kept, untouched, visited⟩
    rw [split] at walked
    have fresh : ∀ other ∈ before, other.ipAddress ≠ neighbor.ipAddress := by
      intro other member same
      rw [Keyed.Unique, List.map_append, List.nodup_append] at walked
      exact walked.2.2 _ (List.mem_map.mpr ⟨other, member, rfl⟩) neighbor.ipAddress (by simp) same
    have member : neighbor ∈ vrf.allNeighbors := (env.order.mem_walk _ _).mp (by simp [split])
    have found : neighborHashLookup s neighbor.ipAddress = some neighbor :=
      (untouched _ fresh).trans (Keyed.lookup_of_mem Neighbor.ipAddress cache.unique member)
    have done := body s neighbor kept.cache found
    refine ⟨neighbor_cache_of_done aton env vrf s _ _ _ kept done, ?_, ?_⟩
    · intro ip unvisited
      have different : ip ≠ neighbor.ipAddress := fun same => unvisited neighbor (by simp) same.symm
      rw [done.elsewhere ip different]
      exact untouched ip (fun other present => unvisited other (by simp [present]))
    · intro other present
      rcases List.mem_append.mp present with earlier | last
      · rw [neighbor_view_elsewhere aton env s _ _ _ done _ (fresh other earlier)]
        exact visited other earlier
      · obtain rfl := List.mem_singleton.mp last
        exact done.view succeed

theorem set_cfg_done (vrf : Vrf) (neighbor : Neighbor) (cfg : Option NeighborRow)
    (cache : NeighborCache aton vrf) (found : neighborHashLookup vrf neighbor.ipAddress = some neighbor) :
    NeighborDone aton env vrf (neighborUpdate vrf { neighbor with cfg := cfg }) neighbor.ipAddress
      (some (neighbor.mac, neighbor.portName)) := by
  have fits := cache.fits neighbor.ipAddress
  rw [found] at fits
  obtain ⟨held, egress, ports⟩ := fits
  have stored : neighborUpdate vrf { neighbor with cfg := cfg } = vrf.withNeighbors []
      (Keyed.replace Neighbor.ipAddress neighbor.ipAddress (fun _ => { neighbor with cfg := cfg }) vrf.allNeighbors)
      vrf.nexthopStatus vrf.neighborRows := by
    rw [Vrf.withNeighbors, emits_nil]
    rfl
  rw [stored]
  exact done_by_replacement aton env vrf neighbor.ipAddress { neighbor with cfg := cfg } rfl [] _ _ cache.unique
    (by rw [found]; rfl) (fun _ _ _ => rfl) held egress ports

theorem neighbor_done_twice (vrf next after : Vrf) (ip : String)
    (first view : Option (Option String × Option String)) (one : NeighborDone aton env vrf next ip first)
    (two : NeighborDone aton env next after ip view) : NeighborDone aton env vrf after ip view where
  unique := two.unique
  elsewhere := fun other different => (two.elsewhere other different).trans (one.elsewhere other different)
  hosts := fun other different => (two.hosts other different).trans (one.hosts other different)
  ports := two.ports.trans one.ports
  name := two.name.trans one.name
  fits := two.fits
  view := two.view

theorem delete_old_neighbor_done (contract : HostContract aton env)
    (idl : List NeighborRow) (vrf : Vrf) (neighbor : Neighbor) (cache : NeighborCache aton vrf)
    (found : neighborHashLookup vrf neighbor.ipAddress = some neighbor) :
    NeighborDone aton env vrf (deleteOldNeighbor env idl vrf neighbor) neighbor.ipAddress
      (if (Keyed.lookup NeighborRow.ipAddress neighbor.ipAddress idl).isNone then none
        else some (neighbor.mac, neighbor.portName)) := by
  have set := set_cfg_done aton env vrf neighbor (Keyed.lookup NeighborRow.ipAddress neighbor.ipAddress idl) cache found
  unfold deleteOldNeighbor
  simp only
  split
  · rename_i gone
    refine neighbor_done_twice aton env vrf _ _ _ _ _ set ?_
    refine neighbor_delete_done aton env contract _ _ (neighbor_cache_done aton env vrf _ _ _ cache set) ?_
    refine (Keyed.lookup_replace_self Neighbor.ipAddress _ _ _ (fun a _ same => same.symm)).trans ?_
    rw [← neighborHashLookup, found]
    rfl
  · exact set

theorem add_new_neighbor_done (contract : HostContract aton env) (origin vrf : Vrf)
    (row : NeighborRow) (valid : NeighborCacheOf aton origin vrf)
    (ports : ∀ name ∈ row.port, (origin.up.portLookup name).isSome) :
    NeighborDone aton env vrf (addNewNeighbor env vrf row) row.ipAddress
      (some ((neighborView vrf row.ipAddress).getD (createdView row))) := by
  unfold addNewNeighbor
  cases found : neighborHashLookup vrf row.ipAddress with
  | some neighbor =>
      refine ⟨valid.cache.unique, fun _ _ => rfl, fun _ _ => rfl, rfl, rfl, valid.cache.fits _, fun _ => ?_⟩
      simp [neighborView, found]
  | none =>
      have absent : neighborView vrf row.ipAddress = none := congrArg _ found
      rw [absent]
      have placed : ∀ name ∈ nonEmptyText row.port, (vrf.up.portLookup name).isSome := by
        intro name hasName
        simpa only [Bridge.portLookup, valid.ports] using ports name (Option.filter_eq_some_iff.mp hasName).1
      have done := neighbor_create_done aton env contract vrf row valid.cache found (fun _ => placed)
      rwa [placed_view_present _ _ _ placed] at done

theorem check_neighbor_change_done (contract : HostContract aton env) (origin vrf : Vrf)
    (row : NeighborRow) (valid : NeighborCacheOf aton origin vrf)
    (ports : ∀ name ∈ row.port, (origin.up.portLookup name).isSome) :
    NeighborDone aton env vrf (checkNeighborChange env vrf row) row.ipAddress
      (if row.modified && !row.inserted then (neighborView vrf row.ipAddress).map (fun _ => rowView row)
        else neighborView vrf row.ipAddress) := by
  unfold checkNeighborChange
  have same : NeighborDone aton env vrf vrf row.ipAddress (neighborView vrf row.ipAddress) :=
    ⟨valid.cache.unique, fun _ _ => rfl, fun _ _ => rfl, rfl, rfl, valid.cache.fits _, fun _ => rfl⟩
  split
  · cases found : neighborHashLookup vrf row.ipAddress with
    | none =>
        have absent : neighborView vrf row.ipAddress = none := congrArg _ found
        rw [absent] at same ⊢
        exact same
    | some neighbor =>
        have sameIp := Keyed.lookup_key Neighbor.ipAddress found
        have view : neighborView vrf row.ipAddress = some (neighbor.mac, neighbor.portName) := congrArg _ found
        rw [view, ← sameIp]
        rw [← sameIp] at found
        have placed : ∀ name ∈ row.port, (vrf.up.portLookup name).isSome := by
          simpa only [Bridge.portLookup, valid.ports] using ports
        have done := neighbor_modify_done aton env contract vrf neighbor row valid.cache found sameIp.symm (fun _ => placed)
        rwa [placed_view_present _ _ _ placed] at done
  · exact same

theorem neighbor_loop_view (succeed : AddsSucceed env) (origin vrf : Vrf)
    (valid : NeighborCacheOf aton origin vrf) (rows : List NeighborRow) (ips : Keyed.Unique NeighborRow.ipAddress rows)
    (step : Vrf → NeighborRow → Vrf)
    (effect : NeighborRow → Option (Option String × Option String) → Option (Option String × Option String))
    (done : ∀ s, ∀ row ∈ rows, NeighborCacheOf aton origin s →
      NeighborDone aton env s (step s row) row.ipAddress (effect row (neighborView s row.ipAddress))) :
    NeighborCacheOf aton origin (rows.foldl step vrf) ∧ ∀ ip, neighborView (rows.foldl step vrf) ip =
      (Keyed.lookup NeighborRow.ipAddress ip rows).elim (neighborView vrf ip) (fun row => effect row (neighborView vrf ip)) := by
  have keep : ∀ s, ∀ row ∈ rows, NeighborCacheOf aton origin s → NeighborCacheOf aton origin (step s row) :=
    fun s row member inv => neighbor_cache_of_done aton env origin s _ _ _ inv (done s row member inv)
  refine ⟨Keyed.foldl_keeps step (NeighborCacheOf aton origin) keep valid, ?_⟩
  intro ip
  exact Keyed.foldl_view NeighborRow.ipAddress step neighborView effect (NeighborCacheOf aton origin) ips keep
    (fun s row member inv => (done s row member inv).view succeed)
    (fun s row member other different inv => neighbor_view_elsewhere aton env s _ _ _ (done s row member inv) other different)
    vrf valid ip

theorem add_loop_view (contract : HostContract aton env) (succeed : AddsSucceed env)
    (origin vrf : Vrf) (valid : NeighborCacheOf aton origin vrf) (rows : List NeighborRow)
    (ips : Keyed.Unique NeighborRow.ipAddress rows)
    (ports : ∀ row ∈ rows, ∀ name ∈ row.port, (origin.up.portLookup name).isSome) :
    let after := rows.foldl (addNewNeighbor env) vrf
    NeighborCacheOf aton origin after ∧ ∀ ip, neighborView after ip =
      (Keyed.lookup NeighborRow.ipAddress ip rows).elim (neighborView vrf ip) (fun row =>
        some ((neighborView vrf ip).getD (createdView row))) :=
  neighbor_loop_view aton env succeed origin vrf valid rows ips (addNewNeighbor env)
    (fun row v => some (v.getD (createdView row)))
    (fun s row member inv => add_new_neighbor_done aton env contract origin s row inv (ports row member))

theorem modify_loop_view (contract : HostContract aton env) (succeed : AddsSucceed env)
    (origin vrf : Vrf) (valid : NeighborCacheOf aton origin vrf) (rows : List NeighborRow)
    (ips : Keyed.Unique NeighborRow.ipAddress rows)
    (ports : ∀ row ∈ rows, ∀ name ∈ row.port, (origin.up.portLookup name).isSome) :
    let after := rows.foldl (checkNeighborChange env) vrf
    NeighborCacheOf aton origin after ∧ ∀ ip, neighborView after ip =
      (Keyed.lookup NeighborRow.ipAddress ip rows).elim (neighborView vrf ip) (fun row =>
        if row.modified && !row.inserted then (neighborView vrf ip).map (fun _ => rowView row) else neighborView vrf ip) :=
  neighbor_loop_view aton env succeed origin vrf valid rows ips (checkNeighborChange env)
    (fun row v => if row.modified && !row.inserted then v.map (fun _ => rowView row) else v)
    (fun s row member inv => check_neighbor_change_done aton env contract origin s row inv (ports row member))

-- One run seen at one address: v is the cached entry before it, row the row
-- with that address.
def neighborViewAfter (table : IdlTable NeighborRow) (row : Option NeighborRow)
    (v : Option (Option String × Option String)) : Option (Option String × Option String) :=
  if table.rows.isEmpty then none
  else if !table.anyModified && !table.anyDeleted && !table.anyInserted then v
  else row.bind (fun row =>
    if table.anyModified && row.modified && !row.inserted then some (rowView row) else some (v.getD (createdView row)))

theorem own_neighbors (vrf : Vrf) (rows : List NeighborRow) (own : ∀ row ∈ rows, vrf.name = row.vrf) (ip : String) :
    Keyed.lookup NeighborRow.ipAddress ip (currentIdlNeighbors vrf rows) = Keyed.lookup NeighborRow.ipAddress ip rows := by
  have all : rows.filter (fun row => decide (vrf.name = row.vrf)) = rows :=
    List.filter_eq_self.mpr (fun row member => decide_eq_true (own row member))
  rw [currentIdlNeighbors, all, Keyed.lookup_collect]

theorem delete_phase_neighbors (contract : HostContract aton env) (succeed : AddsSucceed env)
    (vrf : Vrf) (cache : NeighborCache aton vrf) (idl : List NeighborRow) :
    let after := (env.order.walk vrf.allNeighbors).foldl (deleteOldNeighbor env idl) vrf
    NeighborCacheOf aton vrf after ∧ ∀ ip, neighborView after ip =
      (Keyed.lookup NeighborRow.ipAddress ip idl).bind (fun _ => neighborView vrf ip) := by
  intro after
  obtain ⟨kept, view⟩ := neighbor_walk_view aton env succeed vrf cache (deleteOldNeighbor env idl) _
    (fun s neighbor inv found => delete_old_neighbor_done aton env contract idl s neighbor inv found)
  refine ⟨kept, ?_⟩
  intro ip
  rw [view ip, neighborView]
  cases found : neighborHashLookup vrf ip with
  | none => simp
  | some neighbor =>
      rw [Option.bind_some, Keyed.lookup_key Neighbor.ipAddress found]
      cases Keyed.lookup NeighborRow.ipAddress ip idl <;> rfl

theorem created_view_iff (row : NeighborRow) : createdView row = rowView row ↔ row.port ≠ some "" := by
  unfold createdView rowView nonEmptyText
  cases row.port with
  | none => simp
  | some name => by_cases empty : name = "" <;> simp [Option.filter, empty]

theorem reconfigure_neighbors_view (valid : NeighborBatchValid aton state env) (cache : NeighborCache aton state.vrf) :
    NeighborCacheOf aton state.vrf (vrfReconfigureNeighbors env state.vrf) ∧
    ∀ ip, neighborView (vrfReconfigureNeighbors env state.vrf) ip =
      neighborViewAfter env.idl.neighbors (Keyed.lookup NeighborRow.ipAddress ip env.idl.neighbors.rows)
        (neighborView state.vrf ip) := by
  have ports := valid.ports
  unfold vrfReconfigureNeighbors
  by_cases empty : env.idl.neighbors.rows = []
  · obtain ⟨kept, view⟩ := neighbor_walk_view aton env valid.succeed state.vrf cache (neighborDelete env) (fun _ => none)
      (fun s neighbor inv found => neighbor_delete_done aton env valid.contract s neighbor inv found)
    simp only [empty, if_true, vrfDeleteAllNeighbors]
    refine ⟨kept, ?_⟩
    intro ip
    rw [view ip]
    simp [neighborViewAfter, empty]
  · simp only [empty, if_false]
    by_cases quiet : (!env.idl.neighbors.anyModified && !env.idl.neighbors.anyDeleted && !env.idl.neighbors.anyInserted) = true
    · simp only [quiet, if_true]
      exact ⟨⟨cache, rfl, rfl⟩, fun ip => by simp [neighborViewAfter, empty, quiet]⟩
    · simp only [quiet, Bool.false_eq_true, if_false]
      obtain ⟨deleted, deletedView⟩ := delete_phase_neighbors aton env valid.contract valid.succeed state.vrf cache
        (currentIdlNeighbors state.vrf env.idl.neighbors.rows)
      obtain ⟨added, addedView⟩ := add_loop_view aton env valid.contract valid.succeed state.vrf _ deleted
        env.idl.neighbors.rows valid.ips ports
      obtain ⟨modified, modifiedView⟩ := modify_loop_view aton env valid.contract valid.succeed state.vrf _ added
        env.idl.neighbors.rows valid.ips ports
      have view : ∀ ip, neighborView (env.idl.neighbors.rows.foldl (addNewNeighbor env) ((env.order.walk
          state.vrf.allNeighbors).foldl (deleteOldNeighbor env (currentIdlNeighbors state.vrf env.idl.neighbors.rows))
          state.vrf)) ip = (Keyed.lookup NeighborRow.ipAddress ip env.idl.neighbors.rows).map (fun row =>
            (neighborView state.vrf ip).getD (createdView row)) := by
        intro ip
        rw [addedView, deletedView, own_neighbors state.vrf _ valid.own]
        cases Keyed.lookup NeighborRow.ipAddress ip env.idl.neighbors.rows <;> rfl
      have active : ∀ row v, neighborViewAfter env.idl.neighbors row v = row.bind (fun row =>
          if env.idl.neighbors.anyModified && row.modified && !row.inserted then some (rowView row)
          else some (v.getD (createdView row))) := by
        intro row v
        rw [neighborViewAfter, if_neg (by simpa using empty), if_neg quiet]
      cases any : env.idl.neighbors.anyModified with
      | false =>
          simp only [Bool.false_eq_true, if_false]
          refine ⟨added, ?_⟩
          intro ip
          rw [view ip, active, any]
          cases Keyed.lookup NeighborRow.ipAddress ip env.idl.neighbors.rows <;> rfl
      | true =>
          simp only [if_true]
          refine ⟨modified, ?_⟩
          intro ip
          rw [modifiedView, view ip, active, any]
          cases Keyed.lookup NeighborRow.ipAddress ip env.idl.neighbors.rows with
          | none => rfl
          | some row => rfl

structure NeighborInv (aton : String → Bool) (state : NeighborState) : Prop where
  cache : NeighborCache aton state.vrf
  uuids : Keyed.Unique NeighborRow.uuid state.rows
  ips : Keyed.Unique NeighborRow.ipAddress state.rows
  views : ∀ ip, neighborView state.vrf ip = (Keyed.lookup NeighborRow.ipAddress ip state.rows).map rowView

theorem host_pair (vrf : Vrf) (cache : NeighborCache aton vrf) (ip : String) :
    (hwHost vrf.up.calls ip).map (fun host => (host.port, host.mac)) =
      (neighborHashLookup vrf ip).bind (wantedHost aton) := by
  have fits := cache.fits ip
  cases found : neighborHashLookup vrf ip with
  | none =>
      rw [found] at fits
      rw [show hwHost vrf.up.calls ip = none from fits]
      rfl
  | some neighbor =>
      rw [found] at fits
      rw [fits.1, Option.map_map, Option.bind_some]
      cases wantedHost aton neighbor <;> rfl

theorem views_follow (cache : NeighborCache aton state.vrf) :
    NeighborsFollow aton state ↔
      ∀ ip, neighborView state.vrf ip = (Keyed.lookup NeighborRow.ipAddress ip state.rows).map rowView := by
  constructor
  · exact fun follow ip => (follow.2 ip).1
  · intro views
    refine ⟨cache.unique, fun ip => ⟨views ip, ?_⟩⟩
    have view := views ip
    rw [host_pair aton state.vrf cache ip]
    unfold neighborView at view
    cases found : neighborHashLookup state.vrf ip with
    | none =>
        rw [found] at view
        rw [Option.map_eq_none_iff.mp view.symm]
        rfl
    | some neighbor =>
        rw [found] at view
        obtain ⟨row, here, same⟩ := Option.map_eq_some_iff.mp view.symm
        obtain ⟨mac, port⟩ := Prod.mk.inj same
        rw [here, Option.bind_some, Option.bind_some, wantedHost, rowHost, ← mac, ← port]

def joinedView (state : NeighborState) (row : NeighborRow) : Option String × Option String :=
  if row.inserted then (neighborView state.vrf row.ipAddress).getD (createdView row) else rowView row

theorem neighbor_step_view (valid : NeighborBatchValid aton state env) (inv : NeighborInv aton state) (ip : String) :
    neighborView (neighborStep state env).vrf ip =
      (Keyed.lookup NeighborRow.ipAddress ip env.idl.neighbors.rows).map (joinedView state) := by
  have tracks := valid.tracks
  refine ((reconfigure_neighbors_view aton state env valid inv.cache).2 ip).trans ?_
  cases here : Keyed.lookup NeighborRow.ipAddress ip env.idl.neighbors.rows with
  | none =>
      have absent := (Keyed.lookup_none_iff NeighborRow.ipAddress).mp here
      unfold neighborViewAfter
      split
      · rfl
      · split
        · rename_i quiet
          rw [inv.views ip]
          cases old : Keyed.lookup NeighborRow.ipAddress ip state.rows with
          | none => rfl
          | some prior =>
              have oldMember := Keyed.lookup_mem NeighborRow.ipAddress old
              have deleted := tracks.any_deleted prior oldMember (fun row member same =>
                absent row member ((valid.fixed row member prior oldMember same.symm).symm.trans
                  (Keyed.lookup_key NeighborRow.ipAddress old)))
              simp [deleted] at quiet
        · rfl
  | some row =>
      have member := Keyed.lookup_mem NeighborRow.ipAddress here
      obtain rfl := Keyed.lookup_key NeighborRow.ipAddress here
      have some_ : env.idl.neighbors.rows.isEmpty = false := List.isEmpty_eq_false_iff.mpr (List.ne_nil_of_mem member)
      rw [neighborViewAfter, some_, Option.bind_some, Option.map_some, joinedView]
      cases inserted : row.inserted with
      | true =>
          have any := tracks.any_inserted row member inserted
          simp [any]
      | false =>
          cases modified : row.modified with
          | true =>
              have any := tracks.any_modified row member modified
              simp [any]
          | false =>
              have unmodified : ¬ row.modified = true := by simp [modified]
              rw [tracks.modified_iff row member inserted] at unmodified
              push Not at unmodified
              obtain ⟨prior, old, sameUuid, mac, port, _⟩ := unmodified
              have cached : neighborView state.vrf row.ipAddress = some (rowView row) := by
                rw [inv.views, ← valid.fixed row member prior old sameUuid,
                  Keyed.lookup_of_mem NeighborRow.ipAddress inv.ips old, Option.map_some, rowView, mac, port, ← rowView]
              simp [cached]

theorem join_safe_iff (unique : Keyed.Unique Neighbor.ipAddress state.vrf.allNeighbors) :
    NeighborJoinSafe state env ↔ ∀ row ∈ env.idl.neighbors.rows, joinedView state row = rowView row := by
  refine forall₂_congr (fun row _ => ?_)
  unfold joinedView neighborView
  cases row.inserted with
  | false => simp
  | true =>
      simp only [if_true, true_imp_iff]
      cases found : neighborHashLookup state.vrf row.ipAddress with
      | none =>
          have absent := (Keyed.lookup_none_iff Neighbor.ipAddress).mp found
          rw [Option.map_none, Option.getD_none, created_view_iff]
          constructor
          · exact fun safe => safe.2 absent
          · exact fun named => ⟨fun neighbor member same => absurd same (absent neighbor member), fun _ => named⟩
      | some cached =>
          have member := Keyed.lookup_mem Neighbor.ipAddress found
          have same := Keyed.lookup_key Neighbor.ipAddress found
          simp only [Option.map_some, Option.getD_some, rowView, Prod.mk.injEq]
          constructor
          · exact fun safe => safe.1 cached member same
          · intro equal
            refine ⟨fun neighbor present sameIp => ?_, fun absent => absurd same (absent cached member)⟩
            rwa [Keyed.unique_mem_eq Neighbor.ipAddress unique present member (sameIp.trans same.symm)]

theorem neighbor_step_follows_iff (inv : NeighborInv aton state) (valid : NeighborBatchValid aton state env) :
    NeighborsFollow aton (neighborStep state env) ↔ NeighborJoinSafe state env := by
  have cache := (reconfigure_neighbors_view aton state env valid inv.cache).1.cache
  have view := neighbor_step_view aton state env valid inv
  rw [views_follow aton (neighborStep state env) cache, join_safe_iff state env inv.cache.unique]
  constructor
  · intro follow row member
    have same := (view row.ipAddress).symm.trans (follow row.ipAddress)
    change _ = (Keyed.lookup NeighborRow.ipAddress row.ipAddress env.idl.neighbors.rows).map rowView at same
    rw [Keyed.lookup_of_mem NeighborRow.ipAddress valid.ips member] at same
    exact Option.some.inj same
  · intro safe ip
    rw [view ip]
    change _ = (Keyed.lookup NeighborRow.ipAddress ip env.idl.neighbors.rows).map rowView
    cases here : Keyed.lookup NeighborRow.ipAddress ip env.idl.neighbors.rows with
    | none => rfl
    | some row => rw [Option.map_some, Option.map_some, safe row (Keyed.lookup_mem NeighborRow.ipAddress here)]

theorem neighbor_step_keeps (inv : NeighborInv aton state)
    (valid : NeighborBatchValid aton state env) (safe : NeighborJoinSafe state env) :
    NeighborInv aton (neighborStep state env) := by
  have cache := (reconfigure_neighbors_view aton state env valid inv.cache).1.cache
  exact ⟨cache, valid.uuids, valid.ips, (views_follow aton (neighborStep state env) cache).mp
    ((neighbor_step_follows_iff aton state env inv valid).mpr safe)⟩

theorem neighbor_start_inv (vrf : Vrf) (bare : vrf.allNeighbors = [])
    (hosts : ∀ ip, hwHost vrf.up.calls ip = none) : NeighborInv aton ⟨vrf, []⟩ := by
  have absent : ∀ ip, neighborHashLookup vrf ip = none := by
    intro ip
    rw [neighborHashLookup, bare]
    rfl
  refine ⟨⟨?_, ?_⟩, Keyed.unique_nil _, Keyed.unique_nil _, ?_⟩
  · change Keyed.Unique Neighbor.ipAddress vrf.allNeighbors
    rw [bare]
    exact Keyed.unique_nil _
  · intro ip
    change HostFits aton vrf.up ip (neighborHashLookup vrf ip)
    rw [absent ip]
    exact hosts ip
  · intro ip
    exact congrArg _ (absent ip)

end Run

theorem neighbors_follow_iff_joins_safe (aton : String → Bool) (vrf : Vrf) (bare : vrf.allNeighbors = [])
    (hosts : ∀ ip, hwHost vrf.up.calls ip = none) (envs : List Env)
    (valid : Runs.Along neighborStep (NeighborBatchValid aton) ⟨vrf, []⟩ envs) :
    Runs.Always neighborStep (NeighborsFollow aton) ⟨vrf, []⟩ envs ↔ Runs.Along neighborStep NeighborJoinSafe ⟨vrf, []⟩ envs :=
  Runs.always_iff_along (fun state inv => (views_follow aton state inv.cache).mpr inv.views) (neighbor_step_keeps aton)
    (fun state env inv valid => (neighbor_step_follows_iff aton state env inv valid).mp)
    (neighbor_start_inv aton vrf bare hosts) valid

theorem neighbor_env_contract (neighbors : IdlTable NeighborRow) :
    HostContract plainPlatform.etherAton (neighborEnv neighbors) ∧ AddsSucceed (neighborEnv neighbors) := by
  refine ⟨⟨rfl, ?_, fun _ _ _ _ => rfl⟩, fun _ _ => rfl⟩
  intro calls entry egress answer
  obtain rfl := Option.some.inj answer
  exact Int.natCast_succ_pos calls.length

def hostRow (uuid : Uuid) (mac port : String) (inserted modified : Bool) : NeighborRow :=
  ⟨uuid, "vrf_default", "10.0.0.2", some mac, some "ipv4", some port, inserted, modified⟩

theorem moved_neighbor_follows :
    Runs.Always neighborStep (NeighborsFollow plainPlatform.etherAton) ⟨portedVrf, []⟩
      [neighborEnv ⟨[hostRow 1 "00:00:00:00:00:01" "1" true false], true, false, false⟩,
       neighborEnv ⟨[hostRow 1 "00:00:00:00:00:02" "2" false true], false, true, false⟩] := by
  refine (neighbors_follow_iff_joins_safe plainPlatform.etherAton portedVrf rfl (fun _ => rfl) _ ?_).mpr ?_
  · simp only [Runs.along_cons, Runs.along_nil, and_true]
    exact ⟨⟨(neighbor_env_contract _).1, (neighbor_env_contract _).2, by decide, by decide, by decide, by decide, by decide,
      by decide⟩, ⟨(neighbor_env_contract _).1, (neighbor_env_contract _).2, by decide, by decide, by decide, by decide,
      by decide, by decide⟩⟩
  · simp only [Runs.along_cons, Runs.along_nil, and_true, NeighborJoinSafe]
    decide

-- The address survives the replacement: the delete phase keeps the neighbor,
-- the add loop finds it and the modify loop skips the inserted row.
theorem replaced_neighbor_keeps_mac :
    let envs := [neighborEnv ⟨[hostRow 1 "00:00:00:00:00:01" "1" true false], true, false, false⟩,
      neighborEnv ⟨[hostRow 2 "00:00:00:00:00:02" "2" true false], true, false, true⟩]
    Runs.Along neighborStep (NeighborBatchValid plainPlatform.etherAton) ⟨portedVrf, []⟩ envs ∧
      ¬ NeighborsFollow plainPlatform.etherAton (Runs.run neighborStep ⟨portedVrf, []⟩ envs) := by
  intro envs
  refine ⟨?_, ?_⟩
  · simp only [envs, Runs.along_cons, Runs.along_nil, and_true]
    exact ⟨⟨(neighbor_env_contract _).1, (neighbor_env_contract _).2, by decide, by decide, by decide, by decide, by decide,
      by decide⟩, ⟨(neighbor_env_contract _).1, (neighbor_env_contract _).2, by decide, by decide, by decide, by decide,
      by decide, by decide⟩⟩
  · rintro ⟨_, follow⟩
    exact absurd (follow "10.0.0.2").1 (by decide)

end OpsSwitchd
