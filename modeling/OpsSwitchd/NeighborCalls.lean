import OpsSwitchd.NeighborSpec

set_option autoImplicit false

namespace OpsSwitchd

inductive NeighborCalls (env : Env) (vrf : Vrf) (ip : String) : List OfprotoCall → Option NhState → Prop where
  | quiet : NeighborCalls env vrf ip [] none
  | addHost (entry : HostEntry) (answer : Option Int) : NeighborCalls env vrf ip [.addL3HostEntry entry answer] none
  | deleteHost (port : String) (isIpv6 : Bool) (host : String) (answer : Option Int) :
      NeighborCalls env vrf ip [.deleteL3HostEntry port isIpv6 host answer] none
  | routes (state : NhState) : NeighborCalls env vrf ip (routeUpdates env vrf ip state) (some state)
  | append (calls more : List OfprotoCall) (push later : Option NhState) (first : NeighborCalls env vrf ip calls push)
      (second : NeighborCalls env vrf ip more later) : NeighborCalls env vrf ip (calls ++ more) (later.or push)

section Calls

variable (env : Env) (vrf : Vrf) (neighbor : Neighbor)

theorem neighbor_calls_congr (vrf other : Vrf) (ip : String) (calls : List OfprotoCall) (push : Option NhState)
    (updates : ∀ state, routeUpdates env other ip state = routeUpdates env vrf ip state)
    (made : NeighborCalls env other ip calls push) : NeighborCalls env vrf ip calls push := by
  induction made with
  | quiet => exact .quiet
  | addHost entry answer => exact .addHost entry answer
  | deleteHost port isIpv6 host answer => exact .deleteHost port isIpv6 host answer
  | routes state => exact updates state ▸ .routes state
  | append calls more push later _ _ first second => exact .append calls more push later first second

def NeighborWork (env : Env) (vrf after : Vrf) (ip : String) (push : Option NhState) : Prop :=
  ∃ calls neighbors status rows, after = vrf.withNeighbors calls neighbors status rows ∧ NeighborCalls env vrf ip calls push

theorem neighbor_work_quiet (ip : String) (neighbors : List Neighbor) (status : List (Uuid × Smap))
    (rows : List NeighborRow) : NeighborWork env vrf (vrf.withNeighbors [] neighbors status rows) ip none :=
  ⟨[], neighbors, status, rows, rfl, .quiet⟩

theorem neighbor_work_refl (ip : String) : NeighborWork env vrf vrf ip none := by
  have quiet := neighbor_work_quiet env vrf ip vrf.allNeighbors vrf.nexthopStatus vrf.neighborRows
  rwa [with_neighbors_same] at quiet

theorem neighbor_work_trans (vrf middle after : Vrf) (ip : String) (push later : Option NhState)
    (first : NeighborWork env vrf middle ip push) (second : NeighborWork env middle after ip later) :
    NeighborWork env vrf after ip (later.or push) := by
  obtain ⟨calls, neighbors, status, rows, rfl, made⟩ := first
  obtain ⟨more, others, next, total, rfl, again⟩ := second
  exact ⟨calls ++ more, others, next, total, with_neighbors_twice vrf _ _ _ _ _ _ _ _,
    .append calls more push later made (neighbor_calls_congr env vrf (vrf.withNeighbors calls neighbors status rows) ip more later
      (fun _ => rfl) again)⟩

theorem neighbor_update_work (ip : String) :
    NeighborWork env vrf (neighborUpdate vrf neighbor) ip none := by
  have quiet := neighbor_work_quiet env vrf ip
    (Keyed.replace Neighbor.ipAddress neighbor.ipAddress (fun _ => neighbor) vrf.allNeighbors) vrf.nexthopStatus
    vrf.neighborRows
  rwa [Vrf.withNeighbors, emits_nil] at quiet

theorem neighbor_hash_delete_work (ip : String) :
    NeighborWork env vrf (neighborHashDelete vrf neighbor) ip none := by
  have quiet := neighbor_work_quiet env vrf ip (Keyed.remove Neighbor.ipAddress neighbor.ipAddress vrf.allNeighbors)
    vrf.nexthopStatus vrf.neighborRows
  rwa [Vrf.withNeighbors, emits_nil] at quiet

theorem update_route_work (resolved : Bool) :
    NeighborWork env vrf (vrfOfprotoUpdateRouteWithNeighbor env vrf neighbor resolved) neighbor.ipAddress
      (some (if resolved then .resolved neighbor.l3EgressId else .unresolved)) := by
  obtain ⟨status, updated⟩ := update_route_with_neighbor_eq env vrf neighbor resolved
  exact ⟨_, _, _, _, updated, .routes _⟩

theorem delete_host_work (ip : String) :
    NeighborWork env vrf (neighborDeleteL3HostEntry env vrf neighbor).1 ip none ∧
      (neighborDeleteL3HostEntry env vrf neighbor).2.ipAddress = neighbor.ipAddress := by
  unfold neighborDeleteL3HostEntry
  split
  · exact ⟨neighbor_work_refl env vrf ip, rfl⟩
  · exact ⟨⟨_, _, _, _, rfl, .deleteHost _ _ _ _⟩, rfl⟩

def programPush (env : Env) (vrf : Vrf) (neighbor : Neighbor) : Option NhState :=
  if hostWanted env neighbor then
    (neighbor.portName.bind vrf.up.portLookup).bind (fun port =>
      (env.platform.provider.addL3HostEntry vrf.up.calls (neighborHostEntry neighbor port)).map .resolved)
  else none

theorem neighbor_program_work :
    NeighborWork env vrf (neighborProgram env vrf neighbor) neighbor.ipAddress (programPush env vrf neighbor) := by
  unfold programPush
  cases wanted : hostWanted env neighbor with
  | false =>
      rw [neighbor_program_unwanted env vrf neighbor wanted]
      exact neighbor_work_refl env vrf _
  | true =>
      cases present : neighbor.portName.bind vrf.up.portLookup with
      | none =>
          rw [neighbor_program_no_port env vrf neighbor wanted present]
          exact neighbor_work_quiet env vrf _ _ _ _
      | some port =>
          rw [if_pos rfl, Option.bind_some]
          cases answer : env.platform.provider.addL3HostEntry vrf.up.calls (neighborHostEntry neighbor port) with
          | none =>
              rw [neighbor_program_failed env vrf neighbor wanted port present answer]
              exact ⟨_, _, _, _, rfl, .addHost _ _⟩
          | some egress =>
              obtain ⟨status, added⟩ := neighbor_program_added env vrf neighbor wanted port present egress answer
              exact ⟨_, _, _, _, added, .append _ _ none _ (.addHost _ _) (.routes (.resolved egress))⟩

theorem neighbor_create_work (row : NeighborRow) :
    NeighborWork env vrf (neighborCreate env vrf row) row.ipAddress (programPush env vrf (newNeighbor env row)) := by
  have entered := neighbor_work_quiet env vrf row.ipAddress (newNeighbor env row :: vrf.allNeighbors) vrf.nexthopStatus
    (vrf.neighborRows ++ [row])
  rw [Vrf.withNeighbors, emits_nil] at entered
  have both := neighbor_work_trans env _ _ _ _ _ _ entered (neighbor_program_work env _ (newNeighbor env row))
  rwa [Option.or_none] at both

theorem neighbor_delete_work :
    NeighborWork env vrf (neighborDelete env vrf neighbor) neighbor.ipAddress (some .unresolved) := by
  have updated := update_route_work env vrf neighbor false
  unfold neighborDelete
  refine neighbor_work_trans env _ _ _ _ (some .unresolved) none ?_ (neighbor_hash_delete_work env _ neighbor _)
  split
  · exact neighbor_work_trans env _ _ _ _ (some .unresolved) none updated (delete_host_work env _ neighbor _).1
  · exact updated

def neighborWithdrawn (neighbor : Neighbor) (row : NeighborRow) : Bool :=
  neighborStale neighbor row && neighbor.l3EgressId ≠ -1

def withdrawnWork (env : Env) (vrf : Vrf) (neighbor : Neighbor) (row : NeighborRow) : Vrf × Neighbor :=
  let first := neighborUpdate { vrf with neighborRows := vrf.neighborRows ++ [row] } (changedNeighbor neighbor row)
  if neighborWithdrawn neighbor row then
    neighborDeleteL3HostEntry env (vrfOfprotoUpdateRouteWithNeighbor env first (changedNeighbor neighbor row) false)
      (changedNeighbor neighbor row)
  else (first, changedNeighbor neighbor row)

def settlePush (env : Env) (neighbor : Neighbor) (row : NeighborRow) (work : Vrf × Neighbor) : Option NhState :=
  if neighborGains neighbor row then programPush env work.1 (settleNeighborPort (neighborChange neighbor row) work.2)
  else none

def modifyPush (env : Env) (vrf : Vrf) (neighbor : Neighbor) (row : NeighborRow) : Option NhState :=
  (settlePush env neighbor row (withdrawnWork env vrf neighbor row)).or
    (if neighborWithdrawn neighbor row then some .unresolved else none)

theorem settle_neighbor_work (row : NeighborRow) (work : Vrf × Neighbor) :
    NeighborWork env work.1 (settleNeighbor env neighbor row work) work.2.ipAddress (settlePush env neighbor row work) := by
  have address : (settleNeighborPort (neighborChange neighbor row) work.2).ipAddress = work.2.ipAddress := by
    unfold settleNeighborPort
    dsimp only
    split <;> split <;> rfl
  unfold settleNeighbor programGains settlePush
  dsimp only
  rw [← address]
  split
  · have both := neighbor_work_trans env _ _ _ _ _ _
      (neighbor_update_work env work.1 (settleNeighborPort (neighborChange neighbor row) work.2) _)
      (neighbor_program_work env (neighborUpdate work.1 (settleNeighborPort (neighborChange neighbor row) work.2))
        (settleNeighborPort (neighborChange neighbor row) work.2))
    rwa [Option.or_none] at both
  · exact neighbor_update_work env _ _ _

theorem withdrawn_work (row : NeighborRow) :
    NeighborWork env vrf (withdrawnWork env vrf neighbor row).1 neighbor.ipAddress
        (if neighborWithdrawn neighbor row then some .unresolved else none) ∧
      (withdrawnWork env vrf neighbor row).2.ipAddress = neighbor.ipAddress := by
  have recorded := neighbor_work_quiet env vrf neighbor.ipAddress vrf.allNeighbors vrf.nexthopStatus
    (vrf.neighborRows ++ [row])
  rw [Vrf.withNeighbors, emits_nil] at recorded
  have first := neighbor_work_trans env _ _ _ _ _ _ recorded (neighbor_update_work env _ (changedNeighbor neighbor row) _)
  unfold withdrawnWork
  dsimp only
  split
  · have updated := update_route_work env
      (neighborUpdate { vrf with neighborRows := vrf.neighborRows ++ [row] } (changedNeighbor neighbor row))
      (changedNeighbor neighbor row) false
    obtain ⟨withdrawn, address⟩ := delete_host_work env (vrfOfprotoUpdateRouteWithNeighbor env
      (neighborUpdate { vrf with neighborRows := vrf.neighborRows ++ [row] } (changedNeighbor neighbor row))
      (changedNeighbor neighbor row) false) (changedNeighbor neighbor row) neighbor.ipAddress
    exact ⟨neighbor_work_trans env _ _ _ _ (some .unresolved) none
      (neighbor_work_trans env _ _ _ _ none (some .unresolved) first updated) withdrawn, address⟩
  · exact ⟨first, rfl⟩

theorem neighbor_modify_work (row : NeighborRow) :
    NeighborWork env vrf (neighborModify env vrf neighbor row) neighbor.ipAddress (modifyPush env vrf neighbor row) := by
  obtain ⟨withdrawn, address⟩ := withdrawn_work env vrf neighbor row
  have settled := settle_neighbor_work env neighbor row (withdrawnWork env vrf neighbor row)
  rw [address] at settled
  exact neighbor_modify_eq env vrf neighbor row ▸ neighbor_work_trans env _ _ _ _ _ _ withdrawn settled

end Calls

end OpsSwitchd
