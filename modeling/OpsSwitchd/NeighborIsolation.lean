import OpsSwitchd.Bystander
import OpsSwitchd.NeighborCache
import OpsSwitchd.VrfOps

set_option autoImplicit false

namespace OpsSwitchd

section Isolation

variable (env : Env) (vrf : Vrf) (neighbor : Neighbor) (row : NeighborRow)

theorem update_route_rows (resolved : Bool) :
    (vrfOfprotoUpdateRouteWithNeighbor env vrf neighbor resolved).neighborRows = vrf.neighborRows := by
  obtain ⟨status, updated⟩ := update_route_with_neighbor_eq env vrf neighbor resolved
  rw [updated]
  rfl

theorem neighbor_program_rows :
    (neighborProgram env vrf neighbor).neighborRows = vrf.neighborRows := by
  cases wanted : hostWanted env neighbor with
  | false => rw [neighbor_program_unwanted env vrf neighbor wanted]
  | true =>
      cases present : neighbor.portName.bind vrf.up.portLookup with
      | none =>
          rw [neighbor_program_no_port env vrf neighbor wanted present]
          rfl
      | some port =>
          cases answer : env.platform.provider.addL3HostEntry vrf.up.calls (neighborHostEntry neighbor port) with
          | none =>
              rw [neighbor_program_failed env vrf neighbor wanted port present answer]
              rfl
          | some egress =>
              obtain ⟨status, added⟩ := neighbor_program_added env vrf neighbor wanted port present egress answer
              rw [added]
              rfl

theorem delete_host_entry_rows :
    (neighborDeleteL3HostEntry env vrf neighbor).1.neighborRows = vrf.neighborRows := by
  unfold neighborDeleteL3HostEntry
  split <;> rfl

theorem neighbor_create_rows :
    (neighborCreate env vrf row).neighborRows = vrf.neighborRows ++ [row] := by
  rw [neighbor_create_eq, neighbor_program_rows]
  rfl

theorem neighbor_delete_rows :
    (neighborDelete env vrf neighbor).neighborRows = vrf.neighborRows := by
  simp only [neighborDelete, neighborHashDelete]
  split
  · rw [delete_host_entry_rows, update_route_rows]
  · rw [update_route_rows]

theorem neighbor_modify_rows :
    (neighborModify env vrf neighbor row).neighborRows = vrf.neighborRows ++ [row] := by
  rw [neighbor_modify_eq]
  unfold settleNeighbor programGains
  have work : ∀ work : Vrf × Neighbor, work.1.neighborRows = vrf.neighborRows ++ [row] → ∀ settled gains,
      (if gains = true then neighborProgram env (neighborUpdate work.1 settled) settled
        else neighborUpdate work.1 settled).neighborRows = vrf.neighborRows ++ [row] := by
    intro work rows settled gains
    split
    · rw [neighbor_program_rows]
      exact rows
    · exact rows
  refine work _ ?_ _ _
  split
  · rw [delete_host_entry_rows, update_route_rows]
    rfl
  · rfl

def neighborAdds (vrf : Vrf) (row : NeighborRow) : Bool := !(neighborHashLookup vrf row.ipAddress).isSome

def neighborChanges (vrf : Vrf) (row : NeighborRow) : Bool :=
  row.modified && !row.inserted && (neighborHashLookup vrf row.ipAddress).isSome

theorem add_new_neighbor_idle (idle : neighborAdds vrf row = false) :
    addNewNeighbor env vrf row = vrf := by
  unfold neighborAdds at idle
  rw [addNewNeighbor, if_pos (by simpa using idle)]

theorem add_new_neighbor_logged (adds : neighborAdds vrf row = true) :
    (addNewNeighbor env vrf row).neighborRows = vrf.neighborRows ++ [row] := by
  unfold neighborAdds at adds
  rw [addNewNeighbor, if_neg (by simpa using adds), neighbor_create_rows]

theorem check_neighbor_change_idle (idle : neighborChanges vrf row = false) :
    checkNeighborChange env vrf row = vrf := by
  unfold neighborChanges at idle
  unfold checkNeighborChange
  split
  · rename_i changed
    rw [changed, Bool.true_and, ← Bool.not_eq_true, Option.not_isSome_iff_eq_none] at idle
    rw [idle]
  · rfl

theorem check_neighbor_change_logged (changes : neighborChanges vrf row = true) :
    (checkNeighborChange env vrf row).neighborRows = vrf.neighborRows ++ [row] := by
  unfold neighborChanges at changes
  obtain ⟨changed, cached⟩ := Bool.and_eq_true_iff.mp changes
  obtain ⟨neighbor, found⟩ := Option.isSome_iff_exists.mp cached
  rw [checkNeighborChange, if_pos changed, found]
  exact neighbor_modify_rows env vrf neighbor row

def ownNeighbor (vrf : Vrf) (row : NeighborRow) : Bool := decide (vrf.name = row.vrf)

def deletedNeighbors (env : Env) (vrf : Vrf) : Vrf :=
  (env.order.walk vrf.allNeighbors).foldl
    (deleteOldNeighbor env (currentIdlNeighbors vrf env.idl.neighbors.rows)) vrf

def ForeignNeighborsQuiet (env : Env) (vrf : Vrf) : Prop :=
  Bystander.Quiet (addNewNeighbor env) (ownNeighbor vrf) neighborAdds (deletedNeighbors env vrf) env.idl.neighbors.rows ∧
  (env.idl.neighbors.anyModified = true →
    Bystander.Quiet (checkNeighborChange env) (ownNeighbor vrf) neighborChanges
      ((env.idl.neighbors.rows.filter (ownNeighbor vrf)).foldl (addNewNeighbor env) (deletedNeighbors env vrf))
      env.idl.neighbors.rows)

def TouchedByOwn (env : Env) (vrf : Vrf) : Prop :=
  ∃ new, (vrfReconfigureNeighbors env vrf).neighborRows = vrf.neighborRows ++ new ∧ ∀ row ∈ new, ownNeighbor vrf row = true

structure SameOwnNeighbors (name : String) (table other : IdlTable NeighborRow) : Prop where
  rows : table.rows.filter (fun row => name = row.vrf) = other.rows.filter (fun row => name = row.vrf)
  anyInserted : table.anyInserted = other.anyInserted
  anyModified : table.anyModified = other.anyModified
  anyDeleted : table.anyDeleted = other.anyDeleted
  active : (table.anyModified || table.anyDeleted || table.anyInserted) = true
  left : table.rows ≠ []
  right : other.rows ≠ []

def Env.withNeighborTable (env : Env) (table : IdlTable NeighborRow) : Env :=
  { env with idl := { env.idl with neighbors := table } }

def NeighborsIsolated (env other : Env) (vrf : Vrf) : Prop :=
  (vrfReconfigureNeighbors env vrf).allNeighbors = (vrfReconfigureNeighbors other vrf).allNeighbors ∧
  (vrfReconfigureNeighbors env vrf).up.calls.Perm (vrfReconfigureNeighbors other vrf).up.calls ∧
  TouchedByOwn env vrf ∧ TouchedByOwn other vrf

theorem reconfigure_neighbors_loops (some_ : env.idl.neighbors.rows ≠ [])
    (active : (env.idl.neighbors.anyModified || env.idl.neighbors.anyDeleted || env.idl.neighbors.anyInserted) = true) :
    vrfReconfigureNeighbors env vrf =
      if env.idl.neighbors.anyModified then env.idl.neighbors.rows.foldl (checkNeighborChange env)
        (env.idl.neighbors.rows.foldl (addNewNeighbor env) (deletedNeighbors env vrf))
      else env.idl.neighbors.rows.foldl (addNewNeighbor env) (deletedNeighbors env vrf) := by
  have entered : ¬ (!env.idl.neighbors.anyModified && !env.idl.neighbors.anyDeleted && !env.idl.neighbors.anyInserted) = true := by
    revert active
    cases env.idl.neighbors.anyModified <;> cases env.idl.neighbors.anyDeleted <;> cases env.idl.neighbors.anyInserted <;>
      simp
  rw [vrfReconfigureNeighbors]
  simp only [if_neg some_, if_neg entered]
  rfl

theorem deleted_neighbors_rows : (deletedNeighbors env vrf).neighborRows = vrf.neighborRows := by
  refine Keyed.foldl_keeps _ (fun s : Vrf => s.neighborRows = vrf.neighborRows) ?_ rfl
  intro s neighbor _ same
  unfold deleteOldNeighbor
  simp only
  split
  · rw [neighbor_delete_rows]
    exact same
  · exact same

theorem touched_by_own_iff (some_ : env.idl.neighbors.rows ≠ [])
    (active : (env.idl.neighbors.anyModified || env.idl.neighbors.anyDeleted || env.idl.neighbors.anyInserted) = true) :
    TouchedByOwn env vrf ↔ ForeignNeighborsQuiet env vrf := by
  have deleted := deleted_neighbors_rows env vrf
  unfold TouchedByOwn ForeignNeighborsQuiet
  rw [reconfigure_neighbors_loops env vrf some_ active]
  cases env.idl.neighbors.anyModified with
  | false =>
      have quiet : Bystander.Quiet (addNewNeighbor env) (ownNeighbor vrf) neighborAdds _ _ ↔ _ :=
        Bystander.quiet_iff_logged Vrf.neighborRows (add_new_neighbor_idle env) (add_new_neighbor_logged env)
          (deletedNeighbors env vrf) env.idl.neighbors.rows
      rw [deleted] at quiet
      simpa using quiet.symm
  | true =>
      have quiet : Bystander.Quiet (addNewNeighbor env) (ownNeighbor vrf) neighborAdds _ _ ∧ _ ↔ _ :=
        Bystander.quiet_pair_iff_logged Vrf.neighborRows (add_new_neighbor_idle env) (add_new_neighbor_logged env)
          (check_neighbor_change_idle env) (check_neighbor_change_logged env) (deletedNeighbors env vrf) env.idl.neighbors.rows
      rw [deleted] at quiet
      simpa using quiet.symm

theorem quiet_run_own (some_ : env.idl.neighbors.rows ≠ [])
    (active : (env.idl.neighbors.anyModified || env.idl.neighbors.anyDeleted || env.idl.neighbors.anyInserted) = true)
    (quiet : ForeignNeighborsQuiet env vrf) :
    let own := env.idl.neighbors.rows.filter (ownNeighbor vrf)
    vrfReconfigureNeighbors env vrf =
      if env.idl.neighbors.anyModified then
        own.foldl (checkNeighborChange env) (own.foldl (addNewNeighbor env) (deletedNeighbors env vrf))
      else own.foldl (addNewNeighbor env) (deletedNeighbors env vrf) := by
  intro own
  rw [reconfigure_neighbors_loops env vrf some_ active, Bystander.foldl_quiet (add_new_neighbor_idle env) quiet.1]
  split
  · rename_i any
    exact Bystander.foldl_quiet (check_neighbor_change_idle env) (quiet.2 any)
  · rfl

theorem quiet_runs_agree (table : IdlTable NeighborRow) (vrf : Vrf)
    (same : SameOwnNeighbors vrf.name env.idl.neighbors table) (left : ForeignNeighborsQuiet env vrf)
    (right : ForeignNeighborsQuiet (env.withNeighborTable table) vrf) :
    vrfReconfigureNeighbors env vrf = vrfReconfigureNeighbors (env.withNeighborTable table) vrf := by
  have own : env.idl.neighbors.rows.filter (ownNeighbor vrf) = table.rows.filter (ownNeighbor vrf) := same.rows
  have deleted : deletedNeighbors (env.withNeighborTable table) vrf = deletedNeighbors env vrf := by
    unfold deletedNeighbors currentIdlNeighbors
    rw [same.rows]
    rfl
  have activeRight : (table.anyModified || table.anyDeleted || table.anyInserted) = true := by
    rw [← same.anyModified, ← same.anyDeleted, ← same.anyInserted]
    exact same.active
  rw [quiet_run_own env vrf same.left same.active left, quiet_run_own (env.withNeighborTable table) vrf same.right activeRight right,
    deleted, own, same.anyModified]
  rfl

theorem isolated_iff_quiet (table : IdlTable NeighborRow) (vrf : Vrf)
    (same : SameOwnNeighbors vrf.name env.idl.neighbors table) :
    NeighborsIsolated env (env.withNeighborTable table) vrf ↔
      ForeignNeighborsQuiet env vrf ∧ ForeignNeighborsQuiet (env.withNeighborTable table) vrf := by
  have activeRight : (table.anyModified || table.anyDeleted || table.anyInserted) = true := by
    rw [← same.anyModified, ← same.anyDeleted, ← same.anyInserted]
    exact same.active
  have left := touched_by_own_iff env vrf same.left same.active
  have right := touched_by_own_iff (env.withNeighborTable table) vrf same.right activeRight
  constructor
  · rintro ⟨_, _, touchedLeft, touchedRight⟩
    exact ⟨left.mp touchedLeft, right.mp touchedRight⟩
  · rintro ⟨quietLeft, quietRight⟩
    have agree := quiet_runs_agree env table vrf same quietLeft quietRight
    exact ⟨congrArg Vrf.allNeighbors agree, .of_eq (congrArg (fun s : Vrf => s.up.calls) agree), left.mpr quietLeft,
      right.mpr quietRight⟩

def cachedIp (vrf : Vrf) (ip : String) : Bool := (neighborHashLookup vrf ip).isSome

theorem cached_ip_iff (ip : String) :
    cachedIp vrf ip = true ↔ ∃ neighbor ∈ vrf.allNeighbors, neighbor.ipAddress = ip :=
  Keyed.lookup_some_iff_exists Neighbor.ipAddress

theorem cached_ip_replace (calls : List OfprotoCall) (status : List (Uuid × Smap)) (rows : List NeighborRow) (ip : String) :
    cachedIp (vrf.withNeighbors calls (Keyed.replace Neighbor.ipAddress neighbor.ipAddress (fun _ => neighbor) vrf.allNeighbors)
      status rows) ip = cachedIp vrf ip := by
  have kept : ∀ other ∈ vrf.allNeighbors, other.ipAddress = neighbor.ipAddress → neighbor.ipAddress = other.ipAddress :=
    fun _ _ same => same.symm
  by_cases here : ip = neighbor.ipAddress
  · subst here
    exact (congrArg Option.isSome (Keyed.lookup_replace_self Neighbor.ipAddress neighbor.ipAddress (fun _ => neighbor)
      vrf.allNeighbors kept)).trans Option.isSome_map
  · exact congrArg Option.isSome (Keyed.lookup_replace_other Neighbor.ipAddress here (fun _ => neighbor) vrf.allNeighbors kept)

theorem cached_ip_remove (ip other : String) (calls : List OfprotoCall) (status : List (Uuid × Smap))
    (rows : List NeighborRow) :
    cachedIp (vrf.withNeighbors calls (Keyed.remove Neighbor.ipAddress ip vrf.allNeighbors) status rows) other =
      (decide (other ≠ ip) && cachedIp vrf other) := by
  by_cases here : other = ip
  · subst here
    rw [decide_eq_false (by simp), Bool.false_and]
    exact congrArg Option.isSome (Keyed.lookup_remove_self Neighbor.ipAddress other vrf.allNeighbors)
  · rw [decide_eq_true here, Bool.true_and]
    exact congrArg Option.isSome (Keyed.lookup_remove_other Neighbor.ipAddress here vrf.allNeighbors)

theorem cached_ip_update (ip : String) :
    cachedIp (neighborUpdate vrf neighbor) ip = cachedIp vrf ip :=
  cached_ip_replace vrf neighbor [] vrf.nexthopStatus vrf.neighborRows ip

theorem cached_ip_update_route (resolved : Bool) (ip : String) :
    cachedIp (vrfOfprotoUpdateRouteWithNeighbor env vrf neighbor resolved) ip = cachedIp vrf ip := by
  obtain ⟨status, updated⟩ := update_route_with_neighbor_eq env vrf neighbor resolved
  rw [updated]
  rfl

theorem cached_ip_delete_host (ip : String) :
    cachedIp (neighborDeleteL3HostEntry env vrf neighbor).1 ip = cachedIp vrf ip := by
  unfold neighborDeleteL3HostEntry
  split
  · rfl
  · exact cached_ip_update _ _ ip

theorem cached_ip_delete (ip : String) :
    cachedIp (neighborDelete env vrf neighbor) ip = (decide (ip ≠ neighbor.ipAddress) && cachedIp vrf ip) := by
  have removed : ∀ s : Vrf, cachedIp (neighborHashDelete s neighbor) ip =
      (decide (ip ≠ neighbor.ipAddress) && cachedIp s ip) :=
    fun s => cached_ip_remove s neighbor.ipAddress ip [] s.nexthopStatus s.neighborRows
  rw [neighborDelete]
  simp only [removed]
  split
  · rw [cached_ip_delete_host, cached_ip_update_route]
  · rw [cached_ip_update_route]

theorem cached_ip_delete_old (rows : List NeighborRow) (vrf : Vrf) (neighbor : Neighbor) (ip : String) :
    cachedIp (deleteOldNeighbor env rows vrf neighbor) ip =
      (cachedIp vrf ip && (decide (neighbor.ipAddress ≠ ip) || (Keyed.lookup NeighborRow.ipAddress ip rows).isSome)) := by
  unfold deleteOldNeighbor
  simp only
  by_cases here : neighbor.ipAddress = ip
  · subst here
    split
    · rename_i gone
      rw [cached_ip_delete]
      simp [Option.isNone_iff_eq_none.mp gone]
    · rename_i row
      rw [cached_ip_update]
      simp [Option.isSome_iff_ne_none, Option.isNone_iff_eq_none.not.mp row]
  · split
    · rw [cached_ip_delete, cached_ip_update]
      simp [here, Ne.symm here]
    · rw [cached_ip_update]
      simp [here]

theorem cached_ip_delete_loop (rows : List NeighborRow) (neighbors : List Neighbor) (vrf : Vrf) (ip : String) :
    cachedIp (neighbors.foldl (deleteOldNeighbor env rows) vrf) ip =
      (cachedIp vrf ip && neighbors.all (fun neighbor =>
        decide (neighbor.ipAddress ≠ ip) || (Keyed.lookup NeighborRow.ipAddress ip rows).isSome)) := by
  induction neighbors generalizing vrf with
  | nil => simp
  | cons neighbor rest ih => rw [List.foldl_cons, ih, cached_ip_delete_old, List.all_cons, Bool.and_assoc]

theorem cached_ip_deleted (ip : String) :
    cachedIp (deletedNeighbors env vrf) ip = true ↔
      cachedIp vrf ip = true ∧ ∃ own ∈ env.idl.neighbors.rows, ownNeighbor vrf own = true ∧ own.ipAddress = ip := by
  have found : (Keyed.lookup NeighborRow.ipAddress ip (currentIdlNeighbors vrf env.idl.neighbors.rows)).isSome = true ↔
      ∃ own ∈ env.idl.neighbors.rows, ownNeighbor vrf own = true ∧ own.ipAddress = ip := by
    rw [currentIdlNeighbors, Keyed.lookup_collect, Keyed.lookup_some_iff_exists]
    simp [ownNeighbor, and_assoc]
  rw [deletedNeighbors, cached_ip_delete_loop, Bool.and_eq_true, ← found]
  refine and_congr_right fun cached => ?_
  obtain ⟨neighbor, member, here⟩ := (cached_ip_iff vrf ip).mp cached
  rw [List.all_eq_true]
  constructor
  · intro every
    simpa [here] using every neighbor ((env.order.mem_walk _ _).mpr member)
  · intro present other _
    rw [present, Bool.or_true]

theorem cached_ip_program_other (ip : String) (different : ip ≠ neighbor.ipAddress) :
    cachedIp (neighborProgram env vrf neighbor) ip = cachedIp vrf ip := by
  have removed : ∀ calls, cachedIp (vrf.withNeighbors calls (Keyed.remove Neighbor.ipAddress neighbor.ipAddress vrf.allNeighbors)
      vrf.nexthopStatus vrf.neighborRows) ip = cachedIp vrf ip := by
    intro calls
    rw [cached_ip_remove, decide_eq_true different, Bool.true_and]
  cases wanted : hostWanted env neighbor with
  | false => rw [neighbor_program_unwanted env vrf neighbor wanted]
  | true =>
      cases present : neighbor.portName.bind vrf.up.portLookup with
      | none =>
          rw [neighbor_program_no_port env vrf neighbor wanted present]
          exact removed []
      | some port =>
          cases answer : env.platform.provider.addL3HostEntry vrf.up.calls (neighborHostEntry neighbor port) with
          | none =>
              rw [neighbor_program_failed env vrf neighbor wanted port present answer]
              exact removed _
          | some egress =>
              obtain ⟨status, added⟩ := neighbor_program_added env vrf neighbor wanted port present egress answer
              rw [added]
              exact cached_ip_replace vrf { neighbor with l3EgressId := egress } _ status vrf.neighborRows ip

def AddsFail (env : Env) : Prop := ∀ calls entry, env.platform.provider.addL3HostEntry calls entry = none

theorem cached_ip_program_accepted (ip : String)
    (accepts : AddsSucceed env) (placed : ∀ name ∈ neighbor.portName, (vrf.up.portLookup name).isSome = true) :
    cachedIp (neighborProgram env vrf neighbor) ip = cachedIp vrf ip := by
  cases wanted : hostWanted env neighbor with
  | false => rw [neighbor_program_unwanted env vrf neighbor wanted]
  | true =>
      obtain ⟨name, named⟩ := Option.isSome_iff_exists.mp (Bool.and_eq_true_iff.mp wanted).1
      obtain ⟨port, found⟩ := Option.isSome_iff_exists.mp (placed name named)
      have present : neighbor.portName.bind vrf.up.portLookup = some port := by rw [named]; exact found
      obtain ⟨egress, answer⟩ := Option.isSome_iff_exists.mp (accepts vrf.up.calls (neighborHostEntry neighbor port))
      obtain ⟨status, added⟩ := neighbor_program_added env vrf neighbor wanted port present egress answer
      rw [added]
      exact cached_ip_replace vrf { neighbor with l3EgressId := egress } _ status vrf.neighborRows ip

theorem cached_ip_program_refused (refuses : AddsFail env)
    (wanted : hostWanted env neighbor = true) : cachedIp (neighborProgram env vrf neighbor) neighbor.ipAddress = false := by
  have removed : ∀ calls, cachedIp (vrf.withNeighbors calls (Keyed.remove Neighbor.ipAddress neighbor.ipAddress vrf.allNeighbors)
      vrf.nexthopStatus vrf.neighborRows) neighbor.ipAddress = false := by
    intro calls
    rw [cached_ip_remove, decide_eq_false (by simp), Bool.false_and]
  cases present : neighbor.portName.bind vrf.up.portLookup with
  | none =>
      rw [neighbor_program_no_port env vrf neighbor wanted present]
      exact removed []
  | some port =>
      rw [neighbor_program_failed env vrf neighbor wanted port present (refuses _ _)]
      exact removed _

def NeedsNoHost (etherAton : String → Bool) (row : NeighborRow) : Prop :=
  nonEmptyText row.port = none ∨ (nonEmptyText row.mac).any etherAton = false

theorem needs_no_host_iff :
    NeedsNoHost env.platform.etherAton row ↔ hostWanted env (newNeighbor env row) = false := by
  rw [hostWanted, Bool.and_eq_false_iff, Option.isSome_eq_false_iff, Option.isNone_iff_eq_none]
  exact Iff.rfl

theorem cached_ip_create_other (ip : String) (different : ip ≠ row.ipAddress) :
    cachedIp (neighborCreate env vrf row) ip = cachedIp vrf ip := by
  rw [neighbor_create_eq, cached_ip_program_other _ _ _ _ different]
  exact congrArg Option.isSome ((Keyed.lookup_cons Neighbor.ipAddress ip (newNeighbor env row) vrf.allNeighbors).trans
    (if_neg (Ne.symm different)))

theorem cached_ip_add_new (ip : String) (cached : cachedIp vrf ip = true) :
    cachedIp (addNewNeighbor env vrf row) ip = true := by
  unfold addNewNeighbor
  split
  · exact cached
  · rename_i absent
    rw [cached_ip_create_other, cached]
    rintro rfl
    exact absent cached

theorem cached_ip_add_unprogrammed (idle : NeedsNoHost env.platform.etherAton row) :
    cachedIp (addNewNeighbor env vrf row) row.ipAddress = true := by
  unfold addNewNeighbor
  split
  · rename_i cached
    exact cached
  · rw [neighbor_create_eq, neighbor_program_unwanted _ _ _ ((needs_no_host_iff env row).mp idle)]
    exact (cached_ip_iff _ _).mpr ⟨newNeighbor env row, List.mem_cons_self, rfl⟩

theorem cached_ip_add_refused (ip : String) (refuses : AddsFail env)
    (cached : cachedIp (addNewNeighbor env vrf row) ip = true) :
    cachedIp vrf ip = true ∨ (row.ipAddress = ip ∧ NeedsNoHost env.platform.etherAton row) := by
  unfold addNewNeighbor at cached
  split at cached
  · exact .inl cached
  · by_cases here : ip = row.ipAddress
    · subst here
      refine .inr ⟨rfl, (needs_no_host_iff env row).mpr ?_⟩
      by_contra wanted
      rw [neighbor_create_eq] at cached
      have dropped := cached_ip_program_refused env (vrf.withNeighbors [] (newNeighbor env row :: vrf.allNeighbors)
        vrf.nexthopStatus (vrf.neighborRows ++ [row])) (newNeighbor env row) refuses (Bool.not_eq_false _ ▸ wanted)
      exact absurd (cached.symm.trans dropped) (by decide)
    · exact .inl (cached_ip_create_other env vrf row ip here ▸ cached)

theorem cached_ip_add_loop (rows : List NeighborRow) (vrf : Vrf) (ip : String)
    (known : cachedIp vrf ip = true ∨ ∃ row ∈ rows, row.ipAddress = ip ∧ NeedsNoHost env.platform.etherAton row) :
    cachedIp (rows.foldl (addNewNeighbor env) vrf) ip = true := by
  induction rows generalizing vrf with
  | nil => simpa using known
  | cons row rest ih =>
      rw [List.foldl_cons]
      apply ih
      rcases known with cached | ⟨other, member, here, idle⟩
      · exact .inl (cached_ip_add_new env vrf row ip cached)
      · rcases List.mem_cons.mp member with rfl | later
        · exact .inl (here ▸ cached_ip_add_unprogrammed env vrf other idle)
        · exact .inr ⟨other, later, here, idle⟩

theorem cached_ip_add_loop_refused (rows : List NeighborRow) (vrf : Vrf) (ip : String)
    (refuses : AddsFail env) (cached : cachedIp (rows.foldl (addNewNeighbor env) vrf) ip = true) :
    cachedIp vrf ip = true ∨ ∃ row ∈ rows, row.ipAddress = ip ∧ NeedsNoHost env.platform.etherAton row := by
  induction rows generalizing vrf with
  | nil => exact .inl cached
  | cons row rest ih =>
      rcases ih (addNewNeighbor env vrf row) cached with first | ⟨other, member, here⟩
      · rcases cached_ip_add_refused env vrf row ip refuses first with before | here
        · exact .inl before
        · exact .inr ⟨row, List.mem_cons_self, here⟩
      · exact .inr ⟨other, List.mem_cons_of_mem _ member, here⟩

theorem delete_host_entry_neighbor :
    ∃ egress, (neighborDeleteL3HostEntry env vrf neighbor).2 = { neighbor with l3EgressId := egress } := by
  unfold neighborDeleteL3HostEntry
  split
  · exact ⟨neighbor.l3EgressId, rfl⟩
  · exact ⟨_, rfl⟩

theorem delete_host_entry_ports :
    (neighborDeleteL3HostEntry env vrf neighbor).1.up.ports = vrf.up.ports := by
  unfold neighborDeleteL3HostEntry
  split <;> rfl

theorem update_route_ports (resolved : Bool) :
    (vrfOfprotoUpdateRouteWithNeighbor env vrf neighbor resolved).up.ports = vrf.up.ports := by
  obtain ⟨status, updated⟩ := update_route_with_neighbor_eq env vrf neighbor resolved
  rw [updated]
  rfl

def PortPlaced (vrf : Vrf) (row : NeighborRow) : Prop := ∀ name ∈ row.port, (vrf.up.portLookup name).isSome = true

theorem port_placed_congr {vrf after : Vrf} {row : NeighborRow} (same : after.up.ports = vrf.up.ports)
    (placed : PortPlaced vrf row) : PortPlaced after row := by
  intro name named
  rw [Bridge.portLookup, same]
  exact placed name named

theorem cached_ip_settle (work : Vrf × Neighbor) (egress : Int) (ip : String)
    (accepts : AddsSucceed env) (placed : PortPlaced work.1 row)
    (changed : work.2 = { changedNeighbor neighbor row with l3EgressId := egress }) :
    cachedIp (settleNeighbor env neighbor row work) ip = cachedIp work.1 ip := by
  unfold settleNeighbor programGains
  rw [changed, settle_port_eq]
  have updated := cached_ip_update work.1 (updatedNeighbor neighbor row egress) ip
  dsimp only
  split
  · exact (cached_ip_program_accepted env (neighborUpdate work.1 (updatedNeighbor neighbor row egress))
      (updatedNeighbor neighbor row egress) ip accepts placed).trans updated
  · exact updated

theorem cached_ip_modify (ip : String) (accepts : AddsSucceed env) (placed : PortPlaced vrf row) :
    cachedIp (neighborModify env vrf neighbor row) ip = cachedIp vrf ip := by
  let first := neighborUpdate { vrf with neighborRows := vrf.neighborRows ++ [row] } (changedNeighbor neighbor row)
  let unresolved := vrfOfprotoUpdateRouteWithNeighbor env first (changedNeighbor neighbor row) false
  have cached : cachedIp first ip = cachedIp vrf ip :=
    cached_ip_update { vrf with neighborRows := vrf.neighborRows ++ [row] } (changedNeighbor neighbor row) ip
  rw [neighbor_modify_eq]
  split
  · obtain ⟨egress, changed⟩ := delete_host_entry_neighbor env unresolved (changedNeighbor neighbor row)
    have ports : (neighborDeleteL3HostEntry env unresolved (changedNeighbor neighbor row)).1.up.ports = vrf.up.ports :=
      (delete_host_entry_ports _ _ _).trans (update_route_ports env first _ _)
    rw [cached_ip_settle env neighbor row _ egress ip accepts (port_placed_congr ports placed) changed, cached_ip_delete_host,
      cached_ip_update_route]
    exact cached
  · exact (cached_ip_settle env neighbor row _ neighbor.l3EgressId ip accepts placed rfl).trans cached

theorem check_neighbor_change_ports :
    (checkNeighborChange env vrf row).up.ports = vrf.up.ports := by
  unfold checkNeighborChange
  split
  · split
    · rename_i neighbor _
      obtain ⟨calls, neighbors, status, rows, modified, _⟩ := neighbor_modify_work env vrf neighbor row
      rw [modified]
      rfl
    · rfl
  · rfl

theorem cached_ip_modify_loop (rows : List NeighborRow) (vrf : Vrf) (ip : String)
    (accepts : AddsSucceed env) (placed : ∀ row ∈ rows, PortPlaced vrf row) :
    cachedIp (rows.foldl (checkNeighborChange env) vrf) ip = cachedIp vrf ip := by
  have kept : (rows.foldl (checkNeighborChange env) vrf).up.ports = vrf.up.ports ∧
      cachedIp (rows.foldl (checkNeighborChange env) vrf) ip = cachedIp vrf ip := by
    refine Keyed.foldl_keeps (checkNeighborChange env)
      (fun s : Vrf => s.up.ports = vrf.up.ports ∧ cachedIp s ip = cachedIp vrf ip) ?_ ⟨rfl, rfl⟩
    intro s row member same
    refine ⟨(check_neighbor_change_ports env s row).trans same.1, ?_⟩
    rw [← same.2]
    unfold checkNeighborChange
    split
    · split
      · exact cached_ip_modify env s _ row ip accepts (port_placed_congr same.1 (placed row member))
      · rfl
    · rfl
  exact kept.2

-- In the tables as they are given: the address of a row of another VRF is one
-- that the VRF has cached and has a row for, or an earlier row of the VRF puts
-- it into the cache without asking the provider; and the row is not seen as
-- modified.
structure ForeignNeighborsShadowed (etherAton : String → Bool) (table : IdlTable NeighborRow) (vrf : Vrf) : Prop where
  known : ∀ before row after, table.rows = before ++ row :: after → vrf.name ≠ row.vrf →
    ((∃ neighbor ∈ vrf.allNeighbors, neighbor.ipAddress = row.ipAddress) ∧
      ∃ own ∈ table.rows, vrf.name = own.vrf ∧ own.ipAddress = row.ipAddress) ∨
    ∃ own ∈ before, vrf.name = own.vrf ∧ own.ipAddress = row.ipAddress ∧ NeedsNoHost etherAton own
  unchanged : table.anyModified = true → ∀ row ∈ table.rows, vrf.name ≠ row.vrf → row.modified = true → row.inserted = true

theorem not_own_iff : ownNeighbor vrf row = false ↔ vrf.name ≠ row.vrf := by
  simp [ownNeighbor]

theorem known_iff (before : List NeighborRow) (ip : String) :
    (cachedIp (deletedNeighbors env vrf) ip = true ∨
      ∃ own ∈ before.filter (ownNeighbor vrf), own.ipAddress = ip ∧ NeedsNoHost env.platform.etherAton own) ↔
    ((∃ neighbor ∈ vrf.allNeighbors, neighbor.ipAddress = ip) ∧
      ∃ own ∈ env.idl.neighbors.rows, vrf.name = own.vrf ∧ own.ipAddress = ip) ∨
    ∃ own ∈ before, vrf.name = own.vrf ∧ own.ipAddress = ip ∧ NeedsNoHost env.platform.etherAton own := by
  rw [cached_ip_deleted, cached_ip_iff]
  simp [ownNeighbor, and_assoc]

theorem quiet_of_shadowed (shadowed : ForeignNeighborsShadowed env.platform.etherAton env.idl.neighbors vrf) :
    ForeignNeighborsQuiet env vrf := by
  constructor
  · rw [Bystander.quiet_iff_turns]
    intro before row after split foreign
    have known := (known_iff env vrf before row.ipAddress).mpr (shadowed.known before row after split ((not_own_iff vrf row).mp foreign))
    exact congrArg Bool.not (cached_ip_add_loop env _ _ row.ipAddress known)
  · intro any
    rw [Bystander.quiet_iff_turns]
    intro before row after split foreign
    have kept := shadowed.unchanged any row (by simp [split]) ((not_own_iff vrf row).mp foreign)
    unfold neighborChanges
    cases modified : row.modified with
    | false => rfl
    | true => simp [kept modified]

def Env.withProvider (env : Env) (provider : Provider) : Env :=
  { env with platform := { env.platform with provider := provider } }

def refusing (provider : Provider) : Provider := { provider with addL3HostEntry := fun _ _ => none }

def accepting (provider : Provider) : Provider := { provider with addL3HostEntry := fun _ _ => some 1 }

def portsOfRows (rows : List NeighborRow) : List Port := rows.filterMap (fun row => row.port.map (fun name => ⟨⟨0, name⟩, none, []⟩))

theorem port_of_row (rows : List NeighborRow) (vrf : Vrf) (row : NeighborRow) (member : row ∈ rows)
    (ports : vrf.up.ports = portsOfRows rows) : PortPlaced vrf row := by
  intro name named
  rw [Bridge.portLookup, Keyed.lookup_some_iff_exists, ports]
  exact ⟨⟨⟨0, name⟩, none, []⟩, List.mem_filterMap.mpr ⟨row, member, by simp [Option.mem_def.mp named]⟩, rfl⟩

theorem known_of_quiet (refuses : AddsFail env) (quiet : ForeignNeighborsQuiet env vrf)
    (before : List NeighborRow) (row : NeighborRow) (after : List NeighborRow)
    (split : env.idl.neighbors.rows = before ++ row :: after) (foreign : vrf.name ≠ row.vrf) :
    cachedIp (deletedNeighbors env vrf) row.ipAddress = true ∨
      ∃ own ∈ before.filter (ownNeighbor vrf), own.ipAddress = row.ipAddress ∧ NeedsNoHost env.platform.etherAton own := by
  have turn := (Bystander.quiet_iff_turns _ _).mp quiet.1 before row after split ((not_own_iff vrf row).mpr foreign)
  exact cached_ip_add_loop_refused env _ _ row.ipAddress refuses ((Bool.not_eq_false' _).mp turn)

theorem ports_added (rows : List NeighborRow) (vrf : Vrf) :
    (rows.foldl (addNewNeighbor env) vrf).up.ports = vrf.up.ports := by
  refine Keyed.foldl_keeps (addNewNeighbor env) (fun s : Vrf => s.up.ports = vrf.up.ports) ?_ rfl
  intro s row _ same
  unfold addNewNeighbor
  split
  · exact same
  · obtain ⟨calls, neighbors, status, more, created, _⟩ := neighbor_create_work env s row
    rw [created]
    exact same

theorem ports_deleted : (deletedNeighbors env vrf).up.ports = vrf.up.ports := by
  refine Keyed.foldl_keeps (deleteOldNeighbor env _) (fun s : Vrf => s.up.ports = vrf.up.ports) ?_ rfl
  intro s neighbor _ same
  unfold deleteOldNeighbor
  dsimp only
  split
  · obtain ⟨calls, neighbors, status, more, deleted, _⟩ := neighbor_delete_work env
      (neighborUpdate s { neighbor with cfg := _ }) { neighbor with cfg := _ }
    rw [deleted]
    exact same
  · exact same

theorem unchanged_of_quiet (accepts : AddsSucceed env)
    (ports : vrf.up.ports = portsOfRows env.idl.neighbors.rows) (quiet : ForeignNeighborsQuiet env vrf)
    (any : env.idl.neighbors.anyModified = true) (before : List NeighborRow) (row : NeighborRow) (after : List NeighborRow)
    (split : env.idl.neighbors.rows = before ++ row :: after) (foreign : vrf.name ≠ row.vrf)
    (known : cachedIp (deletedNeighbors env vrf) row.ipAddress = true ∨
      ∃ own ∈ before.filter (ownNeighbor vrf), own.ipAddress = row.ipAddress ∧ NeedsNoHost env.platform.etherAton own)
    (modified : row.modified = true) : row.inserted = true := by
  have turn := (Bystander.quiet_iff_turns _ _).mp (quiet.2 any) before row after split ((not_own_iff vrf row).mpr foreign)
  let own := env.idl.neighbors.rows.filter (ownNeighbor vrf)
  let added := own.foldl (addNewNeighbor env) (deletedNeighbors env vrf)
  have samePorts : added.up.ports = portsOfRows env.idl.neighbors.rows :=
    (ports_added env own _).trans ((ports_deleted env vrf).trans ports)
  have cached : cachedIp added row.ipAddress = true := by
    refine cached_ip_add_loop env own _ row.ipAddress (known.imp_right ?_)
    rintro ⟨earlier, member, here⟩
    refine ⟨earlier, ?_, here⟩
    rw [List.mem_filter] at member ⊢
    exact ⟨split ▸ List.mem_append_left _ member.1, member.2⟩
  have still : cachedIp ((before.filter (ownNeighbor vrf)).foldl (checkNeighborChange env) added) row.ipAddress = true := by
    rw [cached_ip_modify_loop env _ added row.ipAddress accepts, cached]
    intro earlier member
    refine port_of_row env.idl.neighbors.rows added earlier ?_ samePorts
    exact split ▸ List.mem_append_left _ (List.mem_of_mem_filter member)
  have idle : (row.modified && !row.inserted && cachedIp ((before.filter (ownNeighbor vrf)).foldl (checkNeighborChange env) added)
      row.ipAddress) = false := turn
  simpa [modified, still] using idle

theorem shadowed_of_quiet (quiet : ∀ provider ports, ForeignNeighborsQuiet (env.withProvider provider) (vrf.withPorts ports)) :
    ForeignNeighborsShadowed env.platform.etherAton env.idl.neighbors vrf := by
  have known : ∀ before row after, env.idl.neighbors.rows = before ++ row :: after → vrf.name ≠ row.vrf →
      ((∃ neighbor ∈ vrf.allNeighbors, neighbor.ipAddress = row.ipAddress) ∧
        ∃ own ∈ env.idl.neighbors.rows, vrf.name = own.vrf ∧ own.ipAddress = row.ipAddress) ∨
      ∃ own ∈ before, vrf.name = own.vrf ∧ own.ipAddress = row.ipAddress ∧ NeedsNoHost env.platform.etherAton own := by
    intro before row after split foreign
    exact (known_iff (env.withProvider (refusing env.platform.provider)) (vrf.withPorts []) before row.ipAddress).mp
      (known_of_quiet _ _ (fun _ _ => rfl) (quiet (refusing env.platform.provider) []) before row after split foreign)
  refine ⟨known, ?_⟩
  intro any row member foreign
  obtain ⟨before, after, split⟩ := List.append_of_mem member
  exact unchanged_of_quiet (env.withProvider (accepting env.platform.provider)) (vrf.withPorts (portsOfRows env.idl.neighbors.rows))
    (fun _ _ => rfl) rfl (quiet _ _) any before row after split foreign
    ((known_iff (env.withProvider (accepting env.platform.provider)) (vrf.withPorts (portsOfRows env.idl.neighbors.rows)) before
      row.ipAddress).mpr (known before row after split foreign))

end Isolation

theorem neighbors_isolated_iff_shadowed (env : Env) (table : IdlTable NeighborRow) (vrf : Vrf)
    (same : SameOwnNeighbors vrf.name env.idl.neighbors table) :
    (∀ provider ports, NeighborsIsolated (env.withProvider provider) ((env.withProvider provider).withNeighborTable table)
      (vrf.withPorts ports)) ↔
    ForeignNeighborsShadowed env.platform.etherAton env.idl.neighbors vrf ∧
      ForeignNeighborsShadowed env.platform.etherAton table vrf := by
  have quiet : ∀ provider ports, NeighborsIsolated (env.withProvider provider) ((env.withProvider provider).withNeighborTable table)
      (vrf.withPorts ports) ↔ _ := fun provider ports => isolated_iff_quiet (env.withProvider provider) table (vrf.withPorts ports) same
  constructor
  · intro isolated
    exact ⟨shadowed_of_quiet env vrf (fun provider ports => ((quiet provider ports).mp (isolated provider ports)).1),
      shadowed_of_quiet (env.withNeighborTable table) vrf
        (fun provider ports => ((quiet provider ports).mp (isolated provider ports)).2)⟩
  · rintro ⟨left, right⟩ provider ports
    refine (quiet provider ports).mpr ⟨?_, ?_⟩
    · exact quiet_of_shadowed (env.withProvider provider) (vrf.withPorts ports) ⟨left.known, left.unchanged⟩
    · exact quiet_of_shadowed ((env.withProvider provider).withNeighborTable table) (vrf.withPorts ports)
        ⟨right.known, right.unchanged⟩

def neighborOf (vrf ip mac port : String) (uuid : Uuid) (inserted modified : Bool) : NeighborRow :=
  ⟨uuid, vrf, ip, some mac, some "ipv4", some port, inserted, modified⟩

def cachedNeighborVrf : Vrf :=
  vrfReconfigureNeighbors (neighborEnv ⟨[neighborOf "vrf_default" "10.0.0.2" "00:00:00:00:00:01" "1" 1 true false], true, false, false⟩)
    portedVrf

def shadowedTable (vrf : String) : IdlTable NeighborRow :=
  ⟨[neighborOf "vrf_default" "10.0.0.2" "00:00:00:00:00:01" "1" 1 false false, neighborOf vrf "10.0.0.2" "00:00:00:00:00:02" "9" 2 true true],
    true, true, false⟩

theorem shadowed_table (vrf : String) : ForeignNeighborsShadowed plainPlatform.etherAton (shadowedTable vrf) cachedNeighborVrf where
  known before row after split foreign := by
    have member : row ∈ (shadowedTable vrf).rows := by simp [split]
    refine .inl ?_
    rcases List.mem_pair.mp member with rfl | rfl
    · exact absurd rfl foreign
    · exact ⟨(cached_ip_iff cachedNeighborVrf "10.0.0.2").mp (by decide), _, List.mem_cons_self, rfl, rfl⟩
  unchanged _ row member foreign _ := by
    rcases List.mem_pair.mp member with rfl | rfl
    · exact absurd rfl foreign
    · rfl

theorem shadowed_neighbors_isolated :
    NeighborsIsolated ((neighborEnv (shadowedTable "vrf_red")).withProvider plainPlatform.provider)
      (((neighborEnv (shadowedTable "vrf_red")).withProvider plainPlatform.provider).withNeighborTable (shadowedTable "vrf_blue"))
      (cachedNeighborVrf.withPorts portedVrf.up.ports) :=
  (neighbors_isolated_iff_shadowed (neighborEnv (shadowedTable "vrf_red")) (shadowedTable "vrf_blue") cachedNeighborVrf
    ⟨by decide, rfl, rfl, rfl, rfl, by decide, by decide⟩).mpr ⟨shadowed_table "vrf_red", shadowed_table "vrf_blue"⟩
    plainPlatform.provider portedVrf.up.ports

-- A modified row of another VRF with the same address moves the neighbor of
-- this VRF to its port; the host entry is withdrawn and the neighbor dropped.
theorem foreign_neighbor_modifies :
    let own := neighborOf "vrf_default" "10.0.0.2" "00:00:00:00:00:01" "1" 1
    let env := neighborEnv ⟨[own false false, neighborOf "vrf_red" "10.0.0.2" "00:00:00:00:00:02" "9" 2 false true],
      false, true, false⟩
    let table : IdlTable NeighborRow :=
      ⟨[own false false, neighborOf "vrf_red" "10.0.0.7" "00:00:00:00:00:02" "9" 2 false true], false, true, false⟩
    SameOwnNeighbors cachedNeighborVrf.name env.idl.neighbors table ∧
      ¬ NeighborsIsolated env (env.withNeighborTable table) cachedNeighborVrf := by
  intro own env table
  refine ⟨⟨by decide, rfl, rfl, rfl, rfl, by decide, by decide⟩, ?_⟩
  rintro ⟨sameNeighbors, _⟩
  exact absurd sameNeighbors (by decide)

end OpsSwitchd
