import OpsSwitchd.EgressRun

set_option autoImplicit false

namespace OpsSwitchd

def neighborEntry (vrf : Vrf) (ip : String) : Option (Option String × Option String × Bool) :=
  (neighborHashLookup vrf ip).map (fun neighbor => (neighbor.mac, neighbor.portName, 0 < neighbor.l3EgressId))

def hostEntry (vrf : Vrf) (ip : String) : Option (String × String) :=
  (hwHost vrf.up.calls ip).map (fun host => (host.port, host.mac))

def EgressSigned (vrf : Vrf) : Prop :=
  ∀ ip, ∀ neighbor ∈ neighborHashLookup vrf ip, 0 < neighbor.l3EgressId ∨ neighbor.l3EgressId = -1

structure SameNeighbors (left right : Vrf) : Prop where
  signed : EgressSigned left ∧ EgressSigned right
  entries : ∀ ip, neighborEntry left ip = neighborEntry right ip
  hosts : ∀ ip, hostEntry left ip = hostEntry right ip
  resolved : ∀ family pfx id,
    isResolved (hwNexthop left.up.calls family pfx id) = isResolved (hwNexthop right.up.calls family pfx id)

theorem host_fits_positive (aton : String → Bool) (up : Bridge) (ip : String) (neighbor : Neighbor)
    (fits : HostFits aton up ip (some neighbor)) :
    (0 < neighbor.l3EgressId ↔ (wantedHost aton neighbor).isSome) ∧
      (0 < neighbor.l3EgressId ∨ neighbor.l3EgressId = -1) := by
  obtain ⟨_, egress, _⟩ := fits
  cases wanted : (wantedHost aton neighbor).isSome with
  | true =>
      rw [wanted, if_pos rfl] at egress
      exact ⟨iff_of_true egress rfl, .inl egress⟩
  | false =>
      rw [wanted, if_neg Bool.false_ne_true] at egress
      exact ⟨iff_of_false (by rw [egress]; decide) Bool.false_ne_true, .inr egress⟩

theorem neighbor_cache_signed (aton : String → Bool) (vrf : Vrf) (cache : NeighborCache aton vrf) : EgressSigned vrf := by
  intro ip neighbor found
  have fits := cache.fits ip
  rw [Option.mem_def.mp found] at fits
  exact (host_fits_positive aton vrf.up ip neighbor fits).2

theorem same_view_entry (aton : String → Bool) (left right : Vrf) (leftCache : NeighborCache aton left)
    (rightCache : NeighborCache aton right) (ip : String) (view : neighborView left ip = neighborView right ip) :
    neighborEntry left ip = neighborEntry right ip ∧ hostEntry left ip = hostEntry right ip := by
  have leftFits := leftCache.fits ip
  have rightFits := rightCache.fits ip
  unfold neighborView at view
  unfold neighborEntry hostEntry
  cases here : neighborHashLookup left ip with
  | none =>
      cases there : neighborHashLookup right ip with
      | some other =>
          rw [here, there] at view
          cases view
      | none =>
          rw [here] at leftFits
          rw [there] at rightFits
          refine ⟨rfl, ?_⟩
          rw [show hwHost left.up.calls ip = none from leftFits, show hwHost right.up.calls ip = none from rightFits]
  | some neighbor =>
      cases there : neighborHashLookup right ip with
      | none =>
          rw [here, there] at view
          cases view
      | some other =>
          rw [here, there] at view
          rw [here] at leftFits
          rw [there] at rightFits
          obtain ⟨mac, port⟩ := Prod.mk.inj (Option.some.inj view)
          have wanted : wantedHost aton neighbor = wantedHost aton other := by simp only [wantedHost, mac, port]
          have positive : 0 < neighbor.l3EgressId ↔ 0 < other.l3EgressId := by
            rw [(host_fits_positive aton left.up ip neighbor leftFits).1,
              (host_fits_positive aton right.up ip other rightFits).1, wanted]
          refine ⟨?_, ?_⟩
          · simp only [Option.map_some, mac, port, positive]
          · rw [leftFits.1, rightFits.1, wanted, Option.map_map, Option.map_map]
            rfl

theorem resolved_egress_entry (vrf : Vrf) (ip : String) :
    (resolvedEgress vrf ip).isSome = (neighborEntry vrf ip).any (fun entry => entry.2.2) := by
  unfold resolvedEgress neighborEntry
  cases neighborHashLookup vrf ip with
  | none => rfl
  | some neighbor => by_cases positive : 0 < neighbor.l3EgressId <;> simp [positive]

theorem is_resolved_iff (held : Option NhState) : isResolved held = true ↔ ∃ egress, held = some (.resolved egress) := by
  unfold isResolved
  split <;> simp_all

theorem resolved_pair_iff (aton : String → Bool) (vrf : Vrf) (inv : EgressInv aton vrf) (family : RouteFamily) (pfx : String)
    (id : NhId) :
    isResolved (hwNexthop vrf.up.calls family pfx id) = true ↔
      id.type = .ipaddr ∧ UsesAddress vrf family pfx id.id ∧ (resolvedEgress vrf id.id).isSome := by
  obtain ⟨type, text⟩ := id
  cases type with
  | port =>
      refine iff_of_false (fun resolved => ?_) (fun both => nomatch both.1)
      obtain ⟨egress, held⟩ := (is_resolved_iff _).mp resolved
      exact inv.unresolved family pfx text egress held
  | ipaddr =>
      constructor
      · intro resolved
        obtain ⟨route, member, here, nh, present, same⟩ := inv.owned.owned family pfx _ (resolved_is_some _ resolved)
        have one := route_cache_exclusive vrf inv.owned.cache route member nh present
        have uses : UsesAddress vrf family pfx text := ⟨route, member, here, nh, present, address_of_id nh one text same⟩
        obtain ⟨egress, held⟩ := (is_resolved_iff _).mp resolved
        refine ⟨rfl, uses, ?_⟩
        rw [(inv.agree text family pfx uses egress).mp held]
        rfl
      · rintro ⟨_, uses, live⟩
        obtain ⟨egress, found⟩ := Option.isSome_iff_exists.mp live
        exact (is_resolved_iff _).mpr ⟨egress, (inv.agree text family pfx uses egress).mpr found⟩

theorem same_neighbors_by_views (aton : String → Bool) (left right : Vrf) (leftInv : EgressInv aton left)
    (rightInv : EgressInv aton right) (routes : left.allRoutes = right.allRoutes)
    (views : ∀ ip, neighborView left ip = neighborView right ip) : SameNeighbors left right := by
  have same := fun ip => same_view_entry aton left right leftInv.neighbors rightInv.neighbors ip (views ip)
  refine ⟨⟨neighbor_cache_signed aton left leftInv.neighbors, neighbor_cache_signed aton right rightInv.neighbors⟩,
    fun ip => (same ip).1, fun ip => (same ip).2, ?_⟩
  intro family pfx id
  rw [Bool.eq_iff_iff, resolved_pair_iff aton left leftInv, resolved_pair_iff aton right rightInv, resolved_egress_entry,
    resolved_egress_entry, (same id.id).1, UsesAddress, UsesAddress, routes]

theorem same_neighbors_view (left right : Vrf) (same : SameNeighbors left right) (ip : String) :
    neighborView left ip = neighborView right ip := by
  have entries := congrArg (Option.map (fun entry => (entry.1, entry.2.1))) (same.entries ip)
  rw [neighborEntry, neighborEntry, Option.map_map, Option.map_map] at entries
  exact entries

section Recreate

variable (aton : String → Bool) (env : Env) (contract : HostContract aton env) (vrf : Vrf) (inv : EgressInv aton vrf)
  (neighbor : Neighbor) (found : neighborHashLookup vrf neighbor.ipAddress = some neighbor) (row : NeighborRow)
  (same : row.ipAddress = neighbor.ipAddress) (ports : ∀ name ∈ row.port, (vrf.up.portLookup name).isSome)

include contract inv found same ports

theorem modified_neighbor_done :
    EgressInv aton (neighborModify env vrf neighbor row) ∧
      NeighborDone aton env vrf (neighborModify env vrf neighbor row) neighbor.ipAddress
        (some (nonEmptyText row.mac, row.port)) := by
  have done := neighbor_modify_done aton env contract vrf neighbor row inv.neighbors found same (fun _ => ports)
  rw [placed_view_present _ _ _ ports] at done
  exact ⟨egress_refresh aton env vrf _ neighbor.ipAddress _ (neighbor_modify_frame env vrf neighbor row) done
    (neighbor_modify_refresh aton env contract vrf inv.owned.cache inv.neighbors neighbor row found) inv, done⟩

omit same ports in
theorem deleted_neighbor_done :
    EgressInv aton (neighborDelete env vrf neighbor) ∧
      NeighborDone aton env vrf (neighborDelete env vrf neighbor) neighbor.ipAddress none ∧
      neighborHashLookup (neighborDelete env vrf neighbor) neighbor.ipAddress = none := by
  have done := neighbor_delete_done aton env contract vrf neighbor inv.neighbors found
  refine ⟨egress_refresh aton env vrf _ neighbor.ipAddress _ (neighbor_delete_frame env vrf neighbor) done
    (neighbor_delete_refresh aton env vrf inv.owned.cache inv.neighbors neighbor found) inv, done, ?_⟩
  exact Keyed.lookup_remove_self Neighbor.ipAddress neighbor.ipAddress _

theorem recreated_neighbor_done :
    EgressInv aton (neighborCreate env (neighborDelete env vrf neighbor) row) ∧
      NeighborDone aton env (neighborDelete env vrf neighbor) (neighborCreate env (neighborDelete env vrf neighbor) row)
        neighbor.ipAddress (some (nonEmptyText row.mac, nonEmptyText row.port)) := by
  obtain ⟨gone, deleted, absent⟩ := deleted_neighbor_done aton env contract vrf inv neighbor found
  have exist : ∀ name ∈ nonEmptyText row.port, ((neighborDelete env vrf neighbor).up.portLookup name).isSome := by
    intro name named
    rw [Bridge.portLookup, deleted.ports]
    exact ports name (Option.filter_eq_some_iff.mp named).1
  rw [← same] at absent ⊢
  have done := neighbor_create_done aton env contract (neighborDelete env vrf neighbor) row gone.neighbors absent
    (fun _ => exist)
  rw [placed_view_present _ _ _ exist] at done
  exact ⟨egress_refresh aton env _ _ row.ipAddress _ (neighbor_create_frame env _ row) done
    (neighbor_create_refresh env _ gone.owned.cache row contract.adds absent) gone, done⟩

theorem modify_recreates_iff (adds : AddsSucceed env) :
    SameNeighbors (neighborModify env vrf neighbor row) (neighborCreate env (neighborDelete env vrf neighbor) row) ↔
      row.port ≠ some "" := by
  obtain ⟨modifiedInv, modified⟩ := modified_neighbor_done aton env contract vrf inv neighbor found row same ports
  obtain ⟨_, deleted, _⟩ := deleted_neighbor_done aton env contract vrf inv neighbor found
  obtain ⟨recreatedInv, recreated⟩ := recreated_neighbor_done aton env contract vrf inv neighbor found row same ports
  constructor
  · rintro equal empty
    have views := same_neighbors_view _ _ equal neighbor.ipAddress
    rw [modified.view adds, recreated.view adds, empty] at views
    cases congrArg (Option.map Prod.snd) views
  · intro named
    have text : nonEmptyText row.port = row.port := (Prod.mk.inj ((created_view_iff row).mpr named)).2
    refine same_neighbors_by_views aton _ _ modifiedInv recreatedInv ?_ ?_
    · obtain ⟨_, _, _, _, changed, _⟩ := neighbor_modify_frame env vrf neighbor row
      obtain ⟨_, _, _, _, removed, _⟩ := neighbor_delete_frame env vrf neighbor
      obtain ⟨_, _, _, _, created, _⟩ := neighbor_create_frame env (neighborDelete env vrf neighbor) row
      rw [created, removed, changed]
      rfl
    · intro ip
      by_cases here : ip = neighbor.ipAddress
      · rw [here, modified.view adds, recreated.view adds, text]
      · rw [neighbor_view_elsewhere aton env _ _ _ _ modified ip here,
          neighbor_view_elsewhere aton env _ _ _ _ recreated ip here,
          neighbor_view_elsewhere aton env _ _ _ _ deleted ip here]

end Recreate

theorem modify_recreates_neighbor_iff (aton : String → Bool) (owner : VrfRow) (inputs : List (Env × VrfOp))
    (valid : Runs.Along vrfStep RouteOpValid (vrfCreate owner) inputs)
    (contracts : ∀ input ∈ inputs, HostContract aton input.1)
    (present : Runs.Always vrfStep PortsPresent (vrfCreate owner) inputs) (env : Env) (contract : HostContract aton env)
    (adds : AddsSucceed env) (neighbor : Neighbor) (row : NeighborRow)
    (found : neighborHashLookup (Runs.run vrfStep (vrfCreate owner) inputs) row.ipAddress = some neighbor)
    (ports : ∀ name ∈ row.port, ((Runs.run vrfStep (vrfCreate owner) inputs).up.portLookup name).isSome) :
    let vrf := Runs.run vrfStep (vrfCreate owner) inputs
    SameNeighbors (neighborModify env vrf neighbor row) (neighborCreate env (neighborDelete env vrf neighbor) row) ↔
      row.port ≠ some "" := by
  intro vrf
  have inv := egress_inv_always aton owner inputs valid contracts present inputs [] (List.append_nil inputs).symm
  have same : neighbor.ipAddress = row.ipAddress := Keyed.lookup_key Neighbor.ipAddress found
  exact modify_recreates_iff aton env contract vrf inv neighbor (same.symm ▸ found) row same.symm ports adds

def firstHost : NeighborRow := hostRow 1 "00:00:00:00:00:01" "1" true false

def hostRun (ports : List Port) : List (Env × VrfOp) :=
  [.ports ports, .routeAdd (ecmpRow ["10.0.0.2", "2.2.2.2"]), .neighborCreate firstHost].map (fun op => (plainEnv, op))

theorem moved_host_recreates :
    let vrf := Runs.run vrfStep (vrfCreate ⟨"vrf_default", []⟩) (hostRun portedVrf.up.ports)
    let row := hostRow 1 "00:00:00:00:00:02" "2" false true
    ∃ neighbor, neighborHashLookup vrf "10.0.0.2" = some neighbor ∧
      SameNeighbors (neighborModify plainEnv vrf neighbor row)
        (neighborCreate plainEnv (neighborDelete plainEnv vrf neighbor) row) := by
  intro vrf row
  have found : (neighborHashLookup vrf "10.0.0.2").isSome := by decide
  obtain ⟨neighbor, here⟩ := Option.isSome_iff_exists.mp found
  obtain ⟨contract, adds⟩ := neighbor_env_contract ⟨[], false, false, false⟩
  refine ⟨neighbor, here, (modify_recreates_neighbor_iff plainPlatform.etherAton ⟨"vrf_default", []⟩
    (hostRun portedVrf.up.ports) ?_ ?_ ?_ plainEnv contract adds neighbor row here (by decide)).mpr (by decide)⟩
  · simp only [hostRun, List.map_cons, List.map_nil, Runs.along_cons, Runs.along_nil, and_true]
    decide
  · intro input member
    obtain ⟨op, _, rfl⟩ := List.mem_map.mp member
    exact contract
  · simp only [hostRun, List.map_cons, List.map_nil, Runs.always_cons, Runs.always_nil]
    decide

def unnamedPorts : List Port := [⟨⟨1, "1"⟩, none, []⟩, ⟨⟨2, ""⟩, none, []⟩]

theorem unnamed_port_modifies :
    let vrf := Runs.run vrfStep (vrfCreate ⟨"vrf_default", []⟩) (hostRun unnamedPorts)
    let row := hostRow 1 "00:00:00:00:00:01" "" false true
    Runs.Along vrfStep RouteOpValid (vrfCreate ⟨"vrf_default", []⟩) (hostRun unnamedPorts) ∧
      HostContract plainPlatform.etherAton plainEnv ∧ AddsSucceed plainEnv ∧
      Runs.Always vrfStep PortsPresent (vrfCreate ⟨"vrf_default", []⟩) (hostRun unnamedPorts) ∧
      (∀ name ∈ row.port, (vrf.up.portLookup name).isSome) ∧
      ∃ neighbor, neighborHashLookup vrf row.ipAddress = some neighbor ∧
        ¬ SameNeighbors (neighborModify plainEnv vrf neighbor row)
          (neighborCreate plainEnv (neighborDelete plainEnv vrf neighbor) row) := by
  intro vrf row
  obtain ⟨contract, adds⟩ := neighbor_env_contract ⟨[], false, false, false⟩
  refine ⟨?_, contract, adds, ?_, by decide, ?_⟩
  · simp only [hostRun, List.map_cons, List.map_nil, Runs.along_cons, Runs.along_nil, and_true]
    decide
  · simp only [hostRun, List.map_cons, List.map_nil, Runs.always_cons, Runs.always_nil]
    decide
  · have differ : ∃ neighbor ∈ neighborHashLookup vrf row.ipAddress,
        neighborView (neighborModify plainEnv vrf neighbor row) "10.0.0.2" ≠
          neighborView (neighborCreate plainEnv (neighborDelete plainEnv vrf neighbor) row) "10.0.0.2" := by decide
    obtain ⟨neighbor, found, views⟩ := differ
    exact ⟨neighbor, found, fun same => views (same_neighbors_view _ _ same "10.0.0.2")⟩

end OpsSwitchd
