import OpsSwitchd.NeighborCalls
import OpsSwitchd.RouteMirror
import OpsSwitchd.Runs

set_option autoImplicit false

namespace OpsSwitchd

-- The functions that work on one VRF, in whatever order the two event streams
-- call them. The port phases of a reconfiguration leave some table of ports.
inductive VrfOp where
  | routeAdd (row : RouteRow)
  | routeModify (row : RouteRow)
  | routeDelete (key : String × String)
  | neighborCreate (row : NeighborRow)
  | neighborModify (row : NeighborRow)
  | neighborDelete (ipAddress : String)
  | ports (ports : List Port)

def Vrf.withPorts (vrf : Vrf) (ports : List Port) : Vrf := { vrf with up := { vrf.up with ports := ports } }

-- A modification or a deletion is called with what a lookup found.
def vrfStep (vrf : Vrf) (input : Env × VrfOp) : Vrf :=
  match input.2 with
  | .routeAdd row => vrfRouteAdd input.1 vrf row
  | .routeModify row =>
      match vrfRouteHashLookup vrf row with
      | some route => vrfRouteModify input.1 vrf route row
      | none => vrf
  | .routeDelete key =>
      match Keyed.lookup routeKey key vrf.allRoutes with
      | some route => vrfRouteDelete input.1 vrf route
      | none => vrf
  | .neighborCreate row => addNewNeighbor input.1 vrf row
  | .neighborModify row =>
      match neighborHashLookup vrf row.ipAddress with
      | some neighbor => neighborModify input.1 vrf neighbor row
      | none => vrf
  | .neighborDelete ipAddress =>
      match neighborHashLookup vrf ipAddress with
      | some neighbor => neighborDelete input.1 vrf neighbor
      | none => vrf
  | .ports ports => vrf.withPorts ports

def RouteOpValid (vrf : Vrf) (input : Env × VrfOp) : Prop :=
  match input.2 with
  | .routeAdd row => (∀ nh ∈ usableNhs row, NhRowApart input.1 nh) ∧ ∀ route ∈ vrf.allRoutes, routePfx route ≠ row.pfx
  | .routeModify row => ∀ nh ∈ usableNhs row, NhRowApart input.1 nh
  | _ => True

instance (vrf : Vrf) (input : Env × VrfOp) : Decidable (RouteOpValid vrf input) := by
  unfold RouteOpValid
  split <;> infer_instance

-- All that a neighbor function asks of the provider's routes: to update the
-- nexthop with the neighbor's address in a route that has it. It configures
-- no port.
def NeighborCall (vrf : Vrf) (ip : String) : OfprotoCall → Prop
  | .l3RouteAction action route => action = .add ∧ ∃ nh ∈ vrf.allNexthops, nh.ipAddr = some ip ∧
      ∃ state, route = ofprotoRoute (routeAt vrf nh.route) [⟨⟨.ipaddr, ip⟩, state⟩]
  | .bundleRegister _ => False
  | _ => True

def NeighborFrame (vrf after : Vrf) (ip : String) : Prop :=
  ∃ calls neighbors status rows, after = vrf.withNeighbors calls neighbors status rows ∧
    ∀ call ∈ calls, NeighborCall vrf ip call

theorem neighbor_calls_fine (env : Env) (vrf : Vrf) (ip : String) (calls : List OfprotoCall) (push : Option NhState)
    (made : NeighborCalls env vrf ip calls push) : ∀ call ∈ calls, NeighborCall vrf ip call := by
  induction made with
  | quiet => exact fun _ member => absurd member List.not_mem_nil
  | addHost entry answer => exact List.forall_mem_singleton.mpr trivial
  | deleteHost port isIpv6 host answer => exact List.forall_mem_singleton.mpr trivial
  | routes state =>
      intro call member
      obtain ⟨nh, present, rfl⟩ := List.mem_map.mp member
      obtain ⟨walked, address⟩ := List.mem_filter.mp present
      exact ⟨rfl, nh, (env.order.mem_walk _ _).mp walked, by simpa using address, _, rfl⟩
  | append calls more push later _ _ first second => exact List.forall_mem_append.mpr ⟨first, second⟩

theorem neighbor_work_frame (env : Env) (vrf after : Vrf) (ip : String) (push : Option NhState)
    (work : NeighborWork env vrf after ip push) : NeighborFrame vrf after ip := by
  obtain ⟨calls, neighbors, status, rows, same, made⟩ := work
  exact ⟨calls, neighbors, status, rows, same, neighbor_calls_fine env vrf ip calls push made⟩

theorem neighbor_create_frame (env : Env) (vrf : Vrf) (row : NeighborRow) :
    NeighborFrame vrf (neighborCreate env vrf row) row.ipAddress :=
  neighbor_work_frame env vrf _ _ _ (neighbor_create_work env vrf row)

theorem neighbor_delete_frame (env : Env) (vrf : Vrf) (neighbor : Neighbor) :
    NeighborFrame vrf (neighborDelete env vrf neighbor) neighbor.ipAddress :=
  neighbor_work_frame env vrf _ _ _ (neighbor_delete_work env vrf neighbor)

theorem neighbor_modify_frame (env : Env) (vrf : Vrf) (neighbor : Neighbor) (row : NeighborRow) :
    NeighborFrame vrf (neighborModify env vrf neighbor row) neighbor.ipAddress :=
  neighbor_work_frame env vrf _ _ _ (neighbor_modify_work env vrf neighbor row)

def stepPush (vrf : Vrf) (input : Env × VrfOp) : Option (String × NhState) :=
  match input.2 with
  | .neighborCreate row =>
      if (neighborHashLookup vrf row.ipAddress).isSome then none
      else (programPush input.1 vrf (newNeighbor input.1 row)).map (row.ipAddress, ·)
  | .neighborModify row =>
      (neighborHashLookup vrf row.ipAddress).bind (fun neighbor =>
        (modifyPush input.1 vrf neighbor row).map (row.ipAddress, ·))
  | .neighborDelete ip => (neighborHashLookup vrf ip).map (fun _ => (ip, .unresolved))
  | _ => none

def neighborOpAddress : VrfOp → Option String
  | .neighborCreate row => some row.ipAddress
  | .neighborModify row => some row.ipAddress
  | .neighborDelete ip => some ip
  | _ => none

theorem vrf_step_work (vrf : Vrf) (env : Env) (op : VrfOp) (ip : String) (about : neighborOpAddress op = some ip) :
    ∃ push, NeighborWork env vrf (vrfStep vrf (env, op)) ip push ∧ stepPush vrf (env, op) = push.map (ip, ·) := by
  unfold vrfStep stepPush
  cases op with
  | routeAdd row => cases about
  | routeModify row => cases about
  | routeDelete key => cases about
  | ports ports => cases about
  | neighborCreate row =>
      cases about
      simp only [addNewNeighbor]
      split
      · exact ⟨none, neighbor_work_refl env vrf _, rfl⟩
      · exact ⟨_, neighbor_create_work env vrf row, rfl⟩
  | neighborModify row =>
      cases about
      cases found : neighborHashLookup vrf row.ipAddress with
      | none => exact ⟨none, by simpa only [found] using neighbor_work_refl env vrf _, by simp [found]⟩
      | some neighbor =>
          have modified := neighbor_modify_work env vrf neighbor row
          rw [Keyed.lookup_key Neighbor.ipAddress found] at modified
          exact ⟨_, by simpa only [found] using modified, by simp [found]⟩
  | neighborDelete ip =>
      cases about
      cases found : neighborHashLookup vrf ip with
      | none => exact ⟨none, by simpa only [found] using neighbor_work_refl env vrf _, by simp [found]⟩
      | some neighbor =>
          have deleted := neighbor_delete_work env vrf neighbor
          rw [Keyed.lookup_key Neighbor.ipAddress found] at deleted
          exact ⟨some .unresolved, by simpa only [found] using deleted, by simp [found]⟩

-- What a step can do, seen from the routes: a route function runs on a cached
-- route, a neighbor function updates one address, or nothing is done there.
inductive StepKind (vrf : Vrf) (env : Env) : VrfOp → Vrf → Prop where
  | added (row : RouteRow) : StepKind vrf env (.routeAdd row) (vrfRouteAdd env vrf row)
  | modified (row : RouteRow) (route : Route) (found : vrfRouteHashLookup vrf row = some route) :
      StepKind vrf env (.routeModify row) (vrfRouteModify env vrf route row)
  | unmodified (row : RouteRow) (absent : vrfRouteHashLookup vrf row = none) : StepKind vrf env (.routeModify row) vrf
  | deleted (key : String × String) (route : Route) (found : Keyed.lookup routeKey key vrf.allRoutes = some route) :
      StepKind vrf env (.routeDelete key) (vrfRouteDelete env vrf route)
  | undeleted (key : String × String) : StepKind vrf env (.routeDelete key) vrf
  | created (row : NeighborRow) (after : Vrf) (frame : NeighborFrame vrf after row.ipAddress) :
      StepKind vrf env (.neighborCreate row) after
  | changed (row : NeighborRow) (after : Vrf) (frame : NeighborFrame vrf after row.ipAddress) :
      StepKind vrf env (.neighborModify row) after
  | withdrawn (ip : String) (after : Vrf) (frame : NeighborFrame vrf after ip) : StepKind vrf env (.neighborDelete ip) after
  | ports (ports : List Port) : StepKind vrf env (.ports ports) (vrf.withPorts ports)

theorem vrf_step_kind (vrf : Vrf) (env : Env) (op : VrfOp) : StepKind vrf env op (vrfStep vrf (env, op)) := by
  unfold vrfStep
  cases op with
  | routeAdd row => exact .added row
  | routeModify row =>
      cases found : vrfRouteHashLookup vrf row with
      | none => simpa only [found] using StepKind.unmodified row found
      | some route => simpa only [found] using StepKind.modified row route found
  | routeDelete key =>
      cases found : Keyed.lookup routeKey key vrf.allRoutes with
      | none => simpa only [found] using StepKind.undeleted key
      | some route => simpa only [found] using StepKind.deleted key route found
  | neighborCreate row =>
      obtain ⟨push, work, _⟩ := vrf_step_work vrf env (.neighborCreate row) row.ipAddress rfl
      exact .created row _ (neighbor_work_frame env vrf _ _ push work)
  | neighborModify row =>
      obtain ⟨push, work, _⟩ := vrf_step_work vrf env (.neighborModify row) row.ipAddress rfl
      exact .changed row _ (neighbor_work_frame env vrf _ _ push work)
  | neighborDelete ip =>
      obtain ⟨push, work, _⟩ := vrf_step_work vrf env (.neighborDelete ip) ip rfl
      exact .withdrawn ip _ (neighbor_work_frame env vrf _ _ push work)
  | ports ports => exact .ports ports

end OpsSwitchd
