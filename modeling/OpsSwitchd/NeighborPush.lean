import OpsSwitchd.EgressRefresh

set_option autoImplicit false

namespace OpsSwitchd

def Pushes (vrf : Vrf) (ip : String) (calls : List OfprotoCall) (push : Option NhState) : Prop :=
  ∀ base family pfx,
    (UsesAddress vrf family pfx ip →
      hwNexthop (base ++ calls) family pfx ⟨.ipaddr, ip⟩ = push.or (hwNexthop base family pfx ⟨.ipaddr, ip⟩)) ∧
    ∀ id, id ≠ ⟨.ipaddr, ip⟩ → hwNexthop (base ++ calls) family pfx id = hwNexthop base family pfx id

theorem pushes_host (vrf : Vrf) (ip : String) (calls : List OfprotoCall) (hosts : HostCalls calls) :
    Pushes vrf ip calls none := by
  intro base family pfx
  exact ⟨fun _ => hw_nexthop_host_calls calls hosts base family pfx _,
    fun id _ => hw_nexthop_host_calls calls hosts base family pfx id⟩

theorem pushes_route_updates (env : Env) (vrf : Vrf) (cache : RouteCache vrf) (ip : String) (state : NhState) :
    Pushes vrf ip (routeUpdates env vrf ip state) (some state) := by
  intro base family pfx
  exact hw_nexthop_route_updates env vrf cache ip state base family pfx

theorem pushes_append (vrf : Vrf) (ip : String) (calls more : List OfprotoCall) (push later : Option NhState)
    (first : Pushes vrf ip calls push) (second : Pushes vrf ip more later) :
    Pushes vrf ip (calls ++ more) (later.or push) := by
  intro base family pfx
  obtain ⟨pushed, others⟩ := first base family pfx
  obtain ⟨again, untouched⟩ := second (base ++ calls) family pfx
  rw [← List.append_assoc]
  refine ⟨fun uses => ?_, fun id different => (untouched id different).trans (others id different)⟩
  rw [again uses, pushed uses, Option.or_assoc]

def NeighborPush (vrf after : Vrf) (ip : String) (push : Option NhState) : Prop :=
  ∃ calls neighbors status rows, after = vrf.withNeighbors calls neighbors status rows ∧ Pushes vrf ip calls push

theorem neighbor_calls_push (env : Env) (vrf : Vrf) (cache : RouteCache vrf) (ip : String) (calls : List OfprotoCall)
    (push : Option NhState) (made : NeighborCalls env vrf ip calls push) : Pushes vrf ip calls push := by
  induction made with
  | quiet => exact pushes_host vrf ip [] host_calls_nil
  | addHost entry answer => exact pushes_host vrf ip _ (host_calls_add entry answer)
  | deleteHost port isIpv6 host answer => exact pushes_host vrf ip _ (host_calls_delete port isIpv6 host answer)
  | routes state => exact pushes_route_updates env vrf cache ip state
  | append calls more push later _ _ first second => exact pushes_append vrf ip calls more push later first second

theorem neighbor_work_push (env : Env) (vrf after : Vrf) (cache : RouteCache vrf) (ip : String) (push : Option NhState)
    (work : NeighborWork env vrf after ip push) : NeighborPush vrf after ip push := by
  obtain ⟨calls, neighbors, status, rows, same, made⟩ := work
  exact ⟨calls, neighbors, status, rows, same, neighbor_calls_push env vrf cache ip calls push made⟩

theorem vrf_step_push (vrf : Vrf) (cache : RouteCache vrf) (env : Env) (op : VrfOp) (ip : String)
    (about : neighborOpAddress op = some ip) :
    ∃ push, NeighborPush vrf (vrfStep vrf (env, op)) ip push ∧ stepPush vrf (env, op) = push.map (ip, ·) := by
  obtain ⟨push, work, told⟩ := vrf_step_work vrf env op ip about
  exact ⟨push, neighbor_work_push env vrf _ cache ip push work, told⟩

end OpsSwitchd
