import OpsSwitchd.RouteCache

set_option autoImplicit false

namespace OpsSwitchd

abbrev NhTable := NhId → Option NhState

def upsertNexthop (table : NhTable) (entry : OfprotoNexthop) : NhTable :=
  fun id => if id = entry.nh then some entry.state else table id

-- The provider's entry for one (family, prefix): an add upserts the listed
-- nexthops, a nexthop delete removes them, a delete removes the entry.
def hwRouteStep (family : RouteFamily) (pfx : String) (entry : Option NhTable) : OfprotoCall → Option NhTable
  | .l3RouteAction action route =>
      if route.family = family ∧ route.pfx = pfx then
        match action with
        | .add => some (route.nexthops.foldl upsertNexthop (entry.getD (fun _ => none)))
        | .delete => none
        | .deleteNh => entry.map (fun table id => if id ∈ route.nexthops.map OfprotoNexthop.nh then none else table id)
      else entry
  | _ => entry

def hwRoute (calls : List OfprotoCall) (family : RouteFamily) (pfx : String) : Option NhTable :=
  calls.foldl (hwRouteStep family pfx) none

theorem upsert_nexthops (state : NhId → NhState) (nexthops : List OfprotoNexthop)
    (held : ∀ entry ∈ nexthops, entry.state = state entry.nh) (table : NhTable) (id : NhId) :
    nexthops.foldl upsertNexthop table id =
      if id ∈ nexthops.map OfprotoNexthop.nh then some (state id) else table id := by
  induction nexthops generalizing table with
  | nil => simp
  | cons entry rest ih =>
      rw [List.foldl_cons, ih (fun other member => held other (by simp [member]))]
      by_cases later : id ∈ rest.map OfprotoNexthop.nh
      · rw [if_pos later, if_pos (by simp only [List.map_cons, List.mem_cons, later, or_true])]
      · rw [if_neg later, upsertNexthop]
        by_cases here : id = entry.nh
        · rw [if_pos here, if_pos (by simp [here]), held entry (by simp), here]
        · rw [if_neg here, if_neg (by simp only [List.map_cons, List.mem_cons, here, later, or_self, not_false_eq_true])]

def refAt (ref : RouteRef) (family : RouteFamily) (pfx : String) : Prop := routeFamily ref.isIpv6 = family ∧ ref.pfx = pfx

theorem hw_route_append (calls more : List OfprotoCall) (family : RouteFamily) (pfx : String) :
    hwRoute (calls ++ more) family pfx = more.foldl (hwRouteStep family pfx) (hwRoute calls family pfx) := by
  rw [hwRoute, List.foldl_append]
  rfl

theorem hw_route_elsewhere (calls : List OfprotoCall) (action : RouteAction) (ref : RouteRef)
    (ofp : List OfprotoNexthop) (family : RouteFamily) (pfx : String) (different : ¬ refAt ref family pfx) :
    hwRoute (calls ++ routeRequest action ref ofp) family pfx = hwRoute calls family pfx := by
  rw [hw_route_append, routeRequest]
  split
  · rfl
  · have skipped : ¬ (routeFamily ref.isIpv6 = family ∧ ref.pfx = pfx) := different
    simp [hwRouteStep, skipped]

theorem hw_route_nothing (calls : List OfprotoCall) (action : RouteAction) (ref : RouteRef) (family : RouteFamily)
    (pfx : String) : hwRoute (calls ++ routeRequest action ref []) family pfx = hwRoute calls family pfx := by
  simp [routeRequest]

theorem hw_route_add (calls : List OfprotoCall) (ref : RouteRef) (ofp : List OfprotoNexthop) (sent : ofp ≠ []) :
    hwRoute (calls ++ routeRequest .add ref ofp) (routeFamily ref.isIpv6) ref.pfx =
      some (ofp.foldl upsertNexthop ((hwRoute calls (routeFamily ref.isIpv6) ref.pfx).getD (fun _ => none))) := by
  rw [hw_route_append, routeRequest, if_neg sent]
  simp [hwRouteStep]

theorem hw_route_delete (calls : List OfprotoCall) (ref : RouteRef) (ofp : List OfprotoNexthop) (sent : ofp ≠ []) :
    hwRoute (calls ++ routeRequest .delete ref ofp) (routeFamily ref.isIpv6) ref.pfx = none := by
  rw [hw_route_append, routeRequest, if_neg sent]
  simp [hwRouteStep]

theorem hw_route_delete_nh (calls : List OfprotoCall) (ref : RouteRef) (ofp : List OfprotoNexthop) :
    hwRoute (calls ++ routeRequest .deleteNh ref ofp) (routeFamily ref.isIpv6) ref.pfx =
      (hwRoute calls (routeFamily ref.isIpv6) ref.pfx).map
        (fun table id => if id ∈ ofp.map OfprotoNexthop.nh then none else table id) := by
  rw [hw_route_append, routeRequest]
  by_cases empty : ofp = []
  · subst empty
    simp
  · rw [if_neg empty]
    simp [hwRouteStep]

def heldState (vrf : Vrf) (id : NhId) : NhState := (heldNexthop vrf id).state

theorem held_nexthop_state (vrf : Vrf) (id : NhId) : heldNexthop vrf id = ⟨id, heldState vrf id⟩ := by
  unfold heldState heldNexthop
  split <;> rfl

theorem resolved_nexthop_held (vrf : Vrf) (id : NhId) (entry : OfprotoNexthop)
    (resolved : resolvedNexthop vrf id = some entry) : entry = heldNexthop vrf id := by
  unfold resolvedNexthop at resolved
  unfold heldNexthop
  split at resolved
  · cases resolved
    rfl
  · obtain ⟨egress, found, rfl⟩ := Option.map_eq_some_iff.mp resolved
    simp [found]

theorem unresolved_nexthop_held (vrf : Vrf) (id : NhId) (ip : id.type = .ipaddr)
    (unresolved : resolvedNexthop vrf id = none) : (⟨id, .unresolved⟩ : OfprotoNexthop) = heldNexthop vrf id := by
  unfold resolvedNexthop at unresolved
  unfold heldNexthop
  rw [ip] at unresolved ⊢
  rw [Option.map_eq_none_iff] at unresolved
  rw [unresolved]
  rfl

theorem ecmp_nexthops_held (vrf : Vrf) (rows : List NexthopRow) (entry : OfprotoNexthop)
    (member : entry ∈ ecmpNexthops vrf rows) : ∃ row ∈ rows, entry = heldNexthop vrf (nhRowId row) := by
  unfold ecmpNexthops at member
  by_cases none_ : rows.filterMap (fun row => resolvedNexthop vrf (nhRowId row)) = []
  · rw [if_pos none_] at member
    obtain ⟨row, found, rfl⟩ := Option.map_eq_some_iff.mp (Option.mem_toList.mp member)
    have present := List.mem_of_find?_eq_some found
    have ip : row.ipAddress.isSome := by simpa using List.find?_some found
    obtain ⟨address, stored⟩ := Option.isSome_iff_exists.mp ip
    have unresolved : resolvedNexthop vrf (nhRowId row) = none := by
      simpa using List.filterMap_eq_nil_iff.mp none_ row present
    exact ⟨row, present, unresolved_nexthop_held vrf (nhRowId row) (by simp [nhRowId, nhQueryId, stored]) unresolved⟩
  · rw [if_neg none_] at member
    obtain ⟨row, present, resolved⟩ := List.mem_filterMap.mp member
    exact ⟨row, present, resolved_nexthop_held vrf _ entry resolved⟩

theorem added_ofp_held (vrf : Vrf) (row : RouteRow) (entry : OfprotoNexthop) (member : entry ∈ addedOfp vrf row) :
    ∃ nh ∈ usableNhs row, entry = heldNexthop vrf (nhRowId nh) := by
  unfold addedOfp at member
  split at member
  · exact ecmp_nexthops_held vrf (usableNhs row) entry member
  · obtain ⟨nh, present, rfl⟩ := List.mem_map.mp member
    exact ⟨nh, present, rfl⟩

theorem sent_nexthops_held (ecmp : Bool) (vrf : Vrf) (rows : List NexthopRow) (entry : OfprotoNexthop)
    (member : entry ∈ sentNexthops ecmp vrf rows) : ∃ row ∈ rows, entry = heldNexthop vrf (nhRowId row) := by
  cases ecmp with
  | false =>
      obtain ⟨row, present, rfl⟩ := List.mem_map.mp member
      exact ⟨row, present, rfl⟩
  | true =>
      obtain ⟨row, present, resolved⟩ := List.mem_filterMap.mp member
      exact ⟨row, present, resolved_nexthop_held vrf _ entry resolved⟩

theorem hw_route_add_held (vrf : Vrf) (calls : List OfprotoCall) (ref : RouteRef) (ofp : List OfprotoNexthop)
    (sent : ofp ≠ []) (held : ∀ entry ∈ ofp, entry = heldNexthop vrf entry.nh) :
    hwRoute (calls ++ routeRequest .add ref ofp) (routeFamily ref.isIpv6) ref.pfx =
      some (fun id => if id ∈ ofp.map OfprotoNexthop.nh then some (heldState vrf id)
        else ((hwRoute calls (routeFamily ref.isIpv6) ref.pfx).getD (fun _ => none)) id) := by
  rw [hw_route_add calls ref ofp sent]
  congr 1
  funext id
  refine upsert_nexthops (heldState vrf) ofp ?_ _ id
  intro entry member
  rw [held entry member, held_nexthop_state]

theorem held_entries (vrf : Vrf) (ofp : List OfprotoNexthop) (rows : List NexthopRow)
    (fromRows : ∀ entry ∈ ofp, ∃ row ∈ rows, entry = heldNexthop vrf (nhRowId row)) :
    ∀ entry ∈ ofp, entry = heldNexthop vrf entry.nh := by
  intro entry member
  obtain ⟨row, _, rfl⟩ := fromRows entry member
  rw [held_nexthop_nh]

theorem hw_route_modify_elsewhere (env : Env) (vrf : Vrf) (route : Route) (row : RouteRow) (family : RouteFamily)
    (pfx : String) (different : ¬ refAt route.self family pfx) :
    hwRoute (vrf.up.calls ++ modifiedRequests env vrf route row) family pfx = hwRoute vrf.up.calls family pfx := by
  rw [modifiedRequests, ← List.append_assoc, hw_route_elsewhere _ _ _ _ _ _ different,
    hw_route_elsewhere _ _ _ _ _ _ different]

def goneIds (env : Env) (route : Route) (row : RouteRow) : List NhId := (goneNexthops env route row).map nhId

theorem hw_route_modify (env : Env) (vrf : Vrf) (route : Route) (row : RouteRow) :
    let sent := sentNexthops (row.nexthops.length > 1) vrf (freshNhs env route row)
    let left := (hwRoute vrf.up.calls (routeFamily route.self.isIpv6) route.self.pfx).map
      (fun table id => if id ∈ goneIds env route row then none else table id)
    hwRoute (vrf.up.calls ++ modifiedRequests env vrf route row) (routeFamily route.self.isIpv6) route.self.pfx =
      if sent = [] then left
      else some (fun id => if id ∈ sent.map OfprotoNexthop.nh then some (heldState vrf id)
        else (left.getD (fun _ => none)) id) := by
  intro sent left
  have goneMap : ((goneNexthops env route row).map (fun nh => heldNexthop vrf (nhId nh))).map OfprotoNexthop.nh =
      goneIds env route row := by
    simp [goneIds]
  rw [modifiedRequests, ← List.append_assoc]
  by_cases empty : sent = []
  · rw [if_pos empty, show sentNexthops (row.nexthops.length > 1) vrf (freshNhs env route row) = [] from empty,
      hw_route_nothing, hw_route_delete_nh, goneMap]
  · rw [if_neg empty, hw_route_add_held vrf _ route.self sent empty
      (held_entries vrf sent _ (sent_nexthops_held _ vrf (freshNhs env route row))), hw_route_delete_nh, goneMap]

end OpsSwitchd
