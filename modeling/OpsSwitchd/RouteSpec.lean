import OpsSwitchd.Nexthops

set_option autoImplicit false

namespace OpsSwitchd

def usableNhs (row : RouteRow) : List NexthopRow := row.nexthops.filter nhRowUsable

section Routes

variable (env : Env) (vrf : Vrf) (route : Route) (row : RouteRow)

theorem usable_nhs_key (nh : NexthopRow) (member : nh ∈ usableNhs row) : (nhRowKey nh).isSome :=
  usable_key nh (List.mem_filter.mp member).2

-- An ECMP set goes to the ASIC with what is resolved or a port; when there is
-- nothing of the kind, its first IP nexthop goes there to copy to the CPU.
def ecmpNexthops (vrf : Vrf) (rows : List NexthopRow) : List OfprotoNexthop :=
  let resolved := rows.filterMap (fun row => resolvedNexthop vrf (nhRowId row))
  if resolved = [] then ((rows.find? (fun row => row.ipAddress.isSome)).map (fun row => ⟨nhRowId row, .unresolved⟩)).toList
  else resolved

theorem resolved_nexthop_of_eq (work : RouteWork) (row : NexthopRow) (usable : nhRowUsable row = true)
    (apart : NhRowApart env row) (one : ∀ nh ∈ work.route.nexthops, NhExclusive nh)
    (present : ∃ nh ∈ work.route.nexthops, nhId nh = nhRowId row) :
    resolvedNexthopOf env work row = resolvedNexthop work.vrf (nhRowId row) := by
  have query := usable_key row usable
  obtain ⟨nh, found⟩ := Option.isSome_iff_exists.mp
    ((nexthop_lookup_isSome_iff env work.route row.ipAddress row.ports.head? apart one query).mpr present)
  obtain ⟨_, same⟩ := nexthop_lookup_some env work.route _ _ apart one nh found
  rw [resolvedNexthopOf, if_pos usable, found, Option.bind_some, update_resolved_nh_eq, same]
  rfl

theorem copy_to_cpu_of_eq (work : RouteWork) (row : NexthopRow) (one : ∀ nh ∈ work.route.nexthops, NhExclusive nh)
    (present : nhRowUsable row = true → ∃ nh ∈ work.route.nexthops, nhId nh = nhRowId row) :
    copyToCpuNexthopOf env work row =
      if nhRowUsable row && row.ipAddress.isSome then some ⟨nhRowId row, .unresolved⟩ else none := by
  unfold copyToCpuNexthopOf
  cases ip : row.ipAddress with
  | none => simp
  | some ipAddress =>
      have usableIff : nhRowUsable row = vrfIsNhRowSelected row := by
        simp [nhRowUsable, nhRowKey, vrfNhHash, ip]
      rw [usableIff]
      by_cases selected : vrfIsNhRowSelected row = true
      · have apart : HashApart env (some ipAddress) none := by simp [HashApart]
        have here : ∃ nh ∈ work.route.nexthops, nhId nh = nhQueryId (some ipAddress) none := by
          obtain ⟨nh, member, same⟩ := present (by rw [usableIff, selected])
          exact ⟨nh, member, by simpa [nhRowId, nhQueryId, ip] using same⟩
        obtain ⟨nh, found⟩ := Option.isSome_iff_exists.mp
          ((nexthop_lookup_isSome_iff env work.route (some ipAddress) none apart one rfl).mpr here)
        obtain ⟨member, same⟩ := nexthop_lookup_some env work.route _ _ apart one nh found
        have stored : nh.ipAddr.getD "" = ipAddress := by
          unfold nhId nhQueryId at same
          split at same
          · cases same
          · exact congrArg NhId.id same
        simp [selected, found, stored, nhRowId, nhQueryId, ip]
      · simp [selected]

theorem find_some_copy_to_cpu (work : RouteWork) (rows : List NexthopRow)
    (copy : ∀ row ∈ rows, copyToCpuNexthopOf env work row =
      if nhRowUsable row && row.ipAddress.isSome then some ⟨nhRowId row, .unresolved⟩ else none) :
    rows.findSome? (copyToCpuNexthopOf env work) =
      ((rows.filter nhRowUsable).find? (fun row => row.ipAddress.isSome)).map
        (fun row => (⟨nhRowId row, .unresolved⟩ : OfprotoNexthop)) := by
  induction rows with
  | nil => rfl
  | cons row rest ih =>
      rw [List.findSome?_cons, copy row (by simp), ih (fun other member => copy other (by simp [member]))]
      by_cases usable : nhRowUsable row = true <;> by_cases ip : row.ipAddress.isSome = true <;>
        simp [usable, ip]

theorem filter_map_resolved (work : RouteWork) (rows : List NexthopRow) (resolve : ∀ row ∈ rows, nhRowUsable row = true →
      resolvedNexthopOf env work row = resolvedNexthop work.vrf (nhRowId row)) :
    rows.filterMap (resolvedNexthopOf env work) =
      (rows.filter nhRowUsable).filterMap (fun row => resolvedNexthop work.vrf (nhRowId row)) := by
  induction rows with
  | nil => rfl
  | cons row rest ih =>
      have tail := ih (fun other member => resolve other (by simp [member]))
      by_cases usable : nhRowUsable row = true
      · rw [List.filter_cons_of_pos usable, List.filterMap_cons, List.filterMap_cons, resolve row (by simp) usable, tail]
      · have skipped : resolvedNexthopOf env work row = none := by simp [resolvedNexthopOf, usable]
        rw [List.filter_cons_of_neg usable, List.filterMap_cons_none skipped, tail]

theorem add_resolved_nh_eq (ref : RouteRef) (apart : ∀ nh ∈ usableNhs row, NhRowApart env nh) :
    vrfOfprotoAddResolvedNh env vrf row ⟨ref, [], 0⟩ =
      let nhs := newNexthops ref vrf.nextAddr (usableNhs row)
      ⟨pushNexthops vrf nhs, ⟨ref, nhs.reverse, 0⟩, ecmpNexthops vrf (usableNhs row)⟩ := by
  have keys := usable_nhs_key row
  have ids := new_nexthops_has_id ref vrf.nextAddr (usableNhs row) keys
  have one := new_nexthops_exclusive ref vrf.nextAddr (usableNhs row) keys
  have added := add_nexthop_rows row.nexthops ⟨vrf, ⟨ref, [], 0⟩, []⟩
  simp only [List.append_nil] at added
  have present : ∀ nh ∈ row.nexthops, nhRowUsable nh = true →
      ∃ cached ∈ (newNexthops ref vrf.nextAddr (usableNhs row)).reverse, nhId cached = nhRowId nh := by
    intro nh member usable
    obtain ⟨cached, here, same⟩ := (ids (nhRowId nh)).mpr ⟨nh, List.mem_filter.mpr ⟨member, usable⟩, rfl⟩
    exact ⟨cached, List.mem_reverse.mpr here, same⟩
  have oneReversed : ∀ nh ∈ (newNexthops ref vrf.nextAddr (usableNhs row)).reverse, NhExclusive nh :=
    fun nh member => one nh (List.mem_reverse.mp member)
  unfold vrfOfprotoAddResolvedNh
  rw [added]
  change RouteWork.mk _ _ _ = RouteWork.mk _ _ _
  congr 1
  rw [filter_map_resolved env _ row.nexthops (fun nh member usable => resolved_nexthop_of_eq env _ nh usable
      (apart nh (List.mem_filter.mpr ⟨member, usable⟩)) oneReversed (present nh member usable)),
    find_some_copy_to_cpu env _ row.nexthops (fun nh member => copy_to_cpu_of_eq env _ nh oneReversed (present nh member))]
  rfl

def Vrf.emits (vrf : Vrf) (calls : List OfprotoCall) : Vrf := { vrf with up := { vrf.up with calls := vrf.up.calls ++ calls } }

theorem emits_nil : vrf.emits [] = vrf := by
  simp [Vrf.emits]

def routeRequest (action : RouteAction) (ref : RouteRef) (ofp : List OfprotoNexthop) : List OfprotoCall :=
  if ofp = [] then [] else [.l3RouteAction action ⟨routeFamily ref.isIpv6, ref.pfx, ofp⟩]

theorem route_add_request (ofp : List OfprotoNexthop) (route : Route) :
    ∃ status, (if ofp = [] then vrf else vrfOfprotoRouteAdd env vrf ofp route) =
      { vrf.emits (routeRequest .add route.self ofp) with nexthopStatus := status } := by
  by_cases empty : ofp = []
  · exact ⟨vrf.nexthopStatus, by simp [empty, routeRequest, emits_nil]⟩
  · obtain ⟨status, added⟩ := ofproto_route_add_eq env vrf ofp route
    exact ⟨status, by simp [empty, added, routeRequest, Vrf.emits, Vrf.emit, Bridge.emit, ofprotoRoute]⟩

theorem route_delete_request (ofp : List OfprotoNexthop) (route : Route) (delRoute : Bool) :
    (if ofp = [] then vrf else vrfOfprotoRouteDelete vrf ofp route delRoute) =
      vrf.emits (routeRequest (if delRoute then .delete else .deleteNh) route.self ofp) := by
  by_cases empty : ofp = []
  · simp [empty, routeRequest, emits_nil]
  · simp [empty, vrfOfprotoRouteDelete, routeRequest, Vrf.emits, Vrf.emit, Bridge.emit, ofprotoRoute]

def addedNexthops (vrf : Vrf) (row : RouteRow) : List Nexthop :=
  newNexthops (newRouteRef vrf row) (vrf.nextAddr + 1) (usableNhs row)

def addedRoute (vrf : Vrf) (row : RouteRow) : Route := ⟨newRouteRef vrf row, (addedNexthops vrf row).reverse, row.uuid⟩

def addedOfp (vrf : Vrf) (row : RouteRow) : List OfprotoNexthop :=
  if row.nexthops.length > 1 then ecmpNexthops vrf (usableNhs row)
  else (usableNhs row).map (fun nh => heldNexthop vrf (nhRowId nh))

theorem fill_new_route_eq (ref : RouteRef) (apart : ∀ nh ∈ usableNhs row, NhRowApart env nh) :
    fillNewRoute env vrf row ⟨ref, [], 0⟩ =
      let nhs := newNexthops ref vrf.nextAddr (usableNhs row)
      ⟨pushNexthops vrf nhs, ⟨ref, nhs.reverse, 0⟩, addedOfp vrf row⟩ := by
  unfold fillNewRoute addedOfp
  by_cases ecmp : row.nexthops.length > 1
  · rw [if_pos ecmp, if_pos ecmp, add_resolved_nh_eq env vrf row ref apart]
  · rw [if_neg ecmp, if_neg ecmp, add_nexthops_to_asic]
    simp only [List.append_nil, List.nil_append]
    rfl

theorem vrf_route_add_eq (apart : ∀ nh ∈ usableNhs row, NhRowApart env nh) :
    ∃ status, vrfRouteAdd env vrf row =
      { vrf.emits (routeRequest .add (newRouteRef vrf row) (addedOfp vrf row)) with
        allRoutes := addedRoute vrf row :: vrf.allRoutes
        allNexthops := (addedRoute vrf row).nexthops.filter (fun nh => nh.ipAddr.isSome) ++ vrf.allNexthops
        nextAddr := vrf.nextAddr + 1 + (usableNhs row).length
        nexthopStatus := status
        routeRows := vrf.routeRows ++ [row] } := by
  obtain ⟨status, requested⟩ := route_add_request env
    (pushNexthops { vrf with nextAddr := vrf.nextAddr + 1, routeRows := vrf.routeRows ++ [row] } (addedNexthops vrf row))
    (addedOfp vrf row) ⟨newRouteRef vrf row, (addedNexthops vrf row).reverse, 0⟩
  refine ⟨status, ?_⟩
  simp only [vrfRouteAdd, fill_new_route_eq env _ row _ apart]
  refine (congrArg (fun v : Vrf => { v with allRoutes := addedRoute vrf row :: v.allRoutes }) requested).trans ?_
  simp [pushNexthops, Vrf.emits, addedRoute, addedNexthops, new_nexthops_length]

def dropNexthops (vrf : Vrf) (nhs : List Nexthop) : Vrf :=
  { vrf with
    allNexthops := Keyed.removeAll Nexthop.addr ((nhs.filter (fun nh => nh.ipAddr.isSome)).map Nexthop.addr)
      vrf.allNexthops }

theorem drop_nexthop_vrf (work : RouteWork) (nh : Nexthop) (rest : List Nexthop) :
    dropNexthops (dropNexthop work nh).vrf rest = dropNexthops work.vrf (nh :: rest) := by
  unfold dropNexthop vrfNexthopDelete dropNexthops
  by_cases ip : nh.ipAddr.isSome = true <;> simp [ip, Keyed.removeAll_remove]

theorem drop_nexthops_fold (nhs : List Nexthop) (work : RouteWork) :
    nhs.foldl dropNexthop work =
      ⟨dropNexthops work.vrf nhs,
        { work.route with nexthops := Keyed.removeAll Nexthop.addr (nhs.map Nexthop.addr) work.route.nexthops },
        work.ofp ++ nhs.map (fun nh => heldNexthop work.vrf (nhId nh))⟩ := by
  induction nhs generalizing work with
  | nil => simp [dropNexthops, Keyed.removeAll_nil]
  | cons nh rest ih =>
      have held := held_nexthop_congr (dropNexthop work nh).vrf work.vrf (by
        unfold dropNexthop vrfNexthopDelete
        dsimp only
        split <;> rfl)
      rw [List.foldl_cons, ih, drop_nexthop_vrf]
      simp only [held]
      simp [dropNexthop, vrfNexthopDelete, set_nh_eq, Keyed.removeAll_remove]

theorem delete_old_nexthops_fold (idlNhs : List NexthopRow) (nhs : List Nexthop) (work : RouteWork) :
    nhs.foldl (deleteOldNexthop idlNhs) work =
      (nhs.filter (fun nh => (Keyed.lookup nhRowKey (nhKey nh) idlNhs).isNone)).foldl dropNexthop work := by
  induction nhs generalizing work with
  | nil => rfl
  | cons nh rest ih =>
      rw [List.foldl_cons, ih]
      cases wanted : Keyed.lookup nhRowKey (nhKey nh) idlNhs <;> simp [deleteOldNexthop, wanted]

theorem vrf_route_delete_eq :
    vrfRouteDelete env vrf route =
      { vrf.emits (routeRequest .delete route.self
          ((env.order.walk route.nexthops).map (fun nh => heldNexthop vrf (nhId nh)))) with
        allRoutes := Keyed.remove routeAddr (routeAddr route) vrf.allRoutes
        allNexthops := (dropNexthops vrf (env.order.walk route.nexthops)).allNexthops } := by
  have held := held_nexthop_congr
    { vrf with allRoutes := Keyed.remove routeAddr (routeAddr route) vrf.allRoutes } vrf rfl
  simp only [vrfRouteDelete, drop_nexthops_fold, List.nil_append, route_delete_request, held]
  rfl

def sentNexthops (ecmp : Bool) (vrf : Vrf) (rows : List NexthopRow) : List OfprotoNexthop :=
  if ecmp then rows.filterMap (fun row => resolvedNexthop vrf (nhRowId row))
  else rows.map (fun row => heldNexthop vrf (nhRowId row))

theorem sent_nexthops_append (ecmp : Bool) (vrf : Vrf) (rows rest : List NexthopRow) :
    sentNexthops ecmp vrf (rows ++ rest) = sentNexthops ecmp vrf rows ++ sentNexthops ecmp vrf rest := by
  cases ecmp <;> simp [sentNexthops]

theorem sent_nexthops_congr (ecmp : Bool) (a b : Vrf) (same : a.allNeighbors = b.allNeighbors)
    (rows : List NexthopRow) : sentNexthops ecmp a rows = sentNexthops ecmp b rows := by
  simp only [sentNexthops, held_nexthop_congr a b same, resolved_nexthop_congr a b same]

def freshRows (route : Route) (rows : List NexthopRow) : List NexthopRow :=
  rows.filter (fun row => nhRowId row ∉ route.nexthops.map nhId)

theorem fresh_rows_cons (row : NexthopRow) (rest : List NexthopRow) :
    freshRows route (row :: rest) =
      if nhRowId row ∈ route.nexthops.map nhId then freshRows route rest else row :: freshRows route rest := by
  unfold freshRows
  by_cases present : nhRowId row ∈ route.nexthops.map nhId
  · rw [if_pos present, List.filter_cons_of_neg (by simpa only [decide_eq_true_eq, not_not] using present)]
  · rw [if_neg present, List.filter_cons_of_pos (by simpa only [decide_eq_true_eq] using present)]

def addsNexthop (env : Env) (work : RouteWork) (row : NexthopRow) : Bool :=
  (vrfRouteNexthopLookup env work.route row.ipAddress row.ports.head?).isNone && (nhRowKey row).isSome

theorem add_new_nexthop_cached (ecmp : Bool) (work : RouteWork) (row : NexthopRow) :
    addNewNexthop env ecmp work row =
      if addsNexthop env work row then work.cached row (sentNexthops ecmp work.vrf [row]) else work := by
  unfold addNewNexthop addsNexthop
  cases found : vrfRouteNexthopLookup env work.route row.ipAddress row.ports.head? with
  | some nh => simp
  | none =>
      by_cases key : (nhRowKey row).isSome
      · rw [nexthop_add_eq work.vrf work.route row key]
        have id := new_nexthop_id work.route.self work.vrf.nextAddr row key
        have held := held_nexthop_congr (pushNexthop work.vrf (newNexthop work.route.self work.vrf.nextAddr row)) work.vrf rfl
        have resolved := resolved_nexthop_congr
          (pushNexthop work.vrf (newNexthop work.route.self work.vrf.nextAddr row)) work.vrf rfl
        cases ecmp with
        | false => simp [RouteWork.cached, set_nh_eq, id, held, sentNexthops, key]
        | true =>
            cases answer : resolvedNexthop work.vrf (nhRowId row) <;>
              simp [RouteWork.cached, update_resolved_nh_eq, id, resolved, sentNexthops, answer, key]
      · simp [nexthop_add_refused work.vrf work.route row (Option.not_isSome_iff_eq_none.mp key), key]

theorem add_new_nexthop_eq (ecmp : Bool) (work : RouteWork) (row : NexthopRow)
    (key : (nhRowKey row).isSome) (apart : NhRowApart env row) (one : ∀ nh ∈ work.route.nexthops, NhExclusive nh) :
    addNewNexthop env ecmp work row =
      if nhRowId row ∈ work.route.nexthops.map nhId then work
      else work.cached row (sentNexthops ecmp work.vrf [row]) := by
  have found := nexthop_lookup_isSome_iff env work.route row.ipAddress row.ports.head? apart one key
  rw [← List.mem_map (f := nhId)] at found
  rw [add_new_nexthop_cached, addsNexthop, key, Bool.and_true]
  by_cases present : nhRowId row ∈ work.route.nexthops.map nhId
  · rw [if_pos present, if_neg (by simpa using Option.isSome_iff_ne_none.mp (found.mpr present))]
  · rw [if_neg present, if_pos (by simpa using fun some => present (found.mp some))]

theorem add_new_nexthops_fold (ecmp : Bool) (rows : List NexthopRow) (work : RouteWork)
    (keys : ∀ row ∈ rows, (nhRowKey row).isSome) (distinct : Keyed.Unique nhRowId rows)
    (apart : ∀ row ∈ rows, NhRowApart env row) (one : ∀ nh ∈ work.route.nexthops, NhExclusive nh) :
    rows.foldl (addNewNexthop env ecmp) work =
      let nhs := newNexthops work.route.self work.vrf.nextAddr (freshRows work.route rows)
      ⟨pushNexthops work.vrf nhs, { work.route with nexthops := nhs.reverse ++ work.route.nexthops },
        work.ofp ++ sentNexthops ecmp work.vrf (freshRows work.route rows)⟩ := by
  induction rows generalizing work with
  | nil => cases ecmp <;> simp [freshRows, newNexthops, push_nexthops_nil, sentNexthops]
  | cons row rest ih =>
      obtain ⟨differ, unique⟩ := List.nodup_cons.mp distinct
      have key := keys row (by simp)
      have step := add_new_nexthop_eq env ecmp work row key (apart row (by simp)) one
      have tail := fun next oneNext => ih next (fun r member => keys r (by simp [member])) unique
        (fun r member => apart r (by simp [member])) oneNext
      by_cases present : nhRowId row ∈ work.route.nexthops.map nhId
      · rw [List.foldl_cons, step, if_pos present, tail work one, fresh_rows_cons, if_pos present]
      · have later : freshRows { work.route with
            nexthops := newNexthop work.route.self work.vrf.nextAddr row :: work.route.nexthops } rest =
            freshRows work.route rest := by
          apply List.filter_congr
          intro other member
          have apartIds : nhRowId other ≠ nhRowId row := fun same => differ (List.mem_map.mpr ⟨other, member, same⟩)
          simp [new_nexthop_id _ _ row key, apartIds]
        have oneNext : ∀ nh ∈ newNexthop work.route.self work.vrf.nextAddr row :: work.route.nexthops, NhExclusive nh := by
          intro nh member
          rcases List.mem_cons.mp member with rfl | old
          · exact new_nexthop_exclusive _ _ row key
          · exact one nh old
        rw [List.foldl_cons, step, if_neg present, tail _ oneNext]
        dsimp only [RouteWork.cached]
        rw [later, fresh_rows_cons, if_neg present]
        simp only [newNexthops, ← push_nexthops_cons]
        rw [show row :: freshRows work.route rest = [row] ++ freshRows work.route rest from rfl, sent_nexthops_append,
          sent_nexthops_congr ecmp (pushNexthop work.vrf (newNexthop work.route.self work.vrf.nextAddr row)) work.vrf rfl]
        simp [pushNexthop]

def nhWanted (row : RouteRow) (nh : Nexthop) : Bool := (Keyed.lookup nhRowKey (nhKey nh) (currentIdlNhs row)).isSome

def keptNexthops (route : Route) (row : RouteRow) : List Nexthop := route.nexthops.filter (nhWanted row)

def goneNexthops (env : Env) (route : Route) (row : RouteRow) : List Nexthop :=
  (env.order.walk route.nexthops).filter (fun nh => !nhWanted row nh)

def freshNhs (env : Env) (route : Route) (row : RouteRow) : List NexthopRow :=
  freshRows { route with nexthops := keptNexthops route row } (env.order.walk (currentIdlNhs row))

def modifiedRoute (env : Env) (vrf : Vrf) (route : Route) (row : RouteRow) : Route :=
  { route with
    nexthops := (newNexthops route.self vrf.nextAddr (freshNhs env route row)).reverse ++ keptNexthops route row }

def modifiedRequests (env : Env) (vrf : Vrf) (route : Route) (row : RouteRow) : List OfprotoCall :=
  routeRequest .deleteNh route.self ((goneNexthops env route row).map (fun nh => heldNexthop vrf (nhId nh))) ++
    routeRequest .add route.self (sentNexthops (row.nexthops.length > 1) vrf (freshNhs env route row))

theorem current_idl_nhs_usable (nh : NexthopRow) (member : nh ∈ currentIdlNhs row) :
    nh ∈ usableNhs row :=
  Keyed.mem_of_mem_collect nhRowKey member

theorem nh_row_id_key (row : NexthopRow) (key : (nhRowKey row).isSome) : nhRowKey row = some (nhRowId row).id := by
  rcases nh_row_key_cases row key with ⟨ip, address⟩ | ⟨address, port, name⟩
  · simp [nhRowKey, vrfNhHash, nhRowId, nhQueryId, address]
  · simp [nhRowKey, vrfNhHash, nhRowId, nhQueryId, address, name]

theorem current_idl_nhs_ids : Keyed.Unique nhRowId (currentIdlNhs row) := by
  refine List.Nodup.map_on ?_ (List.Nodup.of_map _ (Keyed.unique_collect nhRowKey (row.nexthops.filter nhRowUsable)))
  intro a left b right same
  apply Keyed.unique_mem_eq nhRowKey (Keyed.unique_collect nhRowKey (row.nexthops.filter nhRowUsable)) left right
  rw [nh_row_id_key a (usable_nhs_key row a (current_idl_nhs_usable row a left)),
    nh_row_id_key b (usable_nhs_key row b (current_idl_nhs_usable row b right)), same]

theorem remove_gone_nexthops (addrs : Keyed.Unique Nexthop.addr route.nexthops) :
    Keyed.removeAll Nexthop.addr ((goneNexthops env route row).map Nexthop.addr) route.nexthops =
      keptNexthops route row := by
  apply List.filter_congr
  intro nh member
  have gone : nh.addr ∈ (goneNexthops env route row).map Nexthop.addr ↔ nhWanted row nh = false := by
    constructor
    · intro listed
      obtain ⟨other, present, same⟩ := List.mem_map.mp listed
      obtain ⟨walked, unwanted⟩ := List.mem_filter.mp present
      obtain rfl := Keyed.unique_mem_eq Nexthop.addr addrs ((env.order.mem_walk _ _).mp walked) member same
      simpa using unwanted
    · intro unwanted
      exact List.mem_map.mpr ⟨nh, List.mem_filter.mpr ⟨(env.order.mem_walk _ _).mpr member, by simp [unwanted]⟩, rfl⟩
  cases wanted : nhWanted row nh with
  | false => exact decide_eq_false (not_not.mpr (gone.mpr wanted))
  | true => exact decide_eq_true (fun listed => absurd (gone.mp listed) (by simp [wanted]))

theorem drop_old_nexthops (addrs : Keyed.Unique Nexthop.addr route.nexthops) :
    (env.order.walk route.nexthops).foldl (deleteOldNexthop (currentIdlNhs row)) ⟨vrf, route, []⟩ =
      ⟨dropNexthops vrf (goneNexthops env route row), { route with nexthops := keptNexthops route row },
        (goneNexthops env route row).map (fun nh => heldNexthop vrf (nhId nh))⟩ := by
  have unwanted : (env.order.walk route.nexthops).filter
      (fun nh => (Keyed.lookup nhRowKey (nhKey nh) (currentIdlNhs row)).isNone) = goneNexthops env route row := by
    apply List.filter_congr
    intro nh _
    simp [nhWanted]
  rw [delete_old_nexthops_fold, unwanted, drop_nexthops_fold]
  simp only [remove_gone_nexthops env route row addrs, List.nil_append]

theorem add_missing_nexthops (ecmp : Bool) (vrf next : Vrf) (route : Route) (row : RouteRow)
    (apart : ∀ nh ∈ usableNhs row, NhRowApart env nh) (one : ∀ nh ∈ route.nexthops, NhExclusive nh)
    (neighbors : next.allNeighbors = vrf.allNeighbors) (addr : next.nextAddr = vrf.nextAddr) :
    (env.order.walk (currentIdlNhs row)).foldl (addNewNexthop env ecmp)
        ⟨next, { route with nexthops := keptNexthops route row }, []⟩ =
      ⟨pushNexthops next (newNexthops route.self vrf.nextAddr (freshNhs env route row)),
        modifiedRoute env vrf route row, sentNexthops ecmp vrf (freshNhs env route row)⟩ := by
  have usable : ∀ nh ∈ env.order.walk (currentIdlNhs row), nh ∈ usableNhs row :=
    fun nh member => current_idl_nhs_usable row nh ((env.order.mem_walk _ _).mp member)
  rw [add_new_nexthops_fold env ecmp _ _ (fun nh member => usable_nhs_key row nh (usable nh member))
    (Keyed.unique_perm nhRowId (env.order.perm _).symm (current_idl_nhs_ids row))
    (fun nh member => apart nh (usable nh member)) (fun nh member => one nh (List.mem_filter.mp member).1),
    sent_nexthops_congr ecmp next vrf neighbors, addr]
  rfl

theorem vrf_route_modify_eq (apart : ∀ nh ∈ usableNhs row, NhRowApart env nh) (one : ∀ nh ∈ route.nexthops, NhExclusive nh)
    (addrs : Keyed.Unique Nexthop.addr route.nexthops) :
    ∃ status, vrfRouteModify env vrf route row =
      { vrf.emits (modifiedRequests env vrf route row) with
        allRoutes := Keyed.replace routeAddr (routeAddr route) (fun _ => modifiedRoute env vrf route row) vrf.allRoutes
        allNexthops := (newNexthops route.self vrf.nextAddr (freshNhs env route row)).reverse.filter
          (fun nh => nh.ipAddr.isSome) ++ (dropNexthops vrf (goneNexthops env route row)).allNexthops
        nextAddr := vrf.nextAddr + (freshNhs env route row).length
        nexthopStatus := status
        routeRows := vrf.routeRows ++ [row] } := by
  have held : ∀ id, heldNexthop { vrf with routeRows := vrf.routeRows ++ [row] } id = heldNexthop vrf id :=
    held_nexthop_congr _ _ rfl
  have dropped := drop_old_nexthops env { vrf with routeRows := vrf.routeRows ++ [row] } route row addrs
  simp only [held] at dropped
  have added := add_missing_nexthops env (row.nexthops.length > 1) vrf
    ((dropNexthops { vrf with routeRows := vrf.routeRows ++ [row] } (goneNexthops env route row)).emits
      (routeRequest .deleteNh route.self ((goneNexthops env route row).map (fun nh => heldNexthop vrf (nhId nh)))))
    route row apart one rfl rfl
  simp only [vrfRouteModify, dropped, route_delete_request, Bool.false_eq_true, if_false, added]
  obtain ⟨status, requested⟩ := route_add_request env _ (sentNexthops (row.nexthops.length > 1) vrf (freshNhs env route row))
    (modifiedRoute env vrf route row)
  refine ⟨status, ?_⟩
  refine (congrArg (fun v => storeRoute v (modifiedRoute env vrf route row)) requested).trans ?_
  simp only [storeRoute, pushNexthops, dropNexthops, Vrf.emits, modifiedRequests, new_nexthops_length,
    List.append_assoc]
  rfl

theorem route_add_routes (apart : ∀ nh ∈ usableNhs row, NhRowApart env nh) :
    (vrfRouteAdd env vrf row).allRoutes = addedRoute vrf row :: vrf.allRoutes := by
  obtain ⟨status, added⟩ := vrf_route_add_eq env vrf row apart
  rw [added]

theorem route_add_calls (apart : ∀ nh ∈ usableNhs row, NhRowApart env nh) :
    (vrfRouteAdd env vrf row).up.calls =
      vrf.up.calls ++ routeRequest .add (newRouteRef vrf row) (addedOfp vrf row) := by
  obtain ⟨status, added⟩ := vrf_route_add_eq env vrf row apart
  rw [added]
  rfl

theorem route_delete_routes :
    (vrfRouteDelete env vrf route).allRoutes = Keyed.remove routeAddr (routeAddr route) vrf.allRoutes := by
  rw [vrf_route_delete_eq]

theorem route_delete_calls :
    (vrfRouteDelete env vrf route).up.calls = vrf.up.calls ++ routeRequest .delete route.self
      ((env.order.walk route.nexthops).map (fun nh => heldNexthop vrf (nhId nh))) := by
  rw [vrf_route_delete_eq]
  rfl

theorem route_modify_routes (apart : ∀ nh ∈ usableNhs row, NhRowApart env nh) (one : ∀ nh ∈ route.nexthops, NhExclusive nh)
    (addrs : Keyed.Unique Nexthop.addr route.nexthops) :
    (vrfRouteModify env vrf route row).allRoutes =
      Keyed.replace routeAddr (routeAddr route) (fun _ => modifiedRoute env vrf route row) vrf.allRoutes := by
  obtain ⟨status, modified⟩ := vrf_route_modify_eq env vrf route row apart one addrs
  rw [modified]

theorem route_modify_calls (apart : ∀ nh ∈ usableNhs row, NhRowApart env nh) (one : ∀ nh ∈ route.nexthops, NhExclusive nh)
    (addrs : Keyed.Unique Nexthop.addr route.nexthops) :
    (vrfRouteModify env vrf route row).up.calls = vrf.up.calls ++ modifiedRequests env vrf route row := by
  obtain ⟨status, modified⟩ := vrf_route_modify_eq env vrf route row apart one addrs
  rw [modified]
  rfl

def newRouteWork (vrf : Vrf) (row : RouteRow) : RouteWork :=
  ⟨{ vrf with nextAddr := vrf.nextAddr + 1, routeRows := vrf.routeRows ++ [row] }, ⟨newRouteRef vrf row, [], 0⟩, []⟩

def modifyWork (vrf : Vrf) (route : Route) (row : RouteRow) : RouteWork :=
  ⟨{ vrf with routeRows := vrf.routeRows ++ [row] }, route, []⟩

def modifyKept (env : Env) (vrf : Vrf) (route : Route) (row : RouteRow) : RouteWork :=
  let work := (env.order.walk route.nexthops).foldl (deleteOldNexthop (currentIdlNhs row)) (modifyWork vrf route row)
  ⟨if work.ofp = [] then work.vrf else vrfOfprotoRouteDelete work.vrf work.ofp work.route false, work.route, []⟩

theorem route_modify_halves :
    vrfRouteModify env vrf route row =
      let work := (env.order.walk (currentIdlNhs row)).foldl (addNewNexthop env (row.nexthops.length > 1))
        (modifyKept env vrf route row)
      storeRoute (if work.ofp = [] then work.vrf else vrfOfprotoRouteAdd env work.vrf work.ofp work.route) work.route := rfl

def Routed (vrf after : Vrf) (rows : List RouteRow) : Prop :=
  ∃ calls routes nexthops addr status, after =
      { vrf.emits calls with
        allRoutes := routes
        allNexthops := nexthops
        nextAddr := addr
        nexthopStatus := status
        routeRows := vrf.routeRows ++ rows } ∧
    ∀ call ∈ calls, ∃ action route, call = .l3RouteAction action route

theorem routed_tables (rows : List RouteRow) (routes : List Route) (nexthops : List Nexthop) (addr : Nat) :
    Routed vrf { vrf with
      allRoutes := routes
      allNexthops := nexthops
      nextAddr := addr
      routeRows := vrf.routeRows ++ rows } rows :=
  ⟨[], routes, nexthops, addr, vrf.nexthopStatus, by rw [emits_nil], fun _ member => absurd member List.not_mem_nil⟩

theorem routed_refl : Routed vrf vrf [] := by
  have same := routed_tables vrf [] vrf.allRoutes vrf.allNexthops vrf.nextAddr
  rwa [List.append_nil] at same

theorem routed_trans (vrf middle after : Vrf) (rows more : List RouteRow) (first : Routed vrf middle rows)
    (second : Routed middle after more) : Routed vrf after (rows ++ more) := by
  obtain ⟨calls, _, _, _, _, rfl, about⟩ := first
  obtain ⟨others, routes, nexthops, addr, status, rfl, also⟩ := second
  refine ⟨calls ++ others, routes, nexthops, addr, status, by simp [Vrf.emits], ?_⟩
  intro call member
  rcases List.mem_append.mp member with left | right
  · exact about call left
  · exact also call right

theorem routed_request (action : RouteAction) (ref : RouteRef) (ofp : List OfprotoNexthop) (status : List (Uuid × Smap)) :
    Routed vrf { vrf.emits (routeRequest action ref ofp) with nexthopStatus := status } [] := by
  refine ⟨routeRequest action ref ofp, vrf.allRoutes, vrf.allNexthops, vrf.nextAddr, status, ?_, ?_⟩
  · rw [List.append_nil]
    rfl
  · intro call member
    unfold routeRequest at member
    split at member
    · cases member
    · exact ⟨action, _, List.mem_singleton.mp member⟩

theorem add_request_routed (work : RouteWork) :
    Routed work.vrf (if work.ofp = [] then work.vrf else vrfOfprotoRouteAdd env work.vrf work.ofp work.route) [] := by
  obtain ⟨status, requested⟩ := route_add_request env work.vrf work.ofp work.route
  rw [requested]
  exact routed_request work.vrf .add work.route.self work.ofp status

theorem delete_request_routed (work : RouteWork) (delRoute : Bool) :
    Routed work.vrf (if work.ofp = [] then work.vrf else vrfOfprotoRouteDelete work.vrf work.ofp work.route delRoute) [] := by
  rw [route_delete_request]
  exact routed_request work.vrf _ work.route.self work.ofp work.vrf.nexthopStatus

theorem cached_routed (work : RouteWork) (row : NexthopRow) (ofp : List OfprotoNexthop) :
    Routed work.vrf (work.cached row ofp).vrf [] := by
  have pushed := routed_tables work.vrf [] work.vrf.allRoutes (work.cached row ofp).vrf.allNexthops (work.vrf.nextAddr + 1)
  rwa [List.append_nil] at pushed

theorem stored_routed (routes : List Route) (nexthops : List Nexthop) :
    Routed vrf { vrf with allRoutes := routes, allNexthops := nexthops } [] := by
  have stored := routed_tables vrf [] routes nexthops vrf.nextAddr
  rwa [List.append_nil] at stored

theorem delete_old_nexthop_routed (idlNhs : List NexthopRow) (work : RouteWork) (nh : Nexthop) :
    Routed work.vrf (deleteOldNexthop idlNhs work nh).vrf [] := by
  unfold deleteOldNexthop
  split
  · exact routed_refl work.vrf
  · rw [show dropNexthop work nh = _ from drop_nexthops_fold [nh] work]
    exact stored_routed work.vrf work.vrf.allRoutes _

theorem routed_foldl {α : Type} (step : RouteWork → α → RouteWork) (each : ∀ work a, Routed work.vrf (step work a).vrf [])
    (items : List α) (work : RouteWork) : Routed work.vrf (items.foldl step work).vrf [] :=
  Keyed.foldl_keeps step (fun after => Routed work.vrf after.vrf [])
    (fun next a _ routed => routed_trans _ _ _ [] [] routed (each next a)) (routed_refl work.vrf)

theorem add_nexthop_row_routed (work : RouteWork) (row : NexthopRow) : Routed work.vrf (addNexthopRow work row).vrf [] := by
  rw [add_nexthop_row_eq]
  split
  · exact cached_routed work row _
  · exact routed_refl work.vrf

theorem add_nexthop_to_asic_routed (work : RouteWork) (row : NexthopRow) :
    Routed work.vrf (addNexthopToAsic work row).vrf [] := by
  rw [add_nexthop_to_asic_eq]
  split
  · exact cached_routed work row _
  · exact routed_refl work.vrf

theorem add_new_nexthop_routed (ecmp : Bool) (work : RouteWork) (row : NexthopRow) :
    Routed work.vrf (addNewNexthop env ecmp work row).vrf [] := by
  rw [add_new_nexthop_cached]
  split
  · exact cached_routed work row _
  · exact routed_refl work.vrf

theorem fill_new_route_routed (route : Route) :
    Routed vrf (fillNewRoute env vrf row route).vrf [] := by
  unfold fillNewRoute
  split
  · exact routed_foldl addNexthopRow add_nexthop_row_routed row.nexthops ⟨vrf, route, []⟩
  · exact routed_foldl addNexthopToAsic add_nexthop_to_asic_routed row.nexthops ⟨vrf, route, []⟩

theorem route_delete_routed : Routed vrf (vrfRouteDelete env vrf route) [] := by
  rw [vrf_route_delete_eq]
  exact routed_trans _ _ _ [] [] (routed_request vrf _ _ _ vrf.nexthopStatus) (stored_routed _ _ _)

theorem route_add_routed : Routed vrf (vrfRouteAdd env vrf row) [row] := by
  have taken := routed_tables vrf [row] vrf.allRoutes vrf.allNexthops (vrf.nextAddr + 1)
  have filled := fill_new_route_routed env { vrf with nextAddr := vrf.nextAddr + 1, routeRows := vrf.routeRows ++ [row] } row
    ⟨newRouteRef vrf row, [], 0⟩
  refine routed_trans _ _ _ [row] [] taken (routed_trans _ _ _ [] [] filled ?_)
  exact routed_trans _ _ _ [] [] (add_request_routed env _) (stored_routed _ _ _)

theorem route_modify_routed :
    Routed vrf (vrfRouteModify env vrf route row) [row] := by
  have taken := routed_tables vrf [row] vrf.allRoutes vrf.allNexthops vrf.nextAddr
  have dropped := routed_foldl _ (delete_old_nexthop_routed (currentIdlNhs row)) (env.order.walk route.nexthops)
    ⟨{ vrf with routeRows := vrf.routeRows ++ [row] }, route, []⟩
  refine routed_trans _ _ _ [row] [] taken (routed_trans _ _ _ [] [] dropped ?_)
  refine routed_trans _ _ _ [] [] (delete_request_routed _ false) ?_
  refine routed_trans _ _ _ [] [] ?_ (routed_trans _ _ _ [] [] (add_request_routed env _) (stored_routed _ _ _))
  exact routed_foldl _ (add_new_nexthop_routed env _) _ ⟨_, _, []⟩

end Routes

end OpsSwitchd
