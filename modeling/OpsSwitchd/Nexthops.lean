import OpsSwitchd.Reconfigure

set_option autoImplicit false

namespace OpsSwitchd

theorem process_nexthop_rc_status (env : Env) (route : Route) (vrf : Vrf) (answer : NhId × Option String) :
    ∃ status, processNexthopRc env route vrf answer = { vrf with nexthopStatus := status } := by
  unfold processNexthopRc
  split
  · exact ⟨vrf.nexthopStatus, rfl⟩
  · split
    · exact ⟨_, rfl⟩
    · split
      · exact ⟨_, rfl⟩
      · exact ⟨vrf.nexthopStatus, rfl⟩

theorem process_nexthop_rcs_status (env : Env) (route : Route) (answers : List (NhId × Option String)) (vrf : Vrf) :
    ∃ status, answers.foldl (processNexthopRc env route) vrf = { vrf with nexthopStatus := status } := by
  induction answers generalizing vrf with
  | nil => exact ⟨vrf.nexthopStatus, rfl⟩
  | cons answer rest ih =>
      obtain ⟨first, here⟩ := process_nexthop_rc_status env route vrf answer
      obtain ⟨status, later⟩ := ih { vrf with nexthopStatus := first }
      exact ⟨status, by rw [List.foldl_cons, here, later]⟩

theorem ofproto_route_add_eq (env : Env) (vrf : Vrf) (nexthops : List OfprotoNexthop) (route : Route) :
    ∃ status, vrfOfprotoRouteAdd env vrf nexthops route =
      { vrf.emit (.l3RouteAction .add (ofprotoRoute route nexthops)) with nexthopStatus := status } :=
  process_nexthop_rcs_status env route _ _

def nhId (nh : Nexthop) : NhId :=
  match nh.portName with
  | some portName => ⟨.port, portName⟩
  | none => ⟨.ipaddr, nh.ipAddr.getD ""⟩

def nhQueryId (ipAddress portName : Option String) : NhId :=
  match ipAddress with
  | some ipAddress => ⟨.ipaddr, ipAddress⟩
  | none => ⟨.port, portName.getD ""⟩

def nhRowId (row : NexthopRow) : NhId := nhQueryId row.ipAddress row.ports.head?

def heldNexthop (vrf : Vrf) (id : NhId) : OfprotoNexthop :=
  match id.type with
  | .port => ⟨id, .unresolved⟩
  | .ipaddr => ⟨id, (resolvedEgress vrf id.id).elim .unresolved .resolved⟩

def resolvedNexthop (vrf : Vrf) (id : NhId) : Option OfprotoNexthop :=
  match id.type with
  | .port => some ⟨id, .unresolved⟩
  | .ipaddr => (resolvedEgress vrf id.id).map (fun egress => ⟨id, .resolved egress⟩)

section Rows

variable (vrf : Vrf) (ref : RouteRef) (addr : Nat) (row : NexthopRow)

@[simp] theorem held_nexthop_nh (id : NhId) : (heldNexthop vrf id).nh = id := by
  unfold heldNexthop
  split <;> rfl

theorem set_nh_eq (nh : Nexthop) : vrfOfprotoSetNh vrf nh = heldNexthop vrf (nhId nh) := by
  unfold vrfOfprotoSetNh nhId
  cases nh.portName <;> rfl

theorem update_resolved_nh_eq (nh : Nexthop) :
    vrfOfprotoUpdateResolvedNh vrf nh = resolvedNexthop vrf (nhId nh) := by
  unfold vrfOfprotoUpdateResolvedNh nhId
  cases nh.portName <;> rfl

theorem held_nexthop_congr (a b : Vrf) (same : a.allNeighbors = b.allNeighbors) (id : NhId) :
    heldNexthop a id = heldNexthop b id := by
  simp only [heldNexthop, resolvedEgress, neighborHashLookup, same]

theorem resolved_nexthop_congr (a b : Vrf) (same : a.allNeighbors = b.allNeighbors) (id : NhId) :
    resolvedNexthop a id = resolvedNexthop b id := by
  simp only [resolvedNexthop, resolvedEgress, neighborHashLookup, same]

def newNexthop (ref : RouteRef) (addr : Nat) (row : NexthopRow) : Nexthop :=
  match row.ipAddress with
  | some ipAddress => ⟨addr, some ipAddress, none, ref, row.uuid⟩
  | none => ⟨addr, none, row.ports.head?, ref, row.uuid⟩

def newNexthops (ref : RouteRef) : Nat → List NexthopRow → List Nexthop
  | _, [] => []
  | addr, row :: rest => newNexthop ref addr row :: newNexthops ref (addr + 1) rest

def pushNexthop (vrf : Vrf) (nh : Nexthop) : Vrf :=
  { vrf with
    nextAddr := vrf.nextAddr + 1
    allNexthops := if nh.ipAddr.isSome then nh :: vrf.allNexthops else vrf.allNexthops }

def pushNexthops (vrf : Vrf) (nhs : List Nexthop) : Vrf :=
  { vrf with
    nextAddr := vrf.nextAddr + nhs.length
    allNexthops := (nhs.reverse.filter (fun nh => nh.ipAddr.isSome)) ++ vrf.allNexthops }

theorem push_nexthops_nil : pushNexthops vrf [] = vrf := rfl

theorem push_nexthops_cons (nh : Nexthop) (nhs : List Nexthop) :
    pushNexthops (pushNexthop vrf nh) nhs = pushNexthops vrf (nh :: nhs) := by
  unfold pushNexthops pushNexthop
  by_cases ip : nh.ipAddr.isSome = true <;>
    simp [ip, List.filter_append, Nat.add_assoc, Nat.add_comm 1]

theorem usable_key (usable : nhRowUsable row = true) : (nhRowKey row).isSome := by
  unfold nhRowUsable at usable
  exact (Bool.and_eq_true_iff.mp usable).2

theorem nh_row_key_cases (key : (nhRowKey row).isSome) :
    (∃ ip, row.ipAddress = some ip) ∨ (row.ipAddress = none ∧ ∃ port, row.ports.head? = some port) := by
  unfold nhRowKey vrfNhHash at key
  cases address : row.ipAddress with
  | some ip => exact .inl ⟨ip, rfl⟩
  | none =>
      rw [address, Option.none_or] at key
      exact .inr ⟨rfl, Option.isSome_iff_exists.mp key⟩

theorem nexthop_add_eq (route : Route) (row : NexthopRow) (key : (nhRowKey row).isSome) :
    vrfNexthopAdd vrf route row =
      some (pushNexthop vrf (newNexthop route.self vrf.nextAddr row),
        { route with nexthops := newNexthop route.self vrf.nextAddr row :: route.nexthops },
        newNexthop route.self vrf.nextAddr row) := by
  rcases nh_row_key_cases row key with ⟨ip, address⟩ | ⟨address, port, name⟩
  · simp [vrfNexthopAdd, newNexthop, pushNexthop, address]
  · simp [vrfNexthopAdd, newNexthop, pushNexthop, address, name]

theorem nexthop_add_refused (route : Route) (row : NexthopRow) (missing : nhRowKey row = none) :
    vrfNexthopAdd vrf route row = none := by
  simp only [nhRowKey, vrfNhHash, Option.or_eq_none_iff] at missing
  simp [vrfNexthopAdd, missing.1, missing.2]

theorem new_nexthop_id (key : (nhRowKey row).isSome) :
    nhId (newNexthop ref addr row) = nhRowId row := by
  rcases nh_row_key_cases row key with ⟨ip, address⟩ | ⟨address, port, name⟩
  · simp [newNexthop, nhId, nhRowId, nhQueryId, address]
  · simp [newNexthop, nhId, nhRowId, nhQueryId, address, name]

theorem new_nexthop_key :
    nhKey (newNexthop ref addr row) = nhRowKey row := by
  unfold newNexthop nhKey nhRowKey vrfNhHash
  cases row.ipAddress <;> simp

theorem new_nexthops_map {β : Type} (ref : RouteRef) (f : Nexthop → β) (g : NexthopRow → β) (rows : List NexthopRow)
    (same : ∀ addr, ∀ row ∈ rows, f (newNexthop ref addr row) = g row) (addr : Nat) :
    (newNexthops ref addr rows).map f = rows.map g := by
  induction rows generalizing addr with
  | nil => rfl
  | cons row rest ih =>
      simp only [newNexthops, List.map_cons, same addr row (by simp)]
      rw [ih (fun a r member => same a r (by simp [member]))]

theorem new_nexthops_length (rows : List NexthopRow) :
    (newNexthops ref addr rows).length = rows.length := by
  have lengths := congrArg List.length (new_nexthops_map ref (fun _ => ()) (fun _ => ()) rows (fun _ _ _ => rfl) addr)
  simpa using lengths

theorem new_nexthops_mem (rows : List NexthopRow) (nh : Nexthop) (member : nh ∈ newNexthops ref addr rows) :
    ∃ row ∈ rows, ∃ at_, addr ≤ at_ ∧ at_ < addr + rows.length ∧ nh = newNexthop ref at_ row := by
  induction rows generalizing addr with
  | nil => cases member
  | cons row rest ih =>
      rcases List.mem_cons.mp member with rfl | later
      · exact ⟨row, by simp, addr, Nat.le_refl _, by simp, rfl⟩
      · obtain ⟨other, present, at_, low, high, same⟩ := ih (addr + 1) later
        exact ⟨other, by simp [present], at_, by omega, by simp only [List.length_cons]; omega, same⟩

theorem new_nexthop_addr : (newNexthop ref addr row).addr = addr := by
  unfold newNexthop
  cases row.ipAddress <;> rfl

theorem new_nexthop_route : (newNexthop ref addr row).route = ref := by
  unfold newNexthop
  cases row.ipAddress <;> rfl

theorem new_nexthops_unique (rows : List NexthopRow) :
    Keyed.Unique Nexthop.addr (newNexthops ref addr rows) := by
  induction rows generalizing addr with
  | nil => exact Keyed.unique_nil Nexthop.addr
  | cons row rest ih =>
      refine Keyed.unique_cons Nexthop.addr (ih (addr + 1)) ?_
      intro other member same
      obtain ⟨_, _, at_, low, _, rfl⟩ := new_nexthops_mem ref (addr + 1) rest other member
      rw [new_nexthop_addr, new_nexthop_addr] at same
      omega

def RouteWork.cached (work : RouteWork) (row : NexthopRow) (ofp : List OfprotoNexthop) : RouteWork :=
  let nh := newNexthop work.route.self work.vrf.nextAddr row
  ⟨pushNexthop work.vrf nh, { work.route with nexthops := nh :: work.route.nexthops }, work.ofp ++ ofp⟩

theorem add_nexthop_row_eq (work : RouteWork) (row : NexthopRow) :
    addNexthopRow work row = if nhRowUsable row then work.cached row [] else work := by
  unfold addNexthopRow
  by_cases usable : nhRowUsable row = true
  · rw [if_pos usable, if_pos usable, nexthop_add_eq work.vrf work.route row (usable_key row usable)]
    simp [RouteWork.cached]
  · rw [if_neg usable, if_neg usable]

theorem add_nexthop_to_asic_eq (work : RouteWork) (row : NexthopRow) :
    addNexthopToAsic work row =
      if nhRowUsable row then work.cached row [heldNexthop work.vrf (nhRowId row)] else work := by
  unfold addNexthopToAsic
  by_cases usable : nhRowUsable row = true
  · have key := usable_key row usable
    rw [if_pos usable, if_pos usable, nexthop_add_eq work.vrf work.route row key]
    dsimp only
    rw [set_nh_eq, new_nexthop_id _ _ row key, held_nexthop_congr _ work.vrf rfl]
    rfl
  · rw [if_neg usable, if_neg usable]

theorem add_nexthop_rows (rows : List NexthopRow) (work : RouteWork) :
    rows.foldl addNexthopRow work =
      let nhs := newNexthops work.route.self work.vrf.nextAddr (rows.filter nhRowUsable)
      ⟨pushNexthops work.vrf nhs, { work.route with nexthops := nhs.reverse ++ work.route.nexthops }, work.ofp⟩ := by
  induction rows generalizing work with
  | nil => rfl
  | cons row rest ih =>
      rw [List.foldl_cons, ih, add_nexthop_row_eq]
      by_cases usable : nhRowUsable row = true
      · simp only [usable, if_true, RouteWork.cached, List.filter_cons_of_pos usable, newNexthops, ← push_nexthops_cons]
        simp [pushNexthop]
      · rw [if_neg usable, List.filter_cons_of_neg usable]

theorem add_nexthops_to_asic (rows : List NexthopRow) (work : RouteWork) :
    rows.foldl addNexthopToAsic work =
      let nhs := newNexthops work.route.self work.vrf.nextAddr (rows.filter nhRowUsable)
      ⟨pushNexthops work.vrf nhs, { work.route with nexthops := nhs.reverse ++ work.route.nexthops },
        work.ofp ++ (rows.filter nhRowUsable).map (fun row => heldNexthop work.vrf (nhRowId row))⟩ := by
  induction rows generalizing work with
  | nil => simp [newNexthops, push_nexthops_nil]
  | cons row rest ih =>
      rw [List.foldl_cons, ih, add_nexthop_to_asic_eq]
      by_cases usable : nhRowUsable row = true
      · have held := held_nexthop_congr (pushNexthop work.vrf (newNexthop work.route.self work.vrf.nextAddr row))
          work.vrf rfl
        simp only [usable, if_true, RouteWork.cached, List.filter_cons_of_pos usable, newNexthops, ← push_nexthops_cons, held]
        simp [pushNexthop]
      · rw [if_neg usable, List.filter_cons_of_neg usable]

def NhExclusive (nh : Nexthop) : Prop := nh.ipAddr.isSome = !nh.portName.isSome

-- A query with both an IP address and a port only goes wrong when the two
-- texts fall into one hash chain.
def HashApart (env : Env) (ipAddress portName : Option String) : Prop :=
  ∀ ip ∈ ipAddress, ∀ port ∈ portName, env.platform.hashString ip ≠ env.platform.hashString port

instance (env : Env) (ipAddress portName : Option String) : Decidable (HashApart env ipAddress portName) :=
  inferInstanceAs (Decidable (∀ ip ∈ ipAddress, ∀ port ∈ portName, _ ≠ _))

def nhMatches (env : Env) (ipAddress portName : Option String) (hashstr : String) (nh : Nexthop) : Bool :=
  (nhKey nh).map env.platform.hashString = some (env.platform.hashString hashstr) &&
    (nhSameText nh.ipAddr ipAddress || nhSameText nh.portName portName)

theorem nh_matches_iff (env : Env) (ipAddress portName : Option String) (apart : HashApart env ipAddress portName)
    (hashstr : String) (hashed : vrfNhHash ipAddress portName = some hashstr) (nh : Nexthop) (one : NhExclusive nh) :
    nhMatches env ipAddress portName hashstr nh = true ↔ nhId nh = nhQueryId ipAddress portName := by
  obtain ⟨addr, nhIp, nhPort, ref, uuid⟩ := nh
  cases ipAddress with
  | some ip =>
      obtain rfl : ip = hashstr := by simpa [vrfNhHash] using hashed
      cases nhIp with
      | some stored =>
          have noPort : nhPort = none := by simpa [NhExclusive] using one
          subst noPort
          simp only [nhMatches, nhKey, vrfNhHash, nhSameText, nhId, nhQueryId]
          by_cases same : stored = ip <;> simp [same]
      | none =>
          obtain ⟨stored, rfl⟩ : ∃ stored, nhPort = some stored := by
            simpa [NhExclusive, Option.isSome_iff_exists] using one
          simp only [nhMatches, nhKey, vrfNhHash, nhSameText, nhId, nhQueryId]
          have differ := apart ip rfl stored
          by_cases same : some stored = portName
          · simpa [same.symm, eq_comm] using differ same.symm
          · simp [same]
  | none =>
      cases nhIp with
      | some stored =>
          have noPort : nhPort = none := by simpa [NhExclusive] using one
          subst noPort
          simp [nhMatches, nhKey, vrfNhHash, nhSameText, nhId, nhQueryId]
      | none =>
          obtain ⟨stored, rfl⟩ : ∃ stored, nhPort = some stored := by
            simpa [NhExclusive, Option.isSome_iff_exists] using one
          obtain rfl : portName = some hashstr := by simpa [vrfNhHash] using hashed
          simp only [nhMatches, nhKey, vrfNhHash, nhSameText, nhId, nhQueryId]
          by_cases same : stored = hashstr <;> simp [same]

theorem nexthop_lookup_some (env : Env) (route : Route) (ipAddress portName : Option String)
    (apart : HashApart env ipAddress portName) (one : ∀ nh ∈ route.nexthops, NhExclusive nh) (nh : Nexthop)
    (found : vrfRouteNexthopLookup env route ipAddress portName = some nh) :
    nh ∈ route.nexthops ∧ nhId nh = nhQueryId ipAddress portName := by
  obtain ⟨hashstr, hashed, inner⟩ := Option.bind_eq_some_iff.mp found
  have member : nh ∈ route.nexthops := by simpa using List.mem_of_find?_eq_some inner
  exact ⟨member, (nh_matches_iff env ipAddress portName apart hashstr hashed nh (one nh member)).mp
    (List.find?_some inner)⟩

theorem nexthop_lookup_none (env : Env) (route : Route) (ipAddress portName : Option String)
    (apart : HashApart env ipAddress portName) (one : ∀ nh ∈ route.nexthops, NhExclusive nh)
    (query : (vrfNhHash ipAddress portName).isSome)
    (absent : vrfRouteNexthopLookup env route ipAddress portName = none) (nh : Nexthop) (member : nh ∈ route.nexthops) :
    nhId nh ≠ nhQueryId ipAddress portName := by
  obtain ⟨hashstr, hashed⟩ := Option.isSome_iff_exists.mp query
  unfold vrfRouteNexthopLookup at absent
  rw [hashed, Option.bind_some, List.find?_eq_none] at absent
  intro same
  exact absent nh (by simpa using member)
    ((nh_matches_iff env ipAddress portName apart hashstr hashed nh (one nh member)).mpr same)

theorem nexthop_lookup_isSome_iff (env : Env) (route : Route) (ipAddress portName : Option String)
    (apart : HashApart env ipAddress portName) (one : ∀ nh ∈ route.nexthops, NhExclusive nh)
    (query : (vrfNhHash ipAddress portName).isSome) :
    (vrfRouteNexthopLookup env route ipAddress portName).isSome ↔
      ∃ nh ∈ route.nexthops, nhId nh = nhQueryId ipAddress portName := by
  cases found : vrfRouteNexthopLookup env route ipAddress portName with
  | some nh =>
      obtain ⟨member, same⟩ := nexthop_lookup_some env route ipAddress portName apart one nh found
      simpa using ⟨nh, member, same⟩
  | none =>
      have absent := nexthop_lookup_none env route ipAddress portName apart one query found
      simpa using absent

abbrev NhRowApart (env : Env) (row : NexthopRow) : Prop := HashApart env row.ipAddress row.ports.head?

theorem new_nexthop_exclusive (key : (nhRowKey row).isSome) :
    NhExclusive (newNexthop ref addr row) := by
  rcases nh_row_key_cases row key with ⟨ip, address⟩ | ⟨address, port, name⟩
  · simp [newNexthop, NhExclusive, address]
  · simp [newNexthop, NhExclusive, address, name]

theorem new_nexthops_exclusive (rows : List NexthopRow)
    (keys : ∀ row ∈ rows, (nhRowKey row).isSome) (nh : Nexthop) (member : nh ∈ newNexthops ref addr rows) :
    NhExclusive nh := by
  obtain ⟨row, present, at_, _, _, rfl⟩ := new_nexthops_mem ref addr rows nh member
  exact new_nexthop_exclusive ref at_ row (keys row present)

theorem new_nexthops_has_id (rows : List NexthopRow) (keys : ∀ row ∈ rows, (nhRowKey row).isSome) (id : NhId) :
    (∃ nh ∈ newNexthops ref addr rows, nhId nh = id) ↔ ∃ row ∈ rows, nhRowId row = id := by
  have ids := new_nexthops_map ref nhId nhRowId rows (fun at_ row member => new_nexthop_id ref at_ row (keys row member)) addr
  simpa only [List.mem_map] using iff_of_eq (congrArg (fun list => id ∈ list) ids)

end Rows

end OpsSwitchd
