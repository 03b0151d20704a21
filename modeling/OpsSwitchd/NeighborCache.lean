import OpsSwitchd.NeighborSpec

set_option autoImplicit false

namespace OpsSwitchd

structure HwHost where
  port : String
  mac : String
  egress : Int
deriving DecidableEq, Repr

-- The provider's host entry for one IP address. The text of an address
-- decides its family, so the table is keyed by the text.
def hwHostStep (ip : String) (entry : Option HwHost) : OfprotoCall → Option HwHost
  | .addL3HostEntry host (some egress) => if host.ipAddr = ip then some ⟨host.port, host.mac, egress⟩ else entry
  | .deleteL3HostEntry _ _ ipAddr (some _) => if ipAddr = ip then none else entry
  | _ => entry

def hwHost (calls : List OfprotoCall) (ip : String) : Option HwHost := calls.foldl (hwHostStep ip) none

theorem hw_host_append (calls more : List OfprotoCall) (ip : String) :
    hwHost (calls ++ more) ip = more.foldl (hwHostStep ip) (hwHost calls ip) := by
  rw [hwHost, List.foldl_append]
  rfl

section Cache

variable (aton : String → Bool) (env : Env) (vrf : Vrf)

theorem hw_host_route_updates (other : String) (state : NhState) (ip : String)
    (entry : Option HwHost) : (routeUpdates env vrf other state).foldl (hwHostStep ip) entry = entry := by
  unfold routeUpdates
  rw [List.foldl_map]
  exact Keyed.foldl_keeps _ (fun e => e = entry) (fun e nh _ same => same) rfl

def wantedHost (aton : String → Bool) (neighbor : Neighbor) : Option (String × String) :=
  neighbor.portName.bind (fun port => (neighbor.mac.filter aton).map (fun mac => (port, mac)))

theorem host_wanted_eq (neighbor : Neighbor) :
    hostWanted env neighbor = (wantedHost env.platform.etherAton neighbor).isSome := by
  unfold hostWanted wantedHost
  cases neighbor.portName with
  | none => rfl
  | some port =>
      cases neighbor.mac with
      | none => rfl
      | some mac => cases parsed : env.platform.etherAton mac <;> simp [Option.filter, parsed]

theorem wanted_host_some (neighbor : Neighbor) (port mac : String)
    (wanted : wantedHost aton neighbor = some (port, mac)) : neighbor.portName = some port ∧ neighbor.mac = some mac := by
  obtain ⟨name, hasPort, inner⟩ := Option.bind_eq_some_iff.mp wanted
  obtain ⟨text, filtered, pair⟩ := Option.map_eq_some_iff.mp inner
  obtain ⟨rfl, rfl⟩ := Prod.mk.inj pair
  exact ⟨hasPort, (Option.filter_eq_some_iff.mp filtered).1⟩

-- What the provider promises about hosts: an egress id is positive, and a
-- host delete succeeds and leaves the caller with -1.
structure HostContract (aton : String → Bool) (env : Env) : Prop where
  parse : env.platform.etherAton = aton
  adds : ∀ calls entry egress, env.platform.provider.addL3HostEntry calls entry = some egress → 0 < egress
  deletes : ∀ calls port isIpv6 ip, env.platform.provider.deleteL3HostEntry calls port isIpv6 ip = some (-1)

def AddsSucceed (env : Env) : Prop := ∀ calls entry, (env.platform.provider.addL3HostEntry calls entry).isSome

def HostFits (aton : String → Bool) (up : Bridge) (ip : String) : Option Neighbor → Prop
  | none => hwHost up.calls ip = none
  | some neighbor =>
      hwHost up.calls ip = (wantedHost aton neighbor).map (fun host => ⟨host.1, host.2, neighbor.l3EgressId⟩) ∧
      (if (wantedHost aton neighbor).isSome then 0 < neighbor.l3EgressId else neighbor.l3EgressId = -1) ∧
      ∀ name ∈ neighbor.portName, (up.portLookup name).isSome

structure NeighborCache (aton : String → Bool) (vrf : Vrf) : Prop where
  unique : Keyed.Unique Neighbor.ipAddress vrf.allNeighbors
  fits : ∀ ip, HostFits aton vrf.up ip (neighborHashLookup vrf ip)

def neighborView (vrf : Vrf) (ip : String) : Option (Option String × Option String) :=
  (neighborHashLookup vrf ip).map (fun neighbor => (neighbor.mac, neighbor.portName))

structure NeighborDone (aton : String → Bool) (env : Env) (vrf after : Vrf) (ip : String)
    (view : Option (Option String × Option String)) : Prop where
  unique : Keyed.Unique Neighbor.ipAddress after.allNeighbors
  elsewhere : ∀ other, other ≠ ip → neighborHashLookup after other = neighborHashLookup vrf other
  hosts : ∀ other, other ≠ ip → hwHost after.up.calls other = hwHost vrf.up.calls other
  ports : after.up.ports = vrf.up.ports
  name : after.name = vrf.name
  fits : HostFits aton after.up ip (neighborHashLookup after ip)
  view : AddsSucceed env → neighborView after ip = view

theorem host_fits_congr (up other : Bridge) (ip : String) (ports : other.ports = up.ports)
    (hosts : hwHost other.calls ip = hwHost up.calls ip) (neighbor : Option Neighbor) (fits : HostFits aton up ip neighbor) :
    HostFits aton other ip neighbor := by
  cases neighbor with
  | none => exact hosts.trans fits
  | some n =>
      obtain ⟨held, egress, present⟩ := fits
      refine ⟨hosts.trans held, egress, ?_⟩
      simpa only [Bridge.portLookup, ports] using present

theorem neighbor_cache_done (vrf after : Vrf) (ip : String)
    (view : Option (Option String × Option String)) (cache : NeighborCache aton vrf)
    (done : NeighborDone aton env vrf after ip view) : NeighborCache aton after := by
  refine ⟨done.unique, ?_⟩
  intro other
  by_cases same : other = ip
  · subst same
    exact done.fits
  · rw [done.elsewhere other same]
    exact host_fits_congr aton vrf.up after.up other done.ports (done.hosts other same) _ (cache.fits other)

theorem neighbor_view_elsewhere (vrf after : Vrf) (ip : String)
    (view : Option (Option String × Option String)) (done : NeighborDone aton env vrf after ip view) (other : String)
    (different : other ≠ ip) : neighborView after other = neighborView vrf other := by
  rw [neighborView, done.elsewhere other different, neighborView]

def placedView (up : Bridge) (mac port : Option String) : Option (Option String × Option String) :=
  if ∀ name ∈ port, (up.portLookup name).isSome then some (mac, port) else none

theorem placed_view_present (up : Bridge) (mac port : Option String) (ports : ∀ name ∈ port, (up.portLookup name).isSome) :
    placedView up mac port = some (mac, port) := if_pos ports

structure Programmable (aton : String → Bool) (vrf : Vrf) (neighbor : Neighbor) : Prop where
  unique : Keyed.Unique Neighbor.ipAddress vrf.allNeighbors
  cached : neighbor ∈ vrf.allNeighbors
  bare : hwHost vrf.up.calls neighbor.ipAddress = none
  idle : neighbor.l3EgressId = -1
  row : ∃ row, neighbor.cfg = some row ∧ row.ipAddress = neighbor.ipAddress ∧ nonEmptyText row.mac = neighbor.mac
  ports : wantedHost aton neighbor = none → ∀ name ∈ neighbor.portName, (vrf.up.portLookup name).isSome

theorem host_entry_eq (neighbor : Neighbor) (port : Port) (mac : String) (hasMac : neighbor.mac = some mac)
    (row : NeighborRow) (cfg : neighbor.cfg = some row) (sameIp : row.ipAddress = neighbor.ipAddress)
    (sameMac : nonEmptyText row.mac = neighbor.mac) :
    neighborHostEntry neighbor port = ⟨port.self.name, neighbor.isIpv6Addr, neighbor.ipAddress, mac⟩ := by
  have stored : row.mac = some mac := (Option.filter_eq_some_iff.mp (sameMac.trans hasMac)).1
  simp [neighborHostEntry, cfg, sameIp, stored]

def HostsElsewhere (calls : List OfprotoCall) (ip : String) : Prop :=
  ∀ other, other ≠ ip → ∀ entry, calls.foldl (hwHostStep other) entry = entry

theorem done_by_removal (ip : String) (calls : List OfprotoCall)
    (status : List (Uuid × Smap)) (rows : List NeighborRow) (view : Option (Option String × Option String))
    (unique : Keyed.Unique Neighbor.ipAddress vrf.allNeighbors) (elsewhere : HostsElsewhere calls ip)
    (here : calls.foldl (hwHostStep ip) (hwHost vrf.up.calls ip) = none) (seen : AddsSucceed env → view = none) :
    NeighborDone aton env vrf (vrf.withNeighbors calls (Keyed.remove Neighbor.ipAddress ip vrf.allNeighbors) status rows)
      ip view := by
  have gone : neighborHashLookup (vrf.withNeighbors calls (Keyed.remove Neighbor.ipAddress ip vrf.allNeighbors) status rows)
      ip = none := Keyed.lookup_remove_self Neighbor.ipAddress ip vrf.allNeighbors
  refine ⟨Keyed.unique_remove Neighbor.ipAddress unique ip, ?_, ?_, rfl, rfl, ?_, ?_⟩
  · exact fun other different => Keyed.lookup_remove_other Neighbor.ipAddress different vrf.allNeighbors
  · exact fun other different => (hw_host_append _ _ _).trans (elsewhere other different _)
  · rw [gone]
    exact (hw_host_append _ _ _).trans here
  · intro succeed
    rw [neighborView, gone, seen succeed]
    rfl

theorem done_by_replacement (ip : String) (neighbor : Neighbor)
    (same : neighbor.ipAddress = ip) (calls : List OfprotoCall) (status : List (Uuid × Smap)) (rows : List NeighborRow)
    (unique : Keyed.Unique Neighbor.ipAddress vrf.allNeighbors) (cached : (neighborHashLookup vrf ip).isSome)
    (elsewhere : HostsElsewhere calls ip)
    (here : calls.foldl (hwHostStep ip) (hwHost vrf.up.calls ip) =
      (wantedHost aton neighbor).map (fun host => ⟨host.1, host.2, neighbor.l3EgressId⟩))
    (egress : if (wantedHost aton neighbor).isSome then 0 < neighbor.l3EgressId else neighbor.l3EgressId = -1)
    (ports : ∀ name ∈ neighbor.portName, (vrf.up.portLookup name).isSome) :
    NeighborDone aton env vrf
      (vrf.withNeighbors calls (Keyed.replace Neighbor.ipAddress ip (fun _ => neighbor) vrf.allNeighbors) status rows)
      ip (some (neighbor.mac, neighbor.portName)) := by
  have kept : ∀ a ∈ vrf.allNeighbors, a.ipAddress = ip → neighbor.ipAddress = a.ipAddress :=
    fun a _ equal => same.trans equal.symm
  have now : neighborHashLookup (vrf.withNeighbors calls
      (Keyed.replace Neighbor.ipAddress ip (fun _ => neighbor) vrf.allNeighbors) status rows) ip = some neighbor := by
    obtain ⟨old, found⟩ := Option.isSome_iff_exists.mp cached
    refine (Keyed.lookup_replace_self Neighbor.ipAddress ip (fun _ => neighbor) vrf.allNeighbors kept).trans ?_
    rw [← neighborHashLookup, found]
    rfl
  refine ⟨Keyed.unique_replace Neighbor.ipAddress unique ip _ kept, ?_, ?_, rfl, rfl, ?_, ?_⟩
  · exact fun other different => Keyed.lookup_replace_other Neighbor.ipAddress different _ vrf.allNeighbors kept
  · exact fun other different => (hw_host_append _ _ _).trans (elsewhere other different _)
  · rw [now]
    exact ⟨(hw_host_append _ _ _).trans here, egress, ports⟩
  · intro _
    rw [neighborView, now]
    rfl

theorem neighbor_program_done (contract : HostContract aton env) (vrf : Vrf)
    (neighbor : Neighbor) (ready : Programmable aton vrf neighbor) :
    NeighborDone aton env vrf (neighborProgram env vrf neighbor) neighbor.ipAddress
      (placedView vrf.up neighbor.mac neighbor.portName) := by
  have found : neighborHashLookup vrf neighbor.ipAddress = some neighbor :=
    Keyed.lookup_of_mem Neighbor.ipAddress ready.unique ready.cached
  cases wanted : wantedHost aton neighbor with
  | none =>
      have unwanted : hostWanted env neighbor = false := by rw [host_wanted_eq, contract.parse, wanted]; rfl
      have ports := ready.ports wanted
      rw [neighbor_program_unwanted env vrf neighbor unwanted, placed_view_present _ _ _ ports]
      refine ⟨ready.unique, fun _ _ => rfl, fun _ _ => rfl, rfl, rfl, ?_, fun _ => by rw [neighborView, found]; rfl⟩
      rw [found]
      exact ⟨by rw [ready.bare, wanted]; rfl, by simp [wanted, ready.idle], ports⟩
  | some host =>
      obtain ⟨name, mac⟩ := host
      obtain ⟨hasPort, hasMac⟩ := wanted_host_some aton neighbor name mac wanted
      have isWanted : hostWanted env neighbor = true := by rw [host_wanted_eq, contract.parse, wanted]; rfl
      cases lookup : vrf.up.portLookup name with
      | none =>
          have missing : neighbor.portName.bind vrf.up.portLookup = none := by rw [hasPort]; exact lookup
          rw [neighbor_program_no_port env vrf neighbor isWanted missing]
          refine done_by_removal aton env vrf neighbor.ipAddress _ _ _ _ ready.unique (fun _ _ _ => rfl) ready.bare ?_
          intro _
          refine if_neg (fun all => ?_)
          have some_ := all name hasPort
          rw [lookup] at some_
          cases some_
      | some port =>
          have present : neighbor.portName.bind vrf.up.portLookup = some port := by rw [hasPort]; exact lookup
          have named : port.self.name = name := Keyed.lookup_key (fun port : Port => port.self.name) lookup
          have ports : ∀ other ∈ neighbor.portName, (vrf.up.portLookup other).isSome := by
            intro other hasOther
            obtain rfl := Option.some.inj (hasPort.symm.trans hasOther)
            rw [lookup]
            rfl
          obtain ⟨row, cfg, sameIp, sameMac⟩ := ready.row
          have entry := host_entry_eq neighbor port mac hasMac row cfg sameIp sameMac
          rw [placed_view_present _ _ _ ports]
          cases answer : env.platform.provider.addL3HostEntry vrf.up.calls (neighborHostEntry neighbor port) with
          | none =>
              rw [neighbor_program_failed env vrf neighbor isWanted port present answer]
              refine done_by_removal aton env vrf neighbor.ipAddress _ _ _ _ ready.unique (fun _ _ _ => rfl) ready.bare ?_
              intro succeed
              have some_ := succeed vrf.up.calls (neighborHostEntry neighbor port)
              rw [answer] at some_
              cases some_
          | some egress =>
              obtain ⟨status, programmed⟩ := neighbor_program_added env vrf neighbor isWanted port present egress answer
              have same : wantedHost aton { neighbor with l3EgressId := egress } = some (name, mac) := wanted
              rw [programmed]
              refine done_by_replacement aton env vrf neighbor.ipAddress { neighbor with l3EgressId := egress } rfl _ _ _
                ready.unique (by rw [found]; rfl) ?_ ?_ ?_ ports
              · intro other different e
                rw [List.foldl_cons, hw_host_route_updates, entry]
                exact if_neg (Ne.symm different)
              · rw [List.foldl_cons, hw_host_route_updates, entry, named, same]
                exact if_pos rfl
              · rw [same]
                exact contract.adds _ _ _ answer

theorem neighbor_create_done (contract : HostContract aton env) (vrf : Vrf)
    (row : NeighborRow) (cache : NeighborCache aton vrf) (absent : neighborHashLookup vrf row.ipAddress = none)
    (ports : wantedHost aton (newNeighbor env row) = none → ∀ name ∈ nonEmptyText row.port, (vrf.up.portLookup name).isSome) :
    NeighborDone aton env vrf (neighborCreate env vrf row) row.ipAddress
      (placedView vrf.up (nonEmptyText row.mac) (nonEmptyText row.port)) := by
  rw [neighbor_create_eq]
  let next := vrf.withNeighbors [] (newNeighbor env row :: vrf.allNeighbors) vrf.nexthopStatus (vrf.neighborRows ++ [row])
  have fresh := (Keyed.lookup_none_iff Neighbor.ipAddress).mp absent
  have calls : next.up.calls = vrf.up.calls := List.append_nil _
  have bare : hwHost vrf.up.calls row.ipAddress = none := by
    have fits := cache.fits row.ipAddress
    rw [absent] at fits
    exact fits
  have ready : Programmable aton next (newNeighbor env row) := by
    refine ⟨Keyed.unique_cons Neighbor.ipAddress cache.unique fresh, by simp [next, Vrf.withNeighbors], ?_, rfl,
      ⟨row, rfl, rfl, rfl⟩, ports⟩
    rw [calls]
    exact bare
  have done := neighbor_program_done aton env contract next (newNeighbor env row) ready
  refine ⟨done.unique, ?_, ?_, done.ports, done.name, done.fits, done.view⟩
  · intro other different
    refine (done.elsewhere other different).trans ?_
    exact (Keyed.lookup_cons Neighbor.ipAddress other _ _).trans (if_neg (Ne.symm different))
  · intro other different
    rw [done.hosts other different, calls]

theorem withdraw_hosts (neighbor : Neighbor) (port : Port)
    (succeeds : ∀ calls port isIpv6 ip, env.platform.provider.deleteL3HostEntry calls port isIpv6 ip = some (-1)) :
    HostsElsewhere (withdrawCalls env vrf neighbor port) neighbor.ipAddress ∧
      ∀ entry, (withdrawCalls env vrf neighbor port).foldl (hwHostStep neighbor.ipAddress) entry = none := by
  refine ⟨?_, ?_⟩
  · intro other different entry
    rw [withdrawCalls, List.foldl_append, hw_host_route_updates, succeeds]
    exact if_neg (Ne.symm different)
  · intro entry
    rw [withdrawCalls, List.foldl_append, hw_host_route_updates, succeeds]
    exact if_pos rfl

theorem live_neighbor_port (cache : NeighborCache aton vrf) (neighbor : Neighbor)
    (cached : neighborHashLookup vrf neighbor.ipAddress = some neighbor) (live : neighbor.l3EgressId ≠ -1) :
    ∃ port, neighbor.portName.bind vrf.up.portLookup = some port := by
  have fits := cache.fits neighbor.ipAddress
  rw [cached] at fits
  obtain ⟨_, egress, ports⟩ := fits
  cases wanted : wantedHost aton neighbor with
  | none =>
      rw [wanted] at egress
      exact absurd egress live
  | some host =>
      have hasPort := (wanted_host_some aton neighbor host.1 host.2 wanted).1
      obtain ⟨port, lookup⟩ := Option.isSome_iff_exists.mp (ports host.1 hasPort)
      exact ⟨port, by rw [hasPort]; exact lookup⟩

theorem idle_neighbor_bare (cache : NeighborCache aton vrf) (neighbor : Neighbor)
    (cached : neighborHashLookup vrf neighbor.ipAddress = some neighbor) (idle : neighbor.l3EgressId = -1) :
    wantedHost aton neighbor = none ∧ hwHost vrf.up.calls neighbor.ipAddress = none := by
  have fits := cache.fits neighbor.ipAddress
  rw [cached] at fits
  obtain ⟨held, egress, _⟩ := fits
  have unwanted : wantedHost aton neighbor = none := by
    cases wanted : wantedHost aton neighbor with
    | none => rfl
    | some host =>
        rw [wanted, idle] at egress
        simp at egress
  rw [unwanted] at held
  exact ⟨unwanted, held⟩

theorem neighbor_delete_done (contract : HostContract aton env) (vrf : Vrf)
    (neighbor : Neighbor) (cache : NeighborCache aton vrf)
    (cached : neighborHashLookup vrf neighbor.ipAddress = some neighbor) :
    NeighborDone aton env vrf (neighborDelete env vrf neighbor) neighbor.ipAddress none := by
  by_cases idle : neighbor.l3EgressId = -1
  · obtain ⟨status, deleted⟩ := neighbor_delete_idle env vrf neighbor idle
    rw [deleted]
    refine done_by_removal aton env vrf neighbor.ipAddress _ _ _ _ cache.unique ?_ ?_ (fun _ => rfl)
    · exact fun other _ entry => hw_host_route_updates env vrf _ _ other entry
    · rw [hw_host_route_updates]
      exact (idle_neighbor_bare aton vrf cache neighbor cached idle).2
  · obtain ⟨port, present⟩ := live_neighbor_port aton vrf cache neighbor cached idle
    obtain ⟨status, deleted⟩ := neighbor_delete_live env vrf neighbor idle port present
    rw [deleted]
    obtain ⟨elsewhere, here⟩ := withdraw_hosts env vrf neighbor port contract.deletes
    exact done_by_removal aton env vrf neighbor.ipAddress _ _ _ _ cache.unique elsewhere (here _) (fun _ => rfl)

theorem program_gains_done (contract : HostContract aton env) (vrf : Vrf) (ip : String)
    (neighbor : Neighbor) (same : neighbor.ipAddress = ip) (calls : List OfprotoCall) (status : List (Uuid × Smap))
    (rows : List NeighborRow) (unique : Keyed.Unique Neighbor.ipAddress vrf.allNeighbors)
    (cached : (neighborHashLookup vrf ip).isSome) (elsewhere : HostsElsewhere calls ip)
    (bare : calls.foldl (hwHostStep ip) (hwHost vrf.up.calls ip) = none) (idle : neighbor.l3EgressId = -1)
    (row : ∃ row, neighbor.cfg = some row ∧ row.ipAddress = neighbor.ipAddress ∧ nonEmptyText row.mac = neighbor.mac)
    (ports : wantedHost aton neighbor = none → ∀ name ∈ neighbor.portName, (vrf.up.portLookup name).isSome) (gains : Bool)
    (unwanted : gains = false → wantedHost aton neighbor = none) :
    NeighborDone aton env vrf (programGains env (vrf.withNeighbors calls
      (Keyed.replace Neighbor.ipAddress ip (fun _ => neighbor) vrf.allNeighbors) status rows) neighbor gains) ip
      (placedView vrf.up neighbor.mac neighbor.portName) := by
  subst same
  have kept : ∀ a ∈ vrf.allNeighbors, a.ipAddress = neighbor.ipAddress → neighbor.ipAddress = a.ipAddress :=
    fun a _ equal => equal.symm
  cases gains with
  | false =>
      have none_ := unwanted rfl
      rw [placed_view_present _ _ _ (ports none_)]
      refine done_by_replacement aton env vrf neighbor.ipAddress neighbor rfl calls status rows unique cached elsewhere ?_ ?_
        (ports none_)
      · rw [bare, none_]
        rfl
      · simpa [none_] using idle
  | true =>
      let next := vrf.withNeighbors calls
        (Keyed.replace Neighbor.ipAddress neighbor.ipAddress (fun _ => neighbor) vrf.allNeighbors) status rows
      obtain ⟨old, found⟩ := Option.isSome_iff_exists.mp cached
      have ready : Programmable aton next neighbor := by
        refine ⟨Keyed.unique_replace Neighbor.ipAddress unique _ _ kept, ?_, ?_, idle, row, ports⟩
        · exact (Keyed.mem_replace Neighbor.ipAddress).mpr
            (.inr ⟨old, Keyed.lookup_mem Neighbor.ipAddress found, Keyed.lookup_key Neighbor.ipAddress found, rfl⟩)
        · exact (hw_host_append _ _ _).trans bare
      have done := neighbor_program_done aton env contract next neighbor ready
      refine ⟨done.unique, ?_, ?_, done.ports, done.name, done.fits, done.view⟩
      · intro other different
        exact (done.elsewhere other different).trans
          (Keyed.lookup_replace_other Neighbor.ipAddress different _ vrf.allNeighbors kept)
      · intro other different
        exact (done.hosts other different).trans ((hw_host_append _ _ _).trans (elsewhere other different _))

theorem unchanged_neighbor (neighbor : Neighbor) (row : NeighborRow) (fresh : neighborStale neighbor row = false)
    (same : neighborGains neighbor row = false) :
    neighbor.portName = row.port ∧ neighbor.mac = nonEmptyText row.mac := by
  unfold neighborStale at fresh
  unfold neighborGains at same
  refine ⟨?_, ?_⟩
  · cases port : neighbor.portName <;> cases there : row.port <;> simp_all
  · cases mac : neighbor.mac <;> cases there : nonEmptyText row.mac <;> simp_all

theorem stale_lost_host (neighbor : Neighbor) (row : NeighborRow) (egress : Int)
    (stale : neighborStale neighbor row = true) (lost : neighborGains neighbor row = false) :
    wantedHost aton (updatedNeighbor neighbor row egress) = none := by
  unfold neighborStale at stale
  unfold neighborGains at lost
  unfold wantedHost updatedNeighbor
  cases there : row.port with
  | none => rfl
  | some rowPort =>
      cases mac : nonEmptyText row.mac with
      | none => rfl
      | some rowMac => simp_all

theorem gains_had_no_host (neighbor : Neighbor) (row : NeighborRow)
    (fresh : neighborStale neighbor row = false) (gains : neighborGains neighbor row = true) :
    wantedHost aton neighbor = none := by
  unfold neighborStale at fresh
  unfold neighborGains at gains
  unfold wantedHost
  cases port : neighbor.portName with
  | none => rfl
  | some name =>
      cases mac : neighbor.mac with
      | none => rfl
      | some text => simp_all

-- The ways a modification of a cached neighbor can go: nothing that matters to
-- the provider changed, or the neighbor is stored without a host entry,
-- withdrawn if it had one, and programmed if it gained something.
inductive ModifyShape (aton : String → Bool) (env : Env) (vrf : Vrf) (neighbor : Neighbor) (row : NeighborRow) : Vrf → Prop where
  | same (status : List (Uuid × Smap)) (rows : List NeighborRow) (live : neighbor.l3EgressId ≠ -1)
      (port : neighbor.portName = row.port) (mac : neighbor.mac = nonEmptyText row.mac) :
      ModifyShape aton env vrf neighbor row (vrf.withNeighbors [] (Keyed.replace Neighbor.ipAddress neighbor.ipAddress
        (fun _ => updatedNeighbor neighbor row neighbor.l3EgressId) vrf.allNeighbors) status rows)
  | stored (calls : List OfprotoCall) (status : List (Uuid × Smap)) (rows : List NeighborRow)
      (before : (neighbor.l3EgressId = -1 ∧ calls = []) ∨ ∃ port, calls = withdrawCalls env vrf neighbor port)
      (unwanted : neighborGains neighbor row = false → wantedHost aton (updatedNeighbor neighbor row (-1)) = none) :
      ModifyShape aton env vrf neighbor row (programGains env (vrf.withNeighbors calls
        (Keyed.replace Neighbor.ipAddress neighbor.ipAddress (fun _ => updatedNeighbor neighbor row (-1)) vrf.allNeighbors)
        status rows) (updatedNeighbor neighbor row (-1)) (neighborGains neighbor row))

theorem neighbor_modify_shape (contract : HostContract aton env) (vrf : Vrf)
    (neighbor : Neighbor) (row : NeighborRow) (cache : NeighborCache aton vrf)
    (cached : neighborHashLookup vrf neighbor.ipAddress = some neighbor) :
    ModifyShape aton env vrf neighbor row (neighborModify env vrf neighbor row) := by
  by_cases idle : neighbor.l3EgressId = -1
  · obtain ⟨unwanted, _⟩ := idle_neighbor_bare aton vrf cache neighbor cached idle
    rw [neighbor_modify_kept env vrf neighbor row (by simp [idle]), idle]
    refine .stored [] _ _ (.inl ⟨idle, rfl⟩) ?_
    intro lost
    cases stale : neighborStale neighbor row with
    | true => exact stale_lost_host aton neighbor row _ stale lost
    | false =>
        obtain ⟨samePort, sameMac⟩ := unchanged_neighbor neighbor row stale lost
        rw [wantedHost, samePort, sameMac] at unwanted
        exact unwanted
  · obtain ⟨port, present⟩ := live_neighbor_port aton vrf cache neighbor cached idle
    cases stale : neighborStale neighbor row with
    | true =>
        obtain ⟨status, modified⟩ := neighbor_modify_withdrawn env vrf neighbor row stale idle port present
        have reset : withdrawnEgress env vrf neighbor port = -1 := by
          rw [withdrawnEgress, contract.deletes]
          rfl
        rw [modified, reset]
        exact .stored _ _ _ (.inr ⟨port, rfl⟩) (stale_lost_host aton neighbor row _ stale)
    | false =>
        have fits := cache.fits neighbor.ipAddress
        rw [cached] at fits
        obtain ⟨_, egress, _⟩ := fits
        have lost : neighborGains neighbor row = false := by
          rw [Bool.eq_false_iff]
          intro gains
          rw [gains_had_no_host aton neighbor row stale gains] at egress
          exact idle egress
        obtain ⟨samePort, sameMac⟩ := unchanged_neighbor neighbor row stale lost
        rw [neighbor_modify_kept env vrf neighbor row (by simp [stale]), programGains, lost]
        exact .same _ _ idle samePort sameMac

theorem neighbor_modify_done (contract : HostContract aton env) (vrf : Vrf)
    (neighbor : Neighbor) (row : NeighborRow) (cache : NeighborCache aton vrf)
    (cached : neighborHashLookup vrf neighbor.ipAddress = some neighbor) (same : row.ipAddress = neighbor.ipAddress)
    (ports : wantedHost aton (updatedNeighbor neighbor row (-1)) = none →
      ∀ name ∈ row.port, (vrf.up.portLookup name).isSome) :
    NeighborDone aton env vrf (neighborModify env vrf neighbor row) neighbor.ipAddress
      (placedView vrf.up (nonEmptyText row.mac) row.port) := by
  have isCached : (neighborHashLookup vrf neighbor.ipAddress).isSome := by rw [cached]; rfl
  have shape := neighbor_modify_shape aton env contract vrf neighbor row cache cached
  generalize neighborModify env vrf neighbor row = after at shape ⊢
  cases shape with
  | same status rows live samePort sameMac =>
      have fits := cache.fits neighbor.ipAddress
      rw [cached] at fits
      obtain ⟨held, egress, exist⟩ := fits
      have wanted : wantedHost aton (updatedNeighbor neighbor row neighbor.l3EgressId) = wantedHost aton neighbor := by
        simp only [wantedHost, updatedNeighbor, samePort, sameMac]
      rw [samePort] at exist
      rw [placed_view_present _ _ _ exist]
      refine done_by_replacement aton env vrf _ (updatedNeighbor neighbor row neighbor.l3EgressId) rfl [] _ _ cache.unique
        isCached (fun _ _ _ => rfl) ?_ ?_ exist
      · rw [wanted]
        exact held
      · rw [wanted]
        exact egress
  | stored calls status rows before unwanted =>
      have hosts : HostsElsewhere calls neighbor.ipAddress ∧
          calls.foldl (hwHostStep neighbor.ipAddress) (hwHost vrf.up.calls neighbor.ipAddress) = none := by
        rcases before with ⟨idle, rfl⟩ | ⟨port, rfl⟩
        · exact ⟨fun _ _ _ => rfl, (idle_neighbor_bare aton vrf cache neighbor cached idle).2⟩
        · obtain ⟨elsewhere, here⟩ := withdraw_hosts env vrf neighbor port contract.deletes
          exact ⟨elsewhere, here _⟩
      exact program_gains_done aton env contract vrf neighbor.ipAddress (updatedNeighbor neighbor row (-1)) rfl calls _ _
        cache.unique isCached hosts.1 hosts.2 rfl ⟨row, rfl, same, rfl⟩ ports _ unwanted

end Cache

end OpsSwitchd
