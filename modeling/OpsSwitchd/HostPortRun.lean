import OpsSwitchd.HostPorts

set_option autoImplicit false

namespace OpsSwitchd

theorem host_port_iff (br : Bridge) (portName : Option String) :
    (portName.bind br.portLookup).isSome ↔ ∃ port ∈ br.ports, portName = some port.self.name := by
  cases portName with
  | none => simp
  | some name =>
      rw [Option.bind_some, port_lookup_isSome]
      simp only [Option.some.injEq, eq_comm]

theorem host_port_drops (br after : Bridge) (keep : IfaceRef → Bool) (drops : Drops br after keep) (portName : Option String) :
    (portName.bind after.portLookup).isSome ↔
      ∃ port ∈ br.ports, portName = some port.self.name ∧ ∃ iface ∈ port.ifaces, keep iface.self = true := by
  cases portName with
  | none => simp
  | some name =>
      rw [Option.bind_some, drops_port_lookup br after keep drops]
      simp only [Option.some.injEq, eq_comm]

-- A delete phase is safe if every neighbor with a host entry keeps its port:
-- an unwanted port takes its neighbors with it, but a wanted one that is left
-- without interfaces does not.
def DelPortsSafe (vrf : Vrf) (wantedPorts : List PortRow) : Prop :=
  ∀ neighbor ∈ vrf.allNeighbors, neighbor.l3EgressId ≠ -1 →
    ∃ port ∈ vrf.up.ports, neighbor.portName = some port.self.name ∧
      ∀ row ∈ Keyed.lookup PortRow.name port.self.name wantedPorts, ∃ iface ∈ port.ifaces, iface.self.name ∈ newIfaces row

def ReconfigurePortsSafe (vrf : Vrf) (dump : List OfprotoPort) : Prop :=
  ∀ neighbor ∈ vrf.allNeighbors, neighbor.l3EgressId ≠ -1 →
    ∃ port ∈ vrf.up.ports, neighbor.portName = some port.self.name ∧
      ∃ iface ∈ port.ifaces, ifaceStays vrfOfprotoPortKept vrf.up dump iface.self = true

def PortStepSafe (vrf : Vrf) (input : Env × PortOp) : Prop :=
  match input.2 with
  | .delPorts row => DelPortsSafe vrf (vrfCollectWantedPorts row)
  | .reconfigurePorts dump => ReconfigurePortsSafe vrf dump
  | _ => True

instance (vrf : Vrf) (input : Env × PortOp) : Decidable (PortStepSafe vrf input) := by
  unfold PortStepSafe DelPortsSafe ReconfigurePortsSafe
  split <;> infer_instance

theorem del_ports_neighbors_kept (env : Env) (vrf : Vrf) (tables : PortTables vrf) (wantedPorts : List PortRow) :
    (vrfDelPorts env vrf wantedPorts).allNeighbors = vrf.allNeighbors.filter (fun neighbor =>
      vrf.up.ports.all (fun port => portWanted wantedPorts port.self.name || neighbor.portName ≠ some port.self.name)) := by
  refine (vrf_del_ports_neighbors env wantedPorts (env.order.walk vrf.up.ports) vrf tables.neighbors).trans ?_
  refine List.filter_congr (fun neighbor _ => ?_)
  rw [Bool.eq_iff_iff, List.all_eq_true, List.all_eq_true]
  exact forall_congr' (fun port => by rw [env.order.mem_walk])

theorem vrf_del_ports_tables (env : Env) (vrf : Vrf) (tables : PortTables vrf) (wantedPorts : List PortRow) :
    PortTables (vrfDelPorts env vrf wantedPorts) := by
  have left := drops_index _ _ _ tables.index (vrf_del_ports_drops env wantedPorts vrf tables.index)
  have retags := update_wanted_retags env _ wantedPorts left
  refine ⟨retags_index _ _ _ (fun iface => retag_rows_self _ _ _ iface) left retags, ?_⟩
  rw [del_ports_neighbors_kept env vrf tables]
  exact Keyed.unique_filter Neighbor.ipAddress tables.neighbors _

theorem del_ports_hosts_iff (env : Env) (vrf : Vrf) (tables : PortTables vrf) (hosts : HostsHavePorts vrf)
    (wantedPorts : List PortRow) :
    HostsHavePorts (vrfDelPorts env vrf wantedPorts) ↔ DelPortsSafe vrf wantedPorts := by
  have drops := vrf_del_ports_drops env wantedPorts vrf tables.index
  have left := drops_index _ _ _ tables.index drops
  have retags := update_wanted_retags env _ wantedPorts left
  -- A neighbor that is still there after the loop has its port iff an interface of it is wanted.
  have after : HostsHavePorts (vrfDelPorts env vrf wantedPorts) ↔ ∀ neighbor ∈ vrf.allNeighbors,
      (vrf.up.ports.all (fun port => portWanted wantedPorts port.self.name || neighbor.portName ≠ some port.self.name)) = true →
      neighbor.l3EgressId ≠ -1 → ∃ port ∈ vrf.up.ports, neighbor.portName = some port.self.name ∧
        ∃ iface ∈ port.ifaces, rowWants wantedPorts iface.self.port.name iface.self = true := by
    unfold HostsHavePorts
    rw [del_ports_neighbors_kept env vrf tables]
    simp only [List.mem_filter, and_imp]
    refine forall_congr' (fun neighbor => imp_congr_right (fun _ => imp_congr_right (fun _ => imp_congr_right (fun _ => ?_))))
    rw [← host_port_drops vrf.up _ _ drops]
    cases neighbor.portName with
    | none => exact Iff.rfl
    | some name => exact retags_port_lookup _ _ _ retags name
  rw [after]
  constructor
  · intro all neighbor member live
    obtain ⟨port, present, named⟩ := (host_port_iff vrf.up neighbor.portName).mp (hosts neighbor member live)
    refine ⟨port, present, named, ?_⟩
    intro row found
    have wanted : portWanted wantedPorts port.self.name = true := by
      rw [portWanted, show Keyed.lookup PortRow.name port.self.name wantedPorts = some row from found]
      rfl
    obtain ⟨other, listed, also, iface, inside, kept⟩ := all neighbor member (by
      rw [List.all_eq_true]
      intro other _
      by_cases same : neighbor.portName = some other.self.name
      · rw [← Option.some.inj (named.symm.trans same), wanted, Bool.true_or]
      · simp [same]) live
    obtain rfl : other = port :=
      Keyed.unique_mem_eq portName tables.index.names listed present (Option.some.inj (also.symm.trans named))
    rw [tables.index.owner other listed iface inside, rowWants,
      show Keyed.lookup PortRow.name other.self.name wantedPorts = some row from found] at kept
    exact ⟨iface, inside, by simpa using kept⟩
  · intro safe neighbor member stays live
    obtain ⟨port, present, named, wants⟩ := safe neighbor member live
    refine ⟨port, present, named, ?_⟩
    have wanted : portWanted wantedPorts port.self.name = true := by
      simpa [named] using List.all_eq_true.mp stays port present
    obtain ⟨row, found⟩ := Option.isSome_iff_exists.mp wanted
    obtain ⟨iface, inside, listed⟩ := wants row found
    refine ⟨iface, inside, ?_⟩
    rw [tables.index.owner port present iface inside, rowWants, found]
    simpa using listed

theorem reconfigure_hosts_iff (env : Env) (vrf : Vrf) (tables : PortTables vrf) (dump : List OfprotoPort) :
    HostsHavePorts (vrfDeleteOrReconfigurePorts env vrf dump) ↔ ReconfigurePortsSafe vrf dump := by
  have drops := delete_or_reconfigure_drops vrfOfprotoPortKept env.order vrf.up dump tables.index
  unfold HostsHavePorts ReconfigurePortsSafe
  refine forall_congr' (fun neighbor => imp_congr_right (fun _ => imp_congr_right (fun _ => ?_)))
  exact host_port_drops vrf.up _ _ drops neighbor.portName

theorem add_ports_hosts (env : Env) (vrf : Vrf) (tables : PortTables vrf) (hosts : HostsHavePorts vrf)
    (doCreate : IfaceDoCreate) (wantedPorts : List PortRow) :
    HostsHavePorts (vrf.withUp (bridgeAddPorts env doCreate vrf.up wantedPorts)) := by
  intro neighbor member live
  have before := hosts neighbor member live
  cases named : neighbor.portName with
  | none => simp [named] at before
  | some name =>
      rw [named] at before
      exact adds_port_lookup _ _ _ (add_ports_adds env doCreate vrf.up wantedPorts tables.index).2 name before

theorem tables_by_asking (vrf after : Vrf) (tables : PortTables vrf) (asks : Asks vrf.up after.up)
    (unique : Keyed.Unique Neighbor.ipAddress after.allNeighbors) : PortTables after :=
  ⟨drops_index _ _ _ tables.index (asks_drops _ _ tables.index asks), unique⟩

theorem hosts_after_remove (vrf : Vrf) (hosts : HostsHavePorts vrf) (calls : List OfprotoCall) (ip : String)
    (status : List (Uuid × Smap)) (rows : List NeighborRow) :
    HostsHavePorts (vrf.withNeighbors calls (Keyed.remove Neighbor.ipAddress ip vrf.allNeighbors) status rows) :=
  fun neighbor member live => hosts neighbor ((Keyed.mem_remove Neighbor.ipAddress).mp member).1 live

theorem hosts_after_replace (vrf : Vrf) (hosts : HostsHavePorts vrf) (calls : List OfprotoCall) (ip : String)
    (status : List (Uuid × Smap)) (rows : List NeighborRow) (neighbor : Neighbor)
    (placed : neighbor.l3EgressId ≠ -1 → (neighbor.portName.bind vrf.up.portLookup).isSome) :
    HostsHavePorts (vrf.withNeighbors calls (Keyed.replace Neighbor.ipAddress ip (fun _ => neighbor) vrf.allNeighbors)
      status rows) := by
  intro other member live
  rcases (Keyed.mem_replace Neighbor.ipAddress).mp member with ⟨old, _⟩ | ⟨_, _, _, rfl⟩
  · exact hosts other old live
  · exact placed live

theorem neighbor_program_table (env : Env) (vrf : Vrf) (neighbor : Neighbor) (hosts : HostsHavePorts vrf)
    (unique : Keyed.Unique Neighbor.ipAddress vrf.allNeighbors) :
    HostsHavePorts (neighborProgram env vrf neighbor) ∧
      Keyed.Unique Neighbor.ipAddress (neighborProgram env vrf neighbor).allNeighbors := by
  cases wanted : hostWanted env neighbor with
  | false =>
      rw [neighbor_program_unwanted env vrf neighbor wanted]
      exact ⟨hosts, unique⟩
  | true =>
      cases present : neighbor.portName.bind vrf.up.portLookup with
      | none =>
          rw [neighbor_program_no_port env vrf neighbor wanted present]
          exact ⟨hosts_after_remove vrf hosts _ _ _ _, Keyed.unique_remove Neighbor.ipAddress unique _⟩
      | some port =>
          cases answer : env.platform.provider.addL3HostEntry vrf.up.calls (neighborHostEntry neighbor port) with
          | none =>
              rw [neighbor_program_failed env vrf neighbor wanted port present answer]
              exact ⟨hosts_after_remove vrf hosts _ _ _ _, Keyed.unique_remove Neighbor.ipAddress unique _⟩
          | some egress =>
              obtain ⟨status, added⟩ := neighbor_program_added env vrf neighbor wanted port present egress answer
              rw [added]
              refine ⟨hosts_after_replace vrf hosts _ _ _ _ _ (fun _ => ?_), ?_⟩
              · rw [present]
                rfl
              · exact Keyed.unique_replace Neighbor.ipAddress unique _ _ (fun _ _ same => same.symm)

theorem add_new_neighbor_table (env : Env) (vrf : Vrf) (row : NeighborRow) (hosts : HostsHavePorts vrf)
    (unique : Keyed.Unique Neighbor.ipAddress vrf.allNeighbors) :
    HostsHavePorts (addNewNeighbor env vrf row) ∧
      Keyed.Unique Neighbor.ipAddress (addNewNeighbor env vrf row).allNeighbors := by
  unfold addNewNeighbor
  cases found : neighborHashLookup vrf row.ipAddress with
  | some neighbor => exact ⟨hosts, unique⟩
  | none =>
      rw [if_neg (by simp), neighbor_create_eq]
      refine neighbor_program_table env _ _ ?_ ?_
      · intro neighbor member live
        rcases List.mem_cons.mp member with rfl | old
        · exact absurd rfl live
        · exact hosts neighbor old live
      · exact Keyed.unique_cons Neighbor.ipAddress unique ((Keyed.lookup_none_iff Neighbor.ipAddress).mp found)

def HostDeletesSucceed (env : Env) : Prop :=
  ∀ calls port isIpv6 ip, env.platform.provider.deleteL3HostEntry calls port isIpv6 ip = some (-1)

theorem program_gains_table (env : Env) (vrf : Vrf) (neighbor : Neighbor) (gains : Bool) (hosts : HostsHavePorts vrf)
    (unique : Keyed.Unique Neighbor.ipAddress vrf.allNeighbors) :
    HostsHavePorts (programGains env vrf neighbor gains) ∧
      Keyed.Unique Neighbor.ipAddress (programGains env vrf neighbor gains).allNeighbors := by
  cases gains with
  | false => exact ⟨hosts, unique⟩
  | true => exact neighbor_program_table env vrf neighbor hosts unique

theorem neighbor_modify_table (env : Env) (deletes : HostDeletesSucceed env) (vrf : Vrf) (neighbor : Neighbor)
    (row : NeighborRow) (cached : neighbor ∈ vrf.allNeighbors) (hosts : HostsHavePorts vrf)
    (unique : Keyed.Unique Neighbor.ipAddress vrf.allNeighbors) :
    HostsHavePorts (neighborModify env vrf neighbor row) ∧
      Keyed.Unique Neighbor.ipAddress (neighborModify env vrf neighbor row).allNeighbors := by
  have stored : ∀ updated : Neighbor, updated.ipAddress = neighbor.ipAddress → Keyed.Unique Neighbor.ipAddress
      (Keyed.replace Neighbor.ipAddress neighbor.ipAddress (fun _ => updated) vrf.allNeighbors) :=
    fun updated address => Keyed.unique_replace Neighbor.ipAddress unique _ _ (fun _ _ same => address.trans same.symm)
  by_cases live : neighbor.l3EgressId = -1
  · rw [neighbor_modify_kept env vrf neighbor row (by simp [live])]
    exact program_gains_table env _ _ _ (hosts_after_replace vrf hosts _ _ _ _ _ (fun now => absurd live now))
      (stored _ rfl)
  · have placed := hosts neighbor cached live
    obtain ⟨port, present⟩ := Option.isSome_iff_exists.mp placed
    cases stale : neighborStale neighbor row with
    | false =>
        have samePort : row.port = neighbor.portName := by
          obtain ⟨name, named, _⟩ := Option.bind_eq_some_iff.mp present
          simp only [neighborStale, named, Option.isSome_some, Bool.true_and, Bool.or_eq_false_iff] at stale
          rw [named]
          simpa using (of_decide_eq_false stale.1 : ¬ _) |> not_not.mp |> Eq.symm
        rw [neighbor_modify_kept env vrf neighbor row (by simp [stale])]
        refine program_gains_table env _ _ _ (hosts_after_replace vrf hosts _ _ _ _ _ (fun _ => ?_)) (stored _ rfl)
        rw [updatedNeighbor, samePort]
        exact placed
    | true =>
        obtain ⟨status, modified⟩ := neighbor_modify_withdrawn env vrf neighbor row stale live port present
        have gone : withdrawnEgress env vrf neighbor port = -1 := by rw [withdrawnEgress, deletes]; rfl
        rw [modified]
        exact program_gains_table env _ _ _ (hosts_after_replace vrf hosts _ _ _ _ _ (fun now => absurd gone now))
          (stored _ rfl)

theorem port_step_tables (vrf : Vrf) (input : Env × PortOp) (deletes : HostDeletesSucceed input.1) (tables : PortTables vrf)
    (hosts : HostsHavePorts vrf) : PortTables (portStep vrf input) := by
  obtain ⟨env, op⟩ := input
  unfold portStep
  cases op with
  | delPorts row => exact vrf_del_ports_tables env vrf tables (vrfCollectWantedPorts row)
  | reconfigurePorts dump =>
      exact ⟨drops_index _ _ _ tables.index (delete_or_reconfigure_drops _ env.order vrf.up dump tables.index),
        tables.neighbors⟩
  | addPorts row doCreate =>
      exact ⟨(add_ports_adds env doCreate vrf.up (vrfCollectWantedPorts row) tables.index).1, tables.neighbors⟩
  | neighborCreate row =>
      exact tables_by_asking _ _ tables (add_new_neighbor_asks env vrf row)
        (add_new_neighbor_table env vrf row hosts tables.neighbors).2
  | neighborModify row =>
      cases found : neighborHashLookup vrf row.ipAddress with
      | none => simpa only [found] using tables
      | some neighbor =>
          simp only [found]
          exact tables_by_asking _ _ tables (neighbor_frame_asks _ _ _ (neighbor_modify_frame env vrf neighbor row))
            (neighbor_modify_table env deletes vrf neighbor row (Keyed.lookup_mem Neighbor.ipAddress found) hosts
              tables.neighbors).2
  | neighborDelete ip =>
      cases found : neighborHashLookup vrf ip with
      | none => simpa only [found] using tables
      | some neighbor =>
          simp only [found]
          refine tables_by_asking _ _ tables (neighbor_frame_asks _ _ _ (neighbor_delete_frame env vrf neighbor)) ?_
          rw [neighbor_delete_removes]
          exact Keyed.unique_remove Neighbor.ipAddress tables.neighbors _

theorem port_step_hosts_iff (vrf : Vrf) (input : Env × PortOp) (deletes : HostDeletesSucceed input.1)
    (tables : PortTables vrf) (hosts : HostsHavePorts vrf) :
    HostsHavePorts (portStep vrf input) ↔ PortStepSafe vrf input := by
  obtain ⟨env, op⟩ := input
  unfold portStep PortStepSafe
  cases op with
  | delPorts row => exact del_ports_hosts_iff env vrf tables hosts (vrfCollectWantedPorts row)
  | reconfigurePorts dump => exact reconfigure_hosts_iff env vrf tables dump
  | addPorts row doCreate =>
      exact iff_of_true (add_ports_hosts env vrf tables hosts doCreate (vrfCollectWantedPorts row)) trivial
  | neighborCreate row => exact iff_of_true (add_new_neighbor_table env vrf row hosts tables.neighbors).1 trivial
  | neighborModify row =>
      cases found : neighborHashLookup vrf row.ipAddress with
      | none => simpa only [found] using iff_of_true hosts trivial
      | some neighbor =>
          simp only [found]
          exact iff_of_true (neighbor_modify_table env deletes vrf neighbor row
            (Keyed.lookup_mem Neighbor.ipAddress found) hosts tables.neighbors).1 trivial
  | neighborDelete ip =>
      cases found : neighborHashLookup vrf ip with
      | none => simpa only [found] using iff_of_true hosts trivial
      | some neighbor =>
          simp only [found]
          refine iff_of_true (fun other member live => ?_) trivial
          rw [neighbor_delete_removes] at member
          have asks := neighbor_frame_asks _ _ _ (neighbor_delete_frame env vrf neighbor)
          have before := hosts other ((Keyed.mem_remove Neighbor.ipAddress).mp member).1 live
          rw [host_port_iff] at before ⊢
          rwa [asks_ports _ _ asks]

theorem vrf_create_tables (row : VrfRow) : PortTables (vrfCreate row) := ⟨port_index_nil 0, List.nodup_nil⟩

def HostPortInv (vrf : Vrf) : Prop := PortTables vrf ∧ HostsHavePorts vrf

theorem host_port_step_keeps (vrf : Vrf) (input : Env × PortOp) (inv : HostPortInv vrf) (deletes : HostDeletesSucceed input.1)
    (safe : PortStepSafe vrf input) : HostPortInv (portStep vrf input) :=
  ⟨port_step_tables vrf input deletes inv.1 inv.2, (port_step_hosts_iff vrf input deletes inv.1 inv.2).mpr safe⟩

theorem host_port_step_needs (vrf : Vrf) (input : Env × PortOp) (inv : HostPortInv vrf) (deletes : HostDeletesSucceed input.1)
    (next : HostsHavePorts (portStep vrf input)) : PortStepSafe vrf input :=
  (port_step_hosts_iff vrf input deletes inv.1 inv.2).mp next

theorem hosts_have_ports_iff_safe (row : VrfRow) (inputs : List (Env × PortOp))
    (deletes : ∀ input ∈ inputs, HostDeletesSucceed input.1) :
    Runs.Always portStep HostsHavePorts (vrfCreate row) inputs ↔
      Runs.Along portStep PortStepSafe (vrfCreate row) inputs := by
  have initial : HostPortInv (vrfCreate row) := ⟨vrf_create_tables row, fun _ member => nomatch member⟩
  have valid : Runs.Along portStep (fun _ input => HostDeletesSucceed input.1) (vrfCreate row) inputs :=
    fun before input after split => deletes input (by simp [split])
  exact Runs.always_iff_along (fun _ inv => inv.2) host_port_step_keeps host_port_step_needs initial valid

def portEnv : Env := neighborEnv ⟨[], false, false, false⟩

def portRowOf (name : String) (interfaces : List String) : PortRow :=
  ⟨1, name, interfaces.map (fun iface => ⟨2, iface, "", true⟩), true⟩

def vrfRowOf (ports : List PortRow) : VrfRow := ⟨"vrf_default", ports⟩

def neighborOnPort : List (Env × PortOp) :=
  [(portEnv, .addPorts (vrfRowOf [portRowOf "1" ["1"]]) (fun _ _ => some (some 1))),
   (portEnv, .neighborCreate ⟨3, "vrf_default", "10.0.0.9", some "00:00:00:00:00:01", some "ipv4", some "1", true, true⟩)]

theorem dropped_port_takes_neighbors :
    Runs.Always portStep HostsHavePorts (vrfCreate (vrfRowOf [])) (neighborOnPort ++
      [(portEnv, .delPorts (vrfRowOf [portRowOf "1" ["1"]])), (portEnv, .reconfigurePorts [⟨"1", "system", 1, false⟩]),
       (portEnv, .delPorts (vrfRowOf []))]) := by
  refine (hosts_have_ports_iff_safe _ _ (fun input member => ?_)).mpr ?_
  · have env : input.1 = portEnv := by
      simp only [neighborOnPort, List.cons_append, List.nil_append, List.mem_cons, List.not_mem_nil, or_false] at member
      rcases member with rfl | rfl | rfl | rfl | rfl <;> rfl
    rw [env]
    exact fun _ _ _ _ => rfl
  · simp only [neighborOnPort, List.cons_append, List.nil_append, Runs.along_cons, Runs.along_nil, and_true]
    decide

-- The row of the VRF keeps the port but names another interface for it:
-- port_del_ifaces removes the last interface, and the port with it.
theorem replaced_interface_strands_host :
    ¬ Runs.Always portStep HostsHavePorts (vrfCreate (vrfRowOf [])) (neighborOnPort ++
      [(portEnv, .delPorts (vrfRowOf [portRowOf "1" ["2"]]))]) := by
  simp only [neighborOnPort, List.cons_append, List.nil_append, Runs.always_cons, Runs.always_nil]
  decide

end OpsSwitchd
