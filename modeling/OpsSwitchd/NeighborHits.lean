import OpsSwitchd.Mirrors
import OpsSwitchd.OwnerSets

set_option autoImplicit false

namespace OpsSwitchd

open Mirrors (smapReplace)

structure HostQuery where
  vrf : String
  port : String
  isIpv6Addr : Bool
  ipAddress : String
deriving DecidableEq, Repr

-- A null VRF is handed to neighbor_hash_lookup as none.
inductive PollAction where
  | hashLookup (vrf : Option Vrf) (ipAddress : String)
  | getL3HostHit (query : HostQuery)
  | setStatus (row : NeighborRow) (status : Smap)
deriving DecidableEq, Repr

structure PollEnv where
  hostHit : List HostQuery → HostQuery → Option Bool
  status : NeighborRow → Smap
  dpHit : String

def vrfLookup (switch : Switch) (name : String) : Option Vrf := Keyed.lookup vrfName name switch.vrfs

def hostQuery (vrf : Vrf) (neighbor : Neighbor) (port : Port) (row : NeighborRow) : HostQuery :=
  ⟨vrf.up.name, port.self.name, neighbor.isIpv6Addr, row.ipAddress⟩

def hitStatus (env : PollEnv) (row : NeighborRow) (hit : Bool) : Smap :=
  smapReplace (env.status row) env.dpHit (if hit then "true" else "false")

def queryHit (env : PollEnv) (asked : List HostQuery) (row : NeighborRow) (query : HostQuery) : List PollAction :=
  .getL3HostHit query :: ((env.hostHit asked query).map (fun hit => .setStatus row (hitStatus env row hit))).toList

-- The second component holds the queries so far, and is none after a read
-- through a null pointer: the VRF, or the port name that port_lookup hashes.
def pollNeighbor (env : PollEnv) (switch : Switch) (asked : List HostQuery) (row : NeighborRow) :
    List PollAction × Option (List HostQuery) :=
  match vrfLookup switch row.vrf with
  | none => ([.hashLookup none row.ipAddress], none)
  | some vrf =>
      let looked : PollAction := .hashLookup (some vrf) row.ipAddress
      match neighborHashLookup vrf row.ipAddress with
      | none => ([looked], some asked)
      | some neighbor =>
          if neighbor.l3EgressId = -1 then ([looked], some asked)
          else match neighbor.portName with
            | none => ([looked], none)
            | some portName => match vrf.up.portLookup portName with
              | none => ([looked], some asked)
              | some port =>
                  let query := hostQuery vrf neighbor port row
                  (looked :: queryHit env asked row query, some (asked ++ [query]))

def pollNeighbors (env : PollEnv) (switch : Switch) : List HostQuery → List NeighborRow → List PollAction
  | _, [] => []
  | asked, row :: rest =>
      let polled := pollNeighbor env switch asked row
      polled.1 ++ polled.2.elim [] (fun asked => pollNeighbors env switch asked rest)

structure NeighborTimer where
  interval : Int
  timer : Int
deriving DecidableEq, Repr

def neighborHitBitUpdateInterval : Int := 10000

def llongMin : Int := -0x8000000000000000

def settleNeighborTimer (timer : NeighborTimer) : NeighborTimer :=
  if timer.interval ≠ neighborHitBitUpdateInterval then ⟨neighborHitBitUpdateInterval, llongMin⟩ else timer

-- now and later are the two readings of the clock, in msec.
def runNeighborUpdate (env : PollEnv) (now later : Nat) (timer : NeighborTimer) (switch : Switch) (rows : List NeighborRow) :
    List PollAction × NeighborTimer :=
  if rows = [] then ([], timer)
  else
    let timer := settleNeighborTimer timer
    if timer.timer ≤ now then
      (pollNeighbors env switch [] rows, { timer with timer := later + timer.interval })
    else ([], timer)

structure Polled (switch : Switch) (vrf : Vrf) (neighbor : Neighbor) (port : Port) : Prop where
  known : vrf ∈ switch.vrfs
  cached : neighbor ∈ vrf.allNeighbors
  egress : neighbor.l3EgressId ≠ -1
  present : port ∈ vrf.up.ports
  named : neighbor.portName = some port.self.name

def PollSound (env : PollEnv) (switch : Switch) : PollAction → Prop
  | .hashLookup vrf _ => ∃ known ∈ switch.vrfs, vrf = some known
  | .getL3HostHit query => ∃ vrf neighbor port, Polled switch vrf neighbor port ∧
      query = ⟨vrf.up.name, port.self.name, neighbor.isIpv6Addr, neighbor.ipAddress⟩
  | .setStatus row status => ∃ vrf neighbor port, Polled switch vrf neighbor port ∧ vrf.up.name = row.vrf ∧
      neighbor.ipAddress = row.ipAddress ∧ ∃ hit, status = hitStatus env row hit

def HitPollSound (env : PollEnv) (now later : Nat) (timer : NeighborTimer) (switch : Switch) (rows : List NeighborRow) : Prop :=
  ∀ action ∈ (runNeighborUpdate env now later timer switch rows).1, PollSound env switch action

def PortNameless (switch : Switch) (row : NeighborRow) : Prop :=
  ∃ vrf neighbor, vrfLookup switch row.vrf = some vrf ∧ neighborHashLookup vrf row.ipAddress = some neighbor ∧
    neighbor.l3EgressId ≠ -1 ∧ neighbor.portName = none

def PollDue (timer : NeighborTimer) (now : Nat) : Prop :=
  timer.interval ≠ neighborHitBitUpdateInterval ∨ timer.timer ≤ now

def VrfStands (switch : Switch) (input : Reconfiguration) (name : String) : Prop :=
  (∃ row ∈ input.cfg.vrfs, row.name = name) ∧
    (input.datapath.createVrf name = true ∨
      nameIgnored name = false ∧ ∃ vrf ∈ switch.vrfs, vrf.up.name = name ∧ vrf.up.ofproto = true)

theorem query_hit_sound (env : PollEnv) (switch : Switch) (asked : List HostQuery) (row : NeighborRow) (vrf : Vrf)
    (neighbor : Neighbor) (port : Port) (polled : Polled switch vrf neighbor port) (owner : vrf.up.name = row.vrf)
    (address : neighbor.ipAddress = row.ipAddress) :
    ∀ action ∈ queryHit env asked row (hostQuery vrf neighbor port row), PollSound env switch action := by
  intro action member
  rcases List.mem_cons.mp member with rfl | written
  · exact ⟨vrf, neighbor, port, polled, by rw [hostQuery, address]⟩
  · obtain ⟨hit, _, rfl⟩ := Option.map_eq_some_iff.mp (Option.mem_toList.mp written)
    exact ⟨vrf, neighbor, port, polled, owner, address, hit, rfl⟩

theorem missing_vrf_polled (env : PollEnv) (switch : Switch) (asked : List HostQuery) (row : NeighborRow)
    (missing : vrfLookup switch row.vrf = none) :
    pollNeighbor env switch asked row = ([.hashLookup none row.ipAddress], none) := by
  rw [pollNeighbor, missing]

theorem port_nameless_iff (switch : Switch) (row : NeighborRow) (vrf : Vrf) (found : vrfLookup switch row.vrf = some vrf) :
    PortNameless switch row ↔ ∃ neighbor, neighborHashLookup vrf row.ipAddress = some neighbor ∧
      neighbor.l3EgressId ≠ -1 ∧ neighbor.portName = none := by
  constructor
  · rintro ⟨other, neighbor, listed, nameless⟩
    obtain rfl := Option.some.inj (found.symm.trans listed)
    exact ⟨neighbor, nameless⟩
  · rintro ⟨neighbor, nameless⟩
    exact ⟨vrf, neighbor, found, nameless⟩

theorem poll_neighbor_sound (env : PollEnv) (switch : Switch) (asked : List HostQuery) (row : NeighborRow) (vrf : Vrf)
    (found : vrfLookup switch row.vrf = some vrf) :
    (∀ action ∈ (pollNeighbor env switch asked row).1, PollSound env switch action) ∧
      ((pollNeighbor env switch asked row).2 = none ↔ PortNameless switch row) := by
  have known : vrf ∈ switch.vrfs := Keyed.lookup_mem vrfName found
  have looked : ∀ action ∈ [PollAction.hashLookup (some vrf) row.ipAddress], PollSound env switch action :=
    List.forall_mem_singleton.mpr ⟨vrf, known, rfl⟩
  rw [port_nameless_iff switch row vrf found, pollNeighbor, found]
  dsimp only
  cases cached : neighborHashLookup vrf row.ipAddress with
  | none => exact ⟨looked, iff_of_false (by simp) (by simp)⟩
  | some neighbor =>
      simp only [Option.some.injEq, exists_eq_left']
      by_cases idle : neighbor.l3EgressId = -1
      · rw [if_pos idle]
        exact ⟨looked, iff_of_false (by simp) (fun busy => busy.1 idle)⟩
      · rw [if_neg idle]
        cases named : neighbor.portName with
        | none => exact ⟨looked, iff_of_true rfl ⟨idle, rfl⟩⟩
        | some portName =>
            dsimp only
            cases present : vrf.up.portLookup portName with
            | none => exact ⟨looked, iff_of_false (by simp) (by simp)⟩
            | some port =>
                have name : port.self.name = portName := Keyed.lookup_key (fun port : Port => port.self.name) present
                have polled : Polled switch vrf neighbor port := ⟨known, Keyed.lookup_mem Neighbor.ipAddress cached, idle,
                  Keyed.lookup_mem (fun port : Port => port.self.name) present, by rw [named, name]⟩
                have asks := query_hit_sound env switch asked row vrf neighbor port polled (Keyed.lookup_key vrfName found)
                  (Keyed.lookup_key Neighbor.ipAddress cached)
                exact ⟨List.forall_mem_cons.mpr ⟨looked _ List.mem_cons_self, asks⟩, iff_of_false (by simp) (by simp)⟩

theorem poll_neighbors_sound_iff (env : PollEnv) (switch : Switch) (rows : List NeighborRow) (asked : List HostQuery) :
    (∀ action ∈ pollNeighbors env switch asked rows, PollSound env switch action) ↔
      Runs.Reached (PortNameless switch) (fun row => (vrfLookup switch row.vrf).isSome) rows := by
  induction rows generalizing asked with
  | nil =>
      exact iff_of_true (List.forall_mem_nil _) (Runs.reached_nil _ _)
  | cons row rest ih =>
      rw [Runs.reached_cons, pollNeighbors]
      cases found : vrfLookup switch row.vrf with
      | none =>
          refine iff_of_false (fun sound => ?_) (by simp)
          obtain ⟨_, _, null⟩ := sound (.hashLookup none row.ipAddress) (by simp [missing_vrf_polled env switch asked row found])
          cases null
      | some vrf =>
          obtain ⟨sound, ends⟩ := poll_neighbor_sound env switch asked row vrf found
          have split : (∀ action ∈ (pollNeighbor env switch asked row).1 ++ (pollNeighbor env switch asked row).2.elim []
              (fun asked => pollNeighbors env switch asked rest), PollSound env switch action) ↔
              ∀ action ∈ (pollNeighbor env switch asked row).2.elim [] (fun asked => pollNeighbors env switch asked rest),
                PollSound env switch action := by
            simp only [List.forall_mem_append]
            exact and_iff_right sound
          rw [split]
          cases next : (pollNeighbor env switch asked row).2 with
          | none =>
              exact iff_of_true (List.forall_mem_nil _) ⟨rfl, .inl (ends.mp next)⟩
          | some more =>
              have named : ¬ PortNameless switch row := fun nameless => by
                rw [ends.mpr nameless] at next
                cases next
              rw [Option.elim_some, ih more]
              exact ⟨fun later => ⟨rfl, .inr later⟩, fun both => both.2.resolve_left named⟩

theorem poll_due_iff (timer : NeighborTimer) (now : Nat) : (settleNeighborTimer timer).timer ≤ now ↔ PollDue timer now := by
  unfold settleNeighborTimer PollDue
  by_cases changed : timer.interval ≠ neighborHitBitUpdateInterval
  · rw [if_pos changed]
    refine iff_of_true ?_ (.inl changed)
    dsimp only [llongMin]
    omega
  · rw [if_neg changed]
    exact ⟨.inr, fun due => due.resolve_left changed⟩

theorem run_neighbor_update_sound_iff (env : PollEnv) (now later : Nat) (timer : NeighborTimer) (switch : Switch)
    (rows : List NeighborRow) :
    HitPollSound env now later timer switch rows ↔
      (PollDue timer now → Runs.Reached (PortNameless switch) (fun row => (vrfLookup switch row.vrf).isSome) rows) := by
  rw [← poll_due_iff, ← poll_neighbors_sound_iff env switch rows []]
  unfold HitPollSound runNeighborUpdate
  by_cases empty : rows = []
  · rw [if_pos empty, empty]
    exact iff_of_true (List.forall_mem_nil _) (fun _ => List.forall_mem_nil _)
  · rw [if_neg empty]
    dsimp only
    by_cases due : (settleNeighborTimer timer).timer ≤ now
    · rw [if_pos due]
      exact ⟨fun sound _ => sound, fun sound => sound due⟩
    · rw [if_neg due]
      exact iff_of_true (List.forall_mem_nil _) (fun now => absurd now due)

theorem add_del_vrfs_lookup (rows : List VrfRow) (vrfs : List Vrf) (unique : Keyed.Unique vrfName vrfs) (name : String) :
    Keyed.lookup vrfUpName name (addDelVrfs rows vrfs) =
      ((Keyed.lookup vrfName name vrfs).bind (keepVrf (newVrfs rows))).or
        ((Keyed.lookup VrfRow.name name rows).map (fun row => (row, vrfCreate row))) := by
  rw [add_del_vrfs_eq]
  exact Reconcile.reconcile_lookup VrfRow.name vrfName vrfUpName _ _ (keep_vrf_name rows) (fun _ => rfl) rows unique name

theorem owner_ofproto_iff (switch : Switch) (input : Reconfiguration) (valid : SwitchIndex switch) (name : String) :
    (∃ owner ∈ addDelVrfs input.cfg.vrfs switch.vrfs, vrfUpName owner = name ∧
      (owner.2.up.ofproto = true ∨ input.datapath.createVrf name = true)) ↔ VrfStands switch input name := by
  have unique := add_del_vrfs_unique input.cfg.vrfs switch.vrfs valid.vrfNames
  have names := add_del_vrfs_names input.cfg.vrfs switch.vrfs valid.vrfNames name
  have lookup := add_del_vrfs_lookup input.cfg.vrfs switch.vrfs valid.vrfNames name
  constructor
  · rintro ⟨owner, member, named, up⟩
    refine ⟨List.mem_map.mp (names.mp (List.mem_map.mpr ⟨owner, member, named⟩)), up.symm.imp_right (fun ofproto => ?_)⟩
    -- A VRF that was just made has no ofproto yet.
    rw [(Keyed.lookup_eq_some_iff vrfUpName unique).mpr ⟨member, named⟩, eq_comm, Option.or_eq_some_iff] at lookup
    rcases lookup with kept | ⟨_, made⟩
    · obtain ⟨old, found, keep⟩ := Option.bind_eq_some_iff.mp kept
      obtain ⟨clean, row, _, rfl⟩ := (keep_vrf_eq_some input.cfg.vrfs old owner).mp keep
      exact ⟨named ▸ clean, old, Keyed.lookup_mem vrfName found, named, ofproto⟩
    · obtain ⟨row, _, rfl⟩ := Option.map_eq_some_iff.mp made
      cases ofproto
  · rintro ⟨listed, up⟩
    obtain ⟨owner, member, named⟩ := List.mem_map.mp (names.mpr (List.mem_map.mpr listed))
    rcases up with created | ⟨clean, old, inside, same, ofproto⟩
    · exact ⟨owner, member, named, .inr created⟩
    · obtain ⟨row, found⟩ := Option.isSome_iff_exists.mp ((Keyed.lookup_some_iff_exists VrfRow.name).mpr listed)
      have kept := (keep_vrf_eq_some input.cfg.vrfs old _).mpr ⟨same ▸ clean, row, same ▸ found, rfl⟩
      rw [(Keyed.lookup_eq_some_iff vrfName valid.vrfNames).mpr ⟨inside, same⟩, Option.bind_some, kept, Option.some_or] at lookup
      exact ⟨_, Keyed.lookup_mem vrfUpName lookup, same, .inl ofproto⟩

theorem vrf_stands_iff (switch : Switch) (input : Reconfiguration) (valid : SwitchIndex switch) (name : String) :
    (vrfLookup (bridgeReconfigure switch input) name).isSome ↔ VrfStands switch input name := by
  obtain ⟨_, index⟩ := add_del_vrfs_index input.cfg.vrfs switch.vrfs valid.vrfNames valid.vrfs
  rw [← owner_ofproto_iff switch input valid, vrfLookup, Keyed.lookup_some_iff_exists, reconfigure_by_owner]
  constructor
  · rintro ⟨vrf, member, same⟩
    obtain ⟨owner, present, done⟩ := List.mem_filterMap.mp member
    have kept := (reconfigure_vrf_index input owner (index owner present) vrf done).1
    have named : vrfUpName owner = name := kept.symm.trans same
    have stands := (reconfigure_vrf_isSome input owner (index owner present)).mp (Option.isSome_iff_exists.mpr ⟨vrf, done⟩)
    rw [show owner.2.up.name = name from named] at stands
    exact ⟨owner, present, named, stands⟩
  · rintro ⟨owner, present, named, stands⟩
    rw [← show owner.2.up.name = name from named] at stands
    obtain ⟨vrf, done⟩ := Option.isSome_iff_exists.mp
      ((reconfigure_vrf_isSome input owner (index owner present)).mpr stands)
    exact ⟨vrf, List.mem_filterMap.mpr ⟨owner, present, done⟩,
      (reconfigure_vrf_index input owner (index owner present) vrf done).1.trans named⟩

theorem hit_poll_sound_iff (env : PollEnv) (now later : Nat) (timer : NeighborTimer) (switch : Switch)
    (input : Reconfiguration) (valid : SwitchIndex switch) :
    HitPollSound env now later timer (bridgeReconfigure switch input) input.env.idl.neighbors.rows ↔
      (PollDue timer now → Runs.Reached (PortNameless (bridgeReconfigure switch input))
        (fun row => VrfStands switch input row.vrf) input.env.idl.neighbors.rows) := by
  rw [run_neighbor_update_sound_iff]
  simp only [vrf_stands_iff switch input valid]

def polledRow : NeighborRow := ⟨1, "vrf_default", "10.0.0.1", some "00:00:00:00:00:01", some "ipv4", some "1", true, false⟩

def polledReconfiguration (created : Bool) : Reconfiguration where
  env := neighborEnv ⟨[polledRow], true, false, false⟩
  datapath := { plainDatapath [] [] with createVrf := fun _ => created }
  cfg := ⟨[], [⟨"vrf_default", []⟩]⟩

def plainPoll : PollEnv := ⟨fun _ _ => some true, fun _ => [], "dp_hit"⟩

theorem created_vrf_polled :
    HitPollSound plainPoll 0 0 ⟨0, llongMin⟩ (bridgeReconfigure ⟨[], []⟩ (polledReconfiguration true)) [polledRow] := by
  refine (hit_poll_sound_iff plainPoll 0 0 ⟨0, llongMin⟩ ⟨[], []⟩ (polledReconfiguration true) empty_switch_index).mpr ?_
  intro _
  exact (Runs.reached_cons _ _ polledRow []).mpr ⟨⟨⟨_, List.mem_cons_self, rfl⟩, .inl rfl⟩, .inr (Runs.reached_nil _ _)⟩

-- ofproto_create fails, the VRF is destroyed, and the poll looks its neighbor
-- up in a null VRF.
theorem missing_vrf_looked_up :
    ¬ HitPollSound plainPoll 0 0 ⟨0, llongMin⟩ (bridgeReconfigure ⟨[], []⟩ (polledReconfiguration false)) [polledRow] := by
  intro sound
  obtain ⟨_, _, null⟩ := sound (.hashLookup none "10.0.0.1") (by decide)
  cases null

end OpsSwitchd
