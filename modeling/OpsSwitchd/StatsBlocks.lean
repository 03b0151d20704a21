import OpsSwitchd.CreatedPorts

set_option autoImplicit false

namespace OpsSwitchd.StatsBlocks

inductive StatsBlockId where
  | statsBegin
  | perBridge
  | perBridgePort
  | perBridgeNetdev
  | perVrf
  | perVrfPort
  | perVrfNetdev
  | statsEnd
deriving DecidableEq, Repr

-- The pointers of stats_blk_params; the IDL and its seqno never change.
structure StatsBlkParams where
  br : Option Bridge
  vrf : Option Vrf
  port : Option Port
  netdev : Option IfaceRef
  cfg : Option InterfaceRow

abbrev StatsEvent := StatsBlockId × StatsBlkParams

-- sblk and the blocks executed so far. A callback sees sblk as it is then.
abbrev StatsWork := StatsBlkParams × List StatsEvent

def noParams : StatsBlkParams := ⟨none, none, none, none, none⟩

def executeStatsBlock (work : StatsWork) (blk : StatsBlockId) : StatsWork := (work.1, work.2 ++ [(blk, work.1)])

-- System interfaces are left to subsystem.c.
def statsIface (netdevBlk : StatsBlockId) (work : StatsWork) (iface : Iface) : StatsWork :=
  if iface.type ≠ "system" then
    executeStatsBlock ({ work.1 with netdev := some iface.self, cfg := some iface.cfg }, work.2) netdevBlk
  else work

def statsPort (portBlk netdevBlk : StatsBlockId) (work : StatsWork) (port : Port) : StatsWork :=
  port.ifaces.foldl (statsIface netdevBlk) (executeStatsBlock ({ work.1 with port := some port }, work.2) portBlk)

def statsBridge (order : HashOrder) (work : StatsWork) (br : Bridge) : StatsWork :=
  (order.walk br.ports).foldl (statsPort .perBridgePort .perBridgeNetdev)
    (executeStatsBlock ({ work.1 with br := some br }, work.2) .perBridge)

def statsVrf (order : HashOrder) (work : StatsWork) (vrf : Vrf) : StatsWork :=
  (order.walk vrf.up.ports).foldl (statsPort .perVrfPort .perVrfNetdev)
    (executeStatsBlock ({ work.1 with vrf := some vrf }, work.2) .perVrf)

-- sblk is declared once and is not cleared between the blocks.
def runStatsBlocks (order : HashOrder) (switch : Switch) : List StatsEvent :=
  let work := executeStatsBlock (noParams, []) .statsBegin
  let work := (order.walk switch.bridges).foldl (statsBridge order) work
  let work := (order.walk switch.vrfs).foldl (statsVrf order) work
  (executeStatsBlock work .statsEnd).2

def documented (event : StatsEvent) : StatsEvent :=
  match event.1 with
  | .statsBegin | .statsEnd => (event.1, noParams)
  | .perBridge => (event.1, { noParams with br := event.2.br })
  | .perBridgePort => (event.1, { noParams with br := event.2.br, port := event.2.port })
  | .perBridgeNetdev => (event.1, { event.2 with vrf := none })
  | .perVrf => (event.1, { noParams with vrf := event.2.vrf })
  | .perVrfPort => (event.1, { noParams with vrf := event.2.vrf, port := event.2.port })
  | .perVrfNetdev => (event.1, { event.2 with br := none })

def ifaceEvent (netdevBlk : StatsBlockId) (own : StatsBlkParams) (port : Port) (iface : Iface) : List StatsEvent :=
  if iface.type ≠ "system" then [(netdevBlk, { own with port := some port, netdev := some iface.self, cfg := some iface.cfg })] else []

def portEvents (portBlk netdevBlk : StatsBlockId) (own : StatsBlkParams) (port : Port) : List StatsEvent :=
  (portBlk, { own with port := some port }) :: port.ifaces.flatMap (ifaceEvent netdevBlk own port)

def ownerEvents (ownerBlk portBlk netdevBlk : StatsBlockId) (own : StatsBlkParams) (ports : List Port) : List StatsEvent :=
  (ownerBlk, own) :: ports.flatMap (portEvents portBlk netdevBlk own)

def ofBridge (br : Bridge) : StatsBlkParams := { noParams with br := some br }

def ofVrf (vrf : Vrf) : StatsBlkParams := { noParams with vrf := some vrf }

def bridgeEvents (order : HashOrder) (br : Bridge) : List StatsEvent :=
  ownerEvents .perBridge .perBridgePort .perBridgeNetdev (ofBridge br) (order.walk br.ports)

def vrfEvents (order : HashOrder) (vrf : Vrf) : List StatsEvent :=
  ownerEvents .perVrf .perVrfPort .perVrfNetdev (ofVrf vrf) (order.walk vrf.up.ports)

-- What sblk keeps of its owner while the ports of the owner are walked, and
-- that no more of it is documented.
structure Shows (portBlk netdevBlk : StatsBlockId) (own : StatsBlkParams) (Kept : StatsBlkParams → Prop) : Prop where
  port : ∀ sblk port, Kept sblk → Kept { sblk with port := port }
  netdev : ∀ sblk netdev cfg, Kept sblk → Kept { sblk with netdev := netdev, cfg := cfg }
  portSeen : ∀ sblk, Kept sblk → documented (portBlk, sblk) = (portBlk, { own with port := sblk.port })
  netdevSeen : ∀ sblk, Kept sblk →
    documented (netdevBlk, sblk) = (netdevBlk, { own with port := sblk.port, netdev := sblk.netdev, cfg := sblk.cfg })

section Ports

variable {portBlk netdevBlk : StatsBlockId} {own : StatsBlkParams} {Kept : StatsBlkParams → Prop}

theorem iface_tells (shows : Shows portBlk netdevBlk own Kept) (port : Port) (iface : Iface) (work : StatsWork)
    (kept : Kept work.1 ∧ work.1.port = some port) :
    (Kept (statsIface netdevBlk work iface).1 ∧ (statsIface netdevBlk work iface).1.port = some port) ∧
      (statsIface netdevBlk work iface).2.map documented = work.2.map documented ++ ifaceEvent netdevBlk own port iface := by
  obtain ⟨owner, inside⟩ := kept
  unfold statsIface ifaceEvent
  split
  · have next := shows.netdev work.1 (some iface.self) (some iface.cfg) owner
    refine ⟨⟨next, inside⟩, ?_⟩
    rw [executeStatsBlock, List.map_append, List.map_singleton, shows.netdevSeen _ next]
    dsimp only
    rw [inside]
  · exact ⟨⟨owner, inside⟩, (List.append_nil _).symm⟩

theorem port_tells (shows : Shows portBlk netdevBlk own Kept) (port : Port) (work : StatsWork) (kept : Kept work.1) :
    Kept (statsPort portBlk netdevBlk work port).1 ∧
      (statsPort portBlk netdevBlk work port).2.map documented = work.2.map documented ++ portEvents portBlk netdevBlk own port := by
  have next := shows.port work.1 (some port) kept
  obtain ⟨⟨owner, _⟩, told⟩ := Keyed.foldl_tells (statsIface netdevBlk) documented (fun sblk => Kept sblk ∧ sblk.port = some port)
    (ifaceEvent netdevBlk own port) port.ifaces (fun iface _ => iface_tells shows port iface)
    (executeStatsBlock ({ work.1 with port := some port }, work.2) portBlk) ⟨next, rfl⟩
  refine ⟨owner, told.trans ?_⟩
  rw [executeStatsBlock, List.map_append, List.map_singleton, shows.portSeen _ next, List.append_assoc]
  rfl

theorem ports_tell (shows : Shows portBlk netdevBlk own Kept) (ports : List Port) (work : StatsWork) (kept : Kept work.1) :
    (ports.foldl (statsPort portBlk netdevBlk) work).2.map documented =
      work.2.map documented ++ ports.flatMap (portEvents portBlk netdevBlk own) :=
  (Keyed.foldl_tells (statsPort portBlk netdevBlk) documented Kept (portEvents portBlk netdevBlk own) ports
    (fun port _ => port_tells shows port) work kept).2

end Ports

theorem bridge_shows (br : Bridge) :
    Shows .perBridgePort .perBridgeNetdev (ofBridge br) (fun sblk => sblk.br = some br) where
  port := fun _ _ kept => kept
  netdev := fun _ _ _ kept => kept
  portSeen := fun _ kept => by
    dsimp only [documented]
    rw [kept]
    rfl
  netdevSeen := fun sblk kept => by
    dsimp only [documented]
    rw [kept]
    rfl

theorem vrf_shows (vrf : Vrf) : Shows .perVrfPort .perVrfNetdev (ofVrf vrf) (fun sblk => sblk.vrf = some vrf) where
  port := fun _ _ kept => kept
  netdev := fun _ _ _ kept => kept
  portSeen := fun _ kept => by
    dsimp only [documented]
    rw [kept]
    rfl
  netdevSeen := fun sblk kept => by
    dsimp only [documented]
    rw [kept]
    rfl

theorem bridge_tells (order : HashOrder) (br : Bridge) (work : StatsWork) :
    (statsBridge order work br).2.map documented = work.2.map documented ++ bridgeEvents order br := by
  unfold statsBridge
  rw [ports_tell (bridge_shows br) _ _ rfl, executeStatsBlock, List.map_append, List.append_assoc]
  rfl

theorem vrf_tells (order : HashOrder) (vrf : Vrf) (work : StatsWork) :
    (statsVrf order work vrf).2.map documented = work.2.map documented ++ vrfEvents order vrf := by
  unfold statsVrf
  rw [ports_tell (vrf_shows vrf) _ _ rfl, executeStatsBlock, List.map_append, List.append_assoc]
  rfl

theorem stats_blocks_told (order : HashOrder) (switch : Switch) :
    (runStatsBlocks order switch).map documented =
      [(.statsBegin, noParams)] ++ (order.walk switch.bridges).flatMap (bridgeEvents order) ++
        ((order.walk switch.vrfs).flatMap (vrfEvents order) ++ [(.statsEnd, noParams)]) := by
  have bridges := fun work => (Keyed.foldl_tells (statsBridge order) documented (fun _ => True) (bridgeEvents order)
    (order.walk switch.bridges) (fun br _ work _ => ⟨trivial, bridge_tells order br work⟩) work trivial).2
  have vrfs := fun work => (Keyed.foldl_tells (statsVrf order) documented (fun _ => True) (vrfEvents order)
    (order.walk switch.vrfs) (fun vrf _ work _ => ⟨trivial, vrf_tells order vrf work⟩) work trivial).2
  unfold runStatsBlocks
  dsimp only
  rw [executeStatsBlock, List.map_append, vrfs, bridges, List.append_assoc]
  rfl

def place : StatsBlockId → Nat
  | .statsBegin => 0
  | .perBridge | .perBridgePort | .perBridgeNetdev => 1
  | .perVrf | .perVrfPort | .perVrfNetdev => 2
  | .statsEnd => 3

-- Every block of the switch, without an order.
def switchBlocks (switch : Switch) : List StatsEvent :=
  (.statsBegin, noParams) :: (.statsEnd, noParams) ::
    (switch.bridges.flatMap (fun br => ownerEvents .perBridge .perBridgePort .perBridgeNetdev (ofBridge br) br.ports) ++
      switch.vrfs.flatMap (fun vrf => ownerEvents .perVrf .perVrfPort .perVrfNetdev (ofVrf vrf) vrf.up.ports))

structure Documented (switch : Switch) (events : List StatsEvent) : Prop where
  once : (events.map documented).Perm (switchBlocks switch)
  ordered : events.Pairwise (fun first second => place first.1 ≤ place second.1)

theorem owner_events_perm (order : HashOrder) (ownerBlk portBlk netdevBlk : StatsBlockId) (own : StatsBlkParams) (ports : List Port) :
    (ownerEvents ownerBlk portBlk netdevBlk own (order.walk ports)).Perm (ownerEvents ownerBlk portBlk netdevBlk own ports) :=
  ((order.perm ports).flatMap_right _).cons _

theorem owner_events_place {ownerBlk portBlk netdevBlk : StatsBlockId} (n : Nat)
    (here : place ownerBlk = n ∧ place portBlk = n ∧ place netdevBlk = n) (own : StatsBlkParams) (ports : List Port)
    (event : StatsEvent) (member : event ∈ ownerEvents ownerBlk portBlk netdevBlk own ports) : place event.1 = n := by
  rcases List.mem_cons.mp member with rfl | inside
  · exact here.1
  · obtain ⟨port, _, told⟩ := List.mem_flatMap.mp inside
    rcases List.mem_cons.mp told with rfl | inPort
    · exact here.2.1
    · obtain ⟨iface, _, shown⟩ := List.mem_flatMap.mp inPort
      unfold ifaceEvent at shown
      split at shown
      · rw [List.mem_singleton.mp shown]
        exact here.2.2
      · cases shown

theorem bridge_events_place (order : HashOrder) (rows : List Bridge) (event : StatsEvent)
    (member : event ∈ rows.flatMap (bridgeEvents order)) : place event.1 = 1 := by
  obtain ⟨br, _, inside⟩ := List.mem_flatMap.mp member
  exact owner_events_place 1 (by decide) _ _ event inside

theorem vrf_events_place (order : HashOrder) (rows : List Vrf) (event : StatsEvent)
    (member : event ∈ rows.flatMap (vrfEvents order)) : place event.1 = 2 := by
  obtain ⟨vrf, _, inside⟩ := List.mem_flatMap.mp member
  exact owner_events_place 2 (by decide) _ _ event inside

theorem documented_block (event : StatsEvent) : (documented event).1 = event.1 := by
  obtain ⟨blk, sblk⟩ := event
  cases blk <;> rfl

theorem same_place_ordered (events : List StatsEvent) (n : Nat) (here : ∀ event ∈ events, place event.1 = n) :
    events.Pairwise (fun first second => place first.1 ≤ place second.1) :=
  List.pairwise_of_forall_mem_list (fun first inside second later => Nat.le_of_eq ((here first inside).trans (here second later).symm))

section Run

variable (order : HashOrder) (switch : Switch)

theorem stats_once : ((runStatsBlocks order switch).map documented).Perm (switchBlocks switch) := by
  have bridges : ((order.walk switch.bridges).flatMap (bridgeEvents order)).Perm
      (switch.bridges.flatMap (fun br => ownerEvents .perBridge .perBridgePort .perBridgeNetdev (ofBridge br) br.ports)) :=
    (order.perm _).flatMap (fun br _ => owner_events_perm order _ _ _ _ br.ports)
  have vrfs : ((order.walk switch.vrfs).flatMap (vrfEvents order)).Perm
      (switch.vrfs.flatMap (fun vrf => ownerEvents .perVrf .perVrfPort .perVrfNetdev (ofVrf vrf) vrf.up.ports)) :=
    (order.perm _).flatMap (fun vrf _ => owner_events_perm order _ _ _ _ vrf.up.ports)
  rw [stats_blocks_told, List.append_assoc, List.singleton_append, ← List.append_assoc]
  exact ((List.perm_append_singleton _ _).trans ((bridges.append vrfs).cons _)).cons _

theorem stats_ordered : (runStatsBlocks order switch).Pairwise (fun first second => place first.1 ≤ place second.1) := by
  have bridges := bridge_events_place order (order.walk switch.bridges)
  have vrfs := vrf_events_place order (order.walk switch.vrfs)
  have last : ∀ event ∈ [((.statsEnd, noParams) : StatsEvent)], place event.1 = 3 :=
    fun event member => by rw [List.mem_singleton.mp member]; rfl
  have sorted : ((runStatsBlocks order switch).map documented).Pairwise (fun first second => place first.1 ≤ place second.1) := by
    rw [stats_blocks_told, List.append_assoc, List.singleton_append]
    refine List.pairwise_cons.mpr ⟨fun _ _ => Nat.zero_le _, List.pairwise_append.mpr ⟨same_place_ordered _ 1 bridges,
      List.pairwise_append.mpr ⟨same_place_ordered _ 2 vrfs, List.pairwise_singleton _ _, fun first early final later => ?_⟩,
      fun first early second later => ?_⟩⟩
    · rw [vrfs first early, last final later]
      decide
    · rw [bridges first early]
      rcases List.mem_append.mp later with vrf | final
      · rw [vrfs second vrf]
        decide
      · rw [last second final]
        decide
  refine (List.pairwise_map.mp sorted).imp (fun {first second} earlier => ?_)
  rwa [documented_block, documented_block] at earlier

theorem stats_blocks_documented : Documented switch (runStatsBlocks order switch) :=
  ⟨stats_once order switch, stats_ordered order switch⟩

end Run

end OpsSwitchd.StatsBlocks
