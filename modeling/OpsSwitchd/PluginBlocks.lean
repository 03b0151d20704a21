import OpsSwitchd.CreatedPorts

set_option autoImplicit false

namespace OpsSwitchd.PluginBlocks

-- enum block_id without BLK_BRIDGE_INIT, which bridge_init executes.
inductive BlockId where
  | initReconfigure
  | brDeletePorts
  | vrfDeletePorts
  | brReconfigurePorts
  | vrfReconfigurePorts
  | brAddPorts
  | vrfAddPorts
  | brPortUpdate
  | brFeatureReconfig
  | vrfPortUpdate
  | vrfAddNeighbors
  | reconfigureNeighbors
deriving DecidableEq, Repr

-- What the pointers of blk_params point to when the block is executed. The
-- IDL, its seqno and the two maps are the same for every block.
structure BlkParams where
  ofproto : Bool
  br : Option Bridge
  vrf : Option Vrf
  port : Option Port

abbrev BlockEvent := BlockId × BlkParams

def clearBlkParams : BlkParams := ⟨false, none, none, none⟩

def ofBridge (br : Bridge) : BlkParams := { clearBlkParams with br := some br, ofproto := br.ofproto }

def ofVrf (vrf : Vrf) : BlkParams := { clearBlkParams with vrf := some vrf, ofproto := vrf.up.ofproto }

def portUpdate {σ : Type} (configure : σ → Port → σ) (event : σ → Port → BlockEvent) (work : σ × List BlockEvent) (port : Port) :
    σ × List BlockEvent :=
  if portNeedsConfigure port then (configure work.1 port, work.2 ++ [event (configure work.1 port) port]) else work

def bridgePortUpdate : Bridge × List BlockEvent → Port → Bridge × List BlockEvent :=
  portUpdate portConfigure (fun br port => (.brPortUpdate, { ofBridge br with port := some port }))

def bridgePortUpdates (order : HashOrder) (br : Bridge) : Bridge × List BlockEvent :=
  (order.walk br.ports).foldl bridgePortUpdate (br, [])

def bridgeConfigureBlocks (input : Reconfiguration) (br : Bridge) : List BlockEvent :=
  let work := bridgePortUpdates input.env.order br
  work.2 ++ [(.brFeatureReconfig, ofBridge (bridgeConfigureVlans input.env.order work.1))]

def vrfPortUpdate : Vrf × List BlockEvent → Port → Vrf × List BlockEvent :=
  portUpdate (fun vrf port => vrf.withUp (portConfigure vrf.up port)) (fun vrf port => (.vrfPortUpdate, { ofVrf vrf with port := some port }))

def vrfPortUpdates (order : HashOrder) (vrf : Vrf) : Vrf × List BlockEvent :=
  (order.walk vrf.up.ports).foldl vrfPortUpdate (vrf, [])

def vrfConfigureBlocks (input : Reconfiguration) (vrf : Vrf) : List BlockEvent :=
  let work := vrfPortUpdates input.env.order vrf
  let added := if vrf.up.ports.any portNeedsConfigure then vrfAddNeighbors input.env work.1 else work.1
  let last := vrfReconfigureNexthops input.env (vrfReconfigureRoutes input.env (vrfReconfigureNeighbors input.env added))
  work.2 ++ (if vrf.up.ports.any portNeedsConfigure then [(.vrfAddNeighbors, ofVrf added)] else []) ++
    [(.reconfigureNeighbors, ofVrf last)]

def bridgeDeleteBlocks (br : Bridge) : List BlockEvent := [(.brDeletePorts, ofBridge br)]

def vrfDeleteBlocks (owner : VrfRow × Vrf) : List BlockEvent := [(.vrfDeletePorts, ofVrf owner.2)]

def bridgeReconfigureBlocks (input : Reconfiguration) (br : Bridge) : List BlockEvent :=
  if br.ofproto then [(.brReconfigurePorts, ofBridge (bridgeReconfigurePhase input br))] else []

def vrfReconfigureBlocks (input : Reconfiguration) (owner : VrfRow × Vrf) : List BlockEvent :=
  if owner.2.up.ofproto then [(.vrfReconfigurePorts, ofVrf (vrfReconfigurePhase input owner).2)] else []

def bridgeAddBlocks (input : Reconfiguration) (br : Bridge) : List BlockEvent := [(.brAddPorts, ofBridge (bridgeAddPhase input br))]

def vrfAddBlocks (input : Reconfiguration) (owner : VrfRow × Vrf) : List BlockEvent :=
  [(.vrfAddPorts, ofVrf (vrfAddPhase input owner))]

section Blocks

variable (switch : Switch) (input : Reconfiguration)

def bridges : List Bridge := addDelBridges input.datapath.normalizeType input.cfg.bridges switch.bridges

def vrfs : List (VrfRow × Vrf) := addDelVrfs input.cfg.vrfs switch.vrfs

def deletedBridges : List Bridge := (bridges switch input).map (bridgeDeletePhase input)

def deletedVrfs : List (VrfRow × Vrf) := (vrfs switch input).map (vrfDeletePhase input)

def createdBridges : List Bridge :=
  ((deletedBridges switch input).map (bridgeReconfigurePhase input)).filterMap (bridgeCreatePhase input)

def createdVrfs : List (VrfRow × Vrf) :=
  ((deletedVrfs switch input).map (vrfReconfigurePhase input)).filterMap (vrfCreatePhase input)

def reconfigureBlocks : List BlockEvent :=
  let order := input.env.order
  [(.initReconfigure, clearBlkParams)] ++
    (order.walk (bridges switch input)).flatMap bridgeDeleteBlocks ++
    (order.walk (vrfs switch input)).flatMap vrfDeleteBlocks ++
    (order.walk (deletedBridges switch input)).flatMap (bridgeReconfigureBlocks input) ++
    (order.walk (deletedVrfs switch input)).flatMap (vrfReconfigureBlocks input) ++
    (order.walk (createdBridges switch input)).flatMap (bridgeAddBlocks input) ++
    (order.walk (createdVrfs switch input)).flatMap (vrfAddBlocks input) ++
    (order.walk ((createdBridges switch input).map (bridgeAddPhase input))).flatMap (bridgeConfigureBlocks input) ++
    (order.walk ((createdVrfs switch input).map (vrfAddPhase input))).flatMap (vrfConfigureBlocks input)

end Blocks

end OpsSwitchd.PluginBlocks
