import OpsSwitchd.BondHandle

set_option autoImplicit false

namespace OpsSwitchd.PortBundle

inductive VlanMode where
  | access
  | trunk
  | nativeTagged
  | nativeUntagged
deriving DecidableEq, Repr

inductive IpColumn where
  | ip4Address
  | ip6Address
  | ip4AddressSecondary
  | ip6AddressSecondary
deriving DecidableEq, Repr

-- An interface of a port. modified is OVSREC_IDL_IS_ROW_MODIFIED of its row.
structure Member where
  name : String
  ofpPort : Nat
  hwBondConfig : Smap
  modified : Bool
deriving DecidableEq, Repr

-- A struct port, with the columns of its row. A null address is an empty list.
structure BundlePort where
  name : String
  lacp : Option String
  vlanTag : Option Int
  vlanTrunks : List Int
  vlanMode : Option String
  vlanOptions : Smap
  bondOptions : Smap
  hwConfig : Smap
  otherConfig : Smap
  bondActiveSlave : Option String
  addresses : IpColumn → List String
  modified : Bool
  ifaces : List Member

structure Library (Mode Mac : Type) where
  enableKey : String
  enableDefault : Bool
  rxEnabledKey : String
  txEnabledKey : String
  bondModeKey : String
  bondModeFromString : String → Option Mode
  l3SrcDstHash : Mode
  vlanBitmapFromArray : List Int → Option (List Int)
  ethAddrScan : String → Option Mac
  ethAddrZero : Mac

structure BondSettings (Mode Mac : Type) where
  name : String
  balance : Mode
  basis : Nat
  rebalanceInterval : Int
  lacpFallbackAb : Bool
  activeSlaveMac : Mac

-- struct ofproto_bundle_settings, without the requests that depend on more than
-- the port, and the interval that is set on the network devices.
structure Settings (Mode Mac : Type) where
  name : String
  slaves : List Nat
  slavesEntered : Nat
  slavesTxEnable : List Nat
  enable : Bool
  hwBondShouldExist : Bool
  vlan : Int
  trunks : Option (List Int)
  vlanMode : VlanMode
  usePriorityTags : Bool
  bond : Option (BondSettings Mode Mac)
  portOptions : Smap × Smap × Smap × Smap
  miimonInterval : Int

variable {Mode Mac : Type}

section Configure

-- The mode is returned as well: some true is active.
def enableLacp : Option String → Option Bool
  | none => none
  | some text => if text = "off" then none else if text = "active" then some true else if text = "passive" then some false else none

def bonded (port : BundlePort) : Bool :=
  "lag".toList.isPrefixOf port.name.toList || decide (1 < port.ifaces.length) || (enableLacp port.lacp).isSome

structure Slaves where
  slaves : List Nat
  txEnable : List Nat
  hwBondShouldExist : Bool

def addSlave (lib : Library Mode Mac) (port : BundlePort) (work : Slaves) (iface : Member) : Slaves :=
  if bonded port then
    { slaves := if smapGetBool iface.hwBondConfig lib.rxEnabledKey false then work.slaves ++ [iface.ofpPort] else work.slaves
      txEnable := if smapGetBool iface.hwBondConfig lib.txEnabledKey false then work.txEnable ++ [iface.ofpPort] else work.txEnable
      hwBondShouldExist := true }
  else { work with slaves := work.slaves ++ [iface.ofpPort], hwBondShouldExist := false }

def slavesOf (lib : Library Mode Mac) (port : BundlePort) : Slaves := port.ifaces.foldl (addSlave lib port) ⟨[], [], false⟩

def taggedVlan (port : BundlePort) : Int :=
  match port.vlanTag with
  | none => -1
  | some tag => if 1 ≤ tag ∧ tag ≤ 4094 then tag else -1

def vlanModeOf (port : BundlePort) : VlanMode :=
  match port.vlanMode with
  | some text =>
      if text = "access" then .access else if text = "trunk" then .trunk else if text = "native-tagged" then .nativeTagged
      else if text = "native-untagged" then .nativeUntagged else .trunk
  | none => if 0 ≤ taggedVlan port then .access else .trunk

def miimonIntervalOf (port : BundlePort) : Int :=
  let interval := smapGetInt port.otherConfig "bond-miimon-interval" 0
  let interval := if interval ≤ 0 then 200 else interval
  match smapGet port.otherConfig "bond-detect-mode" with
  | none => 0
  | some mode => if mode = "miimon" then interval else 0

def portConfigureBond (lib : Library Mode Mac) (port : BundlePort) : BondSettings Mode Mac where
  name := port.name
  balance := ((smapGet port.otherConfig lib.bondModeKey).bind lib.bondModeFromString).getD lib.l3SrcDstHash
  basis := (smapGetInt port.otherConfig "bond-hash-basis" 0 % 4294967296).toNat
  rebalanceInterval :=
    let interval := smapGetInt port.otherConfig "bond-rebalance-interval" 10000
    if interval ≠ 0 ∧ interval < 1000 then 1000 else interval
  lacpFallbackAb := smapGetBool port.otherConfig "lacp-fallback-ab" false
  activeSlaveMac := (port.bondActiveSlave.bind lib.ethAddrScan).getD lib.ethAddrZero

def portSettings (lib : Library Mode Mac) (port : BundlePort) : Settings Mode Mac where
  name := port.name
  slaves := (slavesOf lib port).slaves
  slavesEntered := port.ifaces.length
  slavesTxEnable := (slavesOf lib port).txEnable
  enable := smapGetBool port.hwConfig lib.enableKey lib.enableDefault
  hwBondShouldExist := (slavesOf lib port).hwBondShouldExist
  vlan := if vlanModeOf port = .trunk then -1 else taggedVlan port
  trunks := lib.vlanBitmapFromArray port.vlanTrunks
  vlanMode := vlanModeOf port
  usePriorityTags := smapGetBool port.otherConfig "priority-tags" false
  bond := if (slavesOf lib port).hwBondShouldExist then some (portConfigureBond lib port) else none
  portOptions := (port.vlanOptions, port.bondOptions, port.hwConfig, port.otherConfig)
  miimonInterval := if (slavesOf lib port).hwBondShouldExist then miimonIntervalOf port else 0

end Configure

section Provider

structure Bundle (Mode Mac : Type) where
  settings : Settings Mode Mac
  bondHandleAllocOnly : Bool
  addresses : IpColumn → List String

structure Entry (Mode Mac : Type) where
  port : BundlePort
  bondHwHandle : Int
  bundle : Option (Bundle Mode Mac)

-- recreated is a port that was destroyed and created again in the phases before
-- this one. columns are OVSREC_IDL_IS_COLUMN_MODIFIED of the Port table, and
-- answers the handles that ofproto_bundle_get returns.
structure Reconfiguration where
  ports : List BundlePort
  recreated : String → Bool
  columns : IpColumn → Bool
  answers : String → Int

-- The addresses go with the change bits; the others stay.
def vrfPortReconfigIpaddr (columns : IpColumn → Bool) (port : BundlePort) (held : IpColumn → List String) (column : IpColumn) :
    List String :=
  if columns column then port.addresses column else held column

def portConfigure (lib : Library Mode Mac) (input : Reconfiguration) (entry : Entry Mode Mac) : Entry Mode Mac :=
  let settings := portSettings lib entry.port
  { entry with
    bondHwHandle := input.answers entry.port.name
    bundle := some
      { settings := settings
        bondHandleAllocOnly := settings.hwBondShouldExist && decide (settings.slaves.length < 1) && decide (entry.bondHwHandle = -1)
        addresses := vrfPortReconfigIpaddr input.columns entry.port (entry.bundle.elim (fun _ => []) Bundle.addresses) } }

def needsConfigure (port : BundlePort) : Bool := port.modified || port.ifaces.any Member.modified

def lookup (entries : List (Entry Mode Mac)) (input : Reconfiguration) (name : String) : Option (Entry Mode Mac) :=
  if input.recreated name then none else entries.find? (fun entry => decide (entry.port.name = name))

def arrived (entries : List (Entry Mode Mac)) (input : Reconfiguration) (port : BundlePort) : Entry Mode Mac :=
  match lookup entries input port.name with
  | some entry => { entry with port := port }
  | none => ⟨port, -1, none⟩

def configurePort (lib : Library Mode Mac) (entries : List (Entry Mode Mac)) (input : Reconfiguration) (port : BundlePort) :
    Entry Mode Mac :=
  if needsConfigure port then portConfigure lib input (arrived entries input port) else arrived entries input port

def configurePorts (lib : Library Mode Mac) (entries : List (Entry Mode Mac)) (input : Reconfiguration) : List (Entry Mode Mac) :=
  input.ports.map (configurePort lib entries input)

end Provider

end OpsSwitchd.PortBundle
