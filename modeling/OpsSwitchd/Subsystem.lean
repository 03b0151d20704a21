import OpsSwitchd.HashOrder
import OpsSwitchd.Rows

set_option autoImplicit false

namespace OpsSwitchd.Subsystems

structure InterfaceRow where
  uuid : Uuid
  name : String
  nSplitChildren : Nat
deriving DecidableEq, Repr

structure SubsystemRow where
  name : String
  interfaces : List InterfaceRow
deriving DecidableEq, Repr

structure Features where
  pause : Bool
  pauseAsym : Bool
  fullDuplex : Bool
  bps : Int
deriving DecidableEq, Repr

-- What the netdev layer answers about a device; none is an error.
structure Netdev where
  changeSeq : Nat
  status : Option Smap
  up : Option Bool
  carrier : Bool
  carrierResets : Int
  features : Option Features
  mtu : Option Int
  etheraddr : Option String
deriving DecidableEq, Repr

inductive UpDown where
  | up
  | down
deriving DecidableEq, Repr

inductive Duplex where
  | full
  | half
deriving DecidableEq, Repr

inductive Pause where
  | none
  | rxtx
  | tx
  | rx
deriving DecidableEq, Repr

structure StatusColumns where
  status : Smap
  adminState : Option UpDown
  linkState : Option UpDown
  linkResets : Option Int
  duplex : Option Duplex
  linkSpeed : Option Int
  pause : Option Pause
  mtu : Option Int
  macInUse : Option String
deriving DecidableEq, Repr

abbrev StatusWrite := Uuid × StatusColumns

-- subsystem is the name of the subsystem pointed to, none for a null pointer.
structure Iface where
  name : String
  subsystem : Option String
  changeSeq : Nat
  cfg : InterfaceRow
deriving DecidableEq, Repr

structure Subsystem where
  name : String
  cfg : SubsystemRow
  ifaceByName : List Iface
deriving DecidableEq, Repr

structure Env where
  order : HashOrder
  ifaceDoCreate : String → InterfaceRow → Bool
  netdevs : String → Netdev

def upDown (up : Bool) : UpDown := if up then .up else .down

def pauseColumn (features : Features) : Pause :=
  match features.pause, features.pauseAsym with
  | false, false => .none
  | true, false => .rxtx
  | false, true => .tx
  | true, true => .rx

def statusColumns (netdev : Netdev) : StatusColumns where
  status := netdev.status.getD []
  adminState := netdev.up.map upDown
  linkState := some (upDown netdev.carrier)
  linkResets := some netdev.carrierResets
  duplex := netdev.features.map (fun features => if features.fullDuplex then .full else .half)
  linkSpeed := some (netdev.features.elim 0 Features.bps)
  pause := netdev.features.map pauseColumn
  mtu := netdev.mtu
  macInUse := netdev.etheraddr

def ifaceRefreshNetdevStatus (netdevs : String → Netdev) (iface : Iface) : Iface × List StatusWrite :=
  let netdev := netdevs iface.name
  if iface.changeSeq = netdev.changeSeq then (iface, [])
  else ({ iface with changeSeq := netdev.changeSeq }, [(iface.cfg.uuid, statusColumns netdev)])

-- xzalloc leaves the subsystem pointer null, and nothing sets it afterwards.
def ifaceCreate (env : Env) (state : Subsystem × List StatusWrite) (row : InterfaceRow) : Subsystem × List StatusWrite :=
  if env.ifaceDoCreate state.1.name row then
    let refreshed := ifaceRefreshNetdevStatus env.netdevs ⟨row.name, none, 0, row⟩
    ({ state.1 with ifaceByName := refreshed.1 :: state.1.ifaceByName }, state.2 ++ refreshed.2)
  else state

def updateIfaces (name : String) (f : List Iface → List Iface) (all : List Subsystem) : List Subsystem :=
  Keyed.replace Subsystem.name name (fun ss => { ss with ifaceByName := f ss.ifaceByName }) all

-- The interface is unlinked from the table its back pointer names. No result
-- is the dereference of a null pointer.
def ifaceDestroy (all : List Subsystem) (iface : Iface) : Option (List Subsystem) :=
  match iface.subsystem with
  | none => none
  | some ss => some (updateIfaces ss (Keyed.remove Iface.name iface.name) all)

def subsystemCreate (row : SubsystemRow) : Subsystem := ⟨row.name, row, []⟩

def subsystemDestroy (order : HashOrder) (all : List Subsystem) (ss : Subsystem) : Option (List Subsystem) :=
  ((order.walk ss.ifaceByName).foldlM ifaceDestroy all).map (Keyed.remove Subsystem.name ss.name)

def setSubsystemCfg (name : String) (cfg : SubsystemRow) (all : List Subsystem) : List Subsystem :=
  Keyed.replace Subsystem.name name (fun ss => { ss with cfg := cfg }) all

def delSubsystem (order : HashOrder) (newSs : List SubsystemRow) (all : List Subsystem) (ss : Subsystem) :
    Option (List Subsystem) :=
  match Keyed.lookup SubsystemRow.name ss.name newSs with
  | none => subsystemDestroy order all ss
  | some cfg => some (setSubsystemCfg ss.name cfg all)

def addDelSubsystems (order : HashOrder) (rows : List SubsystemRow) (all : List Subsystem) : Option (List Subsystem) :=
  ((order.walk all).foldlM (delSubsystem order (Keyed.collect SubsystemRow.name rows)) all).map (fun all =>
    rows.foldl (fun all row =>
      if (Keyed.lookup Subsystem.name row.name all).isSome then all else subsystemCreate row :: all) all)

def subsystemCollectWantedIfaces (ss : Subsystem) : List InterfaceRow :=
  Keyed.collect InterfaceRow.name ss.cfg.interfaces

def setIfaceCfg (name : String) (cfg : InterfaceRow) (ifaces : List Iface) : List Iface :=
  Keyed.replace Iface.name name (fun iface => { iface with cfg := cfg }) ifaces

def delIface (ss : Subsystem) (all : List Subsystem) (iface : Iface) : Option (List Subsystem) :=
  match Keyed.lookup InterfaceRow.name iface.name (subsystemCollectWantedIfaces ss) with
  | none => ifaceDestroy all iface
  | some cfg => some (updateIfaces ss.name (setIfaceCfg iface.name cfg) all)

def subsystemDelIfaces (order : HashOrder) (all : List Subsystem) (ss : Subsystem) : Option (List Subsystem) :=
  (order.walk ss.ifaceByName).foldlM (delIface ss) all

def addIface (env : Env) (state : Subsystem × List StatusWrite) (row : InterfaceRow) : Subsystem × List StatusWrite :=
  if (Keyed.lookup Iface.name row.name state.1.ifaceByName).isSome then state else ifaceCreate env state row

-- Split parents are created before the other interfaces.
def subsystemAddIfaces (env : Env) (ss : Subsystem) : Subsystem × List StatusWrite :=
  let wanted := env.order.walk (subsystemCollectWantedIfaces ss)
  let state := (wanted.filter (fun row => row.nSplitChildren ≠ 0)).foldl (addIface env) (ss, [])
  (wanted.filter (fun row => row.nSplitChildren = 0)).foldl (addIface env) state

-- subsystem_reconfigure_ifaces only hands a modified hw_intf_config to the
-- device and is left out.
def subsystemReconfigure (env : Env) (rows : List SubsystemRow) (all : List Subsystem) :
    Option (List Subsystem × List StatusWrite) := do
  let all ← addDelSubsystems env.order rows all
  let all ← (env.order.walk all).foldlM (subsystemDelIfaces env.order) all
  let added := all.map (subsystemAddIfaces env)
  return (added.map Prod.fst, (env.order.walk added).flatMap Prod.snd)

def subsystemExit (order : HashOrder) (all : List Subsystem) : Option (List Subsystem) :=
  (order.walk all).foldlM (subsystemDestroy order) all

def refreshSubsystem (netdevs : String → Netdev) (ss : Subsystem) : Subsystem :=
  { ss with ifaceByName := ss.ifaceByName.map (fun iface => (ifaceRefreshNetdevStatus netdevs iface).1) }

def runStatusUpdate (env : Env) (all : List Subsystem) : List Subsystem × List StatusWrite :=
  (all.map (refreshSubsystem env.netdevs),
    (env.order.walk all).flatMap (fun ss =>
      (env.order.walk ss.ifaceByName).flatMap (fun iface => (ifaceRefreshNetdevStatus env.netdevs iface).2)))

end OpsSwitchd.Subsystems
