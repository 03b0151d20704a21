import OpsSwitchd.LevelRequests
import OpsSwitchd.MacFlush

set_option autoImplicit false

namespace OpsSwitchd

-- get_plugin_asic_interface finds an interface or not, and the interface
-- provides l2_addr_flush or not.
abbrev AsicInterface := Option Bool

-- The flushes of the hardware, and whether the empty cell is then committed:
-- macs_invalid of the row is not looked at.
def macFlushOnVlan (asic : AsicInterface) (id : Int) : List MacFlush × Bool :=
  match asic with
  | none => ([], false)
  | some provided => (if provided then [.byVlan id] else [], true)

-- bondHwHandle is -1 when the status of the row has no handle.
structure FlushPort where
  name : String
  bondHwHandle : Int

structure PortCell where
  macsInvalid : List Bool
  macsInvalidOnVlans : List Int
deriving DecidableEq, Repr

def trunkOrPort (port : FlushPort) (byTrunk : String → Int → MacFlush) (byPort : String → MacFlush) : Option MacFlush :=
  if isLagName port.name then
    if port.bondHwHandle ≠ -1 then some (byTrunk (portNameField port.name) port.bondHwHandle) else none
  else some (byPort (portNameField port.name))

def portFlush (port : FlushPort) : Option MacFlush := trunkOrPort port .byTrunk .byPort

def portVlanFlush (port : FlushPort) (vlan : Int) : Option MacFlush :=
  trunkOrPort port (fun name tgid => .byTrunkVlan name tgid vlan) (fun name => .byPortVlan name vlan)

def portFlushes (port : FlushPort) (cell : PortCell) : List MacFlush :=
  (cell.macsInvalid.filter id).filterMap (fun _ => portFlush port) ++ cell.macsInvalidOnVlans.filterMap (portVlanFlush port)

-- modified is also set for a LAG without a handle, whose request is only logged.
def macFlushOnPort (asic : AsicInterface) (port : FlushPort) (cell : PortCell) : List MacFlush × Bool :=
  match asic with
  | none => ([], false)
  | some provided =>
      (if provided then portFlushes port cell else [], cell.macsInvalid.any id || !cell.macsInvalidOnVlans.isEmpty)

-- A step look of the cell's system is a run() that finds the row modified
-- since maclearn_idl_seqno and a column of macs_invalid with it.
def vlanHandler (asic : AsicInterface) (id : Int) : LevelRequests.Handler Unit (List Bool) where
  empty := []
  set := fun _ _ => [true]
  acts := fun _ _ => decide (.byVlan id ∈ (macFlushOnVlan asic id).1)
  clears := fun _ => (macFlushOnVlan asic id).2

inductive PortRequest where
  | macs
  | macsOnVlan (vlan : Int)
deriving DecidableEq, Repr

def setRequest : PortRequest → PortCell → PortCell
  | .macs, cell => { cell with macsInvalid := [true] }
  | .macsOnVlan vlan, cell =>
      if vlan ∈ cell.macsInvalidOnVlans then cell
      else { cell with macsInvalidOnVlans := cell.macsInvalidOnVlans ++ [vlan] }

def askedOf (port : FlushPort) (byTrunk : String → Int → MacFlush) (byPort : String → MacFlush) : MacFlush :=
  if isLagName port.name then byTrunk port.name port.bondHwHandle else byPort port.name

def askedFlush (port : FlushPort) : PortRequest → MacFlush
  | .macs => askedOf port .byTrunk .byPort
  | .macsOnVlan vlan => askedOf port (fun name tgid => .byTrunkVlan name tgid vlan) (fun name => .byPortVlan name vlan)

-- Both verifies follow the writes of their columns, so the commit is as
-- unconditional as that of a VLAN.
def portHandler (asic : AsicInterface) (port : FlushPort) : LevelRequests.Handler PortRequest PortCell where
  empty := ⟨[], []⟩
  set := setRequest
  acts := fun cell request => decide (askedFlush port request ∈ (macFlushOnPort asic port cell).1)
  clears := fun cell => (macFlushOnPort asic port cell).2

structure Flushable (port : FlushPort) : Prop where
  short : port.name.toList.length ≤ portNameSize
  handle : isLagName port.name = true → port.bondHwHandle ≠ -1

theorem vlan_handler_lawful (id : Int) : LevelRequests.Lawful (vlanHandler (some true) id) where
  acts_set := fun _ _ => by simp [vlanHandler, macFlushOnVlan]
  acts_more := fun _ _ _ acts => acts
  set_ne := fun _ _ => by simp [vlanHandler]

theorem trunk_or_port_asked (port : FlushPort) (flushable : Flushable port) (byTrunk : String → Int → MacFlush)
    (byPort : String → MacFlush) : trunkOrPort port byTrunk byPort = some (askedOf port byTrunk byPort) := by
  have name := (port_name_field_eq_iff port.name).mpr flushable.short
  rw [trunkOrPort, askedOf, name]
  cases lag : isLagName port.name with
  | false => rfl
  | true => exact if_pos (flushable.handle lag)

theorem set_on_vlan_macs (vlan : Int) (cell : PortCell) :
    (setRequest (.macsOnVlan vlan) cell).macsInvalid = cell.macsInvalid := by
  simp only [setRequest]
  split <;> rfl

theorem mem_set_on_vlan (vlan other : Int) (cell : PortCell) :
    other ∈ (setRequest (.macsOnVlan vlan) cell).macsInvalidOnVlans ↔ other ∈ cell.macsInvalidOnVlans ∨ other = vlan := by
  simp only [setRequest]
  split
  · rename_i present
    constructor
    · exact .inl
    · rintro (member | rfl)
      · exact member
      · exact present
  · simp

theorem asked_in_flushes (port : FlushPort) (flushable : Flushable port) (request : PortRequest) (cell : PortCell) :
    askedFlush port request ∈ portFlushes port (setRequest request cell) := by
  cases request with
  | macs =>
      refine List.mem_append_left _ (List.mem_filterMap.mpr ⟨true, ?_, trunk_or_port_asked port flushable _ _⟩)
      simp [setRequest]
  | macsOnVlan vlan =>
      refine List.mem_append_right _ (List.mem_filterMap.mpr ⟨vlan, ?_, trunk_or_port_asked port flushable _ _⟩)
      exact (mem_set_on_vlan vlan vlan cell).mpr (.inr rfl)

theorem flushes_grow (port : FlushPort) (request : PortRequest) (cell : PortCell) (flush : MacFlush)
    (member : flush ∈ portFlushes port cell) : flush ∈ portFlushes port (setRequest request cell) := by
  rcases List.mem_append.mp member with whole | onVlan
  · obtain ⟨invalid, set, made⟩ := List.mem_filterMap.mp whole
    refine List.mem_append_left _ ?_
    cases request with
    | macs => exact List.mem_filterMap.mpr ⟨true, by simp [setRequest], made⟩
    | macsOnVlan vlan =>
        rw [set_on_vlan_macs]
        exact whole
  · obtain ⟨vlan, set, made⟩ := List.mem_filterMap.mp onVlan
    refine List.mem_append_right _ (List.mem_filterMap.mpr ⟨vlan, ?_, made⟩)
    cases request with
    | macs => exact set
    | macsOnVlan other => exact (mem_set_on_vlan other vlan cell).mpr (.inl set)

theorem set_request_ne (request : PortRequest) (cell : PortCell) : setRequest request cell ≠ ⟨[], []⟩ := by
  intro empty
  cases request with
  | macs => simp [setRequest] at empty
  | macsOnVlan vlan =>
      have member := (mem_set_on_vlan vlan vlan cell).mpr (.inr rfl)
      simp [empty] at member

theorem port_handler_lawful (port : FlushPort) (flushable : Flushable port) :
    LevelRequests.Lawful (portHandler (some true) port) where
  acts_set := fun request cell => decide_eq_true (asked_in_flushes port flushable request cell)
  acts_more := fun request cell other acts =>
    decide_eq_true (flushes_grow port request cell (askedFlush port other) (of_decide_eq_true acts))
  set_ne := set_request_ne

def RequestsAnswered {ρ κ : Type} [DecidableEq κ] (handler : LevelRequests.Handler ρ κ)
    (ops : List (LevelRequests.Op ρ)) : Prop :=
  Runs.Always (LevelRequests.step handler) (LevelRequests.Answered handler) (LevelRequests.start handler) ops

def RequestsKept {ρ κ : Type} [DecidableEq κ] (handler : LevelRequests.Handler ρ κ)
    (ops : List (LevelRequests.Op ρ)) : Prop :=
  Runs.Along (LevelRequests.step handler) (LevelRequests.Kept handler) (LevelRequests.start handler) ops

end OpsSwitchd
