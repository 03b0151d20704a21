import OpsSwitchd.Mirrors
import OpsSwitchd.Positional
import OpsSwitchd.Switch

set_option autoImplicit false

namespace OpsSwitchd.MirrorPorts

inductive Owner where
  | bridge (name : String)
  | vrf (name : String)
deriving DecidableEq, Repr

structure MirrorBundle where
  ofproto : Owner
  aux : PortRef
deriving DecidableEq, Repr

-- The first owner that has the port decides, also when it has no ofproto.
def firstOwner (name : String) (owners : List (Owner × Bridge)) : Option (Option MirrorBundle) :=
  owners.findSome? (fun owner => (owner.2.portLookup name).map (fun port =>
    if owner.2.ofproto then some ⟨owner.1, port.self⟩ else none))

def mirrorPortLookup (order : HashOrder) (switch : Switch) (name : String) : Option MirrorBundle :=
  match firstOwner name ((order.walk switch.bridges).map (fun br => (.bridge br.name, br))) with
  | some bundle => bundle
  | none =>
      match firstOwner name ((order.walk switch.vrfs).map (fun vrf => (.vrf vrf.up.name, vrf.up))) with
      | some bundle => bundle
      | none => none

-- xcalloc leaves the slot of a port that is not found empty.
def mirrorCollectPorts (order : HashOrder) (switch : Switch) (inPorts : List String) : Positional.Filled MirrorBundle :=
  Positional.fill (mirrorPortLookup order switch) (fun name => (mirrorPortLookup order switch name).isSome) inPorts

theorem collect_ports_names (env : Mirrors.MirrorEnv) (order : HashOrder) (switch : Switch) (inPorts : List String)
    (looks : ∀ name, env.portLookup name = (mirrorPortLookup order switch name).isSome) :
    (Mirrors.mirrorCollectPorts env inPorts).1.map Option.isSome =
        (mirrorCollectPorts order switch inPorts).slots.map Option.isSome ∧
      (Mirrors.mirrorCollectPorts env inPorts).2 = (mirrorCollectPorts order switch inPorts).count := by
  unfold mirrorCollectPorts Mirrors.mirrorCollectPorts
  rw [Positional.fill_eq, funext looks]
  refine ⟨?_, rfl⟩
  rw [List.map_map, List.map_map]
  refine List.map_congr_left (fun name _ => ?_)
  cases found : mirrorPortLookup order switch name with
  | none => simp [found]
  | some bundle => simp [found]

def SourcesExact (order : HashOrder) (switch : Switch) (inPorts : List String) : Prop :=
  (mirrorCollectPorts order switch inPorts).slots.take (mirrorCollectPorts order switch inPorts).count =
    (inPorts.filterMap (mirrorPortLookup order switch)).map some

instance (order : HashOrder) (switch : Switch) (inPorts : List String) : Decidable (SourcesExact order switch inPorts) :=
  inferInstanceAs (Decidable (_ = _))

theorem sources_exact_iff (order : HashOrder) (switch : Switch) (inPorts : List String) :
    SourcesExact order switch inPorts ↔
      inPorts.Pairwise (fun first second =>
        (mirrorPortLookup order switch second).isSome → (mirrorPortLookup order switch first).isSome) :=
  Positional.read_back_iff _ _ (fun _ _ => rfl)

def onePortSwitch : Switch where
  bridges := [{ bridgeCreate id ⟨"bridge_normal", "system", [], [], []⟩ with
    ofproto := true, ports := [⟨⟨0, "1"⟩, none, []⟩] }]
  vrfs := []

-- Port 9 is gone: the count is 1, and slot 0 is empty.
theorem missing_port_leaves_hole : ¬ SourcesExact HashOrder.listed onePortSwitch ["9", "1"] := by
  decide

end OpsSwitchd.MirrorPorts
