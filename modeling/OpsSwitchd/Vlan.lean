import OpsSwitchd.Bridge
import OpsSwitchd.Runs

set_option autoImplicit false

namespace OpsSwitchd

def vlanLookupByName (br : Bridge) (name : String) : Option Vlan := Keyed.lookup Vlan.name name br.vlans

-- VLAN ids are 12 bits wide, so the cast of the column to int keeps them.
def vlanCreate (br : Bridge) (row : VlanRow) : Bridge :=
  { br with vlans := ⟨row.name, row.id, row, false⟩ :: br.vlans }

def vlanDestroy (br : Bridge) (vlan : Vlan) : Bridge :=
  { br with vlans := Keyed.remove Vlan.name vlan.name br.vlans }

def vlanUpdate (br : Bridge) (vlan : Vlan) : Bridge :=
  { br with vlans := Keyed.replace Vlan.name vlan.name (fun _ => vlan) br.vlans }

def vlanHwEnable (row : VlanRow) : Bool := smapGet row.hwVlanConfig "enable" = some "true"

def deleteOldVlan (idlVlans : List VlanRow) (br : Bridge) (vlan : Vlan) : Bridge :=
  match Keyed.lookup VlanRow.name vlan.name idlVlans with
  | none => vlanDestroy (br.emit (.setVlan vlan.vid false)) vlan
  | some row => vlanUpdate br { vlan with cfg := row }

def addNewVlan (br : Bridge) (row : VlanRow) : Bridge :=
  if (vlanLookupByName br row.name).isSome then br else vlanCreate br row

def checkVlanChange (br : Bridge) (vlan : Vlan) : Bridge :=
  if vlan.cfg.inserted || vlan.cfg.modified then
    let newEnable := vlanHwEnable vlan.cfg
    if newEnable ≠ vlan.enable then
      (vlanUpdate br { vlan with enable := newEnable }).emit (.setVlan vlan.vid newEnable)
    else br
  else br

def cfgVlans (br : Bridge) : List VlanRow := (br.cfg.map BridgeRow.vlans).getD []

def bridgeConfigureVlans (order : HashOrder) (br : Bridge) : Bridge :=
  let idlVlans := Keyed.collect VlanRow.name (cfgVlans br)
  let br := (order.walk br.vlans).foldl (deleteOldVlan idlVlans) br
  let br := (order.walk idlVlans).foldl addNewVlan br
  (order.walk br.vlans).foldl checkVlanChange br

end OpsSwitchd
