import OpsSwitchd.Vlan

set_option autoImplicit false

namespace OpsSwitchd

def vlanEnabled (calls : List OfprotoCall) (vid : Int) : Bool :=
  calls.foldl (fun bit call =>
    match call with
    | .setVlan target enable => if target = vid then enable else bit
    | _ => bit) false

theorem vlan_enabled_set (calls : List OfprotoCall) (target vid : Int) (enable : Bool) :
    vlanEnabled (calls ++ [.setVlan target enable]) vid = if target = vid then enable else vlanEnabled calls vid := by
  simp [vlanEnabled]

def rowFlagged (row : VlanRow) : Bool := row.inserted || row.modified

def checkedVlan (vlan : Vlan) : Vlan :=
  if rowFlagged vlan.cfg then { vlan with enable := vlanHwEnable vlan.cfg } else vlan

theorem vlan_update_lookup (br : Bridge) (vlan : Vlan) (name : String) :
    vlanLookupByName (vlanUpdate br vlan) name =
      if name = vlan.name then (vlanLookupByName br name).map (fun _ => vlan) else vlanLookupByName br name := by
  have kept : ∀ a ∈ br.vlans, a.name = vlan.name → Vlan.name ((fun _ => vlan) a) = Vlan.name a :=
    fun a _ equal => equal.symm
  by_cases here : name = vlan.name
  · subst here
    simp [vlanLookupByName, vlanUpdate, Keyed.lookup_replace_self Vlan.name vlan.name _ br.vlans kept]
  · simp [here, vlanLookupByName, vlanUpdate, Keyed.lookup_replace_other Vlan.name here _ br.vlans kept]

def vlanToggles (vlan : Vlan) : Prop := rowFlagged vlan.cfg ∧ vlanHwEnable vlan.cfg ≠ vlan.enable

instance (vlan : Vlan) : Decidable (vlanToggles vlan) := inferInstanceAs (Decidable (_ ∧ _))

theorem check_vlan_change_eq (br : Bridge) (vlan : Vlan) :
    checkVlanChange br vlan =
      if vlanToggles vlan then
        (vlanUpdate br { vlan with enable := vlanHwEnable vlan.cfg }).emit (.setVlan vlan.vid (vlanHwEnable vlan.cfg))
      else br := by
  unfold checkVlanChange vlanToggles rowFlagged
  by_cases flagged : (vlan.cfg.inserted || vlan.cfg.modified) = true <;> simp [flagged]

theorem check_vlan_change_lookup (br : Bridge) (vlan : Vlan) (name : String) :
    vlanLookupByName (checkVlanChange br vlan) name =
      if name = vlan.name ∧ vlanToggles vlan then
        (vlanLookupByName br name).map (fun _ => { vlan with enable := vlanHwEnable vlan.cfg })
      else vlanLookupByName br name := by
  rw [check_vlan_change_eq]
  by_cases toggles : vlanToggles vlan
  · have emitted : vlanLookupByName ((vlanUpdate br { vlan with enable := vlanHwEnable vlan.cfg }).emit
        (.setVlan vlan.vid (vlanHwEnable vlan.cfg))) name =
        vlanLookupByName (vlanUpdate br { vlan with enable := vlanHwEnable vlan.cfg }) name := rfl
    rw [if_pos toggles, emitted, vlan_update_lookup]
    simp [toggles]
  · simp [toggles]

theorem check_vlan_change_enabled (br : Bridge) (vlan : Vlan) (vid : Int) :
    vlanEnabled (checkVlanChange br vlan).calls vid =
      if vid = vlan.vid ∧ vlanToggles vlan then vlanHwEnable vlan.cfg else vlanEnabled br.calls vid := by
  rw [check_vlan_change_eq]
  by_cases toggles : vlanToggles vlan
  · simp [toggles, vlanUpdate, Bridge.emit, vlan_enabled_set, eq_comm]
  · simp [toggles]

theorem delete_old_vlan_lookup (idlVlans : List VlanRow) (br : Bridge) (vlan : Vlan) (name : String) :
    vlanLookupByName (deleteOldVlan idlVlans br vlan) name =
      if name = vlan.name then
        (Keyed.lookup VlanRow.name vlan.name idlVlans).bind
          (fun row => (vlanLookupByName br name).map (fun _ => { vlan with cfg := row }))
      else vlanLookupByName br name := by
  unfold deleteOldVlan
  cases found : Keyed.lookup VlanRow.name vlan.name idlVlans with
  | none =>
      by_cases here : name = vlan.name
      · subst here
        simp [vlanLookupByName, vlanDestroy, Bridge.emit, Keyed.lookup_remove_self]
      · simp [here, vlanLookupByName, vlanDestroy, Bridge.emit, Keyed.lookup_remove_other Vlan.name here]
  | some row => simp [vlan_update_lookup]

theorem delete_old_vlan_enabled (idlVlans : List VlanRow) (br : Bridge) (vlan : Vlan) (vid : Int) :
    vlanEnabled (deleteOldVlan idlVlans br vlan).calls vid =
      if vid = vlan.vid ∧ Keyed.lookup VlanRow.name vlan.name idlVlans = none then false
      else vlanEnabled br.calls vid := by
  unfold deleteOldVlan
  cases found : Keyed.lookup VlanRow.name vlan.name idlVlans with
  | none =>
      by_cases here : vid = vlan.vid
      · simp [here, vlanDestroy, Bridge.emit, vlan_enabled_set]
      · simp [here, Ne.symm here, vlanDestroy, Bridge.emit, vlan_enabled_set]
  | some row => simp [vlanUpdate]

theorem add_new_vlan_lookup (br : Bridge) (row : VlanRow) (name : String) :
    vlanLookupByName (addNewVlan br row) name =
      if name = row.name then some ((vlanLookupByName br name).getD ⟨row.name, row.id, row, false⟩)
      else vlanLookupByName br name := by
  unfold addNewVlan
  by_cases here : name = row.name
  · subst here
    cases found : vlanLookupByName br row.name with
    | none => simp [vlanLookupByName, vlanCreate, Keyed.lookup_cons]
    | some vlan => simp [found]
  · by_cases present : (vlanLookupByName br row.name).isSome
    · simp [present, here]
    · rw [if_neg present, if_neg here]
      simp [vlanLookupByName, vlanCreate, Keyed.lookup_cons, Ne.symm here]

theorem add_new_vlan_calls (rows : List VlanRow) (br : Bridge) : (rows.foldl addNewVlan br).calls = br.calls := by
  induction rows generalizing br with
  | nil => rfl
  | cons row tail ih =>
      rw [List.foldl_cons, ih, addNewVlan]
      split <;> rfl

theorem delete_phase_lookup (order : HashOrder) (idlVlans : List VlanRow) (br : Bridge)
    (names : Keyed.Unique Vlan.name br.vlans) (name : String) :
    vlanLookupByName ((order.walk br.vlans).foldl (deleteOldVlan idlVlans) br) name =
      (vlanLookupByName br name).bind (fun vlan =>
        (Keyed.lookup VlanRow.name name idlVlans).map (fun row => { vlan with cfg := row })) := by
  have walked := Keyed.unique_perm Vlan.name (order.perm br.vlans).symm names
  have loop := Keyed.foldl_view Vlan.name (deleteOldVlan idlVlans) vlanLookupByName
    (fun vlan before => (Keyed.lookup VlanRow.name vlan.name idlVlans).bind
      (fun row => before.map (fun _ => { vlan with cfg := row }))) (fun _ => True) walked (fun _ _ _ _ => trivial)
    (fun s vlan _ _ => by simp [delete_old_vlan_lookup])
    (fun s vlan _ k different _ => by simp [delete_old_vlan_lookup, different])
  rw [loop br trivial, Keyed.lookup_perm Vlan.name (order.perm br.vlans) walked name]
  cases found : Keyed.lookup Vlan.name name br.vlans with
  | none => simp [vlanLookupByName, found]
  | some vlan =>
      obtain rfl := Keyed.lookup_key Vlan.name found
      cases wanted : Keyed.lookup VlanRow.name vlan.name idlVlans <;> simp [vlanLookupByName, found, wanted]

theorem add_phase_lookup (order : HashOrder) (idlVlans : List VlanRow) (br : Bridge)
    (names : Keyed.Unique VlanRow.name idlVlans) (name : String) :
    vlanLookupByName ((order.walk idlVlans).foldl addNewVlan br) name =
      (Keyed.lookup VlanRow.name name idlVlans).elim (vlanLookupByName br name)
        (fun row => some ((vlanLookupByName br name).getD ⟨row.name, row.id, row, false⟩)) := by
  have walked := Keyed.unique_perm VlanRow.name (order.perm idlVlans).symm names
  have loop := Keyed.foldl_view VlanRow.name addNewVlan vlanLookupByName
    (fun row before => some (before.getD ⟨row.name, row.id, row, false⟩)) (fun _ => True) walked
    (fun _ _ _ _ => trivial) (fun s row _ _ => by simp [add_new_vlan_lookup])
    (fun s row _ k different _ => by simp [add_new_vlan_lookup, different])
  rw [loop br trivial, Keyed.lookup_perm VlanRow.name (order.perm idlVlans) walked name]

theorem check_phase_lookup (order : HashOrder) (br : Bridge) (names : Keyed.Unique Vlan.name br.vlans)
    (name : String) :
    vlanLookupByName ((order.walk br.vlans).foldl checkVlanChange br) name =
      (vlanLookupByName br name).map checkedVlan := by
  have walked := Keyed.unique_perm Vlan.name (order.perm br.vlans).symm names
  have loop := Keyed.foldl_view Vlan.name checkVlanChange vlanLookupByName
    (fun vlan before => if vlanToggles vlan then
      before.map (fun _ => { vlan with enable := vlanHwEnable vlan.cfg }) else before) (fun _ => True) walked
    (fun _ _ _ _ => trivial) (fun s vlan _ _ => by simp [check_vlan_change_lookup])
    (fun s vlan _ k different _ => by simp [check_vlan_change_lookup, different])
  rw [loop br trivial, Keyed.lookup_perm Vlan.name (order.perm br.vlans) walked name]
  cases found : Keyed.lookup Vlan.name name br.vlans with
  | none => simp [vlanLookupByName, found]
  | some vlan =>
      unfold checkedVlan vlanToggles
      by_cases flagged : rowFlagged vlan.cfg = true <;> by_cases same : vlanHwEnable vlan.cfg = vlan.enable <;>
        simp [vlanLookupByName, found, flagged, same]

theorem delete_phase_enabled (order : HashOrder) (idlVlans : List VlanRow) (br : Bridge)
    (vids : Keyed.Unique Vlan.vid br.vlans) (vid : Int) :
    vlanEnabled ((order.walk br.vlans).foldl (deleteOldVlan idlVlans) br).calls vid =
      (Keyed.lookup Vlan.vid vid br.vlans).elim (vlanEnabled br.calls vid) (fun vlan =>
        if Keyed.lookup VlanRow.name vlan.name idlVlans = none then false else vlanEnabled br.calls vid) := by
  have walked := Keyed.unique_perm Vlan.vid (order.perm br.vlans).symm vids
  have loop := Keyed.foldl_view Vlan.vid (deleteOldVlan idlVlans) (fun s => vlanEnabled s.calls)
    (fun vlan before => if Keyed.lookup VlanRow.name vlan.name idlVlans = none then false else before)
    (fun _ => True) walked (fun _ _ _ _ => trivial) (fun s vlan _ _ => by simp [delete_old_vlan_enabled])
    (fun s vlan _ k different _ => by simp [delete_old_vlan_enabled, different])
  rw [loop br trivial, Keyed.lookup_perm Vlan.vid (order.perm br.vlans) walked vid]

theorem check_phase_enabled (order : HashOrder) (br : Bridge) (vids : Keyed.Unique Vlan.vid br.vlans) (vid : Int) :
    vlanEnabled ((order.walk br.vlans).foldl checkVlanChange br).calls vid =
      (Keyed.lookup Vlan.vid vid br.vlans).elim (vlanEnabled br.calls vid) (fun vlan =>
        if vlanToggles vlan then vlanHwEnable vlan.cfg else vlanEnabled br.calls vid) := by
  have walked := Keyed.unique_perm Vlan.vid (order.perm br.vlans).symm vids
  have loop := Keyed.foldl_view Vlan.vid checkVlanChange (fun s => vlanEnabled s.calls)
    (fun vlan before => if vlanToggles vlan then vlanHwEnable vlan.cfg else before)
    (fun _ => True) walked (fun _ _ _ _ => trivial) (fun s vlan _ _ => by simp [check_vlan_change_enabled])
    (fun s vlan _ k different _ => by simp [check_vlan_change_enabled, different])
  rw [loop br trivial, Keyed.lookup_perm Vlan.vid (order.perm br.vlans) walked vid]

end OpsSwitchd
