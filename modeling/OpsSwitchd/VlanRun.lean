import OpsSwitchd.VlanSync

set_option autoImplicit false

namespace OpsSwitchd

structure VlanState where
  br : Bridge
  rows : List VlanRow

structure VlanBatch where
  row : BridgeRow
  order : HashOrder

def vlanStep (state : VlanState) (batch : VlanBatch) : VlanState :=
  ⟨bridgeConfigureVlans batch.order { state.br with cfg := some batch.row }, batch.row.vlans⟩

structure VlanBatchValid (state : VlanState) (batch : VlanBatch) : Prop where
  names : Keyed.Unique VlanRow.name batch.row.vlans
  ids : Keyed.Unique VlanRow.id batch.row.vlans
  unflagged : ∀ row ∈ batch.row.vlans, rowFlagged row = false → ∀ prior ∈ state.rows, prior.uuid = row.uuid →
    prior.name = row.name ∧ prior.id = row.id ∧ prior.hwVlanConfig = row.hwVlanConfig

def VlansFollow (state : VlanState) : Prop :=
  (∀ vid, vlanEnabled state.br.calls vid = true ↔ ∃ row ∈ state.rows, row.id = vid ∧ vlanHwEnable row = true) ∧
  ∀ vlan ∈ state.br.vlans, ∃ row ∈ state.rows, row.name = vlan.name ∧ row.id = vlan.vid

def cachedEnable (br : Bridge) (name : String) : Bool := (vlanLookupByName br name).elim false Vlan.enable

def VlanJoinSafe (state : VlanState) (batch : VlanBatch) : Prop :=
  ∀ row ∈ batch.row.vlans,
    (∀ vlan ∈ state.br.vlans, vlan.name = row.name → vlan.vid = row.id) ∧
    (rowFlagged row = false → (∀ prior ∈ state.rows, prior.uuid ≠ row.uuid) →
      vlanHwEnable row = cachedEnable state.br row.name)

structure VlanInv (state : VlanState) : Prop where
  names : Keyed.Unique VlanRow.name state.rows
  ids : Keyed.Unique VlanRow.id state.rows
  vlanNames : Keyed.Unique Vlan.name state.br.vlans
  cached : ∀ name, (vlanLookupByName state.br name).map (fun vlan => (vlan.vid, vlan.enable)) =
    (Keyed.lookup VlanRow.name name state.rows).map (fun row => (row.id, vlanHwEnable row))
  bits : ∀ vid, vlanEnabled state.br.calls vid = true ↔ ∃ row ∈ state.rows, row.id = vid ∧ vlanHwEnable row = true

section Batches

variable (order : HashOrder) (state : VlanState) (batch : VlanBatch)

theorem vlan_inv_row (inv : VlanInv state) (vlan : Vlan) (member : vlan ∈ state.br.vlans) :
    ∃ row ∈ state.rows, row.name = vlan.name ∧ row.id = vlan.vid ∧ vlanHwEnable row = vlan.enable := by
  have found : vlanLookupByName state.br vlan.name = some vlan := Keyed.lookup_of_mem Vlan.name inv.vlanNames member
  have pair := inv.cached vlan.name
  rw [found, Option.map_some] at pair
  obtain ⟨row, lookup, same⟩ := Option.map_eq_some_iff.mp pair.symm
  obtain ⟨idSame, enableSame⟩ := Prod.mk.inj same
  exact ⟨row, Keyed.lookup_mem VlanRow.name lookup, Keyed.lookup_key VlanRow.name lookup, idSame, enableSame⟩

theorem vlan_inv_cached (inv : VlanInv state) (row : VlanRow) (member : row ∈ state.rows) :
    ∃ vlan ∈ state.br.vlans, vlan.name = row.name ∧ vlan.vid = row.id ∧ vlan.enable = vlanHwEnable row := by
  have pair := inv.cached row.name
  rw [Keyed.lookup_of_mem VlanRow.name inv.names member, Option.map_some] at pair
  obtain ⟨vlan, lookup, same⟩ := Option.map_eq_some_iff.mp pair
  obtain ⟨vidSame, enableSame⟩ := Prod.mk.inj same
  exact ⟨vlan, Keyed.lookup_mem Vlan.name lookup, Keyed.lookup_key Vlan.name lookup, vidSame, enableSame⟩

theorem vlan_inv_vids (inv : VlanInv state) : Keyed.Unique Vlan.vid state.br.vlans := by
  refine List.Nodup.map_on ?_ (List.Nodup.of_map _ inv.vlanNames)
  intro a left b right same
  obtain ⟨rowA, memberA, nameA, idA, _⟩ := vlan_inv_row state inv a left
  obtain ⟨rowB, memberB, nameB, idB, _⟩ := vlan_inv_row state inv b right
  have rows : rowA = rowB := Keyed.unique_mem_eq VlanRow.id inv.ids memberA memberB (by rw [idA, idB, same])
  exact Keyed.unique_mem_eq Vlan.name inv.vlanNames left right (by rw [← nameA, ← nameB, rows])

theorem vlan_inv_follows (inv : VlanInv state) : VlansFollow state := by
  refine ⟨inv.bits, ?_⟩
  intro vlan member
  obtain ⟨row, present, name, id, _⟩ := vlan_inv_row state inv vlan member
  exact ⟨row, present, name, id⟩

theorem delete_old_vlan_names (idlVlans : List VlanRow) (br : Bridge) (vlan : Vlan)
    (names : Keyed.Unique Vlan.name br.vlans) : Keyed.Unique Vlan.name (deleteOldVlan idlVlans br vlan).vlans := by
  unfold deleteOldVlan
  split
  · exact Keyed.unique_remove Vlan.name names vlan.name
  · exact Keyed.unique_replace Vlan.name names vlan.name _ (fun a _ same => same.symm)

theorem add_new_vlan_names (br : Bridge) (row : VlanRow) (names : Keyed.Unique Vlan.name br.vlans) :
    Keyed.Unique Vlan.name (addNewVlan br row).vlans := by
  unfold addNewVlan
  split
  · exact names
  · rename_i absent
    refine Keyed.unique_cons Vlan.name names ?_
    exact (Keyed.lookup_none_iff Vlan.name).mp (by simpa [vlanLookupByName] using absent)

def preparedVlan (br : Bridge) (row : VlanRow) : Vlan :=
  (vlanLookupByName br row.name).elim ⟨row.name, row.id, row, false⟩ (fun vlan => { vlan with cfg := row })

theorem prepared_vlan_cfg (br : Bridge) (row : VlanRow) : (preparedVlan br row).cfg = row := by
  unfold preparedVlan
  cases vlanLookupByName br row.name <;> rfl

theorem prepared_vlan_enable (br : Bridge) (row : VlanRow) : (preparedVlan br row).enable = cachedEnable br row.name := by
  unfold preparedVlan cachedEnable
  cases vlanLookupByName br row.name <;> rfl

def preparedBridge (order : HashOrder) (br : Bridge) (rows : List VlanRow) : Bridge :=
  (order.walk (Keyed.collect VlanRow.name rows)).foldl addNewVlan
    ((order.walk br.vlans).foldl (deleteOldVlan (Keyed.collect VlanRow.name rows)) br)

theorem prepared_bridge_names (br : Bridge) (rows : List VlanRow)
    (names : Keyed.Unique Vlan.name br.vlans) : Keyed.Unique Vlan.name (preparedBridge order br rows).vlans := by
  apply Keyed.foldl_keeps addNewVlan (fun s => Keyed.Unique Vlan.name s.vlans)
    (fun s row _ unique => add_new_vlan_names s row unique)
  exact Keyed.foldl_keeps (deleteOldVlan _) (fun s => Keyed.Unique Vlan.name s.vlans)
    (fun s vlan _ unique => delete_old_vlan_names _ s vlan unique) names

theorem prepared_bridge_lookup (br : Bridge) (rows : List VlanRow)
    (names : Keyed.Unique Vlan.name br.vlans) (name : String) :
    vlanLookupByName (preparedBridge order br rows) name =
      (Keyed.lookup VlanRow.name name rows).map (preparedVlan br) := by
  rw [preparedBridge, add_phase_lookup order _ _ (Keyed.unique_collect VlanRow.name rows),
    delete_phase_lookup order _ br names, Keyed.lookup_collect]
  cases wanted : Keyed.lookup VlanRow.name name rows with
  | none => cases vlanLookupByName br name <;> rfl
  | some row =>
      have named := Keyed.lookup_key VlanRow.name wanted
      cases found : vlanLookupByName br name with
      | none => simp [preparedVlan, named, found]
      | some vlan => simp [preparedVlan, named, found]

def NamesKeepIds (state : VlanState) (rows : List VlanRow) : Prop :=
  ∀ row ∈ rows, ∀ vlan ∈ state.br.vlans, vlan.name = row.name → vlan.vid = row.id

theorem prepared_vlan_vid (rows : List VlanRow) (keeps : NamesKeepIds state rows) (row : VlanRow)
    (member : row ∈ rows) : (preparedVlan state.br row).vid = row.id := by
  unfold preparedVlan
  cases found : vlanLookupByName state.br row.name with
  | none => rfl
  | some vlan => exact keeps row member vlan (Keyed.lookup_mem Vlan.name found) (Keyed.lookup_key Vlan.name found)

theorem enabled_has_vlan (inv : VlanInv state) (vid : Int)
    (enabled : vlanEnabled state.br.calls vid = true) : ∃ vlan ∈ state.br.vlans, vlan.vid = vid := by
  obtain ⟨row, member, rfl, _⟩ := (inv.bits vid).mp enabled
  obtain ⟨vlan, present, _, same, _⟩ := vlan_inv_cached state inv row member
  exact ⟨vlan, present, same⟩

theorem enabled_of_vlan (inv : VlanInv state) (vlan : Vlan) (member : vlan ∈ state.br.vlans) :
    vlanEnabled state.br.calls vlan.vid = vlan.enable := by
  obtain ⟨row, present, _, id, enable⟩ := vlan_inv_row state inv vlan member
  rw [Bool.eq_iff_iff, inv.bits, ← enable]
  constructor
  · rintro ⟨other, otherMember, same, on⟩
    rwa [Keyed.unique_mem_eq VlanRow.id inv.ids present otherMember (by rw [id, same])]
  · intro on
    exact ⟨row, present, id, on⟩

theorem deleted_enabled (inv : VlanInv state) (rows : List VlanRow)
    (names : Keyed.Unique VlanRow.name rows) (ids : Keyed.Unique VlanRow.id rows) (keeps : NamesKeepIds state rows) :
    let bit := vlanEnabled ((order.walk state.br.vlans).foldl
      (deleteOldVlan (Keyed.collect VlanRow.name rows)) state.br).calls
    (∀ row ∈ rows, bit row.id = cachedEnable state.br row.name) ∧ ∀ vid, bit vid = true → ∃ row ∈ rows, row.id = vid := by
  intro bit
  have vids := vlan_inv_vids state inv
  have loop : ∀ vid, bit vid = (Keyed.lookup Vlan.vid vid state.br.vlans).elim (vlanEnabled state.br.calls vid)
      (fun vlan => if Keyed.lookup VlanRow.name vlan.name rows = none then false else vlanEnabled state.br.calls vid) := by
    intro vid
    simpa only [Keyed.lookup_collect] using delete_phase_enabled order (Keyed.collect VlanRow.name rows) state.br vids vid
  have claimed : ∀ vid, bit vid = true → ∃ row ∈ rows, row.id = vid ∧ ∃ vlan ∈ state.br.vlans, vlan.name = row.name := by
    intro vid on
    rw [loop vid] at on
    cases found : Keyed.lookup Vlan.vid vid state.br.vlans with
    | none =>
        rw [found, Option.elim_none] at on
        obtain ⟨vlan, member, same⟩ := enabled_has_vlan state inv vid on
        exact absurd same ((Keyed.lookup_none_iff Vlan.vid).mp found vlan member)
    | some vlan =>
        have member := Keyed.lookup_mem Vlan.vid found
        cases wanted : Keyed.lookup VlanRow.name vlan.name rows with
        | none => simp [found, wanted] at on
        | some row =>
            have present := Keyed.lookup_mem VlanRow.name wanted
            have named := Keyed.lookup_key VlanRow.name wanted
            exact ⟨row, present, (keeps row present vlan member named.symm).symm.trans (Keyed.lookup_key Vlan.vid found),
              vlan, member, named.symm⟩
  refine ⟨?_, fun vid on => ?_⟩
  · intro row member
    unfold cachedEnable
    cases found : vlanLookupByName state.br row.name with
    | none =>
        rw [Option.elim_none, Bool.eq_false_iff]
        intro on
        obtain ⟨other, otherMember, same, vlan, present, named⟩ := claimed row.id on
        have rowSame := Keyed.unique_mem_eq VlanRow.id ids otherMember member same
        exact (Keyed.lookup_none_iff Vlan.name).mp found vlan present (by rw [named, rowSame])
    | some vlan =>
        have present := Keyed.lookup_mem Vlan.name found
        have named := Keyed.lookup_key Vlan.name found
        have kept := keeps row member vlan present named
        rw [loop, ← kept, Keyed.lookup_of_mem Vlan.vid vids present, Option.elim_some, named,
          Keyed.lookup_of_mem VlanRow.name names member, if_neg (by simp), Option.elim_some]
        exact enabled_of_vlan state inv vlan present
  · obtain ⟨row, member, same, _⟩ := claimed vid on
    exact ⟨row, member, same⟩

theorem check_vlan_change_names (br : Bridge) (vlan : Vlan) (names : Keyed.Unique Vlan.name br.vlans) :
    Keyed.Unique Vlan.name (checkVlanChange br vlan).vlans := by
  rw [check_vlan_change_eq]
  split
  · exact Keyed.unique_replace Vlan.name names vlan.name _ (fun a _ same => same.symm)
  · exact names

theorem prepared_bridge_entry (inv : VlanInv state) (rows : List VlanRow)
    (keeps : NamesKeepIds state rows) (vlan : Vlan) (member : vlan ∈ (preparedBridge order state.br rows).vlans) :
    ∃ row ∈ rows, vlan = preparedVlan state.br row ∧ vlan.vid = row.id := by
  have found := Keyed.lookup_of_mem Vlan.name (prepared_bridge_names order state.br rows inv.vlanNames) member
  change vlanLookupByName (preparedBridge order state.br rows) vlan.name = some vlan at found
  rw [prepared_bridge_lookup order state.br rows inv.vlanNames] at found
  obtain ⟨row, wanted, rfl⟩ := Option.map_eq_some_iff.mp found
  have present := Keyed.lookup_mem VlanRow.name wanted
  exact ⟨row, present, rfl, prepared_vlan_vid state rows keeps row present⟩

theorem prepared_bridge_vids (inv : VlanInv state) (rows : List VlanRow)
    (ids : Keyed.Unique VlanRow.id rows) (keeps : NamesKeepIds state rows) :
    Keyed.Unique Vlan.vid (preparedBridge order state.br rows).vlans := by
  refine List.Nodup.map_on ?_ (List.Nodup.of_map _ (prepared_bridge_names order state.br rows inv.vlanNames))
  intro a left b right same
  obtain ⟨rowA, memberA, eqA, vidA⟩ := prepared_bridge_entry order state inv rows keeps a left
  obtain ⟨rowB, memberB, eqB, vidB⟩ := prepared_bridge_entry order state inv rows keeps b right
  rw [eqA, eqB, Keyed.unique_mem_eq VlanRow.id ids memberA memberB (by rw [← vidA, ← vidB, same])]

theorem prepared_bridge_member (inv : VlanInv state) (rows : List VlanRow)
    (names : Keyed.Unique VlanRow.name rows) (row : VlanRow) (member : row ∈ rows) :
    preparedVlan state.br row ∈ (preparedBridge order state.br rows).vlans := by
  have found := prepared_bridge_lookup order state.br rows inv.vlanNames row.name
  rw [Keyed.lookup_of_mem VlanRow.name names member, Option.map_some] at found
  exact Keyed.lookup_mem Vlan.name found

def checkedBridge (order : HashOrder) (br : Bridge) (rows : List VlanRow) : Bridge :=
  (order.walk (preparedBridge order br rows).vlans).foldl checkVlanChange (preparedBridge order br rows)

theorem checked_bridge_names (br : Bridge) (rows : List VlanRow)
    (names : Keyed.Unique Vlan.name br.vlans) : Keyed.Unique Vlan.name (checkedBridge order br rows).vlans :=
  Keyed.foldl_keeps checkVlanChange (fun s => Keyed.Unique Vlan.name s.vlans)
    (fun s vlan _ unique => check_vlan_change_names s vlan unique) (prepared_bridge_names order br rows names)

theorem checked_bridge_lookup (br : Bridge) (rows : List VlanRow) (names : Keyed.Unique Vlan.name br.vlans) (name : String) :
    vlanLookupByName (checkedBridge order br rows) name =
      (Keyed.lookup VlanRow.name name rows).map (fun row => checkedVlan (preparedVlan br row)) := by
  rw [checkedBridge, check_phase_lookup order _ (prepared_bridge_names order br rows names),
    prepared_bridge_lookup order br rows names, Option.map_map]
  rfl

theorem prepared_bridge_calls (br : Bridge) (rows : List VlanRow) :
    (preparedBridge order br rows).calls =
      ((order.walk br.vlans).foldl (deleteOldVlan (Keyed.collect VlanRow.name rows)) br).calls :=
  add_new_vlan_calls _ _

theorem checked_vlan_enable (vlan : Vlan) :
    (checkedVlan vlan).enable = if vlanToggles vlan then vlanHwEnable vlan.cfg else vlan.enable := by
  unfold checkedVlan vlanToggles
  by_cases flagged : rowFlagged vlan.cfg = true <;> by_cases same : vlanHwEnable vlan.cfg = vlan.enable <;>
    simp [flagged, same]

theorem checked_bridge_enabled (inv : VlanInv state) (rows : List VlanRow)
    (names : Keyed.Unique VlanRow.name rows) (ids : Keyed.Unique VlanRow.id rows) (keeps : NamesKeepIds state rows) :
    (∀ row ∈ rows, vlanEnabled (checkedBridge order state.br rows).calls row.id =
      (checkedVlan (preparedVlan state.br row)).enable) ∧
    ∀ vid, vlanEnabled (checkedBridge order state.br rows).calls vid = true → ∃ row ∈ rows, row.id = vid := by
  obtain ⟨claimed, others⟩ := deleted_enabled order state inv rows names ids keeps
  have vids := prepared_bridge_vids order state inv rows ids keeps
  have loop := check_phase_enabled order (preparedBridge order state.br rows) vids
  rw [prepared_bridge_calls] at loop
  refine ⟨?_, ?_⟩
  · intro row member
    have found := Keyed.lookup_of_mem Vlan.vid vids (prepared_bridge_member order state inv rows names row member)
    rw [prepared_vlan_vid state rows keeps row member] at found
    rw [checkedBridge, loop, found, Option.elim_some, claimed row member, checked_vlan_enable, prepared_vlan_enable]
  · intro vid on
    cases found : Keyed.lookup Vlan.vid vid (preparedBridge order state.br rows).vlans with
    | none =>
        rw [checkedBridge, loop, found, Option.elim_none] at on
        exact others vid on
    | some vlan =>
        obtain ⟨row, member, _, same⟩ := prepared_bridge_entry order state inv rows keeps vlan
          (Keyed.lookup_mem Vlan.vid found)
        exact ⟨row, member, same.symm.trans (Keyed.lookup_key Vlan.vid found)⟩

theorem vlan_inv_cfg (inv : VlanInv state) (cfg : Option BridgeRow) :
    VlanInv ⟨{ state.br with cfg := cfg }, state.rows⟩ :=
  ⟨inv.names, inv.ids, inv.vlanNames, inv.cached, inv.bits⟩

theorem checked_row_enable (br : Bridge) (row : VlanRow) :
    (checkedVlan (preparedVlan br row)).enable =
      if rowFlagged row then vlanHwEnable row else cachedEnable br row.name := by
  unfold checkedVlan
  rw [prepared_vlan_cfg]
  split
  · rfl
  · exact prepared_vlan_enable br row

theorem checked_row_vid (br : Bridge) (row : VlanRow) :
    (checkedVlan (preparedVlan br row)).vid = (preparedVlan br row).vid := by
  unfold checkedVlan
  split <;> rfl

theorem vlan_step_lookup (inv : VlanInv state) (name : String) :
    vlanLookupByName (vlanStep state batch).br name =
      (Keyed.lookup VlanRow.name name batch.row.vlans).map (fun row => checkedVlan (preparedVlan state.br row)) :=
  checked_bridge_lookup batch.order { state.br with cfg := some batch.row } batch.row.vlans inv.vlanNames name

theorem vlan_step_enabled (inv : VlanInv state)
    (valid : VlanBatchValid state batch) (keeps : NamesKeepIds state batch.row.vlans) :
    (∀ row ∈ batch.row.vlans, vlanEnabled (vlanStep state batch).br.calls row.id =
      if rowFlagged row then vlanHwEnable row else cachedEnable state.br row.name) ∧
    ∀ vid, vlanEnabled (vlanStep state batch).br.calls vid = true → ∃ row ∈ batch.row.vlans, row.id = vid := by
  have moved := vlan_inv_cfg state inv (some batch.row)
  obtain ⟨claimed, others⟩ := checked_bridge_enabled batch.order _ moved batch.row.vlans valid.names valid.ids keeps
  refine ⟨?_, others⟩
  intro row member
  exact (claimed row member).trans (checked_row_enable _ row)

theorem unflagged_enable (inv : VlanInv state)
    (valid : VlanBatchValid state batch) (row : VlanRow) (member : row ∈ batch.row.vlans)
    (unflagged : rowFlagged row = false) (prior : VlanRow) (present : prior ∈ state.rows)
    (same : prior.uuid = row.uuid) : cachedEnable state.br row.name = vlanHwEnable row := by
  obtain ⟨name, _, config⟩ := valid.unflagged row member unflagged prior present same
  obtain ⟨vlan, cached, vlanName, _, enable⟩ := vlan_inv_cached state inv prior present
  have found := Keyed.lookup_of_mem Vlan.name inv.vlanNames cached
  rw [vlanName, name] at found
  unfold cachedEnable vlanLookupByName
  rw [found, Option.elim_some, enable, vlanHwEnable, vlanHwEnable, config]

theorem vlan_row_enable (inv : VlanInv state)
    (valid : VlanBatchValid state batch) (safe : VlanJoinSafe state batch) (row : VlanRow)
    (member : row ∈ batch.row.vlans) :
    (if rowFlagged row then vlanHwEnable row else cachedEnable state.br row.name) = vlanHwEnable row := by
  by_cases flagged : rowFlagged row = true
  · rw [if_pos flagged]
  · rw [if_neg flagged]
    have unflagged := Bool.eq_false_iff.mpr flagged
    by_cases before : ∃ prior ∈ state.rows, prior.uuid = row.uuid
    · obtain ⟨prior, present, same⟩ := before
      exact unflagged_enable state batch inv valid row member unflagged prior present same
    · exact ((safe row member).2 unflagged (fun prior present same => before ⟨prior, present, same⟩)).symm

theorem vlan_step_inv (inv : VlanInv state)
    (valid : VlanBatchValid state batch) (safe : VlanJoinSafe state batch) : VlanInv (vlanStep state batch) := by
  have keeps : NamesKeepIds state batch.row.vlans := fun row member => (safe row member).1
  have enable := vlan_row_enable state batch inv valid safe
  obtain ⟨claimed, others⟩ := vlan_step_enabled state batch inv valid keeps
  refine ⟨valid.names, valid.ids, checked_bridge_names batch.order _ batch.row.vlans inv.vlanNames, ?_, ?_⟩
  · intro name
    rw [vlan_step_lookup state batch inv, Option.map_map]
    apply Option.map_congr
    intro row found
    have member := Keyed.lookup_mem VlanRow.name found
    simp only [Function.comp_apply, checked_row_vid, checked_row_enable, enable row member,
      prepared_vlan_vid state batch.row.vlans keeps row member]
  · intro vid
    constructor
    · intro on
      obtain ⟨row, member, rfl⟩ := others vid on
      rw [claimed row member, enable row member] at on
      exact ⟨row, member, rfl, on⟩
    · rintro ⟨row, member, rfl, on⟩
      rw [claimed row member, enable row member, on]

theorem vlan_step_needs (inv : VlanInv state)
    (valid : VlanBatchValid state batch) (follows : VlansFollow (vlanStep state batch)) :
    VlanJoinSafe state batch := by
  obtain ⟨bits, vids⟩ := follows
  have keeps : NamesKeepIds state batch.row.vlans := by
    intro row member vlan cached named
    have found := vlan_step_lookup state batch inv row.name
    rw [Keyed.lookup_of_mem VlanRow.name valid.names member, Option.map_some] at found
    obtain ⟨other, present, sameName, sameId⟩ := vids _ (Keyed.lookup_mem Vlan.name found)
    have otherIs : other = row := Keyed.unique_mem_eq VlanRow.name valid.names present member
      (sameName.trans (Keyed.lookup_key Vlan.name found))
    rw [otherIs, checked_row_vid, preparedVlan, ← named, vlanLookupByName,
      Keyed.lookup_of_mem Vlan.name inv.vlanNames cached] at sameId
    exact sameId.symm
  intro row member
  refine ⟨keeps row member, ?_⟩
  intro unflagged _
  have claimed := (vlan_step_enabled state batch inv valid keeps).1 row member
  rw [unflagged, if_neg (by simp)] at claimed
  rw [← claimed, Bool.eq_iff_iff, bits row.id]
  constructor
  · intro on
    exact ⟨row, member, rfl, on⟩
  · rintro ⟨other, present, same, on⟩
    rwa [Keyed.unique_mem_eq VlanRow.id valid.ids member present same.symm]

end Batches

def vlanStart (normalizeType : String → String) (row : BridgeRow) : VlanState := ⟨bridgeCreate normalizeType row, []⟩

theorem vlan_start_inv (normalizeType : String → String) (row : BridgeRow) : VlanInv (vlanStart normalizeType row) where
  names := Keyed.unique_nil VlanRow.name
  ids := Keyed.unique_nil VlanRow.id
  vlanNames := Keyed.unique_nil Vlan.name
  cached := fun _ => rfl
  bits := by
    intro vid
    constructor
    · intro on
      cases on
    · rintro ⟨row, member, _⟩
      cases member

def vlanColumn (vlans : List VlanRow) : BridgeRow := ⟨"bridge_normal", "", [], vlans, []⟩

def vlanBatch (vlans : List VlanRow) : VlanBatch := ⟨vlanColumn vlans, HashOrder.listed⟩

theorem vlans_follow_iff_joins_safe (normalizeType : String → String) (row : BridgeRow) (batches : List VlanBatch)
    (valid : Runs.Along vlanStep VlanBatchValid (vlanStart normalizeType row) batches) :
    Runs.Always vlanStep VlansFollow (vlanStart normalizeType row) batches ↔
      Runs.Along vlanStep VlanJoinSafe (vlanStart normalizeType row) batches :=
  Runs.always_iff_along vlan_inv_follows vlan_step_inv vlan_step_needs (vlan_start_inv normalizeType row) valid

theorem toggled_vlan_follows :
    Runs.Always vlanStep VlansFollow (vlanStart id (vlanColumn []))
      [vlanBatch [⟨1, "VLAN10", 10, [("enable", "true")], true, false⟩],
       vlanBatch [⟨1, "VLAN10", 10, [("enable", "false")], false, true⟩,
        ⟨2, "VLAN20", 20, [("enable", "true")], true, false⟩]] := by
  refine (vlans_follow_iff_joins_safe id (vlanColumn []) _ ?_).mpr ?_
  · simp only [Runs.along_cons, Runs.along_nil, and_true]
    exact ⟨⟨by decide, by decide, by decide⟩, ⟨by decide, by decide, by decide⟩⟩
  · simp only [Runs.along_cons, Runs.along_nil, and_true, VlanJoinSafe]
    exact ⟨by decide, by decide⟩

-- The name survives the replacement, so vid 10 stays enabled and vid 20 is
-- never programmed.
theorem replaced_vlan_keeps_vid :
    let batches := [vlanBatch [⟨1, "VLAN10", 10, [("enable", "true")], true, false⟩],
      vlanBatch [⟨2, "VLAN10", 20, [("enable", "true")], true, false⟩]]
    Runs.Along vlanStep VlanBatchValid (vlanStart id (vlanColumn [])) batches ∧
      ¬ VlansFollow (Runs.run vlanStep (vlanStart id (vlanColumn [])) batches) := by
  intro batches
  refine ⟨?_, ?_⟩
  · simp only [batches, Runs.along_cons, Runs.along_nil, and_true]
    exact ⟨⟨by decide, by decide, by decide⟩, ⟨by decide, by decide, by decide⟩⟩
  · rintro ⟨bits, _⟩
    have disabled : vlanEnabled (Runs.run vlanStep (vlanStart id (vlanColumn [])) batches).br.calls 20 = false := by decide
    have wanted := (bits 20).mpr ⟨⟨2, "VLAN10", 20, [("enable", "true")], true, false⟩, by decide, rfl, by decide⟩
    rw [disabled] at wanted
    cases wanted

end OpsSwitchd
