import OpsSwitchd.BondHandle
import OpsSwitchd.MacFlushRequests

set_option autoImplicit false

namespace OpsSwitchd.MacFlushSnapshot

-- modified is OVSREC_IDL_IS_ROW_MODIFIED for maclearn_idl_seqno: any column of
-- the row may have changed.
structure PortFlushRow where
  name : String
  status : Smap
  cell : PortCell
  modified : Bool
deriving DecidableEq, Repr

structure VlanFlushRow where
  id : Int
  macsInvalid : List Bool
  modified : Bool
deriving DecidableEq, Repr

structure ColumnFlags where
  portMacsInvalid : Bool
  portMacsInvalidOnVlans : Bool
  vlanMacsInvalid : Bool
deriving DecidableEq, Repr

structure Snapshot where
  ports : List PortFlushRow
  vlans : List VlanFlushRow
  columns : ColumnFlags
deriving DecidableEq, Repr

def PortFlushRow.port (row : PortFlushRow) : FlushPort :=
  ⟨row.name, smapGetInt row.status BondHandle.handleKey (-1)⟩

def ColumnFlags.ports (columns : ColumnFlags) : Bool := columns.portMacsInvalid || columns.portMacsInvalidOnVlans

def l2AddrFlush (asic : AsicInterface) (s : Snapshot) : List MacFlush :=
  (if s.columns.ports then
    (s.ports.filter PortFlushRow.modified).flatMap (fun row => (macFlushOnPort asic row.port row.cell).1) else []) ++
  (if s.columns.vlanMacsInvalid then
    (s.vlans.filter VlanFlushRow.modified).flatMap (fun row => (macFlushOnVlan asic row.id).1) else [])

def asks (cell : PortCell) : PortRequest → Prop
  | .macs => true ∈ cell.macsInvalid
  | .macsOnVlan vlan => vlan ∈ cell.macsInvalidOnVlans

def flagged (columns : ColumnFlags) : PortRequest → Bool
  | .macs => columns.portMacsInvalid
  | .macsOnVlan _ => columns.portMacsInvalidOnVlans

def HandleKnown (port : FlushPort) : Prop := isLagName port.name = true → port.bondHwHandle ≠ -1

def cutName (port : FlushPort) : FlushPort := { port with name := portNameField port.name }

inductive Requested (s : Snapshot) : MacFlush → Prop where
  | vlan (row : VlanFlushRow) (member : row ∈ s.vlans) (invalid : true ∈ row.macsInvalid) : Requested s (.byVlan row.id)
  | port (row : PortFlushRow) (member : row ∈ s.ports) (request : PortRequest) (asked : asks row.cell request) :
      Requested s (askedFlush row.port request)

structure FlushesExact (asic : AsicInterface) (s : Snapshot) : Prop where
  requested : ∀ flush ∈ l2AddrFlush asic s, Requested s flush
  portIssued : asic = some true → ∀ row ∈ s.ports, row.modified = true → ∀ request, asks row.cell request →
    flagged s.columns request = true → HandleKnown row.port → askedFlush row.port request ∈ l2AddrFlush asic s
  vlanIssued : asic = some true → ∀ row ∈ s.vlans, row.modified = true → true ∈ row.macsInvalid →
    s.columns.vlanMacsInvalid = true → .byVlan row.id ∈ l2AddrFlush asic s

def VlansAsked (s : Snapshot) : Prop :=
  s.columns.vlanMacsInvalid = true → ∀ row ∈ s.vlans, row.modified = true →
    ∃ other ∈ s.vlans, other.id = row.id ∧ true ∈ other.macsInvalid

def NamesFit (s : Snapshot) : Prop :=
  s.columns.ports = true → ∀ row ∈ s.ports, row.modified = true → ∀ request, asks row.cell request → HandleKnown row.port →
    row.name.toList.length ≤ portNameSize ∨
      flagged s.columns request = false ∧
        ∃ other ∈ s.ports, ∃ same, asks other.cell same ∧ askedFlush other.port same = askedFlush (cutName row.port) request

theorem lag_name_cut (name : String) : isLagName (portNameField name) = isLagName name := by
  unfold isLagName portNameField
  rw [String.toList_ofList, List.take_take]
  rfl

theorem trunk_or_port_iff (port : FlushPort) (byTrunk : String → Int → MacFlush) (byPort : String → MacFlush) (flush : MacFlush) :
    trunkOrPort port byTrunk byPort = some flush ↔ HandleKnown port ∧ flush = askedOf (cutName port) byTrunk byPort := by
  unfold trunkOrPort askedOf HandleKnown cutName
  dsimp only
  rw [lag_name_cut]
  cases lag : isLagName port.name with
  | false => simp [eq_comm]
  | true =>
      by_cases handle : port.bondHwHandle = -1
      · simp [handle]
      · simp [handle, eq_comm]

theorem mem_port_flushes (port : FlushPort) (cell : PortCell) (flush : MacFlush) :
    flush ∈ portFlushes port cell ↔ ∃ request, asks cell request ∧ HandleKnown port ∧ flush = askedFlush (cutName port) request := by
  have whole : portFlush port = some flush ↔ HandleKnown port ∧ flush = askedFlush (cutName port) .macs :=
    trunk_or_port_iff port .byTrunk .byPort flush
  have onVlan : ∀ vlan, portVlanFlush port vlan = some flush ↔
      HandleKnown port ∧ flush = askedFlush (cutName port) (.macsOnVlan vlan) := fun vlan =>
    trunk_or_port_iff port (fun name tgid => .byTrunkVlan name tgid vlan) (fun name => .byPortVlan name vlan) flush
  unfold portFlushes
  rw [List.mem_append, List.mem_filterMap, List.mem_filterMap]
  constructor
  · rintro (⟨invalid, set, made⟩ | ⟨vlan, set, made⟩)
    · obtain ⟨member, holds⟩ := List.mem_filter.mp set
      obtain rfl : invalid = true := holds
      exact ⟨.macs, member, whole.mp made⟩
    · exact ⟨.macsOnVlan vlan, set, (onVlan vlan).mp made⟩
  · rintro ⟨request, asked, made⟩
    cases request with
    | macs => exact Or.inl ⟨true, List.mem_filter.mpr ⟨asked, rfl⟩, whole.mpr made⟩
    | macsOnVlan vlan => exact Or.inr ⟨vlan, asked, (onVlan vlan).mpr made⟩

theorem mem_l2_addr_flush (s : Snapshot) (flush : MacFlush) :
    flush ∈ l2AddrFlush (some true) s ↔
      (s.columns.ports = true ∧ ∃ row ∈ s.ports, row.modified = true ∧ ∃ request, asks row.cell request ∧
          HandleKnown row.port ∧ flush = askedFlush (cutName row.port) request) ∨
        (s.columns.vlanMacsInvalid = true ∧ ∃ row ∈ s.vlans, row.modified = true ∧ flush = .byVlan row.id) := by
  unfold l2AddrFlush
  rw [List.mem_append, List.mem_ite_nil_right, List.mem_ite_nil_right, List.mem_flatMap, List.mem_flatMap]
  refine or_congr (and_congr_right fun _ => exists_congr fun row => ?_) (and_congr_right fun _ => exists_congr fun row => ?_)
  · rw [List.mem_filter, and_assoc, ← mem_port_flushes]
    exact Iff.rfl
  · rw [List.mem_filter, and_assoc]
    exact and_congr_right fun _ => and_congr_right fun _ => List.mem_singleton

theorem l2_addr_flush_unprovided (asic : AsicInterface) (s : Snapshot) (unprovided : asic ≠ some true) : l2AddrFlush asic s = [] := by
  unfold l2AddrFlush macFlushOnPort macFlushOnVlan
  cases asic with
  | none => simp
  | some provided =>
      cases provided with
      | false => simp
      | true => exact absurd rfl unprovided

def flushName : MacFlush → Option String
  | .byVlan _ => none
  | .byPort name => some name
  | .byPortVlan name _ => some name
  | .byTrunk name _ => some name
  | .byTrunkVlan name _ _ => some name

theorem asked_of_name (port : FlushPort) (byTrunk : String → Int → MacFlush) (byPort : String → MacFlush)
    (trunk : ∀ name tgid, flushName (byTrunk name tgid) = some name) (whole : ∀ name, flushName (byPort name) = some name) :
    flushName (askedOf port byTrunk byPort) = some port.name := by
  unfold askedOf
  split
  · exact trunk port.name port.bondHwHandle
  · exact whole port.name

theorem asked_flush_name (port : FlushPort) (request : PortRequest) : flushName (askedFlush port request) = some port.name := by
  cases request with
  | macs => exact asked_of_name port .byTrunk .byPort (fun _ _ => rfl) (fun _ => rfl)
  | macsOnVlan vlan =>
      exact asked_of_name port (fun name tgid => .byTrunkVlan name tgid vlan) (fun name => .byPortVlan name vlan)
        (fun _ _ => rfl) (fun _ => rfl)

theorem asked_not_vlan (port : FlushPort) (request : PortRequest) (vlan : Int) : askedFlush port request ≠ .byVlan vlan := by
  intro same
  have names := asked_flush_name port request
  rw [same] at names
  cases names

theorem requested_vlan_iff (s : Snapshot) (vlan : Int) :
    Requested s (.byVlan vlan) ↔ ∃ row ∈ s.vlans, row.id = vlan ∧ true ∈ row.macsInvalid := by
  constructor
  · intro requested
    generalize flush : MacFlush.byVlan vlan = asked at requested
    cases requested with
    | vlan row member invalid => exact ⟨row, member, (MacFlush.byVlan.inj flush).symm, invalid⟩
    | port row member request holds => exact absurd flush.symm (asked_not_vlan row.port request vlan)
  · rintro ⟨row, member, rfl, invalid⟩
    exact .vlan row member invalid

theorem requested_port_iff (s : Snapshot) (port : FlushPort) (request : PortRequest) :
    Requested s (askedFlush port request) ↔
      ∃ row ∈ s.ports, ∃ same, asks row.cell same ∧ askedFlush row.port same = askedFlush port request := by
  constructor
  · intro requested
    generalize flush : askedFlush port request = asked at requested
    cases requested with
    | vlan row member invalid => exact absurd flush (asked_not_vlan port request row.id)
    | port row member same holds => exact ⟨row, member, same, holds, rfl⟩
  · rintro ⟨row, member, same, holds, equal⟩
    exact equal ▸ .port row member same holds

theorem cut_name_short (port : FlushPort) (short : port.name.toList.length ≤ portNameSize) : cutName port = port := by
  unfold cutName
  rw [(port_name_field_eq_iff port.name).mpr short]

theorem issued_asked_short (s : Snapshot) (port : FlushPort) (request : PortRequest)
    (issued : askedFlush port request ∈ l2AddrFlush (some true) s) : port.name.toList.length ≤ portNameSize := by
  rcases (mem_l2_addr_flush s _).mp issued with ⟨_, row, _, _, other, _, _, same⟩ | ⟨_, row, _, _, same⟩
  · have names := congrArg flushName same
    rw [asked_flush_name, asked_flush_name, Option.some.injEq] at names
    rw [names]
    exact port_name_field_short row.name
  · exact absurd same (asked_not_vlan port request row.id)

theorem flagged_ports (columns : ColumnFlags) (request : PortRequest) (set : flagged columns request = true) :
    columns.ports = true := by
  cases request with
  | macs => exact Bool.or_eq_true_iff.mpr (Or.inl set)
  | macsOnVlan vlan => exact Bool.or_eq_true_iff.mpr (Or.inr set)

theorem flushes_exact_of_fit (s : Snapshot) (vlans : VlansAsked s) (names : NamesFit s) : FlushesExact (some true) s where
  requested := by
    intro flush issued
    rcases (mem_l2_addr_flush s flush).mp issued with ⟨columns, row, member, modified, request, asked, handle, rfl⟩ |
      ⟨column, row, member, modified, rfl⟩
    · rw [requested_port_iff]
      rcases names columns row member modified request asked handle with short | ⟨_, other⟩
      · exact ⟨row, member, request, asked, by rw [cut_name_short row.port short]⟩
      · exact other
    · exact (requested_vlan_iff s row.id).mpr (vlans column row member modified)
  portIssued := by
    intro _ row member modified request asked set handle
    have columns := flagged_ports s.columns request set
    refine (mem_l2_addr_flush s _).mpr (Or.inl ⟨columns, row, member, modified, request, asked, handle, ?_⟩)
    rcases names columns row member modified request asked handle with short | ⟨unset, _⟩
    · rw [cut_name_short row.port short]
    · rw [set] at unset
      cases unset
  vlanIssued := fun _ row member modified _ column =>
    (mem_l2_addr_flush s _).mpr (Or.inr ⟨column, row, member, modified, rfl⟩)

theorem names_fit_of_exact (s : Snapshot) (exact_ : FlushesExact (some true) s) : NamesFit s := by
  intro columns row member modified request asked handle
  have issued := (mem_l2_addr_flush s _).mpr (Or.inl ⟨columns, row, member, modified, request, asked, handle, rfl⟩)
  by_cases short : row.name.toList.length ≤ portNameSize
  · exact Or.inl short
  · refine Or.inr ⟨?_, (requested_port_iff s _ request).mp (exact_.requested _ issued)⟩
    cases set : flagged s.columns request with
    | false => rfl
    | true =>
        have named := exact_.portIssued rfl row member modified request asked set handle
        exact absurd (issued_asked_short s row.port request named) short

theorem flushes_exact_iff (asic : AsicInterface) (s : Snapshot) :
    FlushesExact asic s ↔ (asic = some true → VlansAsked s ∧ NamesFit s) := by
  by_cases provided : asic = some true
  · subst provided
    constructor
    · intro exact_ _
      refine ⟨fun column row member modified => ?_, names_fit_of_exact s exact_⟩
      have issued := (mem_l2_addr_flush s _).mpr (Or.inr ⟨column, row, member, modified, rfl⟩)
      exact (requested_vlan_iff s row.id).mp (exact_.requested _ issued)
    · intro fit
      exact flushes_exact_of_fit s (fit rfl).1 (fit rfl).2
  · refine ⟨fun _ same => absurd same provided, fun _ => ⟨?_, fun same => absurd same provided, fun same => absurd same provided⟩⟩
    rw [l2_addr_flush_unprovided asic s provided]
    exact fun _ member => absurd member List.not_mem_nil

def renamedVlan : Snapshot where
  ports := []
  vlans := [⟨10, [true], true⟩, ⟨20, [], true⟩]
  columns := ⟨false, false, true⟩

theorem changed_vlan_is_flushed :
    .byVlan 20 ∈ l2AddrFlush (some true) renamedVlan ∧ ¬ FlushesExact (some true) renamedVlan := by
  have issued : .byVlan 20 ∈ l2AddrFlush (some true) renamedVlan := by decide
  refine ⟨issued, fun exact_ => ?_⟩
  exact absurd ((requested_vlan_iff renamedVlan 20).mp (exact_.requested _ issued)) (by decide)

end OpsSwitchd.MacFlushSnapshot
