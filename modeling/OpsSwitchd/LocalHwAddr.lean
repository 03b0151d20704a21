import OpsSwitchd.PortsSound
import Mathlib.Order.Bounds.Basic
import Mathlib.Order.Fin.Basic
import Mathlib.Data.List.Induction
import Mathlib.Data.List.Nodup

set_option autoImplicit false

namespace OpsSwitchd.LocalHwAddr

-- The six octets as one number, the first octet the highest, so that memcmp of
-- the octets is the order of the numbers.
abbrev EthAddr := Fin 0x1000000000000

def firstOctet (ea : EthAddr) : Nat := ea.val / 0x10000000000

def ethAddrIsMulticast (ea : EthAddr) : Bool := firstOctet ea % 2 = 1

def ethAddrIsLocal (ea : EthAddr) : Bool := firstOctet ea / 2 % 2 = 1

def ethAddrIsZero (ea : EthAddr) : Bool := ea.val = 0

def ofppLocal : Nat := 0xfffe

structure HwEnv where
  ethAddrFromString : String → Option EthAddr
  ethAddrIsReserved : EthAddr → Bool
  mac : PortRef → Option String
  netdevGetEtheraddr : IfaceRef → Option EthAddr
  defaultEa : EthAddr

def carriesAddr (env : HwEnv) (ea : EthAddr) (found : Option Iface) (candidate : Iface) : Option Iface :=
  if env.netdevGetEtheraddr candidate.self = some ea then some candidate else found

-- The address that represents a port, with its interface; some none is a port
-- that is passed over. none is a read of the ofp_port of a null interface.
def portHwAddr (env : HwEnv) (port : Port) : Option (Option (EthAddr × Option Iface)) :=
  match (env.mac port.self).bind env.ethAddrFromString with
  | some ea => some (some (ea, port.ifaces.foldl (carriesAddr env ea) none))
  | none =>
      match localIface port with
      | none => none
      | some iface =>
          if iface.self.ofpPort = some ofppLocal then some none
          else some ((env.netdevGetEtheraddr iface.self).map (fun ea => (ea, some iface)))

structure HwChoice where
  foundAddr : Bool
  ea : EthAddr
  hwAddrIface : Option Iface

def eligible (env : HwEnv) (ea : EthAddr) : Bool :=
  !ethAddrIsMulticast ea && !ethAddrIsLocal ea && !env.ethAddrIsReserved ea && !ethAddrIsZero ea

def compareChoice (env : HwEnv) (choice : HwChoice) : Option (EthAddr × Option Iface) → HwChoice
  | none => choice
  | some (ea, iface) =>
      if eligible env ea = true ∧ (choice.foundAddr = false ∨ ea < choice.ea) then ⟨true, ea, iface⟩ else choice

def choosePort (env : HwEnv) (choice : HwChoice) (port : Port) : Option HwChoice :=
  (portHwAddr env port).map (compareChoice env choice)

def findLocalHwAddr (env : HwEnv) (order : HashOrder) (br : Bridge) (ea : EthAddr) : Option (EthAddr × Option Iface) :=
  ((order.walk br.ports).foldlM (choosePort env) ⟨false, ea, none⟩).map (fun choice =>
    if choice.foundAddr then (choice.ea, choice.hwAddrIface) else (env.defaultEa, none))

-- ea is what the caller's variable holds; a text that does not parse sets it to
-- zero.
def bridgePickLocalHwAddr (env : HwEnv) (order : HashOrder) (br : Bridge) (hwaddr : Option String) (ea : EthAddr) :
    Option (EthAddr × Option Iface) :=
  match hwaddr with
  | none => findLocalHwAddr env order br ea
  | some text =>
      match env.ethAddrFromString text with
      | none => findLocalHwAddr env order br 0
      | some user =>
          if ethAddrIsMulticast user then findLocalHwAddr env order br user
          else if ethAddrIsZero user then findLocalHwAddr env order br user
          else some (user, none)

def Unusable (env : HwEnv) (hwaddr : Option String) : Prop :=
  ∀ ea, hwaddr.bind env.ethAddrFromString = some ea → ethAddrIsMulticast ea = true ∨ ethAddrIsZero ea = true

def Represents (env : HwEnv) (port : Port) (ea : EthAddr) : Prop :=
  match (env.mac port.self).bind env.ethAddrFromString with
  | some mac => ea = mac
  | none => ∃ first ∈ port.ifaces, (∀ other ∈ port.ifaces, ¬ other.self.name < first.self.name) ∧
      first.self.ofpPort ≠ some ofppLocal ∧ env.netdevGetEtheraddr first.self = some ea

def EligibleAddrs (env : HwEnv) (ports : List Port) : Set EthAddr :=
  fun ea => eligible env ea = true ∧ ∃ port ∈ ports, Represents env port ea

def IfaceNamesUnique (ports : List Port) : Prop := ((ports.flatMap Port.ifaces).map (fun iface => iface.self.name)).Nodup

def FirstOf (met : List Iface) : Option Iface → Prop
  | none => met = []
  | some iface => iface ∈ met ∧ ∀ other ∈ met, ¬ other.self.name < iface.self.name

theorem local_iface_first (port : Port) : FirstOf port.ifaces (localIface port) := by
  unfold localIface
  induction port.ifaces using List.reverseRecOn with
  | nil => rfl
  | append_singleton met candidate ih =>
      rw [List.foldl_append, List.foldl_cons, List.foldl_nil]
      split
      · rename_i unmet
        rw [unmet] at ih
        obtain rfl : met = [] := ih
        refine ⟨List.mem_singleton_self candidate, fun other inside => ?_⟩
        rw [List.mem_singleton.mp inside]
        exact String.lt_irrefl _
      · rename_i chosen found
        rw [found] at ih
        obtain ⟨member, least⟩ := ih
        by_cases smaller : candidate.self.name < chosen.self.name
        · rw [if_pos smaller]
          refine ⟨List.mem_append_right _ List.mem_cons_self, fun other inside below => ?_⟩
          rcases List.mem_append.mp inside with old | new
          · exact least other old (String.lt_trans below smaller)
          · rw [List.mem_singleton.mp new] at below
            exact String.lt_irrefl _ below
        · rw [if_neg smaller]
          refine ⟨List.mem_append_left _ member, fun other inside => ?_⟩
          rcases List.mem_append.mp inside with old | new
          · exact least other old
          · rw [List.mem_singleton.mp new]
            exact smaller

theorem first_unique (port : Port) (unique : (port.ifaces.map (fun iface => iface.self.name)).Nodup) (a b : Iface)
    (left : FirstOf port.ifaces (some a)) (right : FirstOf port.ifaces (some b)) : a = b := by
  have names : a.self.name = b.self.name := String.le_antisymm (left.2 b right.1) (right.2 a left.1)
  exact List.inj_on_of_nodup_map unique left.1 right.1 names

theorem port_hw_addr_represents (env : HwEnv) (port : Port) (filled : port.ifaces ≠ [])
    (unique : (port.ifaces.map (fun iface => iface.self.name)).Nodup) :
    ∃ rep, portHwAddr env port = some rep ∧ ∀ ea, rep.map Prod.fst = some ea ↔ Represents env port ea := by
  unfold portHwAddr Represents
  cases (env.mac port.self).bind env.ethAddrFromString with
  | some mac => exact ⟨_, rfl, fun ea => by simp [eq_comm]⟩
  | none =>
      obtain ⟨iface, found⟩ := Option.isSome_iff_exists.mp (local_iface_some port filled)
      have first := local_iface_first port
      rw [found] at first
      obtain ⟨member, least⟩ := first
      have only (other : Iface) (inside : other ∈ port.ifaces)
          (smallest : ∀ one ∈ port.ifaces, ¬ one.self.name < other.self.name) : other = iface :=
        first_unique port unique other iface ⟨inside, smallest⟩ ⟨member, least⟩
      dsimp only
      rw [found]
      by_cases localPort : iface.self.ofpPort = some ofppLocal
      · refine ⟨none, if_pos localPort, fun ea => iff_of_false (by simp) ?_⟩
        intro represented
        obtain ⟨other, inside, smallest, remote, _⟩ := represented
        exact remote (only other inside smallest ▸ localPort)
      · refine ⟨_, if_neg localPort, fun ea => ?_⟩
        rw [Option.map_map]
        constructor
        · intro read
          exact ⟨iface, member, least, localPort, by simpa using read⟩
        · intro represented
          obtain ⟨other, inside, smallest, _, read⟩ := represented
          simpa [← only other inside smallest] using read

-- The choice after the ports met so far, whose eligible addresses are met.
inductive Chosen (met : EthAddr → Prop) (choice : HwChoice) : Prop where
  | least (found : choice.foundAddr = true) (member : met choice.ea) (bound : ∀ ea, met ea → choice.ea ≤ ea)
  | nothing (found : choice.foundAddr = false) (empty : ∀ ea, ¬ met ea)

theorem compare_choice_chosen (env : HwEnv) (met next : EthAddr → Prop) (choice : HwChoice) (rep : Option (EthAddr × Option Iface))
    (chosen : Chosen met choice) (more : ∀ ea, next ea ↔ met ea ∨ (eligible env ea = true ∧ rep.map Prod.fst = some ea)) :
    Chosen next (compareChoice env choice rep) := by
  -- Without a new eligible address that is smaller, the choice stays.
  have stays (unchanged : compareChoice env choice rep = choice)
      (larger : ∀ ea, eligible env ea = true → rep.map Prod.fst = some ea → choice.foundAddr = true ∧ choice.ea ≤ ea) :
      Chosen next (compareChoice env choice rep) := by
    rw [unchanged]
    cases chosen with
    | least found member bound =>
        refine .least found ((more _).mpr (.inl member)) (fun ea inside => ?_)
        rcases (more ea).mp inside with old | ⟨fit, new⟩
        · exact bound ea old
        · exact (larger ea fit new).2
    | nothing found empty =>
        refine .nothing found (fun ea inside => ?_)
        rcases (more ea).mp inside with old | ⟨fit, new⟩
        · exact empty ea old
        · exact Bool.false_ne_true (found.symm.trans (larger ea fit new).1)
  cases rep with
  | none => exact stays rfl (fun ea _ absent => absurd absent (by simp))
  | some pair =>
      obtain ⟨ea, iface⟩ := pair
      by_cases taken : eligible env ea = true ∧ (choice.foundAddr = false ∨ ea < choice.ea)
      · rw [compareChoice, if_pos taken]
        refine .least rfl ((more ea).mpr (.inr ⟨taken.1, rfl⟩)) (fun other inside => ?_)
        rcases (more other).mp inside with old | ⟨_, new⟩
        · cases chosen with
          | least found _ bound =>
              have smaller : ea < choice.ea := taken.2.resolve_left (by simp [found])
              exact smaller.le.trans (bound other old)
          | nothing _ empty => exact absurd old (empty other)
        · exact (Option.some.inj new).le
      · refine stays (if_neg taken) (fun other fit new => ?_)
        obtain rfl : ea = other := Option.some.inj new
        rw [not_and, not_or, Bool.not_eq_false, not_lt] at taken
        exact taken fit

theorem choose_ports_chosen (env : HwEnv) (ports : List Port) (filled : ∀ port ∈ ports, port.ifaces ≠ [])
    (unique : ∀ port ∈ ports, (port.ifaces.map (fun iface => iface.self.name)).Nodup) (met : EthAddr → Prop) (choice : HwChoice)
    (chosen : Chosen met choice) :
    ∃ last, ports.foldlM (choosePort env) choice = some last ∧ Chosen (fun ea => met ea ∨ EligibleAddrs env ports ea) last := by
  induction ports generalizing met choice with
  | nil =>
      refine ⟨choice, rfl, ?_⟩
      simpa [EligibleAddrs] using chosen
  | cons port rest ih =>
      obtain ⟨rep, read, represents⟩ := port_hw_addr_represents env port (filled port List.mem_cons_self)
        (unique port List.mem_cons_self)
      have step := compare_choice_chosen env met (fun ea => met ea ∨ (eligible env ea = true ∧ Represents env port ea)) choice rep
        chosen (fun ea => by rw [represents ea])
      obtain ⟨last, reached, after⟩ := ih (fun one member => filled one (List.mem_cons_of_mem _ member))
        (fun one member => unique one (List.mem_cons_of_mem _ member)) _ _ step
      refine ⟨last, ?_, ?_⟩
      · rw [List.foldlM_cons, choosePort, read]
        exact reached
      · have both : (fun ea => met ea ∨ EligibleAddrs env (port :: rest) ea) =
            fun ea => (met ea ∨ (eligible env ea = true ∧ Represents env port ea)) ∨ EligibleAddrs env rest ea := by
          funext ea
          simp only [EligibleAddrs, List.exists_mem_cons_iff, and_or_left, or_assoc]
        rw [both]
        exact after

def IsPicked (env : HwEnv) (addrs : Set EthAddr) (ea : EthAddr) : Prop :=
  IsLeast addrs ea ∨ (addrs = ∅ ∧ ea = env.defaultEa)

theorem picked_unique (env : HwEnv) (addrs : Set EthAddr) (a b : EthAddr) (left : IsPicked env addrs a)
    (right : IsPicked env addrs b) : a = b := by
  rcases left with least | ⟨empty, rfl⟩
  · rcases right with other | ⟨empty, _⟩
    · exact least.unique other
    · exact absurd least.1 (by simp [empty])
  · rcases right with other | ⟨_, rfl⟩
    · exact absurd other.1 (by simp [empty])
    · rfl

theorem find_local_hw_addr_picks (env : HwEnv) (order : HashOrder) (br : Bridge) (ea : EthAddr)
    (filled : ∀ port ∈ br.ports, port.ifaces ≠ [])
    (unique : ∀ port ∈ br.ports, (port.ifaces.map (fun iface => iface.self.name)).Nodup) :
    ∃ result iface, findLocalHwAddr env order br ea = some (result, iface) ∧
      IsPicked env (EligibleAddrs env br.ports) result := by
  have walked : EligibleAddrs env (order.walk br.ports) = EligibleAddrs env br.ports := by
    funext ea
    simp only [EligibleAddrs, HashOrder.mem_walk]
  obtain ⟨last, reached, chosen⟩ := choose_ports_chosen env (order.walk br.ports)
    (fun port member => filled port ((order.mem_walk _ port).mp member))
    (fun port member => unique port ((order.mem_walk _ port).mp member)) (fun _ => False) ⟨false, ea, none⟩
    (.nothing rfl (fun _ absurd_ => absurd_))
  simp only [false_or, walked] at chosen
  unfold findLocalHwAddr
  rw [reached, Option.map_some]
  cases chosen with
  | least found member bound => exact ⟨last.ea, last.hwAddrIface, by rw [if_pos found], .inl ⟨member, bound⟩⟩
  | nothing found empty =>
      refine ⟨env.defaultEa, none, by rw [if_neg (by simp [found])], .inr ⟨?_, rfl⟩⟩
      exact Set.eq_empty_iff_forall_notMem.mpr empty

theorem pick_unusable (env : HwEnv) (order : HashOrder) (br : Bridge) (hwaddr : Option String) (ea : EthAddr)
    (unusable : Unusable env hwaddr) :
    ∃ start, bridgePickLocalHwAddr env order br hwaddr ea = findLocalHwAddr env order br start := by
  unfold bridgePickLocalHwAddr
  cases hwaddr with
  | none => exact ⟨ea, rfl⟩
  | some text =>
      dsimp only
      cases parsed : env.ethAddrFromString text with
      | none => exact ⟨0, rfl⟩
      | some user =>
          refine ⟨user, ?_⟩
          dsimp only
          rcases unusable user parsed with multicast | zero
          · rw [if_pos multicast]
          · rw [if_pos zero, ite_self]

def shuffled (shuffle : Port → List Iface) (br : Bridge) : Bridge :=
  { br with ports := br.ports.map (fun port => { port with ifaces := shuffle port }) }

theorem shuffled_represents (env : HwEnv) (shuffle : Port → List Iface) (port : Port)
    (same : (shuffle port).Perm port.ifaces) (ea : EthAddr) :
    Represents env { port with ifaces := shuffle port } ea ↔ Represents env port ea := by
  unfold Represents
  simp only [same.mem_iff]

theorem shuffled_addrs (env : HwEnv) (shuffle : Port → List Iface) (same : ∀ port, (shuffle port).Perm port.ifaces)
    (br : Bridge) : EligibleAddrs env (shuffled shuffle br).ports = EligibleAddrs env br.ports := by
  funext ea
  unfold EligibleAddrs shuffled
  simp only [List.mem_map, exists_exists_and_eq_and, shuffled_represents env shuffle _ (same _)]

theorem shuffled_filled (shuffle : Port → List Iface) (same : ∀ port, (shuffle port).Perm port.ifaces) (br : Bridge)
    (filled : ∀ port ∈ br.ports, port.ifaces ≠ []) : ∀ port ∈ (shuffled shuffle br).ports, port.ifaces ≠ [] := by
  intro port member
  obtain ⟨old, inside, rfl⟩ := List.mem_map.mp member
  exact fun empty => filled old inside (List.Perm.nil_eq (empty ▸ same old)).symm

theorem shuffled_unique (shuffle : Port → List Iface) (same : ∀ port, (shuffle port).Perm port.ifaces) (br : Bridge)
    (unique : IfaceNamesUnique br.ports) :
    ∀ port ∈ (shuffled shuffle br).ports, (port.ifaces.map (fun iface => iface.self.name)).Nodup := by
  intro port member
  obtain ⟨old, inside, rfl⟩ := List.mem_map.mp member
  refine ((same old).map _).nodup_iff.mpr ?_
  rw [IfaceNamesUnique, List.map_flatMap, List.nodup_flatMap] at unique
  exact unique.1 old inside

theorem local_hw_addr_least (env : HwEnv) (br : Bridge) (filled : ∀ port ∈ br.ports, port.ifaces ≠ [])
    (unique : IfaceNamesUnique br.ports) :
    ∃ result, IsPicked env (EligibleAddrs env br.ports) result ∧
      ∀ order shuffle hwaddr ea, (∀ port, (shuffle port).Perm port.ifaces) → Unusable env hwaddr →
        ∃ iface, bridgePickLocalHwAddr env order (shuffled shuffle br) hwaddr ea = some (result, iface) := by
  have own := shuffled_unique Port.ifaces (fun _ => .refl _) br unique
  obtain ⟨result, _, _, picked⟩ := find_local_hw_addr_picks env .listed br 0 filled (by simpa [shuffled] using own)
  refine ⟨result, picked, fun order shuffle hwaddr ea same unusable => ?_⟩
  obtain ⟨start, found⟩ := pick_unusable env order (shuffled shuffle br) hwaddr ea unusable
  obtain ⟨other, iface, reached, also⟩ := find_local_hw_addr_picks env order (shuffled shuffle br) start
    (shuffled_filled shuffle same br filled) (shuffled_unique shuffle same br unique)
  rw [shuffled_addrs env shuffle same br] at also
  refine ⟨iface, ?_⟩
  rw [found, reached, picked_unique env _ result other picked also]

def bondIface (name : String) (ofpPort : Nat) : Iface :=
  ⟨⟨ofpPort, name, ⟨0, "lag1"⟩, some ofpPort⟩, "system", ⟨ofpPort, name, "system", false⟩⟩

def bondBridge : Bridge :=
  ⟨"bridge_normal", "system", none, true, [⟨⟨0, "lag1"⟩, none, [bondIface "2" 2, bondIface "1" 1]⟩], [], [], [], 3, []⟩

def bondEnv : HwEnv :=
  ⟨fun _ => none, fun _ => false, fun _ => none, fun iface => some (if iface.name = "1" then 7 else 5), 3⟩

theorem bond_addr_first_iface : IsPicked bondEnv (EligibleAddrs bondEnv bondBridge.ports) 7 := by
  obtain ⟨result, picked, reached⟩ := local_hw_addr_least bondEnv bondBridge (by decide) (by unfold IfaceNamesUnique; decide)
  obtain ⟨iface, found⟩ := reached .listed Port.ifaces none 0 (fun _ => .refl _) (fun _ absent => by cases absent)
  have addr : (bridgePickLocalHwAddr bondEnv .listed (shuffled Port.ifaces bondBridge) none 0).map Prod.fst = some 7 := by
    decide
  rw [found] at addr
  exact Option.some.inj addr ▸ picked

end OpsSwitchd.LocalHwAddr
