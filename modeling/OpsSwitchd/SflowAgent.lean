import OpsSwitchd.CText

set_option autoImplicit false

namespace OpsSwitchd.Sflow

open CText (nul cString strchr strncpy)

def inetAddrstrlen : Nat := 16

def inet6Addrstrlen : Nat := 46

structure AddressText (longest : Nat) where
  address : List Char
  prefixLength : Option (List Char)
  short : address.length ≤ longest
  plain : '/' ∉ address ∧ nul ∉ address

def AddressText.text {longest : Nat} (a : AddressText longest) : List Char :=
  match a.prefixLength with
  | none => a.address
  | some digits => a.address ++ '/' :: digits

structure AgentPort where
  name : String
  ip4Address : Option (AddressText 15)
  ip6Address : Option (AddressText 45)

def sflowAgentAddressDefault (ports : List AgentPort) (addr : List Char) : List Char :=
  match ports.findSome? AgentPort.ip4Address with
  | some address => strncpy addr address.text inetAddrstrlen
  | none => addr.set 0 nul

-- none is a scan that leaves the buffer.
def trimPrefixLength (addr : List Char) : Option (List Char) :=
  match strchr '/' addr with
  | none => none
  | some none => some addr
  | some (some i) => some (addr.set i nul)

-- A family other than ipv4 and ipv6 stays AF_UNSPEC.
def copyAgentAddress (ports : List AgentPort) (intfName af : Option String) (addr : List Char) : List Char :=
  match intfName.bind (fun name => ports.find? (fun port => decide (port.name = name))) with
  | none => sflowAgentAddressDefault ports addr
  | some port =>
      if af = some "ipv6" then
        match port.ip6Address with
        | some address => strncpy addr address.text inet6Addrstrlen
        | none => sflowAgentAddressDefault ports addr
      else
        match port.ip4Address with
        | some address => strncpy addr address.text inetAddrstrlen
        | none => sflowAgentAddressDefault ports addr

def sflowAgentAddress (ports : List AgentPort) (intfName af : Option String) (addr : List Char) : Option (List Char) :=
  trimPrefixLength (copyAgentAddress ports intfName af addr)

def namedAddress (ports : List AgentPort) (intfName af : Option String) : Option (List Char) :=
  (intfName.bind (fun name => ports.find? (fun port => decide (port.name = name)))).bind (fun port =>
    if af = some "ipv6" then port.ip6Address.map AddressText.address else port.ip4Address.map AddressText.address)

def firstAddress (ports : List AgentPort) : Option (List Char) :=
  (ports.findSome? AgentPort.ip4Address).map AddressText.address

def Holds (addr text : List Char) : Prop := (trimPrefixLength addr).bind cString = some text

theorem holds_terminated (text rest : List Char) (plain : '/' ∉ text ∧ nul ∉ text) : Holds (text ++ nul :: rest) text := by
  unfold Holds trimPrefixLength
  rw [CText.strchr_absent '/' text rest (by decide) plain.2 plain.1]
  exact CText.c_string_ended text rest plain.2

theorem holds_cut (text rest : List Char) (plain : '/' ∉ text ∧ nul ∉ text) : Holds (text ++ '/' :: rest) text := by
  unfold Holds trimPrefixLength
  rw [CText.strchr_found '/' text rest plain.2 plain.1]
  dsimp only
  rw [List.set_append_right _ _ (Nat.le_refl _), Nat.sub_self, List.set_cons_zero]
  exact CText.c_string_ended text rest plain.2

-- The copy has room for one character more than the longest address: that is
-- its terminator, or the slash that is cut off.
theorem copied_holds {longest : Nat} (a : AddressText longest) (addr : List Char) :
    Holds (strncpy addr a.text (longest + 1)) a.address := by
  have short := a.short
  unfold strncpy AddressText.text
  cases a.prefixLength with
  | none =>
      have room : longest + 1 - a.address.length = (longest - a.address.length) + 1 := by omega
      simp only [room, List.replicate_succ, List.append_assoc, List.take_of_length_le (Nat.le_succ_of_le short), List.cons_append]
      exact holds_terminated a.address _ a.plain
  | some digits =>
      have room : longest + 1 - a.address.length = (longest - a.address.length) + 1 := by omega
      simp only [List.take_append, List.take_of_length_le (Nat.le_succ_of_le short), room, List.take_succ_cons,
        List.append_assoc, List.cons_append]
      exact holds_cut a.address _ a.plain

theorem default_holds (ports : List AgentPort) (size : Nat) :
    Holds (sflowAgentAddressDefault ports (List.replicate (size + 1) nul)) ((firstAddress ports).getD []) := by
  unfold sflowAgentAddressDefault firstAddress
  cases ports.findSome? AgentPort.ip4Address with
  | some address => exact copied_holds address _
  | none => exact holds_terminated [] (List.replicate size nul) ⟨List.not_mem_nil, List.not_mem_nil⟩

theorem agent_address_complete (ports : List AgentPort) (intfName af : Option String) (extra : Nat) :
    (sflowAgentAddress ports intfName af (List.replicate (inet6Addrstrlen + extra) nul)).bind cString =
      some (((namedAddress ports intfName af).or (firstAddress ports)).getD []) := by
  have zeroed : List.replicate (inet6Addrstrlen + extra) nul = List.replicate (45 + extra + 1) nul := by
    rw [inet6Addrstrlen]
    congr 1
    omega
  have fallback := default_holds ports (45 + extra)
  unfold sflowAgentAddress copyAgentAddress namedAddress
  rw [zeroed]
  cases intfName.bind (fun name => ports.find? (fun port => decide (port.name = name))) with
  | none => exact fallback
  | some port =>
      simp only [Option.bind_some]
      split
      · cases port.ip6Address with
        | none => exact fallback
        | some address => exact copied_holds address _
      · cases port.ip4Address with
        | none => exact fallback
        | some address => exact copied_holds address _

end OpsSwitchd.Sflow
