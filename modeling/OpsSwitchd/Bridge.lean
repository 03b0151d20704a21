import OpsSwitchd.HashOrder
import OpsSwitchd.Ofproto

set_option autoImplicit false

namespace OpsSwitchd

-- The fields of a struct port and a struct iface that never change between
-- creation and destruction, with an allocation identity in place of the
-- address. Back pointers refer to these; an absent ofp_port is OFPP_NONE.
structure PortRef where
  addr : Nat
  name : String
deriving DecidableEq, Repr

structure IfaceRef where
  addr : Nat
  name : String
  port : PortRef
  ofpPort : Option Nat
deriving DecidableEq, Repr

structure Iface where
  self : IfaceRef
  type : String
  cfg : InterfaceRow
deriving DecidableEq, Repr

structure Port where
  self : PortRef
  cfg : Option PortRow
  ifaces : List Iface
deriving DecidableEq, Repr

structure Vlan where
  name : String
  vid : Int
  cfg : VlanRow
  enable : Bool
deriving DecidableEq, Repr

-- ofproto says whether br->ofproto exists; calls are the requests made to it.
structure Bridge where
  name : String
  type : String
  cfg : Option BridgeRow
  ofproto : Bool
  ports : List Port
  ifaces : List IfaceRef
  ifaceByName : List IfaceRef
  vlans : List Vlan
  nextAddr : Nat
  calls : List OfprotoCall
deriving DecidableEq, Repr

namespace Bridge

def emit (br : Bridge) (call : OfprotoCall) : Bridge := { br with calls := br.calls ++ [call] }

def portLookup (br : Bridge) (name : String) : Option Port := Keyed.lookup (fun port => port.self.name) name br.ports

def ifaceLookup (br : Bridge) (name : String) : Option IfaceRef := Keyed.lookup IfaceRef.name name br.ifaceByName

end Bridge

def bridgeCreate (normalizeType : String → String) (row : BridgeRow) : Bridge :=
  { name := row.name, type := normalizeType row.datapathType, cfg := some row, ofproto := false,
    ports := [], ifaces := [], ifaceByName := [], vlans := [], nextAddr := 0, calls := [] }

end OpsSwitchd
