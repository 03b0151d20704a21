import OpsSwitchd.Rows

set_option autoImplicit false

namespace OpsSwitchd

inductive RouteFamily where
  | ipv4
  | ipv6
deriving DecidableEq, Repr

inductive RouteAction where
  | add
  | delete
  | deleteNh
deriving DecidableEq, Repr

-- l3_egress_id is written for a resolved nexthop only.
inductive NhState where
  | unresolved
  | resolved (l3EgressId : Int)
deriving DecidableEq, Repr

inductive NhType where
  | ipaddr
  | port
deriving DecidableEq, Repr

structure NhId where
  type : NhType
  id : String
deriving DecidableEq, Repr

structure OfprotoNexthop where
  nh : NhId
  state : NhState
deriving DecidableEq, Repr

structure OfprotoRoute where
  family : RouteFamily
  pfx : String
  nexthops : List OfprotoNexthop
deriving DecidableEq, Repr

structure HostEntry where
  port : String
  isIpv6 : Bool
  ipAddr : String
  mac : String
deriving DecidableEq, Repr

-- A host call is recorded with the provider's answer: none is a failure,
-- some id is success with id written into the caller's l3_egress_id.
inductive OfprotoCall where
  | l3RouteAction (action : RouteAction) (route : OfprotoRoute)
  | addL3HostEntry (entry : HostEntry) (answer : Option Int)
  | deleteL3HostEntry (port : String) (isIpv6 : Bool) (ipAddr : String) (answer : Option Int)
  | setVlan (vid : Int) (enable : Bool)
  | bundleRegister (port : String)
  | bundleUnregister (port : String)
  | portUnregister (ofpPort : Nat)
  | portDel (ofpPort : Nat)
deriving DecidableEq, Repr

-- The provider is outside this repository. It may answer from everything it
-- was asked before; contracts on it are stated where they are used.
structure Provider where
  hasL3RouteAction : Bool
  addL3HostEntry : List OfprotoCall → HostEntry → Option Int
  deleteL3HostEntry : List OfprotoCall → String → Bool → String → Option Int
  nexthopError : List OfprotoCall → OfprotoRoute → NhId → Option String

-- The library calls that the code makes: hash_string, ether_aton (does it
-- parse), inet_pton for AF_INET6 and ofproto_port_open_type.
structure Platform where
  hashString : String → UInt32
  etherAton : String → Bool
  inetPton6 : String → Bool
  portOpenType : String → String → String
  provider : Provider

end OpsSwitchd
