import OpsSwitchd.BondHandle
import OpsSwitchd.SflowAgent
import OpsSwitchd.SflowCollectorRun

set_option autoImplicit false

namespace OpsSwitchd.Sflow

open CText (atoi decimal nul)
open Mirrors (smapReplace)

section Database

inductive NumberColumn where
  | sampling
  | polling
  | header
  | maxDatagram
deriving DecidableEq, Repr

structure SflowRow where
  uuid : Nat
  targets : List (List Char)
  agent : Option String
  agentAddrFamily : Option String
  sampling : Option Int
  polling : Option Int
  header : Option Int
  maxDatagram : Option Int

def SflowRow.number (row : SflowRow) : NumberColumn → Option Int
  | .sampling => row.sampling
  | .polling => row.polling
  | .header => row.header
  | .maxDatagram => row.maxDatagram

def SflowRow.setNumber (row : SflowRow) (column : NumberColumn) (value : Option Int) : SflowRow :=
  match column with
  | .sampling => { row with sampling := value }
  | .polling => { row with polling := value }
  | .header => { row with header := value }
  | .maxDatagram => { row with maxDatagram := value }

-- A row of the Port table. interfaces are the types of its interfaces.
structure SflowPort where
  name : String
  otherConfig : Smap
  interfaces : List String
  ip4Address : Option (AddressText 15)
  ip6Address : Option (AddressText 45)

structure SflowInterface where
  name : String
  statistics : List (String × Int)

-- system is the sflow column of the System row, if there is a row.
structure Database where
  rows : List SflowRow
  nextUuid : Nat
  system : Option (Option Nat)
  ports : List SflowPort
  interfaces : List SflowInterface

end Database

section Commands

def low : NumberColumn → Int
  | .sampling => 1
  | .polling => 0
  | .header => 64
  | .maxDatagram => 200

def high : NumberColumn → Int
  | .sampling => 1000000000
  | .polling => 3600
  | .header => 256
  | .maxDatagram => 9000

-- cli_do_config_start and cli_do_config_finish.
structure Txn where
  started : Bool
  commits : Bool

structure CliReply where
  code : CmdResult
  text : Option (List Char)
  db : Database

def cliDoConfigFinish (txn : Txn) (db next : Database) : CliReply :=
  if txn.commits then ⟨.success, none, next⟩ else ⟨.ovsdbFailure, none, db⟩

def sflowInsert (db : Database) : SflowRow := ⟨db.nextUuid, [], none, none, none, none, none, none⟩

def editRow (db : Database) (edit : SflowRow → SflowRow) : Database :=
  match db.rows with
  | [] => { db with rows := [edit (sflowInsert db)], nextUuid := db.nextUuid + 1 }
  | row :: rest => { db with rows := edit row :: rest }

def noConfiguration : List Char := "No sFlow configuration present.".toList

def setNumber (column : NumberColumn) (txn : Txn) (db : Database) (value : Option Int) : CliReply :=
  if !txn.started then ⟨.ovsdbFailure, none, db⟩
  else if db.rows.isEmpty && value.isNone then ⟨.success, some noConfiguration, db⟩
  else cliDoConfigFinish txn db (editRow db (fun row => row.setNumber column value))

def sflowSetSamplingRate : Txn → Database → Option Int → CliReply := setNumber .sampling

def sflowSetPolling : Txn → Database → Option Int → CliReply := setNumber .polling

def sflowSetHeaderSize : Txn → Database → Option Int → CliReply := setNumber .header

def sflowSetMaxDatagramSize : Txn → Database → Option Int → CliReply := setNumber .maxDatagram

def sflowEnabledKey : String := "sflow-enabled"

def setOtherConfig (ports : List SflowPort) (name : String) (change : Smap → Smap) : List SflowPort :=
  ports.map (fun port => if port.name = name then { port with otherConfig := change port.otherConfig } else port)

def sflowSetPortConfig (txn : Txn) (db : Database) (port : String) (set : Bool) : CliReply :=
  if !txn.started then ⟨.ovsdbFailure, none, db⟩
  else if db.system.isNone then ⟨.success, none, db⟩
  else if db.ports.all (fun row => decide (row.name ≠ port)) then ⟨.success, none, db⟩
  else
    let value := if set then "true" else "false"
    cliDoConfigFinish txn db
      { db with ports := setOtherConfig db.ports port (fun config => smapReplace config sflowEnabledKey value) }

def sflowSetGlobalStatus (txn : Txn) (db : Database) (status : Bool) : CliReply :=
  if !txn.started then ⟨.ovsdbFailure, none, db⟩
  else
    match db.system with
    | none => ⟨.success, none, db⟩
    | some sflow =>
        if status then
          if sflow.isSome then ⟨.success, some "sFlow already enabled.".toList, db⟩
          else
            let edited := editRow db id
            cliDoConfigFinish txn db { edited with system := some (edited.rows.head?.map SflowRow.uuid) }
        else if !db.rows.isEmpty && sflow.isSome then cliDoConfigFinish txn db { db with system := some none }
        else ⟨.success, some "sFlow already disabled.".toList, db⟩

-- A reply with a text is an aborted transaction.
def sflowSetCollectorRow (parser : AddressParser) (txn : Txn) (db : Database) (cmd : Command) : CliReply :=
  if !txn.started then ⟨.ovsdbFailure, none, db⟩
  else
    let reply := sflowSetCollector parser (db.rows.head?.map SflowRow.targets) cmd.collector cmd.set
    match reply.text with
    | some text => ⟨reply.code, some text, db⟩
    | none => cliDoConfigFinish txn db (editRow db (fun row => { row with targets := targetsOf reply.table }))

def sflowSetAgentInterface (txn : Txn) (db : Database) (interface family : Option String) (set : Bool) : CliReply :=
  if !txn.started then ⟨.ovsdbFailure, none, db⟩
  else if set && db.interfaces.all (fun row => decide (some row.name ≠ interface)) then
    ⟨.success, some "Invalid interface".toList, db⟩
  else if !set && db.rows.isEmpty then ⟨.success, some noConfiguration, db⟩
  else cliDoConfigFinish txn db (editRow db (fun row => { row with agent := interface, agentAddrFamily := family }))

-- PortOtherConfigValidator of the REST server.
def validateModification (interfaces : List String) (otherConfig : Smap) : Option String :=
  if (smapGet otherConfig sflowEnabledKey).isSome && interfaces.any (fun type => decide (type ≠ "system")) then
    some "sFlow configuration is only supported on physical interfaces"
  else none

-- The REST server replaces the whole column, if the validator agrees.
def modifyPort (db : Database) (name : String) (otherConfig : Smap) : Database :=
  { db with
    ports := db.ports.map (fun port =>
      if port.name = name ∧ validateModification port.interfaces otherConfig = none then { port with otherConfig := otherConfig }
      else port) }

inductive CliCommand where
  | status (enable : Bool)
  | portStatus (port : String) (enable : Bool)
  | number (column : NumberColumn) (arg : Option (RangeArg (low column) (high column)))
  | collector (cmd : Command)
  | agentInterface (interface : String) (family : Option String)
  | noAgentInterface

inductive Input where
  | command (txn : Txn) (cmd : CliCommand)
  | modifyPort (name : String) (otherConfig : Smap)

def execute (parser : AddressParser) (txn : Txn) (db : Database) : CliCommand → CliReply
  | .status enable => sflowSetGlobalStatus txn db enable
  | .portStatus port enable => sflowSetPortConfig txn db port enable
  | .number .sampling arg => sflowSetSamplingRate txn db (arg.map (fun a => atoi a.text))
  | .number .polling arg => sflowSetPolling txn db (arg.map (fun a => atoi a.text))
  | .number .header arg => sflowSetHeaderSize txn db (arg.map (fun a => atoi a.text))
  | .number .maxDatagram arg => sflowSetMaxDatagramSize txn db (arg.map (fun a => atoi a.text))
  | .collector cmd => sflowSetCollectorRow parser txn db cmd
  | .agentInterface interface family => sflowSetAgentInterface txn db (some interface) family true
  | .noAgentInterface => sflowSetAgentInterface txn db none none false

def apply (parser : AddressParser) (db : Database) : Input → Database
  | .command txn cmd => (execute parser txn db cmd).db
  | .modifyPort name otherConfig => modifyPort db name otherConfig

end Commands

section Pushed

-- struct ofproto_sflow_options. The numbers are of the type uint32_t.
structure Options where
  targets : List (List Char)
  number : NumberColumn → Nat
  subId : Nat
  agentDevice : Option String
  agentIp : Option (List Char)
  ports : List String

def uint32 (value : Int) : Nat := (value % 4294967296).toNat

def defaultBridgeName : List Char := "bridge_normal".toList

def sflowPortsDisabled (ports : List SflowPort) : List String :=
  (ports.filter (fun port =>
    !defaultBridgeName.isPrefixOf port.name.toList && (!port.otherConfig.isEmpty && !smapGetBool port.otherConfig sflowEnabledKey true))).map
      SflowPort.name

def agentPorts (ports : List SflowPort) : List AgentPort :=
  ports.map (fun port => ⟨port.name, port.ip4Address, port.ip6Address⟩)

-- defaults are the constants SFL_DEFAULT_* of the headers of the daemon.
def bridgeConfigureSflow (defaults : NumberColumn → Nat) (ports : List SflowPort) (cfg : SflowRow) (sflowBridgeNumber : Nat) :
    Options where
  targets := cfg.targets.dedup
  number := fun column => (cfg.number column).elim (defaults column) uint32
  subId := sflowBridgeNumber
  agentDevice := cfg.agent
  agentIp := sflowAgentAddress (agentPorts ports) cfg.agent cfg.agentAddrFamily (List.replicate inet6Addrstrlen nul)
  ports := sflowPortsDisabled ports

def systemRow (db : Database) : Option SflowRow :=
  db.system.bind (fun sflow => sflow.bind (fun uuid => db.rows.find? (fun row => decide (row.uuid = uuid))))

def configureSflow (defaults : NumberColumn → Nat) (db : Database) : Nat → List String → List (String × Option Options)
  | _, [] => []
  | number, name :: rest =>
      match systemRow db with
      | some row => (name, some (bridgeConfigureSflow defaults db.ports row number)) :: configureSflow defaults db (number + 1) rest
      | none => (name, none) :: configureSflow defaults db number rest

end Pushed

section Shown

def printU64 (value : Int) : List Char := decimal (value % 18446744073709551616).toNat

def sampleCount (statistics : List (String × Int)) (key : String) : Int :=
  ((statistics.find? (fun entry => decide (entry.1 = key))).map Prod.snd).getD 0

def packetCount (row : SflowInterface) : Int :=
  sampleCount row.statistics "sflow_ingress_packets" + sampleCount row.statistics "sflow_egress_packets"

def sflowAggregateSampleCount (db : Database) : Int := db.interfaces.foldl (fun count row => count + packetCount row) 0

-- defaults are the constants SFL_DEFAULT_* of the headers of the CLI.
def shownNumber (defaults : NumberColumn → Nat) (row : SflowRow) (column : NumberColumn) : List Char :=
  match row.number column with
  | some value => printU64 value
  | none => decimal (defaults column)

-- The commands print a list of texts, one for each call of vty_out.
def line (label : String) (value : List Char) : List Char := label.toList ++ (value ++ ['\n'])

def statusLine (enabled : Bool) : List Char :=
  line "sFlow                         " (if enabled then "enabled".toList else "disabled".toList)

def collectorLabel : List Char := "Collector IP/Port/Vrf".toList

def collectorHeading (targets : List (List Char)) : List Char :=
  if targets.isEmpty then collectorLabel ++ "         Not set\n".toList else collectorLabel

def targetLines (targets : List (List Char)) : List (List Char) :=
  targets.zipIdx.flatMap (fun entry =>
    if (tokens entry.1).ip.isNone then [] else [sflowShowTarget entry.2 entry.1 ++ ['\n']])

def collectorTexts (targets : List (List Char)) : List (List Char) := collectorHeading targets :: targetLines targets

def numberLabel : NumberColumn → String
  | .sampling => "Sampling Rate                 "
  | .polling => "Polling Interval              "
  | .header => "Header Size                   "
  | .maxDatagram => "Max Datagram Size             "

def numberLine (defaults : NumberColumn → Nat) (row : SflowRow) (column : NumberColumn) : List Char :=
  line (numberLabel column) (shownNumber defaults row column)

def dashes : List Char := "-----------------------------------------\n".toList

def notConfigured : List Char := "sFlow not yet configured.\n".toList

def sflowShow (defaults : NumberColumn → Nat) (db : Database) : List (List Char) :=
  match db.rows.head?, db.system with
  | none, _ => [notConfigured]
  | some _, none => []
  | some row, some sflow =>
      ["\nsFlow Configuration \n".toList, dashes, statusLine sflow.isSome] ++
        (collectorTexts row.targets ++
          [line "Agent Interface               " (row.agent.getD "Not set").toList,
            line "Agent Address Family          " (row.agentAddrFamily.getD "ipv4").toList,
            numberLine defaults row .sampling, numberLine defaults row .polling, numberLine defaults row .header,
            numberLine defaults row .maxDatagram, line "Number of Samples             " (printU64 (sflowAggregateSampleCount db))])

def shownStatus (db : Database) (sflow : Option Nat) (interface : String) : Bool :=
  sflow.isSome &&
    ((db.ports.find? (fun port => decide (port.name = interface))).bind (fun port => smapGet port.otherConfig sflowEnabledKey)).all
      (fun value => "true".toList.isPrefixOf value.toList)

def sflowShowIntfStatistics (defaults : NumberColumn → Nat) (db : Database) (interface : String) : List (List Char) :=
  match db.rows.head?, db.system with
  | none, _ => [notConfigured]
  | some _, none => []
  | some row, some sflow =>
      match db.interfaces.find? (fun ifrow => decide (ifrow.name = interface)) with
      | none => ["Invalid interface.\n".toList]
      | some ifrow =>
          ["\nsFlow Configuration - Interface ".toList ++ (interface.toList ++ ['\n']), dashes,
            statusLine (shownStatus db sflow interface), numberLine defaults row .sampling,
            line "Number of Samples             " (printU64 (packetCount ifrow))]

end Shown

end OpsSwitchd.Sflow
