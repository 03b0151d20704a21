import OpsSwitchd.CText
import OpsSwitchd.Keyed
import Mathlib.Tactic.MkIffOfInductiveProp

set_option autoImplicit false

namespace OpsSwitchd

abbrev Uuid := Nat

abbrev Smap := List (String × String)

section Smap

variable {κ : Type} [DecidableEq κ]

def smapGet (map : List (κ × String)) (name : κ) : Option String := (Keyed.lookup Prod.fst name map).map Prod.snd

def caselessEq (a b : String) : Bool := decide (a.toList.map Char.toLower = b.toList.map Char.toLower)

-- A text that is neither of the two words stands for the default.
def smapGetBool (map : List (κ × String)) (name : κ) (default : Bool) : Bool :=
  if default then (smapGet map name).all (fun value => !caselessEq "false" value)
  else (smapGet map name).any (fun value => caselessEq "true" value)

def smapGetInt (map : List (κ × String)) (name : κ) (default : Int) : Int :=
  (smapGet map name).elim default (fun text => CText.toInt (CText.atoi text.toList))

end Smap

-- inserted and modified are OVSREC_IDL_IS_ROW_INSERTED and
-- OVSREC_IDL_IS_ROW_MODIFIED of the row for the current idl_seqno. A null
-- pointer column is none; a port column is the name of the referenced row.
structure NexthopRow where
  uuid : Uuid
  ipAddress : Option String
  ports : List String
  selected : Option Bool
  status : Smap
  inserted : Bool
  modified : Bool
deriving DecidableEq, Repr

structure RouteRow where
  uuid : Uuid
  vrf : String
  from_ : String
  pfx : String
  addressFamily : Option String
  selected : Option Bool
  nexthops : List NexthopRow
  inserted : Bool
  modified : Bool
deriving DecidableEq, Repr

structure NeighborRow where
  uuid : Uuid
  vrf : String
  ipAddress : String
  mac : Option String
  addressFamily : Option String
  port : Option String
  inserted : Bool
  modified : Bool
deriving DecidableEq, Repr

structure VlanRow where
  uuid : Uuid
  name : String
  id : Int
  hwVlanConfig : Smap
  inserted : Bool
  modified : Bool
deriving DecidableEq, Repr

structure InterfaceRow where
  uuid : Uuid
  name : String
  type : String
  modified : Bool
deriving DecidableEq, Repr

structure PortRow where
  uuid : Uuid
  name : String
  interfaces : List InterfaceRow
  modified : Bool
deriving DecidableEq, Repr

structure BridgeRow where
  name : String
  datapathType : String
  ports : List PortRow
  vlans : List VlanRow
  controllers : List String
deriving DecidableEq, Repr

structure VrfRow where
  name : String
  ports : List PortRow
deriving DecidableEq, Repr

inductive TxnStatus where
  | unchanged
  | incomplete
  | aborted
  | success
  | tryAgain
  | notLocked
  | error
deriving DecidableEq, Repr

-- The OVSREC_IDL_ANY_TABLE_ROWS flags. A row that came and went between two
-- runs leaves a flag set that no remaining row explains.
structure IdlTable (ρ : Type) where
  rows : List ρ
  anyInserted : Bool
  anyModified : Bool
  anyDeleted : Bool

structure Idl where
  routes : IdlTable RouteRow
  nexthops : IdlTable NexthopRow
  neighbors : IdlTable NeighborRow

-- What the flags of a table promise about the rows of the previous run. The
-- modified flag of an inserted row is left open.
@[mk_iff] structure Tracks {ρ : Type} (uuid : ρ → Uuid) (inserted modified : ρ → Bool) (unchanged : ρ → ρ → Prop)
    (old : List ρ) (table : IdlTable ρ) : Prop where
  inserted_iff : ∀ row ∈ table.rows, inserted row = true ↔ ∀ prior ∈ old, uuid prior ≠ uuid row
  modified_iff : ∀ row ∈ table.rows, inserted row = false →
    (modified row = true ↔ ∀ prior ∈ old, uuid prior = uuid row → ¬ unchanged prior row)
  any_inserted : ∀ row ∈ table.rows, inserted row = true → table.anyInserted = true
  any_modified : ∀ row ∈ table.rows, modified row = true → table.anyModified = true
  any_deleted : ∀ prior ∈ old, (∀ row ∈ table.rows, uuid row ≠ uuid prior) → table.anyDeleted = true

instance {ρ : Type} (uuid : ρ → Uuid) (inserted modified : ρ → Bool) (unchanged : ρ → ρ → Prop)
    [∀ a b, Decidable (unchanged a b)] (old : List ρ) (table : IdlTable ρ) :
    Decidable (Tracks uuid inserted modified unchanged old table) :=
  decidable_of_iff _ (tracks_iff uuid inserted modified unchanged old table).symm

end OpsSwitchd
