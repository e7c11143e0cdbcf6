/-
# The slots of bridge ports

Two tables of the GPE keep bridge ports in slots. A bridge has sixteen for its flooding, the first
four of which belong to the UNIs; a GEM port has a list of up to eight, with the highest index in
use beside it. A modification reads the entry, looks for the port or for room and writes the entry
back; the fields for a port have seven bits, the highest index has three.
-/

import FalconGpon.Api.Mapper
import Mathlib.Data.Fintype.Pi
import Mathlib.Logic.Function.Basic

namespace FalconGpon.Api

/-- The flooding of `struct gpe_bridge_table`. -/
structure FloodingRow where
  /-- The bits of `flooding_bridge_port_enable`. -/
  enable : Fin 16 → Bool
  egressBridgePortIndex : Fin 16 → BitVec 7
deriving DecidableEq

/-- What `omci_api_gem_port_interworking_modify` writes of `struct gpe_ds_gem_port_table`. -/
structure InterworkingRow where
  valid : Bool
  interworkingOption : BitVec 3
  gemPortType : BitVec 1
  gemLoopbackEnable : Bool
  lanPortIndex : BitVec 3
  maxBridgeIndex : Fin 8
  bridgePortIndex : Fin 8 → BitVec 7
deriving DecidableEq

/-- Whether the driver answers `table_read` and `table_write`. -/
structure TableEnv where
  read : Bool
  write : Bool
deriving DecidableEq

/-- `table_write`: the new entry, if it is written. -/
def TableEnv.tableWrite {α : Type} (env : TableEnv) (old new : α) : α × OmciApiReturn :=
  if env.write then (new, .success) else (old, .error)

/-- Where the loop of `omci_api_bridge_flooding_modify` ends. -/
inductive FloodingSearch
  | found
  | empty (slot : Fin 16)
  | full
deriving DecidableEq

namespace FloodingRow

variable (row : FloodingRow)

/-- The slots from `idx_s` to `idx_e`. The first four are hard mapped to the UNIs. -/
def slots (isUni : Bool) (lanPort : BitVec 8) : List (Fin 16) :=
  (List.finRange 16).filter fun slot => if isUni then slot.val = lanPort.toNat else 4 ≤ slot.val

def Holds (slot : Fin 16) (bridgePortIndex : BitVec 16) : Prop :=
  row.enable slot = true ∧ (row.egressBridgePortIndex slot).setWidth 16 = bridgePortIndex

instance (slot : Fin 16) (bridgePortIndex : BitVec 16) :
    Decidable (row.Holds slot bridgePortIndex) :=
  inferInstanceAs (Decidable (_ ∧ _))

/-- The loop over the slots, which does not look behind an empty one. -/
def search (bridgePortIndex : BitVec 16) : List (Fin 16) → FloodingSearch
  | [] => .full
  | slot :: rest =>
      if row.Holds slot bridgePortIndex then .found
      else if !row.enable slot then .empty slot
      else search bridgePortIndex rest

/-- Put a port into a slot. -/
def place (bridgePortIndex : BitVec 16) (slot : Fin 16) : FloodingRow where
  enable := Function.update row.enable slot true
  egressBridgePortIndex :=
    Function.update row.egressBridgePortIndex slot (bridgePortIndex.setWidth 7)

/-- `omci_api_bridge_flooding_modify`. -/
def floodingModify (env : TableEnv) (isUni : Bool) (lanPort : BitVec 8)
    (bridgePortIndex : BitVec 16) : FloodingRow × OmciApiReturn :=
  if isUni ∧ 4 ≤ lanPort then (row, .error)
  else if !env.read then (row, .error)
  else
    match row.search bridgePortIndex (slots isUni lanPort) with
    | .found => (row, .success)
    | .empty slot => env.tableWrite row (row.place bridgePortIndex slot)
    | .full => (row, .error)

/-- `omci_api_bridge_init`. -/
def bridgeInit (env : TableEnv) : FloodingRow × OmciApiReturn :=
  if !env.read then (row, .error)
  else env.tableWrite row ⟨fun _ => false, fun _ => 127⟩

end FloodingRow

namespace InterworkingRow

variable (row : InterworkingRow)

def lists (portIndex : BitVec 8) : Bool :=
  (List.finRange 8).any fun i =>
    i ≤ row.maxBridgeIndex && (row.bridgePortIndex i).setWidth 8 = portIndex

/-- Put a port behind the list, whose highest index is `maxBridgeIndex`. -/
def store (maxBridgeIndex : Fin 8) (portIndex : BitVec 8) : InterworkingRow :=
  { row with
    maxBridgeIndex := maxBridgeIndex
    bridgePortIndex := Function.update row.bridgePortIndex maxBridgeIndex (portIndex.setWidth 7) }

/-- The option 6: a list of bridges. Three bits hold the highest index. -/
def addBridge (portIndex : BitVec 8) : InterworkingRow :=
  if !row.valid then row.store 0 portIndex
  else if row.lists portIndex then row
  else row.store (row.maxBridgeIndex + 1) portIndex

/-- The change of an entry in `omci_api_gem_port_interworking_modify`. -/
def interwork (interworkingOption : BitVec 16) (gemPortType portIndex : BitVec 8) :
    InterworkingRow :=
  let bridged :=
    if interworkingOption = 1 then row.store 0 portIndex
    else if interworkingOption = 5 then { row with lanPortIndex := portIndex.setWidth 3 }
    else row.addBridge portIndex
  { bridged with
    interworkingOption := interworkingOption.setWidth 3
    gemPortType := gemPortType.setWidth 1
    valid := true }

/-- `omci_api_gem_port_interworking_modify`. -/
def interworkingModify (env : TableEnv) (interworkingOption : BitVec 16)
    (gemPortType portIndex : BitVec 8) : InterworkingRow × OmciApiReturn :=
  if ¬(interworkingOption = 1 ∨ interworkingOption = 5 ∨ interworkingOption = 6) then (row, .error)
  else if !env.read then (row, .error)
  else env.tableWrite row (row.interwork interworkingOption gemPortType portIndex)

/-- `omci_api_gem_port_loop_modify` without a loop, after which no port is listed. -/
def loopOff (env : TableEnv) : InterworkingRow × OmciApiReturn :=
  if !env.read then (row, .error)
  else env.tableWrite row { row with gemLoopbackEnable := false, valid := false }

end InterworkingRow

/-- The two tables. -/
structure PortTables where
  bridge : BitVec 16 → FloodingRow
  dsGemPort : BitVec 16 → InterworkingRow

/-- A modification of one of the tables. -/
inductive PortRequest
  | flooding (isUni : Bool) (lanPort : BitVec 8) (bridgeIndex bridgePortIndex : BitVec 16)
  | bridgeInit (bridgeIndex : BitVec 16)
  | interworking (gpix interworkingOption : BitVec 16) (gemPortType portIndex : BitVec 8)
  | loopOff (gpix : BitVec 16)
deriving DecidableEq

namespace PortTables

def init : PortTables where
  bridge _ := ⟨fun _ => false, fun _ => 0⟩
  dsGemPort _ := ⟨false, 0, 0, false, 0, 0, fun _ => 0⟩

variable (tables : PortTables)

def setBridge (bridgeIndex : BitVec 16) (done : FloodingRow × OmciApiReturn) :
    PortTables × OmciApiReturn :=
  ({ tables with bridge := Function.update tables.bridge bridgeIndex done.1 }, done.2)

def setGemPort (gpix : BitVec 16) (done : InterworkingRow × OmciApiReturn) :
    PortTables × OmciApiReturn :=
  ({ tables with dsGemPort := Function.update tables.dsGemPort gpix done.1 }, done.2)

/-- A modification and its answer. -/
def modify (env : TableEnv) : PortRequest → PortTables × OmciApiReturn
  | .flooding isUni lanPort bridgeIndex bridgePortIndex =>
      tables.setBridge bridgeIndex
        ((tables.bridge bridgeIndex).floodingModify env isUni lanPort bridgePortIndex)
  | .bridgeInit bridgeIndex =>
      tables.setBridge bridgeIndex ((tables.bridge bridgeIndex).bridgeInit env)
  | .interworking gpix interworkingOption gemPortType portIndex =>
      tables.setGemPort gpix
        ((tables.dsGemPort gpix).interworkingModify env interworkingOption gemPortType portIndex)
  | .loopOff gpix => tables.setGemPort gpix ((tables.dsGemPort gpix).loopOff env)

end PortTables

end FalconGpon.Api
