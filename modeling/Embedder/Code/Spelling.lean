import Embedder.Code
import Embedder.Types.Text

/-!
The names of instructions in the text format.

* `Access.loadName`, `Access.storeName`;
* `Op.name`: the name of an instruction without its immediate operands.
-/

namespace Embedder

namespace Access

/-- The width of an access that is narrower than its type. -/
def width (a : Access) : String := if a.isPartial then toString a.bits else ""

def loadName (a : Access) : String :=
  a.type.text ++ ".load" ++ a.width ++ if a.isPartial then signSuffix a.signed else ""

def storeName (a : Access) : String := a.type.text ++ ".store" ++ a.width

def loadOfName? (s : String) : Option Access := loads.find? fun a => a.loadName == s

def storeOfName? (s : String) : Option Access := stores.find? fun a => a.storeName == s

end Access

def Op.name : Op → String
  | .unreachable => "unreachable"
  | .nop => "nop"
  | .drop => "drop"
  | .select _ => "select"
  | .br _ => "br"
  | .brIf _ => "br_if"
  | .brTable _ _ => "br_table"
  | .ret => "return"
  | .call _ => "call"
  | .callIndirect _ _ => "call_indirect"
  | .returnCall _ => "return_call"
  | .returnCallIndirect _ _ => "return_call_indirect"
  | .localGet _ => "local.get"
  | .localSet _ => "local.set"
  | .localTee _ => "local.tee"
  | .globalGet _ => "global.get"
  | .globalSet _ => "global.set"
  | .tableGet _ => "table.get"
  | .tableSet _ => "table.set"
  | .tableInit _ _ => "table.init"
  | .elemDrop _ => "elem.drop"
  | .tableCopy _ _ => "table.copy"
  | .tableGrow _ => "table.grow"
  | .tableSize _ => "table.size"
  | .tableFill _ => "table.fill"
  | .load a _ => a.loadName
  | .store a _ => a.storeName
  | .memorySize _ => "memory.size"
  | .memoryGrow _ => "memory.grow"
  | .memoryInit _ _ => "memory.init"
  | .dataDrop _ => "data.drop"
  | .memoryCopy _ _ => "memory.copy"
  | .memoryFill _ => "memory.fill"
  | .refNull _ => "ref.null"
  | .refIsNull => "ref.is_null"
  | .refFunc _ => "ref.func"
  | .const v => v.type.text ++ ".const"
  | .numeric n => n.name
  | .extended _ row _ => row.name

end Embedder
