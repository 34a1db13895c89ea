import TickCircuit.Number.Basic

/-!
# Values

One dynamic type serves for everything a circuit file or a wire may hold: signals on pins,
component settings, the ids of components and wires, and whole documents.

`Value.absent` is the explicit "nothing connected, nothing emitted". It is not the number zero.
The null value and the empty text are accepted at the edges and mean the same (`asSignal`).
-/

namespace TickCircuit

/-- What a wire, a setting or a document may hold. -/
inductive Value where
  | null
  | absent
  | flag (value : Bool)
  | int (value : Int)
  | real (value : Float)
  | text (value : String)
  | list (items : List Value)
  | object (entries : List (Value × Value))

namespace Value

instance : Inhabited Value := ⟨.null⟩

/-! ## §1 Signals -/

/-- An actual signal: neither null, nor absent, nor the empty text. -/
def isPresent : Value → Bool
  | null => false
  | absent => false
  | text s => s != ""
  | _ => true

/-- The signal that a value stands for on a pin: everything that is not present is `absent`. -/
def asSignal (v : Value) : Value := if v.isPresent then v else absent

/-- Holds of everything but null, `absent`, `false`, zeros and what is empty. -/
def truthy : Value → Bool
  | null => false
  | absent => false
  | flag b => b
  | int n => n != 0
  | real x => x != 0.0
  | text s => s != ""
  | list xs => !xs.isEmpty
  | object es => !es.isEmpty

/-! ## §2 Views -/

/-- The number that a value is; a flag counts as zero or one. -/
def number? : Value → Option Number
  | flag b => some (.int (if b then 1 else 0))
  | int n => some (.int n)
  | real x => some (.real x)
  | _ => none

/-- A number as a value. -/
def ofNumber : Number → Value
  | .int n => int n
  | .real x => real x

def ofFlag (b : Bool) : Value := int (if b then 1 else 0)

/-- A number, flags left out. -/
def isNumber : Value → Bool
  | int _ => true
  | real _ => true
  | _ => false

def isObject : Value → Bool
  | object _ => true
  | _ => false

def isList : Value → Bool
  | list _ => true
  | _ => false

/-- The parts that a value consists of when it is taken as a sequence: the items of a list, the
keys of an object, the characters of a text. -/
def elements? : Value → Option (List Value)
  | list xs => some xs
  | object es => some (es.map Prod.fst)
  | text s => some (s.toList.map fun c => text (String.singleton c))
  | _ => none

/-- The word for the kind of a value in messages. -/
def kindName : Value → String
  | null => "NoneType"
  | absent => "NoSignalType"
  | flag _ => "bool"
  | int _ => "int"
  | real _ => "float"
  | text _ => "str"
  | list _ => "list"
  | object _ => "dict"

end Value

end TickCircuit
