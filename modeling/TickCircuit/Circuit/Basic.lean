import TickCircuit.Circuit.Wire
import TickCircuit.Component.Basic

/-!
# Circuits

A circuit holds components by their ids, and wires in the order in which they were made. The order
of the wires matters: of several wires into one input pin the first one counts. Wires are only ever
added at the end or taken away.

Ids are made by counters, one for each type of component and one for the wires. Counters come from
files as they are, and a counter that cannot count is a fault only when it is used. So is one that
counts and yet stands still, as an infinity does: nothing ends a search that meets taken ids only.
-/

namespace TickCircuit

structure Circuit where
  components : Table Component
  wires : List Wire
  /-- How many ids have been made for each type. -/
  counters : Value
  /-- How many ids have been made for wires. -/
  wireCounter : Value

namespace Circuit

/-- A circuit without components and wires. -/
def empty : Circuit := ⟨[], [], .object [], .int 0⟩

/-! ## §1 Components -/

/-- The component with an id. -/
def find? (c : Circuit) (id : Value) : Except Fault (Option Component) := do
  return c.components.find? (← id.asKey)

/-- Puts a component under its id. -/
def add (c : Circuit) (component : Component) : Except Fault Circuit := do
  let key ← component.id.asKey
  return { c with components := c.components.insert key component }

/-- Takes a component away, with every wire that touches it, and gives the ids of these wires. An
unknown id changes nothing. -/
def remove (c : Circuit) (id : Value) : Except Fault (List Value × Circuit) := do
  let key ← id.asKey
  if c.components.contains key then
    let (gone, kept) := c.wires.partition (·.touches id)
    return (gone.map (·.id), { c with wires := kept, components := c.components.erase key })
  else return ([], c)

/-! ## §2 Wires -/

/-- Adds a wire behind all others. -/
def addWire (c : Circuit) (w : Wire) : Circuit := { c with wires := c.wires ++ [w] }

/-- Takes away the first wire with an id, and tells whether there was one. -/
def removeWire (c : Circuit) (id : Value) : Bool × Circuit :=
  (c.wires.any (·.id.same id), { c with wires := c.wires.eraseP (·.id.same id) })

/-- The wires into an input pin, in the order in which they were made. -/
def wiresInto (wires : List Wire) (component pin : Value) : List Wire :=
  wires.filter (·.feeds component pin)

def isInputConnected (wires : List Wire) (component pin : Value) : Bool :=
  wires.any (·.feeds component pin)

def isOutputConnected (wires : List Wire) (component pin : Value) : Bool :=
  wires.any (·.leaves component pin)

/-! ## §3 Ids -/

/-- The next count of a counter. -/
def nextCount (count : Value) : Except Fault Value :=
  match count.number? with
  | some n => .ok (.ofNumber (n.add (.int 1)))
  | none => .error .wrongKind

/-- Counts on until `isFree` holds of the id that the count makes, for at most `fuel` counts. -/
def countOn (isFree : Value → Bool) : (fuel : Nat) → (count : Value) → Except Fault Value
  | 0, _ => .error .endless
  | fuel + 1, count => do
    let count ← nextCount count
    if isFree count then return count else countOn isFree fuel count

/-- The counter of a type. -/
def counterOf (c : Circuit) (type : Value) : Except Fault Value :=
  match c.counters with
  | .object es => do return (Table.find? es (← type.asKey)).getD (.int 0)
  | v => .error (.noMember v.kindName "get")

/-- The counters with the counter of a type set. -/
def setCounter (counters type count : Value) : Value :=
  match counters with
  | .object es => .object (Table.insert es type count)
  | v => v

/-- A new id for a component of a type: its name with a number. No more counts than there are
components can be taken; when one more has been tried, the counter stands still and the search does
not end. -/
def nextComponentId (c : Circuit) (type : Value) : Except Fault (Value × Circuit) := do
  let idOf (count : Value) : Value := .text (type.display ++ count.display)
  let count ← countOn (fun count => !c.components.contains (idOf count)) (c.components.length + 1)
    (← c.counterOf type)
  return (idOf count, { c with counters := setCounter c.counters type count })

/-- A new id for a wire. -/
def nextWireId (c : Circuit) : Except Fault (Value × Circuit) := do
  let taken ← c.wires.mapM (·.id.asKey)
  let idOf (count : Value) : Value := .text ("W" ++ count.display)
  let count ← countOn (fun count => !taken.any (·.same (idOf count))) (c.wires.length + 1)
    c.wireCounter
  return (idOf count, { c with wireCounter := count })

/-! ## §4 Whole Circuits -/

/-- The circuit without its components, wires and counts. -/
def clear (c : Circuit) : Circuit :=
  ⟨[], [], match c.counters with
    | .list _ => .list []
    | _ => .object [], .int 0⟩

/-- The document of a circuit. -/
def toDocument (c : Circuit) : Value :=
  .object (Record.ofFields [
    ("components", .list (c.components.map fun e => e.2.toDocument)),
    ("wires", .list (c.wires.map Wire.toDocument)),
    ("counters", c.counters),
    ("wire_counter", c.wireCounter)])

/-- A field of a document, or a stand-in for it. -/
def fieldOr (d : Value) (name : String) (other : Value) : Value :=
  match d.field name with
  | .ok v => v
  | .error _ => other

/-- The items of a field that is a sequence. -/
def items (d : Value) (name : String) : Except Fault (List Value) :=
  match (fieldOr d name (.list [])).elements? with
  | some vs => .ok vs
  | none => .error .wrongKind

/-- The counters of a document. -/
def countersOf (d : Value) : Except Fault Value :=
  match fieldOr d "counters" (.object []) with
  | .object es => .ok (.object es)
  | .list vs => .ok (.list vs)
  | v => .error (.noMember v.kindName "copy")

/-- The circuit of a document. -/
def ofDocument (d : Value) : Except Fault Circuit := do
  if !d.isObject then throw (.noMember d.kindName "get")
  let counters ← countersOf d
  let start : Circuit := ⟨[], [], counters, fieldOr d "wire_counter" (.int 0)⟩
  let filled ← (← items d "components").foldlM (fun c v => do c.add (← Component.ofDocument v)) start
  return { filled with wires := ← (← items d "wires").mapM Wire.ofDocument }

end Circuit

end TickCircuit
