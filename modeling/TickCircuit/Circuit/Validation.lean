import TickCircuit.Circuit.Basic

/-!
# Validation

The rules that a circuit document has to follow. They are checked in the order of the document, and
the first one that is broken is reported.
-/

namespace TickCircuit.Validation

/-- The fields that a component must have. -/
def componentFields : List String := ["id", "type"]

/-- The fields that a wire must have. -/
def wireFields : List String := ["id", "from_id", "from_pin", "to_id", "to_pin"]

/-- Every one of the fields is there; otherwise `defect` names the first that is not. -/
def requireFields (v : Value) (defect : String → Defect) : List String → Except Fault Unit
  | [] => .ok ()
  | name :: rest => do
    if ← v.mentions name then requireFields v defect rest else throw (.refused (defect name))

/-- Refuses unless `holds`. -/
def require (holds : Bool) (defect : Defect) : Except Fault Unit :=
  if holds then .ok () else .error (.refused defect)

/-- The kinds of the components so far, by their ids. -/
abbrev Seen := Table Kind

/-- The `place`-th component of a document. -/
def component (seen : Seen) (place : Nat) (v : Value) : Except Fault Seen := do
  requireFields v (.componentLacks place) componentFields
  let type ← v.field "type"
  let id ← v.field "id"
  match (ComponentType.ofValue type).kind? with
  | none => throw (.refused (.unknownType id type))
  | some kind =>
    match v.field "settings" with
    | .ok settings => require settings.isObject (.settingsNotAnObject id)
    | .error _ => pure ()
    let key ← id.asKey
    require (!seen.contains key) (.duplicateId id)
    return seen.insert key kind

/-- The components of a document, counted from `place` on. -/
def components (seen : Seen) : (place : Nat) → List Value → Except Fault Seen
  | _, [] => .ok seen
  | place, v :: rest => do components (← component seen place v) (place + 1) rest

/-- The kind of a component that a wire refers to. -/
def endOf (seen : Seen) (place : Nat) (id : Value) : Except Fault Kind := do
  match seen.find? (← id.asKey) with
  | some kind => return kind
  | none => throw (.refused (.wireToUnknown place id))

/-- The `place`-th wire of a document. -/
def wire (seen : Seen) (place : Nat) (v : Value) : Except Fault Unit := do
  requireFields v (.wireLacks place) wireFields
  let source ← endOf seen place (← v.field "from_id")
  let target ← endOf seen place (← v.field "to_id")
  let sourcePin ← v.field "from_pin"
  let targetPin ← v.field "to_pin"
  require ((ComponentType.known source).hasOutputPin sourcePin) (.wireStart place sourcePin)
  require ((ComponentType.known target).hasInputPin targetPin) (.wireEnd place targetPin)

/-- The wires of a document, counted from `place` on. -/
def wires (seen : Seen) : (place : Nat) → List Value → Except Fault Unit
  | _, [] => .ok ()
  | place, v :: rest => do
    wire seen place v
    wires seen (place + 1) rest

/-- The list that a document holds under a name. -/
def listField (v : Value) (name : String) : Except Fault (List Value) :=
  match v.field name with
  | .ok (.list vs) => .ok vs
  | _ => .error (.refused (.noList name))

/-- A whole document. -/
def document (v : Value) : Except Fault Unit := do
  require v.isObject .notAnObject
  let cs ← listField v "components"
  let ws ← listField v "wires"
  wires (← components [] 1 cs) 1 ws

end TickCircuit.Validation
