import TickCircuit.Value.Rendering

/-!
# What Is Wrong with a Circuit or a Request

The reasons for which a circuit document is not accepted, an edit is refused or a run does not
start. Each reason is a cause; `Defect.message` is its only wording.
-/

namespace TickCircuit

/-- A reason to refuse a document, an edit or a run. Items are counted from one. -/
inductive Defect where
  /-- The document is no object. -/
  | notAnObject
  /-- The document lacks a list of this name. -/
  | noList (name : String)
  | componentLacks (place : Nat) (field : String)
  | unknownType (id type : Value)
  | settingsNotAnObject (id : Value)
  | duplicateId (id : Value)
  | wireLacks (place : Nat) (field : String)
  | wireToUnknown (place : Nat) (id : Value)
  | wireStart (place : Nat) (pin : Value)
  | wireEnd (place : Nat) (pin : Value)
  /-- No component can be made of this type. -/
  | noSuchType (type : Value)
  | idInUse (id : Value)
  | notAButton (id type : Value)
  | unknownSource (id : Value)
  | unknownTarget (id : Value)
  | noOutputPin (type id pin : Value)
  | noInputPin (type id pin : Value)
  | ownPin (pin id : Value)
  /-- The tick interval is zero or less. -/
  | intervalNotPositive (interval : Value)

/-- A value between apostrophes. -/
def Defect.named (v : Value) : String := "'" ++ v.display ++ "'"

/-- The wording of a defect. -/
def Defect.message : Defect → String
  | notAnObject => "Data does not contain a valid circuit object."
  | noList name => "Missing or invalid '" ++ name ++ "' list."
  | componentLacks i field =>
    "Component #" ++ toString i ++ " is missing required field '" ++ field ++ "'."
  | unknownType id type => "Component " ++ named id ++ " has unknown type " ++ named type ++ "."
  | settingsNotAnObject id => "Component " ++ named id ++ " settings must be an object."
  | duplicateId id => "Duplicate component id " ++ named id ++ "."
  | wireLacks i field => "Wire #" ++ toString i ++ " is missing required field '" ++ field ++ "'."
  | wireToUnknown i id =>
    "Wire #" ++ toString i ++ " references unknown component " ++ named id ++ "."
  | wireStart i pin => "Wire #" ++ toString i ++ " starts at unknown output pin " ++ named pin ++ "."
  | wireEnd i pin => "Wire #" ++ toString i ++ " ends at unknown input pin " ++ named pin ++ "."
  | noSuchType type => "Unknown component type " ++ named type ++ "."
  | idInUse id => "Component id " ++ named id ++ " is already in use."
  | notAButton id type =>
    "Component " ++ named id ++ " is a " ++ type.display ++ ", not a Button."
  | unknownSource id => "Unknown source component " ++ named id ++ "."
  | unknownTarget id => "Unknown target component " ++ named id ++ "."
  | noOutputPin type id pin =>
    type.display ++ " " ++ named id ++ " has no output pin " ++ named pin ++ "."
  | noInputPin type id pin =>
    type.display ++ " " ++ named id ++ " has no input pin " ++ named pin ++ "."
  | ownPin pin id => "Cannot connect pin " ++ named pin ++ " of " ++ named id ++ " to itself."
  | intervalNotPositive v => "Tick interval must be positive, got " ++ v.display ++ "."

end TickCircuit
