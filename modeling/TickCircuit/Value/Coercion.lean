import TickCircuit.Fault
import TickCircuit.Number.Reading
import TickCircuit.Value.Table

/-!
# Values Taken as Tables

Where a table is asked for, an object is one, and so is any sequence of pairs: each part of the
sequence must itself be a sequence of a key and a value. Later pairs replace earlier ones.
-/

namespace TickCircuit.Value

/-- The entries of a sequence of pairs put on top of `t`, up to one that is no pair; `place` counts
the pairs. -/
def insertPairs (t : Record) : (place : Nat) → List Value → Except Fault Unit × Record
  | _, [] => (.ok (), t)
  | place, v :: rest =>
    match v.elements? with
    | none => (.error .wrongKind, t)
    | some [k, w] =>
      match k.asKey with
      | .ok key => insertPairs (t.insert key w) (place + 1) rest
      | .error e => (.error e, t)
    | some parts => (.error (.notAPair place parts.length), t)

/-- The entries of a value taken as a table put on top of `t`. What was put there before a part that
cannot be stays. -/
def putOnto (t : Record) : Value → Except Fault Unit × Record
  | object es => (.ok (), Table.merge t es)
  | v =>
    match v.elements? with
    | some parts => insertPairs t 0 parts
    | none => (.error .wrongKind, t)

/-- A value taken as a table. -/
def toRecord : Value → Except Fault Record
  | object es => .ok es
  | v =>
    let (r, t) := v.putOnto []
    r.map fun _ => t

/-- A value taken as a whole number: numbers lose their fraction, texts are read. -/
def toInt : Value → Except Fault Int
  | flag b => .ok (if b then 1 else 0)
  | int n => .ok n
  | real x =>
    match Binary.truncate? x with
    | some n => .ok n
    | none => .error (if x.isNaN then .nanToInt else .infiniteToInt)
  | text s =>
    match Reading.int? s with
    | some n => .ok n
    | none => .error (.notAnInteger s)
  | _ => .error .wrongKind

/-- A value taken as a `Float`: nothing counts as a NaN, whole numbers are rounded and texts are
read. -/
def toFloat : Value → Except Fault Float
  | null => .ok (0.0 / 0.0)
  | flag b => .ok (if b then 1.0 else 0.0)
  | int n => if Binary.holdsInt n then .ok (Binary.ofInt n) else .error .intToFloat
  | real x => .ok x
  | text s =>
    match Reading.float? s with
    | some x => .ok x
    | none => .error (.notANumber s)
  | list _ => .error (.notANumber "")
  | _ => .error .wrongKind

/-- The field of an object, where the value must be an object that has it. -/
def field (v : Value) (name : String) : Except Fault Value :=
  match v with
  | object es => match Table.get? es name with
    | some w => .ok w
    | none => .error (.noField name)
  | _ => .error .wrongKind

/-- The characters of `part` occur in a row. -/
def occursIn (part : List Char) : List Char → Bool
  | [] => part.isEmpty
  | c :: rest => part.isPrefixOf (c :: rest) || occursIn part rest

/-- `name` occurs in the value: as a key of an object, as an item of a list, or inside a text. -/
def mentions (v : Value) (name : String) : Except Fault Bool :=
  match v with
  | object es => .ok (Table.contains es (.text name))
  | list xs => .ok (xs.any (isText name))
  | text s => .ok (occursIn name.toList s.toList)
  | _ => .error .wrongKind

end TickCircuit.Value
