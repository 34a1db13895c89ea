import TickCircuit.Value.Basic

/-!
# Equality of Values

Numbers are equal when they have the same value, whatever their form, and a flag is equal to the
number it counts as. A NaN is equal to nothing. Lists are equal item by item; objects are equal when
they have the same keys with equal values, in any order.

Values other than lists and objects can be keys. Keys are compared by the same equality, so `1`,
`1.0` and `true` are one key.
-/

namespace TickCircuit.Value

/-- Equality of values that are neither lists nor objects; `false` on those. -/
def sameScalar : Value → Value → Bool
  | null, null => true
  | absent, absent => true
  | text s, text t => s == t
  | a, b =>
    match a.number?, b.number? with
    | some x, some y => x.eq y
    | _, _ => false

/-- A value that can be a key: no list and no object. -/
def isKey : Value → Bool
  | list _ => false
  | object _ => false
  | _ => true

mutual

/-- Equality of values. -/
def same : Value → Value → Bool
  | list xs, list ys => sameItems xs ys
  | object es, object fs => es.length == fs.length && sameEntries es fs
  | list _, _ => false
  | object _, _ => false
  | a, b => sameScalar a b

/-- Equality of lists, item by item. -/
def sameItems : List Value → List Value → Bool
  | [], [] => true
  | x :: xs, y :: ys => same x y && sameItems xs ys
  | _, _ => false

/-- Every entry of the first object is found, with an equal value, in the second. -/
def sameEntries : List (Value × Value) → List (Value × Value) → Bool
  | [], _ => true
  | (k, v) :: es, fs =>
    (match fs.find? fun f => sameScalar k f.1 with
      | some f => same v f.2
      | none => false) && sameEntries es fs

end

/-- The text `name`, and nothing else. -/
def isText (name : String) : Value → Bool
  | text s => s == name
  | _ => false

end TickCircuit.Value
