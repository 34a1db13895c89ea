import TickCircuit.Value.Equality

/-!
# Tables

A table is a list of entries in the order in which their keys first came. Setting a key that is
already there replaces its value and keeps both the place and the first form of the key.
-/

namespace TickCircuit

/-- Entries by key, in the order of their first insertion. -/
abbrev Table (α : Type) := List (Value × α)

namespace Table

variable {α : Type}

/-- The value stored under a key. -/
def find? (t : Table α) (key : Value) : Option α :=
  (List.find? (fun e => Value.sameScalar e.1 key) t).map Prod.snd

/-- The value stored under a text. -/
def get? (t : Table α) (name : String) : Option α := find? t (.text name)

def contains (t : Table α) (key : Value) : Bool := (find? t key).isSome

/-- The table with `value` stored under `key`. -/
def insert : Table α → Value → α → Table α
  | [], key, value => [(key, value)]
  | (k, v) :: rest, key, value =>
    if Value.sameScalar k key then (k, value) :: rest else (k, v) :: insert rest key value

/-- The table without the entry of `key`. -/
def erase : Table α → Value → Table α
  | [], _ => []
  | (k, v) :: rest, key => if Value.sameScalar k key then rest else (k, v) :: erase rest key

/-- The value under `key` changed by `f`, if there is one. -/
def modify : Table α → Value → (α → α) → Table α
  | [], _, _ => []
  | (k, v) :: rest, key, f =>
    if Value.sameScalar k key then (k, f v) :: rest else (k, v) :: modify rest key f

/-- The entries of `upper` put on top of `base`. -/
def merge (base upper : Table α) : Table α :=
  upper.foldl (fun t e => insert t e.1 e.2) base

def keys (t : Table α) : List Value := t.map Prod.fst

end Table

/-- A table of values, such as settings or an object of a document. -/
abbrev Record := Table Value

namespace Record

/-- The record with the named fields. -/
def ofFields (fields : List (String × Value)) : Record := fields.map fun f => (.text f.1, f.2)

/-- The value of a setting, null if it is missing. -/
def setting (r : Record) (name : String) : Value := (Table.get? r name).getD .null

end Record

end TickCircuit
