import TickCircuit.Circuit.Defect
import TickCircuit.Value.Equality

/-!
# Faults

A fault ends an operation before it is complete. It is a cause; the kind under which it is reported
(`Fault.kind`) and its wording (`Fault.message`) are functions of the cause.
-/

namespace TickCircuit

/-- The kinds under which faults are reported. -/
inductive FaultKind where
  /-- A value of the right kind that is not acceptable. -/
  | value
  /-- A value of the wrong kind. -/
  | type
  /-- A field that is not there. -/
  | field
  /-- An operation that a value does not offer. -/
  | member
  /-- A number outside its range. -/
  | range
  /-- A text that is no pattern. -/
  | pattern
  /-- A failure that has a name of its own. -/
  | other (name : String)
  deriving Repr, DecidableEq

/-- What ended an operation. -/
inductive Fault where
  | refused (defect : Defect)
  /-- An operation met a value of a kind it does not work on. -/
  | wrongKind
  /-- A list or an object was used as a key. -/
  | notAKey
  | noField (name : String)
  /-- A value of this kind offers no such operation. -/
  | noMember (kind member : String)
  /-- An entry of a list taken as a table has `length` parts instead of two. -/
  | notAPair (place length : Nat)
  /-- An infinity has no whole part. -/
  | infiniteToInt
  /-- A NaN has no whole part. -/
  | nanToInt
  /-- A whole number lies beyond the range of `Float`. -/
  | intToFloat
  | tooManyDigits
  /-- A text does not spell a whole number. -/
  | notAnInteger (text : String)
  /-- A value does not spell a number. -/
  | notANumber (text : String)
  | negativeLimit
  | hugeLimit
  /-- A bound of a random draw lies outside 64 bits. -/
  | drawBound (isLow : Bool)
  | hugeRepeat
  | badPattern
  /-- A search for a free id goes through counts that are all taken, and never comes to an end. -/
  | endless
  /-- An observer failed. -/
  | observer (kind : FaultKind) (text : String)

namespace Fault

def kind : Fault → FaultKind
  | refused _ => .value
  | wrongKind => .type
  | notAKey => .type
  | noField _ => .field
  | noMember .. => .member
  | notAPair .. => .value
  | infiniteToInt => .range
  | nanToInt => .value
  | intToFloat => .range
  | tooManyDigits => .value
  | notAnInteger _ => .value
  | notANumber _ => .value
  | negativeLimit => .value
  | hugeLimit => .range
  | drawBound _ => .value
  | hugeRepeat => .range
  | badPattern => .pattern
  | endless => .other "Endless"
  | observer k _ => k

def message : Fault → String
  | refused d => d.message
  | wrongKind => "unsupported kind of value"
  | notAKey => "a list or an object cannot be a key"
  | noField name => Quoted.quote name
  | noMember kind member => "'" ++ kind ++ "' object has no attribute '" ++ member ++ "'"
  | notAPair place length =>
    "dictionary update sequence element #" ++ toString place ++ " has length " ++ toString length ++
      "; 2 is required"
  | infiniteToInt => "cannot convert float infinity to integer"
  | nanToInt => "cannot convert float NaN to integer"
  | intToFloat => "int too large to convert to float"
  | tooManyDigits =>
    "Exceeds the limit (4300 digits) for integer string conversion"
  | notAnInteger text => "invalid literal for int() with base 10: " ++ Quoted.quote text
  | notANumber text => "could not convert string to float: " ++ Quoted.quote text
  | negativeLimit => "maxlen must be non-negative"
  | hugeLimit => "int too large to convert to a machine word"
  | drawBound true => "low is out of bounds for int64"
  | drawBound false => "high is out of bounds for int64"
  | hugeRepeat => "the repetition number is too large"
  | badPattern => "invalid pattern"
  | endless => "the search for a free id does not end"
  | observer _ text => text

end Fault

/-- A value that may serve as a key, or the fault that it may not. -/
def Value.asKey (v : Value) : Except Fault Value :=
  if v.isKey then .ok v else .error .notAKey

end TickCircuit
