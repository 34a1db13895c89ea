import TickCircuit.Signal.Reading

/-!
# Trigonometric Components

Angles are taken and given in radians or in degrees. Signals that are no finite numbers are treated
as each component treats what is no number at all.
-/

namespace TickCircuit.Trigonometry

def pi : Float := 3.141592653589793

/-- The angle in radians of an angle in the chosen unit. -/
def toRadians (inRadians : Bool) (x : Float) : Float :=
  if inRadians then x else x * (pi / 180.0)

/-- The angle in the chosen unit of an angle in radians. -/
def fromRadians (inRadians : Bool) (x : Float) : Float :=
  if inRadians then x else x * (180.0 / pi)

/-- The finite number that a signal reads as. -/
def finite? (v : Value) : Option Float :=
  v.reading?.bind fun n => if n.isFinite then some n.toFloat else none

/-- The sine; zero without a finite number. -/
def sin (inRadians : Bool) (v : Value) : Option Value :=
  match finite? v with
  | some x => some (.real (toRadians inRadians x).sin)
  | none => some (.int 0)

/-- The cosine; no signal without a finite number. -/
def cos (inRadians : Bool) (v : Value) : Option Value :=
  if v.isPresent then
    match finite? v with
    | some x => some (.real (toRadians inRadians x).cos)
    | none => some .absent
  else none

/-- So close to an asymptote the tangent is replaced by a bound. -/
def asymptoteWidth : Float := 0.001

/-- The tangent. Coming close to an asymptote from below it is the upper bound, and just behind the
asymptote the lower one. -/
def tan (inRadians : Bool) (upper lower v : Value) : Option Value :=
  match finite? v with
  | none => some (.int 0)
  | some x =>
    let angle := toRadians inRadians x
    let offset := Binary.modulo (angle - pi / 2.0) pi
    if offset == 0.0 || pi - offset < asymptoteWidth then some (.ofNumber upper.numberOrZero)
    else if offset < asymptoteWidth then some (.ofNumber lower.numberOrZero)
    else
      let result := angle.tan
      some (if result.isFinite then .real result else .int 0)

/-- A number from minus one to one. -/
def isCosine (n : Number) : Bool := (Number.int (-1)).le n && n.le (.int 1)

/-- The arcus sine; no signal for what is no sine. -/
def asin (inRadians : Bool) (v : Value) : Option Value :=
  if v.isPresent then
    match v.reading? with
    | some n =>
      if isCosine n then some (.real (fromRadians inRadians n.toFloat.asin)) else some .absent
    | none => some .absent
  else none

/-- The arcus cosine. What is no number passes through. -/
def acos (inRadians : Bool) (v : Value) : Option Value :=
  if v.isPresent then
    match v.reading? with
    | some n =>
      if isCosine n then some (.real (fromRadians inRadians n.toFloat.acos)) else some .absent
    | none => some v
  else none

/-- The angle of a vector if both of its parts are there, otherwise the arcus tangent. -/
def atan (inRadians : Bool) (v x y : Value) : Option Value :=
  let angle? : Option Float :=
    if y.isPresent && x.isPresent then
      some (Float.atan2 y.numberOrZero.toFloat x.numberOrZero.toFloat)
    else if v.isPresent then some v.numberOrZero.toFloat.atan
    else none
  angle?.map fun angle =>
    if angle.isFinite then .real (fromRadians inRadians angle) else .int 0

end TickCircuit.Trigonometry
