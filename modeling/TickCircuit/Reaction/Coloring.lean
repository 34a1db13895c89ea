import TickCircuit.Signal.Reading

/-!
# Colours

Four signals packed into one text: red, green, blue and alpha as bytes between commas. The first
three may be given as hue, saturation and brightness instead.
-/

namespace TickCircuit.Coloring

/-- A byte; zero without a number. -/
def byte (v : Value) : Int :=
  match v.wholeReading? with
  | some n => max 0 (min 255 n)
  | none => 0

/-- A number from zero to `upper`; zero without a finite number. -/
def unit (v : Value) (upper : Float) : Float :=
  let n := v.numberOrZero
  if n.isFinite then
    let x := n.toFloat
    let held := if x < upper then x else upper
    if 0.0 < held then held else 0.0
  else 0.0

/-- A fraction of one as a byte. -/
def toByte (fraction : Float) : Int := (Binary.floor? (fraction * 255.0 + 0.5)).getD 0

/-- Red, green and blue of a hue, a saturation and a brightness, all as fractions of one. -/
def ofHue (hue saturation brightness : Float) : Float × Float × Float :=
  if saturation == 0.0 then (brightness, brightness, brightness)
  else
    let scaled := hue * 6.0
    let sector := (Binary.truncate? scaled).getD 0
    let f := scaled - Binary.ofInt sector
    let p := brightness * (1.0 - saturation)
    let q := brightness * (1.0 - saturation * f)
    let t := brightness * (1.0 - saturation * (1.0 - f))
    match sector.emod 6 with
    | 0 => (brightness, t, p)
    | 1 => (q, brightness, p)
    | 2 => (p, brightness, t)
    | 3 => (p, q, brightness)
    | 4 => (t, p, brightness)
    | _ => (brightness, p, q)

/-- Four bytes as a colour. -/
def text (r g b a : Int) : Value :=
  .text (toString r ++ "," ++ toString g ++ "," ++ toString b ++ "," ++ toString a)

/-- The colour of four signals, if at least one of them is there. -/
def pack (byHue : Bool) (r g b a : Value) : Option Value :=
  if [r, g, b, a].any Value.isPresent then
    if byHue then
      let hue := Binary.modulo (unit r 360.0 / 360.0) 1.0
      let (x, y, z) := ofHue hue (unit g 1.0) (unit b 1.0)
      some (text (toByte x) (toByte y) (toByte z) (byte a))
    else some (text (byte r) (byte g) (byte b) (byte a))
  else none

end TickCircuit.Coloring
