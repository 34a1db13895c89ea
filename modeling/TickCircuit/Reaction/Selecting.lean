import TickCircuit.Component.State
import TickCircuit.Signal.Reading

/-!
# Selectors

A selector keeps a selected channel. One pin sets it; another one moves it up or down by one, on the
tick in which its signal turns from zero to something else. A move may pass over channels to which
nothing is connected.
-/

namespace TickCircuit.Selecting

/-- The settings of a selector. -/
structure Rule where
  /-- Behind the last channel comes the first one. -/
  wrapAround : Bool
  skipEmpty : Bool

/-- A channel number brought into the range of the channels. -/
def Rule.bound (r : Rule) (channel : Int) : Int :=
  if r.wrapAround then channel.emod Kind.channels
  else max 0 (min (Kind.channels - 1) channel)

/-- A signal that moves, after a tick without one. -/
def isMove (current last : Value) : Bool :=
  current.isPresent && !current.numberOrZero.isZero && last.numberOrZero.isZero

/-- The channel after at most `fuel` steps, the last of them onto a connected channel if empty ones
are passed over. -/
def Rule.move (r : Rule) (connected : Int → Bool) (step : Int) : (fuel : Nat) → Int → Int
  | 0, channel => channel
  | fuel + 1, channel =>
    let next := r.bound (channel + step)
    if !r.skipEmpty || connected next then next else r.move connected step fuel next

/-- The selection after a tick with the given signals on the two pins. -/
def Rule.select (r : Rule) (connected : Int → Bool) (s : Selection) (set move : Value) :
    Selection :=
  let start := r.bound (set.wholeReading?.getD s.channel)
  let channel :=
    if isMove move s.lastMove then r.move connected move.numberOrZero.sign Kind.channels start
    else start
  ⟨channel, move⟩

/-- The pin of a channel. -/
def pin (stem : String) (channel : Int) : String := stem ++ toString channel

end TickCircuit.Selecting
