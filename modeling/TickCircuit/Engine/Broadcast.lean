import TickCircuit.Value.Basic

/-!
# Broadcasts

Numbered channels that carry signals without wires. What is sent in one tick is heard in the next
one only, so it does not matter which of two components acts first. Of several signals sent on a
channel in one tick, the last one is heard.
-/

namespace TickCircuit

/-- Signals by channel, in the order in which the channels were first used. -/
abbrev Channels := List (Int × Value)

namespace Channels

def get? (cs : Channels) (channel : Int) : Option Value := List.lookup channel cs

/-- The channels with a signal put on one of them. -/
def put : Channels → Int → Value → Channels
  | [], channel, v => [(channel, v)]
  | (c, w) :: rest, channel, v =>
    if c == channel then (c, v) :: rest else (c, w) :: put rest channel v

/-- The signal heard on a channel. -/
def hear (cs : Channels) (channel : Int) : Value := ((cs.get? channel).getD .absent).asSignal

/-- The occupied channels in ascending order. -/
def occupied (cs : Channels) : List Int := (cs.map Prod.fst).mergeSort

end Channels

/-- The signals sent in this tick and those sent in the one before. -/
structure Broadcast where
  current : Channels
  previous : Channels

namespace Broadcast

def empty : Broadcast := ⟨[], []⟩

/-- Sends a signal. What is not present is not sent. -/
def send (b : Broadcast) (channel : Int) (v : Value) : Broadcast :=
  if v.isPresent then { b with current := b.current.put channel v } else b

/-- The signal on a channel from the tick before. -/
def hear (b : Broadcast) (channel : Int) : Value := b.previous.hear channel

/-- The boundary between two ticks. -/
def swap (b : Broadcast) : Broadcast := ⟨[], b.current⟩

end Broadcast

end TickCircuit
