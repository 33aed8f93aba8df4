import FluxCorpus.Random.Bounded
import FluxCorpus.Representable
import FluxCorpus.Time.Instant

/-!
# Intervals and windows

An `Interval` is a half-open range of nanoseconds since 1970.  A query looks at a window of it: a
part of a given length that starts anywhere, drawn with every start equally likely.
-/

namespace FluxCorpus

/-- A half-open range of time, in nanoseconds since 1970. -/
structure Interval where
  start : Int
  stop : Int
deriving DecidableEq, Repr

namespace Interval

/-- The interval between two counts of nanoseconds, the second of which must be greater. -/
def ofNanos (start stop : Int) : Except Fault Interval :=
  if stop ≤ start then throw (.invalidInterval (timestamp start) (timestamp stop))
  else return ⟨start, stop⟩

/-- The nanoseconds of an instant, if they can be represented. -/
def representableNanos (t : Instant) : Except Fault Int :=
  if Representable t.unixNanos then return t.unixNanos else throw (.timestampOutOfRange t.render)

/-- The interval between two instants. -/
def ofInstants (start stop : Instant) : Except Fault Interval := do
  let a ← representableNanos start
  let b ← representableNanos stop
  ofNanos a b

/-- The length of an interval. -/
def length (i : Interval) : Duration := ⟨(i.stop - i.start).natAbs⟩

/-- The second in which an interval starts, as text. -/
def startText (i : Interval) : String := timestamp i.start

/-- The second in which an interval ends, as text. -/
def stopText (i : Interval) : String := timestamp i.stop

/-- The seconds from midnight to the start of an interval. -/
def startSecondOfDay (i : Interval) : Nat := (clockOf (i.start / 1000000000)).toSeconds

/-- The number of starts that a window of a given length can have, if there is one.  The latest
start and the number itself must be representable. -/
def room? (i : Interval) (d : Duration) : Option Nat :=
  let latest := i.stop - d.nanos
  let room := latest - i.start
  if Representable d.nanos ∧ Representable latest ∧ Representable room ∧ 0 < room then
    some room.toNat
  else none

/-- A sum of nanoseconds, which must be representable. -/
def sum {σ : Type} (a b : Int) : Draw σ Int :=
  if Representable (a + b) then return a + b else throw (.breach .overflow)

/-- Draws a window of a given length, whose start is one of `room` many, if there is any. -/
def windowAmong {σ : Type} [WordSource σ] (i : Interval) (d : Duration) :
    Option Nat → Draw σ Interval
  | none => Process.fail (.windowTooLarge d i.length)
  | some room => do
    let offset ← Draw.longBelow room
    let start ← sum i.start offset
    let stop ← sum start d.nanos
    return ⟨start, stop⟩

/-- Draws a window of a given length, with one long draw.  No word is taken if it does not fit. -/
def window {σ : Type} [WordSource σ] (i : Interval) (d : Duration) : Draw σ Interval :=
  i.windowAmong d (i.room? d)

end Interval

end FluxCorpus
