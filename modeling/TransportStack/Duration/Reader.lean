import TransportStack.Duration
import TransportStack.Text.Blank
import TransportStack.Text.Decimal

/-!
Durations in words: a row of numbers with units such as `1h 30m` or `1.5s`. All numbers on the way
have to fit 64 bits, and a fraction has to come out even in nanoseconds, or in seconds for the
units from the hour on.
-/

namespace TransportStack.Duration

open TransportStack.Text

/-- Numbers that do not fit 64 bits are refused. -/
def fit (n : Nat) : Option Nat :=
  if n < UInt64.size then some n else none

inductive TimeUnit
  | nanosecond | microsecond | millisecond | second | minute | hour | day | week | month | year
  deriving DecidableEq, Repr

namespace TimeUnit

def spellings : TimeUnit → List String
  | nanosecond => ["nanos", "nsec", "ns"]
  | microsecond => ["usec", "us", "µs"]
  | millisecond => ["millis", "msec", "ms"]
  | second => ["seconds", "second", "secs", "sec", "s"]
  | minute => ["minutes", "minute", "min", "mins", "m"]
  | hour => ["hours", "hour", "hr", "hrs", "h"]
  | day => ["days", "day", "d"]
  | week => ["weeks", "week", "wk", "wks", "w"]
  | month => ["months", "month", "M"]
  | year => ["years", "year", "yr", "yrs", "y"]

def all : List TimeUnit :=
  [nanosecond, microsecond, millisecond, second, minute, hour, day, week, month, year]

def ofSpelling? (s : String) : Option TimeUnit :=
  all.find? fun u => u.spellings.contains s

/-- Whether a unit is counted in nanoseconds, rather than in seconds. -/
def isSmall : TimeUnit → Bool
  | nanosecond | microsecond | millisecond => true
  | _ => false

/-- How many nanoseconds, or seconds for the larger units, a unit has. -/
def size : TimeUnit → Nat
  | nanosecond => 1
  | microsecond => 1000
  | millisecond => 1000000
  | second => 1
  | minute => 60
  | hour => 3600
  | day => 86400
  | week => 604800
  | month => 2630016
  | year => 31557600

/-- The grain of the fractions of a unit, and whether it is the nanosecond. A nanosecond has no
fractions. -/
def grain? : TimeUnit → Option (Nat × Bool)
  | nanosecond => none
  | microsecond => some (1000, true)
  | millisecond => some (1000000, true)
  | second => some (1000000000, true)
  | minute => some (60000000000, true)
  | u => some (u.size, false)

end TimeUnit

structure Fraction where
  numerator : Nat
  denominator : Nat

def add? (d : Duration) (seconds nanoseconds : Nat) : Option Duration := do
  let nanos ← fit (d.nanoseconds + nanoseconds)
  let seconds ← fit (seconds + nanos / perSecond)
  let seconds ← fit (d.seconds + seconds)
  pure ⟨seconds, nanos % perSecond⟩

def addGrains? (d : Duration) (small : Bool) (n : Nat) : Option Duration :=
  if small then d.add? 0 n else d.add? n 0

/-- Adds `whole` and a fraction of the unit that is spelled `letters` backwards. -/
def addUnits? (d : Duration) (whole : Nat) (part : Option Fraction) (letters : List Char) :
    Option Duration := do
  let unit ← TimeUnit.ofSpelling? (String.ofList letters.reverse)
  let d ← d.addGrains? unit.isSmall (← fit (whole * unit.size))
  match part with
  | none => pure d
  | some f =>
      let (grain, small) ← unit.grain?
      let n ← fit (f.numerator * grain)
      if n % f.denominator = 0 then d.addGrains? small (n / f.denominator) else none

inductive Pending
  | nothing
  | number (whole : Nat)
  | fraction (whole : Nat) (part : Fraction)
  | unit (whole : Nat) (part : Option Fraction) (letters : List Char)

def isUnitLetter (c : Char) : Bool :=
  ('a' ≤ c && c ≤ 'z') || ('A' ≤ c && c ≤ 'Z') || c == 'µ'

def shift? (n d : Nat) : Option Nat :=
  fit (n * 10) >>= fun m => fit (m + d)

/-- Reads one character. The duration is absent until the first unit is complete. -/
def readChar (acc : Option Duration × Pending) (c : Char) : Option (Option Duration × Pending) :=
  let total := acc.1
  match acc.2 with
  | .nothing =>
      match digit? c with
      | some d => some (total, .number d)
      | none => if isBlank c then some (total, .nothing) else none
  | .number n =>
      match digit? c with
      | some d => (shift? n d).map fun m => (total, .number m)
      | none =>
          if isBlank c then some (total, .number n)
          else if isUnitLetter c then some (total, .unit n none [c])
          else if c = '.' then some (total, .fraction n ⟨0, 1⟩)
          else none
  | .fraction n f =>
      match digit? c with
      | some d => do
          let denominator ← fit (f.denominator * 10)
          let numerator ← shift? f.numerator d
          pure (total, .fraction n ⟨numerator, denominator⟩)
      | none =>
          if isBlank c then some (total, .fraction n f)
          else if isUnitLetter c && f.denominator != 1 then some (total, .unit n (some f) [c])
          else none
  | .unit n f letters =>
      match digit? c with
      | some d => ((total.getD zero).addUnits? n f letters).map fun t => (some t, .number d)
      | none =>
          if isBlank c then
            ((total.getD zero).addUnits? n f letters).map fun t => (some t, .nothing)
          else if isUnitLetter c then some (total, .unit n f (c :: letters))
          else none

def finish? : Option Duration × Pending → Option Duration
  | (total, .nothing) => total
  | (total, .unit n f letters) => (total.getD zero).addUnits? n f letters
  | _ => none

/-- Reads a duration. A lone zero needs no unit. -/
def read? (s : String) : Option Duration :=
  if s = "0" then some zero
  else (s.toList.foldlM readChar (none, .nothing)).bind finish?

end TransportStack.Duration
