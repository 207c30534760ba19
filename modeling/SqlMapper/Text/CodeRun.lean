/-!
# Runs of code points

A character property is kept as a list of runs: the code points from `first` to `last` in steps of
`step`. A character mapping is kept as a list of shifts: a run together with the code point that its
first member is sent to.
-/

namespace SqlMapper.Text

/-- The code points `first, first + step, …` up to `last`. -/
structure CodeRun where
  first : Nat
  last : Nat
  step : Nat
deriving DecidableEq

/-- Whether the run has the code point `n`. -/
def CodeRun.contains (r : CodeRun) (n : Nat) : Bool :=
  decide (r.first ≤ n) && decide (n ≤ r.last) && (n - r.first) % r.step == 0

/-- Whether some run has the code point `n`. -/
def inRuns (runs : List CodeRun) (n : Nat) : Bool := runs.any (·.contains n)

/-- A run whose members are sent, in order, to the code points from `target` on. -/
structure CodeShift where
  run : CodeRun
  target : Nat
deriving DecidableEq

/-- The code point that the first shift holding `n` sends it to. -/
def shifted? (shifts : List CodeShift) (n : Nat) : Option Nat :=
  (shifts.find? (·.run.contains n)).map fun s => s.target + (n - s.run.first)

end SqlMapper.Text
