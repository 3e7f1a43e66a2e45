namespace ConnPool

/-- Times are in nanoseconds. -/
structure Clock where
  time : Nat := 0
  ticks : Bool := true
  /-- The readings that came late. -/
  late : Nat := 0
  deriving DecidableEq

namespace Clock

def read (c : Clock) : Nat × Clock :=
  let late := if c.ticks then c.late + 1 else c.late
  (c.time + late, { c with late })

/-- Moves the clock forward to a time; it never goes back. -/
def advanceTo (c : Clock) (t : Nat) : Clock := { c with time := max c.time t }

end Clock
end ConnPool
