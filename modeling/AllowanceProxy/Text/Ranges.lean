/-! Sets of code points, given by ranges or by runs at a fixed distance. -/
namespace AllowanceProxy.Text

/-- A range is its first and its last code point. -/
def inRanges (ranges : List (Nat × Nat)) (n : Nat) : Bool :=
  ranges.any fun r => r.1 ≤ n && n ≤ r.2

/-- A run is its first code point, how many there are, and the step between them. -/
def inRun (run : Nat × Nat × Nat) (n : Nat) : Bool :=
  run.1 ≤ n && (n - run.1) % run.2.2 = 0 && (n - run.1) / run.2.2 < run.2.1

end AllowanceProxy.Text
