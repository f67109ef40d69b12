/-!
# The least-loaded worker

Scanning the workloads from the left and moving only on a strictly smaller one picks the first
minimum: no workload is smaller, and every earlier one is larger. An empty list has no least
loaded worker.
-/

namespace StreamDispatch

/-- The scan: the index and load of the least load so far, and the index of the next load. -/
def leastFrom (best : Nat × Int64) (i : Nat) : List Int64 → Nat
  | [] => best.1
  | x :: xs => leastFrom (if x < best.2 then (i, x) else best) (i + 1) xs

/-- The index of the first least workload, `none` for no workloads. -/
def leastLoaded : List Int64 → Option Nat
  | [] => none
  | x :: xs => some (leastFrom (0, x) 1 xs)

/-- The message of asking for the least-loaded worker among none. -/
def leastLoadedEmptyMessage : String := "least_loaded called without workers"

example : leastLoaded [5, 2, 2, 9] = some 1 := by decide

end StreamDispatch
