import Steward.Fault
import Steward.Number

/-!
# Measures

Counters of what the library did and a histogram of how long its cycles took. A counter exists from the
moment it is touched.

## Contents

* `Measure` — what is measured;
* `Series` — a counter with its labels;
* `Histogram` — durations by upper bound;
* `Tally` — everything measured so far, `Tally.record` — one measure more;
* `Meter` — whether and for which account is measured;
* `Tally.samples` — the state of the counters.
-/

namespace Steward

/-- Something to be measured. -/
inductive Measure where
  /-- Workloads that vanished from the platform. -/
  | evicted (count : Number)
  /-- Workloads that were put together again. -/
  | remapped (count : Number)
  /-- Workloads that were left out of a phase of a cycle. -/
  | skipped (phase : String) (count : Number)
  /-- A cycle, how it ended and how many seconds it took. -/
  | cycle (outcome : String) (duration : Number)
  /-- A call of the deployment pipeline. -/
  | step (name outcome : String)
  deriving DecidableEq, Inhabited

/-- A counter: its name, and its labels in the order of their names. -/
structure Series where
  name : String
  labels : List (String × String)
  deriving DecidableEq, Inhabited

/-! ## Histograms -/

/-- Durations counted by the lowest bound that they do not exceed. A duration above every bound is counted
by `beyond`. -/
structure Histogram where
  counts : List Nat
  beyond : Nat
  sum : Binary64
  deriving DecidableEq, Inhabited

namespace Histogram

/-- The bounds, as they are written, and in thousandths of a second. -/
def bounds : List (String × Nat) :=
  [("0.005", 5), ("0.01", 10), ("0.025", 25), ("0.05", 50), ("0.075", 75), ("0.1", 100), ("0.25", 250),
   ("0.5", 500), ("0.75", 750), ("1.0", 1000), ("2.5", 2500), ("5.0", 5000), ("7.5", 7500), ("10.0", 10000)]

/-- The bound that stands for none. -/
def unbounded : String := "+Inf"

/-- No durations. -/
def empty : Histogram := ⟨bounds.map fun _ => 0, 0, .zero false⟩

/-- Counts with the first one raised whose bound is not exceeded; none if all are. -/
def raise (x : Binary64) : List (String × Nat) → List Nat → Option (List Nat)
  | (_, thousandths) :: bounds, n :: counts =>
    if Binary64.atMost x (.ofRatio false thousandths 1000) then some ((n + 1) :: counts)
    else (raise x bounds counts).map (n :: ·)
  | _, _ => none

/-- One duration more. What is no number is in no count. -/
def observe (h : Histogram) (x : Binary64) : Histogram :=
  let sum := Binary64.add h.sum x
  match raise x bounds h.counts with
  | some counts => { h with counts, sum }
  | none => { h with beyond := if x = .undefined then h.beyond else h.beyond + 1, sum }

/-- How many durations do not exceed each bound, given how many do not exceed the bounds before. -/
def cumulative : Nat → List Nat → List Nat
  | _, [] => []
  | before, n :: rest => (before + n) :: cumulative (before + n) rest

/-- The number of durations. -/
def count (h : Histogram) : Nat :=
  h.counts.foldl (· + ·) h.beyond

end Histogram

/-! ## Tallies -/

/-- Everything measured so far. Durations are kept by account. -/
structure Tally where
  counters : List (Series × Binary64)
  durations : List (String × Histogram)
  deriving Inhabited

namespace Tally

/-- Nothing is measured. -/
def empty : Tally := ⟨[], []⟩

/-- Raises a counter. It is there afterwards even if the amount is refused. -/
def raise (t : Tally) (s : Series) (amount : Number) : Except Fault Unit × Tally :=
  let touched := Keyed.update t.counters s fun old => old.getD (.zero false)
  if amount < 0 then (.error .negativeIncrement, { t with counters := touched })
  else
    let raised := Keyed.update touched s fun old => Binary64.add (old.getD (.zero false)) amount.toReal
    (.ok (), { t with counters := raised })

/-- Raises a counter, unless there is nothing to count. -/
def raiseSome (t : Tally) (s : Series) (amount : Number) : Except Fault Unit × Tally :=
  if Number.equal amount 0 then (.ok (), t) else t.raise s amount

/-- One measure more, for an account. -/
def record (t : Tally) (account : String) : Measure → Except Fault Unit × Tally
  | .evicted n => t.raiseSome ⟨"foundry_sync_entities_evicted_total", [("account", account)]⟩ n
  | .remapped n => t.raiseSome ⟨"foundry_sync_entities_remapped_total", [("account", account)]⟩ n
  | .skipped phase n =>
    t.raiseSome ⟨"foundry_sync_entities_skipped_total", [("account", account), ("phase", phase)]⟩ n
  | .cycle outcome duration =>
    let (result, t) :=
      t.raise ⟨"foundry_sync_refresh_cycles_total", [("account", account), ("outcome", outcome)]⟩ 1
    let observed := Keyed.update t.durations account fun old =>
      (old.getD .empty).observe duration.toReal
    (result, { t with durations := observed })
  | .step name outcome =>
    t.raise ⟨"foundry_sync_pipeline_steps_total", [("outcome", outcome), ("step", name)]⟩ 1

end Tally

/-- Whether and for which account is measured. -/
structure Meter where
  account : String
  enabled : Bool
  deriving DecidableEq, Inhabited

/-- One measure more, if anything is measured. -/
def Meter.record (meter : Meter) (m : Measure) (t : Tally) : Except Fault Unit × Tally :=
  if meter.enabled then t.record meter.account m else (.ok (), t)

/-! ## Samples -/

/-- The state of a counter. -/
structure Sample where
  series : Series
  value : Binary64
  deriving DecidableEq, Inhabited

namespace Sample

/-- The name and the labels of a sample, one after the other. -/
def words (s : Sample) : List String :=
  s.series.name :: s.series.labels.flatMap fun (label, value) => [label, value]

/-- Samples in the order of their names and then of their labels. -/
def sorted (samples : List Sample) : List Sample :=
  samples.mergeSort fun a b => !(b.words < a.words)

/-- A count as a sample. -/
def ofCount (name : String) (labels : List (String × String)) (n : Nat) : Sample :=
  ⟨⟨name, labels⟩, .ofInt n⟩

end Sample

namespace Tally

/-- The name of the histogram of durations. -/
def durationName : String := "foundry_sync_refresh_duration_seconds"

/-- The number of durations of an account. -/
def countSample (account : String) (h : Histogram) : Sample :=
  .ofCount (durationName ++ "_count") [("account", account)] h.count

/-- The sum and the counts by bound of an account's durations. -/
def detailSamples (account : String) (h : Histogram) : List Sample :=
  let bounds := Histogram.bounds.map (·.1) ++ [Histogram.unbounded]
  let counts := Histogram.cumulative 0 (h.counts ++ [h.beyond])
  ⟨⟨durationName ++ "_sum", [("account", account)]⟩, h.sum⟩
    :: (bounds.zip counts).map fun (bound, n) =>
      .ofCount (durationName ++ "_bucket") [("account", account), ("le", bound)] n

/-- The state of all counters, in order; of durations, only their number unless more is asked for. -/
def samples (t : Tally) (detailed : Bool) : List Sample :=
  let counters := t.counters.map fun (series, value) => ⟨series, value⟩
  let durations := t.durations.flatMap fun (account, h) =>
    countSample account h :: if detailed then detailSamples account h else []
  Sample.sorted (counters ++ durations)

end Tally

end Steward
