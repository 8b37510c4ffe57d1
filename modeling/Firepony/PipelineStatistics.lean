import Mathlib

/-! # Pipeline statistics and their aggregation

Each firepony context counts the reads it processed, filtered and ran BAQ on, and the batches
it saw, and keeps one time series per pipeline stage. Statistics merge with `operator+=`,
which adds every counter and every time series to its namesake. Counters are `uint64` and
wrap; the time series and their addition come from the timer header and are a parameter. A
run of merges therefore sums each counter, and when time series add associatively and
commutatively the merged record does not depend on the order of the merges.
-/

namespace Firepony

/-- The counters of `pipeline_statistics`. -/
inductive Counter where
  | totalReads
  | filteredReads
  | baqReads
  | numBatches
deriving DecidableEq, Repr

/-- The stages of `pipeline_statistics` that keep a time series. -/
inductive Stage where
  | io
  | readFilter
  | snpFilter
  | bpFilter
  | cigarExpansion
  | baq
  | fractionalError
  | covariates
  | baqSetup
  | baqHmm
  | baqPostprocess
  | covariatesGather
  | covariatesFilter
  | covariatesSort
  | covariatesPack
  | postprocessing
  | output
deriving DecidableEq, Repr

/-- `pipeline_statistics`, over the timer header's `time_series`. -/
structure PipelineStatistics (TimeSeries : Type) where
  totalReads : UInt64
  filteredReads : UInt64
  baqReads : UInt64
  numBatches : UInt64
  io : TimeSeries
  readFilter : TimeSeries
  snpFilter : TimeSeries
  bpFilter : TimeSeries
  cigarExpansion : TimeSeries
  baq : TimeSeries
  fractionalError : TimeSeries
  covariates : TimeSeries
  baqSetup : TimeSeries
  baqHmm : TimeSeries
  baqPostprocess : TimeSeries
  covariatesGather : TimeSeries
  covariatesFilter : TimeSeries
  covariatesSort : TimeSeries
  covariatesPack : TimeSeries
  postprocessing : TimeSeries
  output : TimeSeries

namespace PipelineStatistics

variable {TimeSeries : Type}

/-- `pipeline_statistics()`: counters at zero, each time series as its default constructor
leaves it. -/
def new (fresh : TimeSeries) : PipelineStatistics TimeSeries :=
  ⟨0, 0, 0, 0, fresh, fresh, fresh, fresh, fresh, fresh, fresh, fresh, fresh, fresh, fresh,
    fresh, fresh, fresh, fresh, fresh, fresh⟩

/-- `operator+=`. -/
def addAssign [Add TimeSeries] (stats other : PipelineStatistics TimeSeries) :
    PipelineStatistics TimeSeries where
  totalReads := stats.totalReads + other.totalReads
  filteredReads := stats.filteredReads + other.filteredReads
  baqReads := stats.baqReads + other.baqReads
  numBatches := stats.numBatches + other.numBatches
  io := stats.io + other.io
  readFilter := stats.readFilter + other.readFilter
  snpFilter := stats.snpFilter + other.snpFilter
  bpFilter := stats.bpFilter + other.bpFilter
  cigarExpansion := stats.cigarExpansion + other.cigarExpansion
  baq := stats.baq + other.baq
  fractionalError := stats.fractionalError + other.fractionalError
  covariates := stats.covariates + other.covariates
  baqSetup := stats.baqSetup + other.baqSetup
  baqHmm := stats.baqHmm + other.baqHmm
  baqPostprocess := stats.baqPostprocess + other.baqPostprocess
  covariatesGather := stats.covariatesGather + other.covariatesGather
  covariatesFilter := stats.covariatesFilter + other.covariatesFilter
  covariatesSort := stats.covariatesSort + other.covariatesSort
  covariatesPack := stats.covariatesPack + other.covariatesPack
  postprocessing := stats.postprocessing + other.postprocessing
  output := stats.output + other.output

/-- A counter, by name. -/
def counter (stats : PipelineStatistics TimeSeries) : Counter → UInt64
  | .totalReads => stats.totalReads
  | .filteredReads => stats.filteredReads
  | .baqReads => stats.baqReads
  | .numBatches => stats.numBatches

/-- A time series, by stage. -/
def series (stats : PipelineStatistics TimeSeries) : Stage → TimeSeries
  | .io => stats.io
  | .readFilter => stats.readFilter
  | .snpFilter => stats.snpFilter
  | .bpFilter => stats.bpFilter
  | .cigarExpansion => stats.cigarExpansion
  | .baq => stats.baq
  | .fractionalError => stats.fractionalError
  | .covariates => stats.covariates
  | .baqSetup => stats.baqSetup
  | .baqHmm => stats.baqHmm
  | .baqPostprocess => stats.baqPostprocess
  | .covariatesGather => stats.covariatesGather
  | .covariatesFilter => stats.covariatesFilter
  | .covariatesSort => stats.covariatesSort
  | .covariatesPack => stats.covariatesPack
  | .postprocessing => stats.postprocessing
  | .output => stats.output

/-- Statistics are determined by their counters and time series. -/
theorem ext {stats other : PipelineStatistics TimeSeries}
    (counters : ∀ c, stats.counter c = other.counter c)
    (stages : ∀ s, stats.series s = other.series s) : stats = other := by
  cases stats
  cases other
  simp only [mk.injEq]
  exact ⟨counters .totalReads, counters .filteredReads, counters .baqReads, counters .numBatches,
    stages .io, stages .readFilter, stages .snpFilter, stages .bpFilter, stages .cigarExpansion,
    stages .baq, stages .fractionalError, stages .covariates, stages .baqSetup, stages .baqHmm,
    stages .baqPostprocess, stages .covariatesGather, stages .covariatesFilter,
    stages .covariatesSort, stages .covariatesPack, stages .postprocessing, stages .output⟩

@[simp] theorem counter_new (fresh : TimeSeries) (c : Counter) : (new fresh).counter c = 0 := by
  cases c <;> rfl

@[simp] theorem series_new (fresh : TimeSeries) (s : Stage) : (new fresh).series s = fresh := by
  cases s <;> rfl

section Merge

variable [Add TimeSeries]

@[simp] theorem counter_addAssign (stats other : PipelineStatistics TimeSeries) (c : Counter) :
    (stats.addAssign other).counter c = stats.counter c + other.counter c := by
  cases c <;> rfl

@[simp] theorem series_addAssign (stats other : PipelineStatistics TimeSeries) (s : Stage) :
    (stats.addAssign other).series s = stats.series s + other.series s := by
  cases s <;> rfl

/-- A run of merges adds each batch's counter to the running one, wrapping at 2^64. -/
theorem counter_foldl_addAssign (batches : List (PipelineStatistics TimeSeries))
    (stats : PipelineStatistics TimeSeries) (c : Counter) :
    (batches.foldl addAssign stats).counter c =
      stats.counter c + (batches.map (·.counter c)).sum := by
  induction batches generalizing stats with
  | nil => simp
  | cons batch rest ih => simp [ih, add_assoc]

end Merge

section Runs

variable [AddMonoid TimeSeries]

theorem series_foldl_addAssign (batches : List (PipelineStatistics TimeSeries))
    (stats : PipelineStatistics TimeSeries) (s : Stage) :
    (batches.foldl addAssign stats).series s =
      stats.series s + (batches.map (·.series s)).sum := by
  induction batches generalizing stats with
  | nil => simp
  | cons batch rest ih => simp [ih, add_assoc]

@[simp] theorem counter_foldl_new (batches : List (PipelineStatistics TimeSeries)) (c : Counter) :
    (batches.foldl addAssign (new 0)).counter c = (batches.map (·.counter c)).sum := by
  simp [counter_foldl_addAssign]

@[simp] theorem series_foldl_new (batches : List (PipelineStatistics TimeSeries)) (s : Stage) :
    (batches.foldl addAssign (new 0)).series s = (batches.map (·.series s)).sum := by
  simp [series_foldl_addAssign]

/-- Merging two groups of batches into fresh records separately and then merging the two
records gives what one run over all the batches gives, each of its counters and time series
the sum over the first group followed by the sum over the second, provided a fresh time series
is zero: statistics kept per context can be combined at the end. -/
theorem foldl_addAssign_append (first second : List (PipelineStatistics TimeSeries)) :
    (first ++ second).foldl addAssign (new 0) =
        (first.foldl addAssign (new 0)).addAssign (second.foldl addAssign (new 0)) ∧
      (∀ c, ((first ++ second).foldl addAssign (new 0)).counter c =
        (first.map (·.counter c)).sum + (second.map (·.counter c)).sum) ∧
      ∀ s, ((first ++ second).foldl addAssign (new 0)).series s =
        (first.map (·.series s)).sum + (second.map (·.series s)).sum := by
  refine ⟨ext (fun c => ?_) (fun s => ?_), fun c => ?_, fun s => ?_⟩ <;>
    simp only [counter_foldl_new, series_foldl_new, counter_addAssign, series_addAssign,
      List.map_append, List.sum_append]

end Runs

section Aggregate

variable [AddCommMonoid TimeSeries]

/-- Merging the statistics of any batches from a fresh record gives every counter and every
time series as the sum over the batches, whatever the order of the merges. -/
theorem foldl_addAssign_perm {batches reordered : List (PipelineStatistics TimeSeries)}
    (perm : batches.Perm reordered) :
    batches.foldl addAssign (new 0) = reordered.foldl addAssign (new 0) ∧
      (∀ c, (batches.foldl addAssign (new 0)).counter c = (batches.map (·.counter c)).sum) ∧
      ∀ s, (batches.foldl addAssign (new 0)).series s = (batches.map (·.series s)).sum :=
  ⟨ext (fun c => by simp only [counter_foldl_new, (perm.map _).sum_eq])
    (fun s => by simp only [series_foldl_new, (perm.map _).sum_eq]),
    counter_foldl_new batches, series_foldl_new batches⟩

theorem foldl_addAssign_perm_sample :
    let batches : List (PipelineStatistics Nat) :=
      [{ new 1 with totalReads := 5, numBatches := 1 },
        { new 2 with totalReads := 7, numBatches := 1 }]
    batches.Perm batches.reverse ∧
      batches.foldl addAssign (new 0) = batches.reverse.foldl addAssign (new 0) ∧
        (∀ c, (batches.foldl addAssign (new 0)).counter c = (batches.map (·.counter c)).sum) ∧
        ∀ s, (batches.foldl addAssign (new 0)).series s = (batches.map (·.series s)).sum := by
  intro batches
  have perm := (List.reverse_perm batches).symm
  exact ⟨perm, foldl_addAssign_perm perm⟩

end Aggregate

end PipelineStatistics

end Firepony
