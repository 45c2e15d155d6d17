import Mathlib.Data.String.Lemmas
import Mathlib.Order.MinMax

namespace OtelMetric.GoTime

/-- The least `time.Duration`, `math.MinInt64` nanoseconds. -/
def minDuration : Int := -9223372036854775808

/-- The greatest `time.Duration`, `math.MaxInt64` nanoseconds. -/
def maxDuration : Int := 9223372036854775807

/-- `time.Duration`: a signed 64-bit count of nanoseconds. -/
structure Duration where
  ns : Int
  minDuration_le : minDuration ≤ ns
  le_maxDuration : ns ≤ maxDuration
deriving DecidableEq

/-- `time.Second`. -/
def second : Duration := ⟨1000000000, by decide, by decide⟩

/-- The duration nearest to `d` nanoseconds: `d` when it fits, else the bound it passes. -/
def Duration.saturate (d : Int) : Duration :=
  ⟨max minDuration (min d maxDuration), le_max_left _ _,
    max_le (by decide) (min_le_right _ _)⟩

theorem Duration.saturate_lt_iff {d : Int} {p : Duration} (hp : minDuration < p.ns) :
    (saturate d).ns < p.ns ↔ d < p.ns := by
  have := p.le_maxDuration
  simp only [saturate, minDuration, maxDuration] at *
  omega

/-- `time.Time` as `Sub` sees it: the wall-clock instant, in nanoseconds after the zero time
(January 1, year 1, 00:00:00 UTC), and the monotonic clock reading that `time.Now` attaches.
The location only changes how a time prints. -/
structure Time where
  wall : Int
  mono : Option Int
deriving DecidableEq

/-- `time.Time{}`: the zero instant, with no monotonic reading. -/
def Time.zero : Time := ⟨0, none⟩

/-- `t - u` in exact nanoseconds. "If Times t and u both contain monotonic clock readings,
the operations ... t.Sub(u) are carried out using the monotonic clock readings alone ...
If either t or u contains no monotonic clock reading, these operations fall back to using
the wall clock readings." -/
def Time.diff (t u : Time) : Int :=
  match t.mono, u.mono with
  | some a, some b => a - b
  | _, _ => t.wall - u.wall

/-- `t.Sub(u)`: "the duration t-u. If the result exceeds the maximum (or minimum) value that
can be stored in a Duration, the maximum (or minimum) duration will be returned." -/
def Time.sub (t u : Time) : Duration := Duration.saturate (t.diff u)

@[simp] theorem Time.diff_self (t : Time) : t.diff t = 0 := by
  unfold Time.diff
  split <;> simp_all

theorem Time.sub_lt_iff {t u : Time} {p : Duration} (hp : minDuration < p.ns) :
    (t.sub u).ns < p.ns ↔ t.diff u < p.ns :=
  Duration.saturate_lt_iff hp

/-- `len(s) > 0`, Go's test for a non-empty string. -/
theorem length_pos_iff {s : String} : 0 < s.length ↔ s ≠ "" := by
  cases s
  simp [String.length, List.length_pos, String.ext_iff]

end OtelMetric.GoTime
