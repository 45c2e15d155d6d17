import Mathlib.Data.List.Chain
import OtelMetric.GoTime

namespace OtelMetric.Pull.Cache

open OtelMetric.GoTime

/-- What the cache period is for, in exact nanoseconds: the readings, among the readings
`ts` of later requests, at which a cache of period `period` collects when its last collection
read `last`. A request collects when caching is off or it comes a whole period after the
last collection. -/
def collections (period : Int) (last : Time) : List Time → List Time
  | [] => []
  | t :: ts =>
      if period ≤ 0 ∨ period ≤ t.diff last then t :: collections period t ts
      else collections period last ts

variable {period : Int} {last : Time} {ts : List Time}

theorem collections_of_nonpos (hp : period ≤ 0) : collections period last ts = ts := by
  induction ts generalizing last with
  | nil => rfl
  | cons t ts ih => simp [collections, hp, ih]

theorem collections_chain (hp : 0 < period) :
    List.Chain (fun a b => period ≤ b.diff a) last (collections period last ts) := by
  induction ts generalizing last with
  | nil => exact .nil
  | cons t ts ih =>
      unfold collections
      split_ifs with h
      · exact .cons (h.resolve_left (not_le.mpr hp)) ih
      · exact ih

end OtelMetric.Pull.Cache
