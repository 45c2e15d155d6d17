import Mathlib.Logic.Function.Iterate
import OtelMetric.Pull.Cache
import OtelMetric.Pull.Controller

namespace OtelMetric.Pull

open OtelMetric.GoTime

/-- A call on a controller: `Collect(ctx)`, given what every clock reads at that moment,
or `SetClock(clock)`. Each takes the processor's lock, so the calls of concurrent callers run
one after another. -/
inductive Call (Clock : Type)
  | collect (now : Clock → Time)
  | setClock (clock : Clock)

section

variable {Clock Acc Proc Ckpt Err Res : Type} (ops : Collaborators Clock Acc Proc Ckpt Err Res)

/-- One call: what it returns and the controller after it. -/
def Controller.step (c : Controller Clock Acc Proc Ckpt) :
    Call Clock → Option Err × Controller Clock Acc Proc Ckpt
  | .collect now => c.collect ops now
  | .setClock clock => (none, c.setClock clock)

def Controller.run (c : Controller Clock Acc Proc Ckpt) :
    List (Call Clock) → Controller Clock Acc Proc Ckpt
  | [] => c
  | call :: calls => (c.step ops call).2.run calls

/-- The clock readings of the due `Collect` calls of a sequence, oldest first. -/
def Controller.collections (c : Controller Clock Acc Proc Ckpt) :
    List (Call Clock) → List Time
  | [] => []
  | .collect now :: calls =>
      let rest := (c.collect ops now).2.collections calls
      if c.Due (now c.clock) then now c.clock :: rest else rest
  | .setClock clock :: calls => (c.setClock clock).collections calls

/-- The clock readings of the `Collect` calls of a sequence, each from the clock set last. -/
def readings (clock : Clock) : List (Call Clock) → List Time
  | [] => []
  | .collect now :: calls => now clock :: readings clock calls
  | .setClock clock :: calls => readings clock calls

variable {c : Controller Clock Acc Proc Ckpt}

@[simp] theorem collect_clock (now : Clock → Time) : (c.collect ops now).2.clock = c.clock := by
  rw [collect_eq]
  split <;> simp

@[simp] theorem collect_period (now : Clock → Time) :
    (c.collect ops now).2.period = c.period := by
  rw [collect_eq]
  split <;> simp

@[simp] theorem run_period (calls : List (Call Clock)) : (c.run ops calls).period = c.period := by
  induction calls generalizing c with
  | nil => rfl
  | cons call calls ih =>
      cases call <;> simp [Controller.run, Controller.step, Controller.setClock, ih]

theorem run_append (calls : List (Call Clock)) (call : Call Clock) :
    c.run ops (calls ++ [call]) = ((c.run ops calls).step ops call).2 := by
  induction calls generalizing c with
  | nil => rfl
  | cons call' calls ih => exact ih

theorem run_lastCollect (hp : 0 < c.period.ns) (calls : List (Call Clock)) :
    (c.run ops calls).lastCollect = (c.collections ops calls).getLastD c.lastCollect := by
  induction calls generalizing c with
  | nil => rfl
  | cons call calls ih =>
      cases call with
      | collect now =>
          by_cases h : c.Due (now c.clock)
          · simp only [Controller.run, Controller.step, Controller.collections,
              collect_of_due ops h, if_pos h, List.getLastD_cons]
            rw [ih (by simpa using hp), collection_lastCollect, stamp_lastCollect hp]
          · simp only [Controller.run, Controller.step, Controller.collections,
              collect_of_not_due ops h, if_neg h]
            exact ih hp
      | setClock k => exact ih hp

theorem collections_eq_cache (calls : List (Call Clock)) :
    c.collections ops calls =
      Cache.collections c.period.ns c.lastCollect (readings c.clock calls) := by
  induction calls generalizing c with
  | nil => rfl
  | cons call calls ih =>
      cases call with
      | collect now =>
          simp only [Controller.collections, readings, Cache.collections]
          by_cases h : c.Due (now c.clock)
          · rw [if_pos h, if_pos (due_iff.mp h), collect_of_due ops h, ih]
            simp only [collection_period, collection_clock, collection_lastCollect, stamp_period,
              stamp_clock]
            rcases lt_or_le 0 c.period.ns with hp | hp
            · rw [stamp_lastCollect hp]
            · rw [Cache.collections_of_nonpos hp, Cache.collections_of_nonpos hp]
          · rw [if_neg h, if_neg (mt due_iff.mpr h), collect_of_not_due ops h, ih]
      | setClock k => exact ih

theorem collections_chain (hp : 0 < c.period.ns) (calls : List (Call Clock)) :
    List.Chain (fun a b => c.period.ns ≤ b.diff a) c.lastCollect (c.collections ops calls) := by
  rw [collections_eq_cache]
  exact Cache.collections_chain hp

/-- In every run, the accumulator and the processor go through one collection pass per due
call, and through nothing else. -/
theorem run_pass (calls : List (Call Clock)) :
    ((c.run ops calls).accumulator, (c.run ops calls).processor) =
      ops.pass^[(c.collections ops calls).length] (c.accumulator, c.processor) := by
  induction calls generalizing c with
  | nil => rfl
  | cons call calls ih =>
      cases call with
      | collect now =>
          by_cases h : c.Due (now c.clock)
          · simp only [Controller.run, Controller.step, Controller.collections,
              collect_of_due ops h, if_pos h, List.length_cons, Function.iterate_succ_apply]
            rw [ih, collection_pass, stamp_accumulator, stamp_processor]
          · simp only [Controller.run, Controller.step, Controller.collections,
              collect_of_not_due ops h, if_neg h]
            exact ih
      | setClock k => exact ih

theorem run_lastCollect_of_nonpos (hp : c.period.ns ≤ 0) (calls : List (Call Clock)) :
    (c.run ops calls).lastCollect = c.lastCollect := by
  induction calls generalizing c with
  | nil => rfl
  | cons call calls ih =>
      cases call with
      | collect now =>
          simp only [Controller.run, Controller.step, collect_of_due ops (Or.inl hp),
            stamp_of_nonpos hp]
          exact ih (by simpa using hp)
      | setClock k => exact ih hp

theorem collect_lastCollect_lt (hp : 0 < c.period.ns) (now : Clock → Time) :
    (now c.clock).diff (c.collect ops now).2.lastCollect < c.period.ns := by
  by_cases h : c.Due (now c.clock)
  · rw [collect_of_due ops h, collection_lastCollect, stamp_lastCollect hp, Time.diff_self]
    exact hp
  · rw [collect_of_not_due ops h]
    exact not_le.mp fun h' => h ((due_iff_diff hp).mpr h')

/-- Collaborators whose processor counts the collections it has started. -/
def countingCollaborators : Collaborators Unit Unit Nat Nat Unit Unit where
  newProcessor := 0
  newAccumulator _ := ()
  empty := ()
  realClock := ()
  startCollection n := n + 1
  collect a p := (a, p)
  finishCollection p := (p, none)
  checkpointSet p := p

/-- The checkpoint set `ForEach` reads is the one the processor produced last. -/
def Controller.Consistent (c : Controller Clock Acc Proc Ckpt) : Prop :=
  c.checkpoint = ops.checkpointSet c.processor

theorem step_consistent (h : c.Consistent ops) (call : Call Clock) :
    (c.step ops call).2.Consistent ops := by
  cases call with
  | collect now =>
      by_cases hd : c.Due (now c.clock)
      · simp only [Controller.step, collect_of_due ops hd]
        exact collection_checkpoint ops
      · simpa only [Controller.step, collect_of_not_due ops hd] using h
  | setClock k => exact h

theorem run_consistent (h : c.Consistent ops) (calls : List (Call Clock)) :
    (c.run ops calls).Consistent ops := by
  induction calls generalizing c with
  | nil => exact h
  | cons call calls ih => exact ih (step_consistent ops h call)

/-- In every run of a controller from `New`, `ForEach` iterates the checkpoint set the
processor produced at the last collection, or at construction. -/
theorem forEach_reads_last_checkpoint (options : List (Config Res → Config Res))
    (calls : List (Call Clock)) :
    ((new ops options).run ops calls).checkpoint =
      ops.checkpointSet ((new ops options).run ops calls).processor :=
  run_consistent ops (c := new ops options) rfl calls

/-- With caching on, after any `Collect` of a run from `New` the checkpoint set a caller
then reads is the one the processor produced at the run's last collection, whose reading is
now `lastCollect` and is less than one period before the call's, in exact nanoseconds. -/
theorem collect_fresh (options : List (Config Res → Config Res))
    (hp : 0 < (new ops options).period.ns) (calls : List (Call Clock)) (now : Clock → Time) :
    let c := (new ops options).run ops calls
    let collections := (new ops options).collections ops (calls ++ [.collect now])
    (c.collect ops now).2.lastCollect = collections.getLastD Time.zero ∧
      (now c.clock).diff (collections.getLastD Time.zero) < (new ops options).period.ns ∧
      (c.collect ops now).2.checkpoint = ops.checkpointSet
        (ops.pass^[collections.length] ((new ops options).accumulator,
          (new ops options).processor)).2 := by
  intro c collections
  have hrun : (c.collect ops now).2 = (new ops options).run ops (calls ++ [.collect now]) :=
    (run_append ops (c := new ops options) calls (.collect now)).symm
  have hlast : (c.collect ops now).2.lastCollect = collections.getLastD Time.zero :=
    (congrArg Controller.lastCollect hrun).trans (run_lastCollect ops hp _)
  have hc : c.period = (new ops options).period := run_period ops calls
  refine ⟨hlast, ?_, ?_⟩
  · rw [← hlast, ← hc]
    exact collect_lastCollect_lt ops (hc ▸ hp) now
  · rw [hrun, run_consistent ops (c := new ops options) rfl _, ← run_pass]

theorem collect_fresh_at_first_collection :
    let ops := countingCollaborators
    let now : Unit → Time := fun _ => ⟨20000000000, none⟩
    (new ops []).collections ops [.collect now] = [⟨20000000000, none⟩] ∧
      0 < (new ops []).period.ns ∧
      (((new ops []).run ops []).collect ops now).2.lastCollect =
          ((new ops []).collections ops ([] ++ [.collect now])).getLastD Time.zero ∧
        (now ((new ops []).run ops []).clock).diff
            (((new ops []).collections ops ([] ++ [.collect now])).getLastD Time.zero) <
          (new ops []).period.ns ∧
        (((new ops []).run ops []).collect ops now).2.checkpoint = ops.checkpointSet
          (ops.pass^[((new ops []).collections ops ([] ++ [.collect now])).length]
            ((new ops []).accumulator, (new ops []).processor)).2 :=
  ⟨by decide, by decide, collect_fresh countingCollaborators [] (by decide) [] _⟩

/-- The cache period of `Collect`, over every run from `New`. A due call stamps its reading
when caching is on, runs one collection pass through the collaborators, replaces the
checkpoint set and returns `FinishCollection`'s error; any other call returns nil and leaves
the controller as it was. -/
theorem collect_gated_by_cache_period (options : List (Config Res → Config Res))
    (calls : List (Call Clock)) :
    (∀ (c : Controller Clock Acc Proc Ckpt) (now : Clock → Time),
      c.collect ops now =
        if c.Due (now c.clock) then
          let (accumulator, processor) :=
            ops.collect c.accumulator (ops.startCollection c.processor)
          let (processor, err) := ops.finishCollection processor
          (err, { c with
            accumulator, processor, checkpoint := ops.checkpointSet processor
            lastCollect := if 0 < c.period.ns then now c.clock else c.lastCollect })
        else (none, c)) ∧
    (0 < (new ops options).period.ns →
      ((new ops options).run ops calls).lastCollect =
          ((new ops options).collections ops calls).getLastD Time.zero ∧
        List.Chain (fun a b => (new ops options).period.ns ≤ b.diff a) Time.zero
          ((new ops options).collections ops calls)) ∧
    ((new ops options).period.ns ≤ 0 →
      ((new ops options).run ops calls).lastCollect = Time.zero) :=
  ⟨fun c now => by
    rw [collect_eq]
    unfold Controller.stamp Controller.collection
    split_ifs <;> rfl,
    fun hp => ⟨run_lastCollect ops hp calls, collections_chain ops hp calls⟩,
    fun hp => run_lastCollect_of_nonpos ops hp calls⟩

end

/-- With a cache period of zero, a `Collect` whose clock reads 1 ns collects, and
`lastCollect` is still the zero `Time`, not that reading. -/
theorem lastCollect_zero_after_uncached_collect :
    let ops := countingCollaborators
    let c := new ops [fun config => { config with cachePeriod := ⟨0, by decide, by decide⟩ }]
    let calls := [Call.collect fun _ => ⟨1, none⟩]
    (c.run ops calls).processor = 1 ∧ c.collections ops calls = [⟨1, none⟩] ∧
      (c.run ops calls).lastCollect ≠ (c.collections ops calls).getLastD Time.zero := by
  decide

end OtelMetric.Pull
