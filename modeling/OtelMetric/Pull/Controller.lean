import OtelMetric.GoTime

namespace OtelMetric.Pull

open OtelMetric.GoTime

/-- `DefaultCachePeriod`: `10 * time.Second`. -/
def defaultCachePeriod : Duration := ⟨10 * second.ns, by decide, by decide⟩

/-- `Config`: what the options passed to `New` may set. -/
structure Config (Res : Type) where
  resource : Res
  cachePeriod : Duration

/-- The parts of the SDK a pull controller drives and the source does not include: the
`basic.Processor` it builds with memory, the `sdk.Accumulator` over it, and the resource and
clock packages: `processor.New(aselector, eselector, processor.WithMemory(true))`,
`sdk.NewAccumulator(processor, sdk.WithResource(resource))`, `resource.Empty()`,
`controllerTime.RealClock{}`, then the processor's `StartCollection`, the accumulator's
`Collect(ctx)` (which hands every record to the processor's `Process`), `FinishCollection`
and `CheckpointSet`. Each method is a transformation of its receiver's state. -/
structure Collaborators (Clock Acc Proc Ckpt Err Res : Type) where
  newProcessor : Proc
  newAccumulator : Res → Acc
  empty : Res
  realClock : Clock
  startCollection : Proc → Proc
  collect : Acc → Proc → Acc × Proc
  finishCollection : Proc → Proc × Option Err
  checkpointSet : Proc → Ckpt

/-- `Controller`, without the `provider` that only `Provider()` reads. -/
structure Controller (Clock Acc Proc Ckpt : Type) where
  accumulator : Acc
  processor : Proc
  period : Duration
  lastCollect : Time
  clock : Clock
  checkpoint : Ckpt

section

variable {Clock Acc Proc Ckpt Err Res : Type} (ops : Collaborators Clock Acc Proc Ckpt Err Res)

/-- `New`: the default configuration, then each option in turn. -/
def new (options : List (Config Res → Config Res)) : Controller Clock Acc Proc Ckpt :=
  let config := options.foldl (fun config opt => opt config) ⟨ops.empty, defaultCachePeriod⟩
  { accumulator := ops.newAccumulator config.resource
    processor := ops.newProcessor
    period := config.cachePeriod
    lastCollect := Time.zero
    clock := ops.realClock
    checkpoint := ops.checkpointSet ops.newProcessor }

/-- `SetClock`. -/
def Controller.setClock (c : Controller Clock Acc Proc Ckpt) (clock : Clock) :
    Controller Clock Acc Proc Ckpt :=
  { c with clock }

/-- The end of `Collect`, once it is not skipped: `StartCollection`, the accumulator's
`Collect`, `FinishCollection`, and the new checkpoint set. -/
def Controller.collection (c : Controller Clock Acc Proc Ckpt) :
    Option Err × Controller Clock Acc Proc Ckpt :=
  let processor := ops.startCollection c.processor
  let (accumulator, processor) := ops.collect c.accumulator processor
  let (processor, err) := ops.finishCollection processor
  (err, { c with accumulator, processor, checkpoint := ops.checkpointSet processor })

/-- One collection pass on the states of the accumulator and the processor. -/
def Collaborators.pass (s : Acc × Proc) : Acc × Proc :=
  let processor := ops.startCollection s.2
  let (accumulator, processor) := ops.collect s.1 processor
  (accumulator, (ops.finishCollection processor).1)

/-- `Collect`. `now` is what each clock reads at the moment of the call; the controller reads
its own, and only when caching is on. -/
def Controller.collect (c : Controller Clock Acc Proc Ckpt) (now : Clock → Time) :
    Option Err × Controller Clock Acc Proc Ckpt :=
  if 0 < c.period.ns then
    let now := now c.clock
    let elapsed := now.sub c.lastCollect
    if elapsed.ns < c.period.ns then (none, c)
    else Controller.collection ops { c with lastCollect := now }
  else Controller.collection ops c

section Frame

variable {c : Controller Clock Acc Proc Ckpt}

@[simp] theorem collection_period : (c.collection ops).2.period = c.period := rfl
@[simp] theorem collection_lastCollect : (c.collection ops).2.lastCollect = c.lastCollect := rfl
@[simp] theorem collection_clock : (c.collection ops).2.clock = c.clock := rfl

theorem collection_pass :
    ((c.collection ops).2.accumulator, (c.collection ops).2.processor) =
      ops.pass (c.accumulator, c.processor) := rfl

theorem collection_checkpoint :
    (c.collection ops).2.checkpoint = ops.checkpointSet (c.collection ops).2.processor := rfl

end Frame

/-- A `Collect` call at clock reading `t` is due when caching is off or `t` is at least one
cache period after the last collection, as `Sub` measures it. -/
def Controller.Due (c : Controller Clock Acc Proc Ckpt) (t : Time) : Prop :=
  c.period.ns ≤ 0 ∨ c.period.ns ≤ (t.sub c.lastCollect).ns

instance (c : Controller Clock Acc Proc Ckpt) (t : Time) : Decidable (c.Due t) :=
  inferInstanceAs (Decidable (_ ∨ _))

/-- The controller after a due call records its reading, when caching is on. -/
def Controller.stamp (c : Controller Clock Acc Proc Ckpt) (t : Time) :
    Controller Clock Acc Proc Ckpt :=
  if 0 < c.period.ns then { c with lastCollect := t } else c

section Stamp

variable {c : Controller Clock Acc Proc Ckpt} {t : Time}

@[simp] theorem stamp_period : (c.stamp t).period = c.period := by
  unfold Controller.stamp; split <;> rfl

@[simp] theorem stamp_clock : (c.stamp t).clock = c.clock := by
  unfold Controller.stamp; split <;> rfl

@[simp] theorem stamp_accumulator : (c.stamp t).accumulator = c.accumulator := by
  unfold Controller.stamp; split <;> rfl

@[simp] theorem stamp_processor : (c.stamp t).processor = c.processor := by
  unfold Controller.stamp; split <;> rfl

theorem stamp_lastCollect (hp : 0 < c.period.ns) : (c.stamp t).lastCollect = t := by
  simp [Controller.stamp, hp]

theorem stamp_of_nonpos (hp : c.period.ns ≤ 0) : c.stamp t = c := by
  simp [Controller.stamp, not_lt.mpr hp]

end Stamp

theorem due_iff_diff {c : Controller Clock Acc Proc Ckpt} {t : Time} (hp : 0 < c.period.ns) :
    c.Due t ↔ c.period.ns ≤ t.diff c.lastCollect := by
  have hmin : minDuration < c.period.ns := by unfold minDuration; omega
  rw [Controller.Due, ← not_lt, ← not_lt, Time.sub_lt_iff hmin]
  omega

theorem due_iff {c : Controller Clock Acc Proc Ckpt} {t : Time} :
    c.Due t ↔ c.period.ns ≤ 0 ∨ c.period.ns ≤ t.diff c.lastCollect := by
  rcases le_or_lt c.period.ns 0 with hp | hp
  · exact ⟨fun _ => .inl hp, fun _ => .inl hp⟩
  · rw [due_iff_diff hp]
    omega

theorem collect_of_due {c : Controller Clock Acc Proc Ckpt} {now : Clock → Time}
    (h : c.Due (now c.clock)) : c.collect ops now = (c.stamp (now c.clock)).collection ops := by
  unfold Controller.collect Controller.stamp Controller.Due at *
  dsimp only
  split_ifs <;> first | rfl | omega

theorem collect_of_not_due {c : Controller Clock Acc Proc Ckpt} {now : Clock → Time}
    (h : ¬ c.Due (now c.clock)) : c.collect ops now = (none, c) := by
  unfold Controller.collect Controller.Due at *
  dsimp only
  split_ifs <;> first | rfl | omega

theorem collect_eq (c : Controller Clock Acc Proc Ckpt) (now : Clock → Time) :
    c.collect ops now =
      if c.Due (now c.clock) then (c.stamp (now c.clock)).collection ops else (none, c) := by
  split_ifs with h
  · exact collect_of_due ops h
  · exact collect_of_not_due ops h

end

end OtelMetric.Pull
