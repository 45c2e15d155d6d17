import Mathlib.Data.BitVec

namespace OtelMetric.Export

/-- Modelled from the spec: `metric.Kind`, the six instrument kinds. `other` is any other
value of the underlying integer, which `MemoryRequired` meets in its fall-through. -/
inductive Kind
  | valueRecorder
  | valueObserver
  | counter
  | upDownCounter
  | sumObserver
  | upDownSumObserver
  | other
deriving DecidableEq

/-- `ExportKind`, a Go `int`: the kinds are bits, OR-ed together when several exporters are
in use. -/
abbrev ExportKind := BitVec 64

def cumulativeExporter : ExportKind := 1
def deltaExporter : ExportKind := 2
def passThroughExporter : ExportKind := 4

/-- `Includes`: whether `kind` shares a bit with `has`. -/
def ExportKind.includes (kind has : ExportKind) : Bool := kind &&& has != 0

/-- `MemoryRequired`: whether an exporter of this kind needs the processor to keep state. -/
def ExportKind.memoryRequired (kind : ExportKind) : Kind → Bool
  | .valueRecorder | .valueObserver | .counter | .upDownCounter =>
      kind.includes cumulativeExporter
  | .sumObserver | .upDownSumObserver => kind.includes deltaExporter
  | .other => false

private theorem or_eq_zero_iff {x y : BitVec 64} : x ||| y = 0 ↔ x = 0 ∧ y = 0 := by
  constructor
  · intro h
    have hi : ∀ i : Fin 64, x.getLsbD i = false ∧ y.getLsbD i = false := fun i => by
      simpa using congrArg (BitVec.getLsbD · i) h
    exact ⟨by ext i; simp [(hi i).1], by ext i; simp [(hi i).2]⟩
  · rintro ⟨rfl, rfl⟩
    rfl

theorem includes_or (a b has : ExportKind) :
    (a ||| b).includes has = (a.includes has || b.includes has) := by
  have hdist : (a ||| b) &&& has = (a &&& has) ||| (b &&& has) := by
    ext i
    simp [Bool.and_or_distrib_right]
  rw [ExportKind.includes, hdist, Bool.eq_iff_iff]
  simp only [Bool.or_eq_true, ExportKind.includes, bne_iff_ne, ne_eq, or_eq_zero_iff, not_and_or]

/-- Exporters that share a processor need it to keep state for an instrument exactly when
one of them does. -/
theorem memoryRequired_or (a b : ExportKind) (m : Kind) :
    (a ||| b).memoryRequired m = (a.memoryRequired m || b.memoryRequired m) := by
  cases m <;> simp [ExportKind.memoryRequired, includes_or]

/-- A pass-through exporter that joins any set of exporters on one processor never changes
whether the processor keeps state for an instrument. -/
theorem memoryRequired_or_passThroughExporter (k : ExportKind) (m : Kind) :
    (k ||| passThroughExporter).memoryRequired m = k.memoryRequired m := by
  have hc : passThroughExporter.includes cumulativeExporter = false := by decide
  have hd : passThroughExporter.includes deltaExporter = false := by decide
  cases m <;> simp [ExportKind.memoryRequired, includes_or, hc, hd]

/-- Modelled from the spec: `CheckpointSet.ForEach` hands every record to `f`, in the
processor's order. It "tolerates ErrNoData silently ... Any other kind of error will
immediately halt ForEach and return the error to the caller." The state `σ` is what `f`
changes as it goes. -/
def forEach {σ Rec Err : Type} (noData : Err → Bool) (f : σ → Rec → σ × Option Err) :
    σ → List Rec → σ × Option Err
  | s, [] => (s, none)
  | s, r :: rs =>
      match f s r with
      | (s, some err) => if noData err then forEach noData f s rs else (s, some err)
      | (s, none) => forEach noData f s rs

end OtelMetric.Export
