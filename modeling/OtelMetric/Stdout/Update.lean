import Mathlib.Data.String.Lemmas
import OtelMetric.GoTime
import OtelMetric.Export

namespace OtelMetric.Stdout

open OtelMetric.GoTime OtelMetric.Export

/-- Modelled from the spec: `metric.NumberKind`. -/
inductive NumberKind
  | int64
  | float64
deriving DecidableEq

/-- What `Export` reads of a `metric.Descriptor`. -/
structure Descriptor where
  name : String
  numberKind : NumberKind
  instrumentationName : String
  instrumentationVersion : String

/-- The read views of an aggregation that `Export` asks for, each present when the
aggregation implements it: `Sum()`; `Count()`, `Max()` and `Min()`; `Quantile(q)`;
`LastValue()`. -/
structure Aggregation (Num Q Err : Type) where
  sum : Option (Except Err Num)
  minMaxSumCount : Option (Except Err Int × Except Err Num × Except Err Num)
  distribution : Option (Q → Except Err Num)
  lastValue : Option (Except Err (Num × Time))

/-- What `Export` reads of an `export.Record`. -/
structure Record (Num Q Err Lbl Res : Type) where
  descriptor : Descriptor
  labels : Lbl
  resource : Res
  aggregation : Aggregation Num Q Err

structure ExpoQuantile (V Q : Type) where
  q : Q
  v : V

/-- `expoLine`; `none` is a field `omitempty` leaves out. -/
structure ExpoLine (V Q : Type) where
  name : String := ""
  min : Option V := none
  max : Option V := none
  sum : Option V := none
  count : Option Int := none
  lastValue : Option V := none
  quantiles : Option (List (ExpoQuantile V Q)) := none
  timestamp : Option Time := none

structure ExpoBatch (V Q : Type) where
  timestamp : Option Time
  updates : List (ExpoLine V Q)

/-- `Config`, without the `Writer`, whose output `Export` returns, and the `LabelEncoder`,
which `Env` applies. -/
structure Config (Q : Type) where
  prettyPrint : Bool
  doNotPrintTime : Bool
  quantiles : List Q

/-- What `Export` calls outside this file: `value.AsInterface(kind)`, `label.NewSet(kvs...)`
of string labels, `labels.Iter().Len()`, `labels.Encoded` and `resource.Encoded` with the
configured label encoder, `errors.Is(err, aggregation.ErrNoData)`, `json.Marshal(batch)` and
`json.MarshalIndent(batch, "", "\t")`. -/
structure Env (Num Q Err Lbl Res V : Type) where
  asInterface : Num → NumberKind → V
  newSet : List (String × String) → Lbl
  len : Lbl → Nat
  encoded : Lbl → String
  resourceEncoded : Res → String
  noData : Err → Bool
  marshal : ExpoBatch V Q → Except Err String
  marshalIndent : ExpoBatch V Q → Except Err String

/-- The `Name` of an update, as `Export` writes it into its `strings.Builder`. -/
def updateName (name encodedResource encodedInstLabels encodedLabels : String) : String :=
  if 0 < encodedLabels.length ∨ 0 < encodedResource.length ∨ 0 < encodedInstLabels.length then
    name ++ "\x7b" ++ encodedResource
      ++ (if 0 < encodedInstLabels.length ∧ 0 < encodedResource.length then "," else "")
      ++ encodedInstLabels
      ++ (if 0 < encodedLabels.length ∧
          (0 < encodedInstLabels.length ∨ 0 < encodedResource.length) then "," else "")
      ++ encodedLabels ++ "\x7d"
  else name

/-- The name is the instrument's name, followed, when any of them is not empty, by the
encoded resource, instrumentation labels and labels in braces, with one comma between each
two that are not empty. -/
theorem updateName_eq (name r i l : String) :
    updateName name r i l =
      if r = "" ∧ i = "" ∧ l = "" then name
      else name ++ "\x7b" ++ ",".intercalate ([r, i, l].filter (· ≠ "")) ++ "\x7d" := by
  by_cases hr : r = "" <;> by_cases hi : i = "" <;> by_cases hl : l = "" <;>
    simp [updateName, length_pos_iff, hr, hi, hl, String.intercalate, String.intercalate.go,
      String.append_assoc]

example : updateName "ex.com.two" "R=V" "" "A=1" = "ex.com.two{R=V,A=1}" := by decide

/-- The instrumentation labels of an update. -/
def instLabels (name version : String) : List (String × String) :=
  if name ≠ "" then
    ("instrumentation.name", name) ::
      if version ≠ "" then [("instrumentation.version", version)] else []
  else []

section

variable {Num Q Err Lbl Res V : Type} (env : Env Num Q Err Lbl Res V) (config : Config Q)

/-- The `Sum` branch, which starts the update. -/
def exposeSum (kind : NumberKind) : Option (Except Err Num) → Except Err (ExpoLine V Q)
  | some sum => do
      let value ← sum
      pure { sum := some (env.asInterface value kind) }
  | none => pure {}

/-- The quantile summary: `Quantile(q)` for each configured `q` in turn, up to the first
error. -/
def summary (kind : NumberKind) (dist : Q → Except Err Num) :
    List Q → Except Err (List (ExpoQuantile V Q))
  | [] => pure []
  | q :: qs => do
      let value ← dist q
      let rest ← summary kind dist qs
      pure (⟨q, env.asInterface value kind⟩ :: rest)

/-- The quantiles of an update: reported for a `Distribution` when quantiles are
configured. -/
def exposeQuantiles (kind : NumberKind) :
    Option (Q → Except Err Num) → Except Err (Option (List (ExpoQuantile V Q)))
  | some dist =>
      if config.quantiles.length ≠ 0 then some <$> summary env kind dist config.quantiles
      else pure none
  | none => pure none

/-- The `MinMaxSumCount` branch: `Count()`, `Max()`, `Min()`, then the quantiles. -/
def exposeMinMaxSumCount (kind : NumberKind) (distribution : Option (Q → Except Err Num))
    (count : Except Err Int) (max min : Except Err Num) (expose : ExpoLine V Q) :
    Except Err (ExpoLine V Q) := do
  let count ← count
  let max ← max
  let min ← min
  let quantiles ← exposeQuantiles env config kind distribution
  pure { expose with
    count := some count
    max := some (env.asInterface max kind)
    min := some (env.asInterface min kind)
    quantiles := quantiles }

/-- The `LastValue` branch, taken only when the aggregation is no `MinMaxSumCount`. -/
def exposeLastValue (kind : NumberKind) (lastValue : Except Err (Num × Time))
    (expose : ExpoLine V Q) : Except Err (ExpoLine V Q) := do
  let (value, timestamp) ← lastValue
  pure { expose with
    lastValue := some (env.asInterface value kind)
    timestamp := if config.doNotPrintTime then none else some timestamp }

/-- The values `Export` reports for one aggregation, before the update's name is set. -/
def exposeAggregation (kind : NumberKind) (agg : Aggregation Num Q Err) :
    Except Err (ExpoLine V Q) := do
  let expose ← exposeSum env kind agg.sum
  match agg.minMaxSumCount, agg.lastValue with
  | some (count, max, min), _ =>
      exposeMinMaxSumCount env config kind agg.distribution count max min expose
  | none, some lastValue => exposeLastValue env config kind lastValue expose
  | none, none => pure expose

/-- The update `Export`'s callback builds for one record. -/
def exposeRecord (record : Record Num Q Err Lbl Res) : Except Err (ExpoLine V Q) := do
  let desc := record.descriptor
  let encodedResource := env.resourceEncoded record.resource
  let encodedInstLabels :=
    env.encoded (env.newSet (instLabels desc.instrumentationName desc.instrumentationVersion))
  let expose ← exposeAggregation env config desc.numberKind record.aggregation
  let encodedLabels := if 0 < env.len record.labels then env.encoded record.labels else ""
  pure { expose with
    name := updateName desc.name encodedResource encodedInstLabels encodedLabels }

section Expose

variable {kind : NumberKind} {agg : Aggregation Num Q Err} {e : ExpoLine V Q}

theorem summary_q {dist : Q → Except Err Num} {qs : List Q} {s : List (ExpoQuantile V Q)}
    (h : summary env kind dist qs = .ok s) : s.map (·.q) = qs := by
  induction qs generalizing s with
  | nil => cases h; rfl
  | cons q qs ih =>
      cases hq : dist q with
      | error e => simp [summary, hq, bind, Except.bind] at h
      | ok v =>
          cases hr : summary env kind dist qs with
          | error e => simp [summary, hq, hr, bind, Except.bind] at h
          | ok rest =>
              simp only [summary, hq, hr, bind, Except.bind, pure, Except.pure,
                Except.ok.injEq] at h
              simp [← h, ih hr]

theorem exposeSum_ok {sum : Option (Except Err Num)} (h : exposeSum env kind sum = .ok e) :
    ∃ v, e = { sum := v } := by
  rcases sum with _ | _ | _ <;> simp [exposeSum, bind, Except.bind, pure, Except.pure] at h <;>
    exact ⟨_, h.symm⟩

theorem exposeQuantiles_ok {distribution : Option (Q → Except Err Num)}
    {qs : Option (List (ExpoQuantile V Q))}
    (h : exposeQuantiles env config kind distribution = .ok qs) :
    qs.map (fun s => s.map (·.q)) =
      if distribution.isSome ∧ config.quantiles.length ≠ 0 then some config.quantiles
      else none := by
  cases distribution with
  | none =>
      simp only [exposeQuantiles, pure, Except.pure, Except.ok.injEq] at h
      simp [← h]
  | some dist =>
      by_cases hq : config.quantiles = []
      · simp [exposeQuantiles, hq, pure, Except.pure] at h
        simp [← h, hq]
      · cases hs : summary env kind dist config.quantiles with
        | error err => simp [exposeQuantiles, hq, hs, Functor.map, Except.map] at h
        | ok s =>
            simp [exposeQuantiles, hq, hs, Functor.map, Except.map] at h
            simp [← h, hq, summary_q env hs]

theorem exposeMinMaxSumCount_ok {distribution : Option (Q → Except Err Num)}
    {count : Except Err Int} {max min : Except Err Num} {expose : ExpoLine V Q}
    (h : exposeMinMaxSumCount env config kind distribution count max min expose = .ok e) :
    exposeQuantiles env config kind distribution = .ok e.quantiles ∧ ∃ c mx mn,
      e = { expose with
        count := some c, max := some mx, min := some mn, quantiles := e.quantiles } := by
  cases count <;> cases max <;> cases min <;>
    cases hq : exposeQuantiles env config kind distribution <;>
    simp [exposeMinMaxSumCount, hq, bind, Except.bind, pure, Except.pure] at h
  subst h
  exact ⟨rfl, _, _, _, rfl⟩

theorem exposeLastValue_ok {lastValue : Except Err (Num × Time)} {expose : ExpoLine V Q}
    (h : exposeLastValue env config kind lastValue expose = .ok e) :
    ∃ v t, e = { expose with
      lastValue := some v, timestamp := if config.doNotPrintTime then none else some t } := by
  rcases lastValue with _ | ⟨v, t⟩ <;>
    simp [exposeLastValue, bind, Except.bind, pure, Except.pure] at h
  exact ⟨_, _, h.symm⟩

theorem exposeAggregation_ok (h : exposeAggregation env config kind agg = .ok e) :
    ∃ expose, exposeSum env kind agg.sum = .ok expose ∧
      match agg.minMaxSumCount, agg.lastValue with
      | some (count, max, min), _ =>
          exposeMinMaxSumCount env config kind agg.distribution count max min expose = .ok e
      | none, some lastValue => exposeLastValue env config kind lastValue expose = .ok e
      | none, none => e = expose := by
  cases hs : exposeSum env kind agg.sum with
  | error err => simp [exposeAggregation, hs, bind, Except.bind] at h
  | ok expose =>
      refine ⟨expose, rfl, ?_⟩
      simp only [exposeAggregation, hs, bind, Except.bind] at h
      split at h <;> simp_all [pure, Except.pure]

theorem exposeRecord_ok {record : Record Num Q Err Lbl Res} {u : ExpoLine V Q}
    (h : exposeRecord env config record = .ok u) :
    ∃ e, exposeAggregation env config record.descriptor.numberKind record.aggregation = .ok e ∧
      u = { e with
        name := updateName record.descriptor.name (env.resourceEncoded record.resource)
          (env.encoded (env.newSet (instLabels record.descriptor.instrumentationName
            record.descriptor.instrumentationVersion)))
          (if 0 < env.len record.labels then env.encoded record.labels else "") } := by
  cases ha : exposeAggregation env config record.descriptor.numberKind record.aggregation with
  | error err => simp [exposeRecord, ha, bind, Except.bind] at h
  | ok e =>
      simp only [exposeRecord, ha, bind, Except.bind, pure, Except.pure, Except.ok.injEq] at h
      exact ⟨e, rfl, h.symm⟩

/-- An environment whose numbers are reported as they are, whose label encodings are empty
and whose JSON encoder never fails; the error `true` is `ErrNoData`. -/
def natEnv : Env Nat Nat Bool Unit Unit Nat where
  asInterface n _ := n
  newSet _ := ()
  len _ := 0
  encoded _ := ""
  resourceEncoded _ := ""
  noData err := err
  marshal _ := .ok ""
  marshalIndent _ := .ok ""

theorem exposeAggregation_timestamp (hd : config.doNotPrintTime = true)
    (h : exposeAggregation env config kind agg = .ok e) : e.timestamp = none := by
  obtain ⟨expose, hs, hb⟩ := exposeAggregation_ok env config h
  obtain ⟨v, rfl⟩ := exposeSum_ok env hs
  split at hb
  · obtain ⟨-, _, _, _, he⟩ := exposeMinMaxSumCount_ok env config hb
    rw [he]
  · obtain ⟨_, _, rfl⟩ := exposeLastValue_ok env config hb
    simp [hd]
  · rw [hb]

/-- An update lists one quantile per configured quantile, in order, when its aggregation is
a `MinMaxSumCount` and a `Distribution` and quantiles are configured, and none otherwise. -/
theorem exposeAggregation_quantiles (h : exposeAggregation env config kind agg = .ok e) :
    e.quantiles.map (fun s => s.map (·.q)) =
      if agg.minMaxSumCount.isSome ∧ agg.distribution.isSome ∧
          config.quantiles.length ≠ 0 then
        some config.quantiles
      else none := by
  obtain ⟨expose, hs, hb⟩ := exposeAggregation_ok env config h
  obtain ⟨v, rfl⟩ := exposeSum_ok env hs
  split at hb
  next _ _ _ _ _ hm =>
    obtain ⟨hq, -⟩ := exposeMinMaxSumCount_ok env config hb
    rw [exposeQuantiles_ok env config hq, hm]
    exact if_congr (by simp) rfl rfl
  next _ _ _ hm _ =>
    obtain ⟨_, _, rfl⟩ := exposeLastValue_ok env config hb
    simp [hm]
  next _ _ hm _ => simp [hm, hb]

theorem exposeAggregation_quantiles_of_distribution :
    let agg : Aggregation Nat Nat Bool :=
      ⟨some (.ok 7), some (.ok 2, .ok 5, .ok 2), some fun q => .ok (q / 10), none⟩
    let config : Config Nat := ⟨false, false, [50, 90]⟩
    let e : ExpoLine Nat Nat :=
      { sum := some 7, count := some 2, max := some 5, min := some 2,
        quantiles := some [⟨50, 5⟩, ⟨90, 9⟩] }
    exposeAggregation natEnv config .int64 agg = .ok e ∧
      e.quantiles.map (fun s => s.map (·.q)) =
        if agg.minMaxSumCount.isSome ∧ agg.distribution.isSome ∧
            config.quantiles.length ≠ 0 then
          some config.quantiles
        else none := by
  intro agg config e
  have h : exposeAggregation natEnv config .int64 agg = .ok e := rfl
  exact ⟨h, exposeAggregation_quantiles natEnv config h⟩

end Expose

end

end OtelMetric.Stdout
