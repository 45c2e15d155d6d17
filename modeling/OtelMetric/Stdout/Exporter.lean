import Mathlib.Algebra.Order.Field.Rat
import Mathlib.Data.List.Forall2
import Mathlib.Tactic.NormNum
import OtelMetric.Stdout.Batch

/-!
`NewRawExporter`: the defaults it gives a nil `Quantiles` slice and the check of the
quantiles a caller passes, and what follows for every `Export` of the exporter it returns.
Go's `float64` stays abstract, a type with Go's `<`, so the results hold of `NaN` too,
which passes the check.
-/

namespace OtelMetric.Stdout

open OtelMetric.GoTime OtelMetric.Export

/-- `Config` as a caller passes it to `NewRawExporter`, with Go's zero values as defaults;
`quantiles` is `none` for a nil slice, which is not the same as an empty one. -/
structure RawConfig (Q : Type) where
  prettyPrint : Bool := false
  doNotPrintTime : Bool := false
  quantiles : Option (List Q) := none

/-- The errors of `NewRawExporter`: only `aggregation.ErrInvalidQuantile`. -/
inductive NewRawExporterError
  | errInvalidQuantile
deriving DecidableEq

section Agree

variable {Num Q Err Lbl Res V : Type} (env : Env Num Q Err Lbl Res V) (config : Config Q)
  {p : Q → Bool}

/-- Two aggregations that differ at most in what `Quantile(q)` returns at the `q` that `p`
does not accept. -/
def Aggregation.AgreeOn (p : Q → Bool) (a b : Aggregation Num Q Err) : Prop :=
  a.sum = b.sum ∧ a.minMaxSumCount = b.minMaxSumCount ∧ a.lastValue = b.lastValue ∧
    Option.Rel (fun d d' => ∀ q, p q = true → d q = d' q) a.distribution b.distribution

def Record.AgreeOn (p : Q → Bool) (r r' : Record Num Q Err Lbl Res) : Prop :=
  r.descriptor = r'.descriptor ∧ r.labels = r'.labels ∧ r.resource = r'.resource ∧
    r.aggregation.AgreeOn p r'.aggregation

theorem summary_congr {kind : NumberKind} {d d' : Q → Except Err Num} {qs : List Q}
    (h : ∀ q ∈ qs, d q = d' q) :
    summary (V := V) env kind d qs = summary env kind d' qs := by
  induction qs with
  | nil => rfl
  | cons q qs ih =>
      simp only [summary, h q (List.mem_cons_self q qs),
        ih fun q hq => h q (List.mem_cons_of_mem _ hq)]

theorem exposeAggregation_congr (hc : ∀ q ∈ config.quantiles, p q = true) {kind : NumberKind}
    {a b : Aggregation Num Q Err} (h : a.AgreeOn p b) :
    exposeAggregation (V := V) env config kind a = exposeAggregation env config kind b := by
  obtain ⟨s, m, d, l⟩ := a
  obtain ⟨s', m', d', l'⟩ := b
  obtain ⟨rfl, rfl, rfl, hd⟩ := h
  have hq : exposeQuantiles (V := V) env config kind d = exposeQuantiles env config kind d' := by
    cases hd with
    | none => rfl
    | some hd => simp only [exposeQuantiles, summary_congr env fun q hq => hd q (hc q hq)]
  simp only [exposeAggregation, exposeMinMaxSumCount, hq]

theorem forEach_congr {σ Rec : Type} {noData : Err → Bool} {f : σ → Rec → σ × Option Err}
    {R : Rec → Rec → Prop} (hf : ∀ acc r r', R r r' → f acc r = f acc r') {acc : σ}
    {rs rs' : List Rec} (h : List.Forall₂ R rs rs') :
    forEach noData f acc rs = forEach noData f acc rs' := by
  induction h generalizing acc with
  | nil => rfl
  | cons hr _ ih => simp only [forEach, hf acc _ _ hr, ih]

theorem export_congr (hc : ∀ q ∈ config.quantiles, p q = true) (now : Time)
    {records records' : List (Record Num Q Err Lbl Res)}
    (h : List.Forall₂ (Record.AgreeOn p) records records') :
    «export» env config now records = «export» (V := V) env config now records' := by
  have hu : ∀ acc r r', Record.AgreeOn p r r' →
      appendUpdate (V := V) env config acc r = appendUpdate env config acc r' := by
    rintro acc r r' ⟨hd, hl, hr, ha⟩
    simp only [appendUpdate, exposeRecord, hd, hl, hr, exposeAggregation_congr env config hc ha]
  simp only [«export», batch, forEach_congr hu h]

theorem exposeAggregation_quantiles_cases {kind : NumberKind} {agg : Aggregation Num Q Err}
    {e : ExpoLine V Q} (h : exposeAggregation env config kind agg = .ok e) :
    e.quantiles = none ∨
      config.quantiles ≠ [] ∧ e.quantiles.map (fun s => s.map (·.q)) = some config.quantiles := by
  obtain ⟨expose, hs, hb⟩ := exposeAggregation_ok env config h
  obtain ⟨v, rfl⟩ := exposeSum_ok env hs
  split at hb
  · obtain ⟨hq, -⟩ := exposeMinMaxSumCount_ok env config hb
    have := exposeQuantiles_ok env config hq
    split_ifs at this with hc
    · exact .inr ⟨List.ne_nil_of_length_pos (Nat.pos_of_ne_zero hc.2), this⟩
    · exact .inl (Option.map_eq_none'.mp this)
  · obtain ⟨_, _, rfl⟩ := exposeLastValue_ok env config hb
    exact .inl rfl
  · exact .inl (hb ▸ rfl)

theorem exists_exposeRecord_of_mem_batch {now : Time} {records : List (Record Num Q Err Lbl Res)}
    {u : ExpoLine V Q} (hu : u ∈ (batch env config now records).1.updates) :
    ∃ r ∈ records, exposeRecord env config r = .ok u := by
  simp only [batch, forEach_appendUpdate, List.nil_append, List.mem_filterMap] at hu
  obtain ⟨r, hr, ho⟩ := hu
  refine ⟨r, List.takeWhile_subset _ hr, ?_⟩
  revert ho
  cases exposeRecord env config r <;> simp [Except.toOption]

end Agree

section Quantiles

variable {Q : Type} [Zero Q] [One Q] [LT Q] [∀ a b : Q, Decidable (a < b)] [OfScientific Q]

/-- The quantiles `NewRawExporter` gives a nil `Quantiles`. -/
def defaultQuantiles : List Q := [0.5, 0.9, 0.99]

/-- `q < 0 || q > 1`, the test by which `NewRawExporter` rejects a quantile. -/
def invalidQuantile (q : Q) : Bool := decide (q < 0) || decide (q > 1)

/-- `NewRawExporter`, without the `Writer` and `LabelEncoder` defaults: the exporter's
output is the string `Export` returns, and its label encoder is part of `Env`. -/
def newRawExporter (config : RawConfig Q) : Except NewRawExporterError (Config Q) :=
  match config.quantiles with
  | none => .ok ⟨config.prettyPrint, config.doNotPrintTime, defaultQuantiles⟩
  | some quantiles =>
      if quantiles.any invalidQuantile then .error .errInvalidQuantile
      else .ok ⟨config.prettyPrint, config.doNotPrintTime, quantiles⟩

theorem newRawExporter_eq_ok {raw : RawConfig Q} {config : Config Q}
    (h : newRawExporter raw = .ok config) :
    config = ⟨raw.prettyPrint, raw.doNotPrintTime, raw.quantiles.getD defaultQuantiles⟩ ∧
      ∀ qs ∈ raw.quantiles, ∀ q ∈ qs, invalidQuantile q = false := by
  unfold newRawExporter at h
  split at h
  next hq => cases h; simp [hq]
  next qs hq =>
    split_ifs at h with hi
    cases h
    simpa [hq] using hi

theorem quantiles_valid (hd : ∀ q ∈ (defaultQuantiles : List Q), invalidQuantile q = false)
    {raw : RawConfig Q} {config : Config Q} (h : newRawExporter raw = .ok config) :
    ∀ q ∈ config.quantiles, invalidQuantile q = false := by
  obtain ⟨rfl, hv⟩ := newRawExporter_eq_ok h
  cases hq : raw.quantiles with
  | none => exact hd
  | some qs => exact hv qs hq

theorem defaultQuantiles_valid : ∀ q ∈ (defaultQuantiles : List ℚ), invalidQuantile q = false := by
  simp only [defaultQuantiles, List.mem_cons, List.not_mem_nil, or_false, forall_eq_or_imp,
    forall_eq, invalidQuantile, Bool.or_eq_false_iff, decide_eq_false_iff_not]
  norm_num

variable {Num Err Lbl Res V : Type} (env : Env Num Q Err Lbl Res V)

/-- An exporter `NewRawExporter` returns never calls `Quantile(q)` at a `q` the check
rejects: `Export`'s result and output are the same whatever those calls would return. -/
theorem export_ignores_invalid_quantiles
    (hd : ∀ q ∈ (defaultQuantiles : List Q), invalidQuantile q = false) {raw : RawConfig Q}
    {config : Config Q} (h : newRawExporter raw = .ok config) (now : Time)
    {records records' : List (Record Num Q Err Lbl Res)}
    (hr : List.Forall₂ (Record.AgreeOn fun q => !invalidQuantile q) records records') :
    «export» env config now records = «export» (V := V) env config now records' :=
  export_congr env config (fun q hq => by simp [quantiles_valid hd h q hq]) now hr

/-- With a nil `Quantiles` every update that reports quantiles reports the defaults, in
order; with an explicit empty slice no update reports any. -/
theorem batch_quantiles_of_newRawExporter {raw : RawConfig Q} {config : Config Q}
    (h : newRawExporter raw = .ok config) (now : Time)
    (records : List (Record Num Q Err Lbl Res)) :
    ∀ u ∈ (batch env config (V := V) now records).1.updates,
      u.quantiles = none ∨ raw.quantiles ≠ some [] ∧
        u.quantiles.map (fun s => s.map (·.q)) = some (raw.quantiles.getD defaultQuantiles) := by
  intro u hu
  obtain ⟨r, -, hr⟩ := exists_exposeRecord_of_mem_batch env config hu
  obtain ⟨e, he, rfl⟩ := exposeRecord_ok env config hr
  obtain ⟨rfl, -⟩ := newRawExporter_eq_ok h
  exact (exposeAggregation_quantiles_cases env _ he).imp id fun ⟨hn, hq⟩ =>
    ⟨fun hnil => hn (by simp [hnil]), hq⟩

end Quantiles

/-- An environment over exact quantiles whose numbers are reported as they are, whose label
encodings are empty and whose JSON encoder never fails; the error `true` is `ErrNoData`. -/
def ratEnv : Env ℚ ℚ Bool Unit Unit ℚ where
  asInterface v _ := v
  newSet _ := ()
  len _ := 0
  encoded _ := ""
  resourceEncoded _ := ""
  noData err := err
  marshal _ := .ok ""
  marshalIndent _ := .ok ""

/-- A record of a `MinMaxSumCount` and `Distribution` aggregation whose `Quantile(q)` is
`quantile q`. -/
def distributionRecord (quantile : ℚ → Except Bool ℚ) : Record ℚ ℚ Bool Unit Unit :=
  ⟨⟨"ex.com.three", .float64, "", ""⟩, (), (),
    ⟨none, some (.ok 2, .ok 5, .ok 1), some quantile, none⟩⟩

theorem export_ignores_quantile_above_one :
    let quantile : ℚ → Except Bool ℚ := fun q => if q ≤ 1 then .ok 3 else .error false
    (∀ q ∈ (defaultQuantiles : List ℚ), invalidQuantile q = false) ∧
      newRawExporter ({} : RawConfig ℚ) = .ok ⟨false, false, defaultQuantiles⟩ ∧
      List.Forall₂ (Record.AgreeOn fun q => !invalidQuantile q)
        [distributionRecord fun _ => .ok 3] [distributionRecord quantile] ∧
      «export» ratEnv ⟨false, false, defaultQuantiles⟩ ⟨9, none⟩
          [distributionRecord fun _ => .ok 3] =
        «export» ratEnv ⟨false, false, defaultQuantiles⟩ ⟨9, none⟩
          [distributionRecord quantile] := by
  intro quantile
  have hd : ∀ q ∈ (defaultQuantiles : List ℚ), invalidQuantile q = false :=
    defaultQuantiles_valid
  have h : newRawExporter ({} : RawConfig ℚ) = .ok ⟨false, false, defaultQuantiles⟩ := rfl
  have hr : List.Forall₂ (Record.AgreeOn fun q => !invalidQuantile q)
      [distributionRecord fun _ => .ok 3] [distributionRecord quantile] := by
    refine .cons ⟨rfl, rfl, rfl, rfl, rfl, rfl, .some fun q hq => ?_⟩ .nil
    simp only [invalidQuantile, Bool.not_or, Bool.and_eq_true, Bool.not_eq_true',
      decide_eq_false_iff_not, not_lt] at hq
    simp [quantile, hq.2]
  exact ⟨hd, h, hr, export_ignores_invalid_quantiles ratEnv hd h ⟨9, none⟩ hr⟩

theorem batch_quantiles_of_nil_quantiles :
    newRawExporter ({} : RawConfig ℚ) = .ok ⟨false, false, defaultQuantiles⟩ ∧
      ∀ u ∈ (batch ratEnv ⟨false, false, defaultQuantiles⟩ (V := ℚ) ⟨9, none⟩
          [distributionRecord fun _ => .ok 3]).1.updates,
        u.quantiles = none ∨ ({} : RawConfig ℚ).quantiles ≠ some [] ∧
          u.quantiles.map (fun s => s.map (·.q)) =
            some (({} : RawConfig ℚ).quantiles.getD defaultQuantiles) := by
  have h : newRawExporter ({} : RawConfig ℚ) = .ok ⟨false, false, defaultQuantiles⟩ := rfl
  exact ⟨h, batch_quantiles_of_newRawExporter ratEnv h ⟨9, none⟩ _⟩

end OtelMetric.Stdout
