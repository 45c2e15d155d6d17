import OtelMetric.Stdout.Update

namespace OtelMetric.Stdout

open OtelMetric.GoTime OtelMetric.Export

section

variable {Num Q Err Lbl Res V : Type} (env : Env Num Q Err Lbl Res V) (config : Config Q)

/-- `Export`'s callback: append the record's update to the batch, or return its error. -/
def appendUpdate (updates : List (ExpoLine V Q)) (record : Record Num Q Err Lbl Res) :
    List (ExpoLine V Q) × Option Err :=
  match exposeRecord env config record with
  | .ok expose => (updates ++ [expose], none)
  | .error err => (updates, some err)

/-- The batch `Export` builds at time `now` from a checkpoint set's records, with the error
`ForEach` returned. -/
def batch (now : Time) (records : List (Record Num Q Err Lbl Res)) :
    ExpoBatch V Q × Option Err :=
  let (updates, aggError) := forEach env.noData (appendUpdate env config) [] records
  (⟨if config.doNotPrintTime then none else some now, updates⟩, aggError)

/-- `Export`: what it returns and what it prints. -/
def «export» (now : Time) (records : List (Record Num Q Err Lbl Res)) :
    Option Err × Option String :=
  let (batch, aggError) := batch env config now records
  let data := if config.prettyPrint then env.marshalIndent batch else env.marshal batch
  match data with
  | .ok data => (aggError, some (data ++ "\n"))
  | .error err => (some err, none)

def updateError (record : Record Num Q Err Lbl Res) : Option Err :=
  match exposeRecord (V := V) env config record with
  | .ok _ => none
  | .error err => some err

/-- Whether a record's update fails with an error other than `ErrNoData`, which halts
`ForEach`. -/
def halts (record : Record Num Q Err Lbl Res) : Bool :=
  (updateError env config (V := V) record).any fun err => !env.noData err

theorem forEach_appendUpdate (acc : List (ExpoLine V Q))
    (records : List (Record Num Q Err Lbl Res)) :
    forEach env.noData (appendUpdate env config) acc records =
      (acc ++ (records.takeWhile fun r => !halts env config (V := V) r).filterMap
          fun r => (exposeRecord env config r).toOption,
        (records.find? (halts env config (V := V))).bind (updateError env config (V := V))) := by
  induction records generalizing acc with
  | nil => simp [forEach]
  | cons r rs ih =>
      cases h : exposeRecord (V := V) env config r with
      | ok u =>
          have hr : halts env config (V := V) r = false := by simp [halts, updateError, h]
          simp [forEach, appendUpdate, h, hr, ih, Except.toOption]
      | error e =>
          by_cases hn : env.noData e
          · have hr : halts env config (V := V) r = false := by
              simp [halts, updateError, h, hn]
            simp [forEach, appendUpdate, h, hr, hn, ih, Except.toOption]
          · have hr : halts env config (V := V) r = true := by
              simp [halts, updateError, h, hn]
            simp [forEach, appendUpdate, updateError, h, hr, hn]

/-- `Export` encodes the updates of the records before the first that halts `ForEach`, in
order and without those that fail with `ErrNoData`. It prints them unless the encoding fails,
and returns the encoding's error, else the halting record's. -/
theorem export_eq (now : Time) (records : List (Record Num Q Err Lbl Res)) :
    «export» env config now records =
      let batch : ExpoBatch V Q :=
        ⟨if config.doNotPrintTime then none else some now,
          (records.takeWhile fun r => !halts env config (V := V) r).filterMap
            fun r => (exposeRecord env config r).toOption⟩
      match if config.prettyPrint then env.marshalIndent batch else env.marshal batch with
      | .ok data =>
          ((records.find? (halts env config (V := V))).bind (updateError env config (V := V)),
            some (data ++ "\n"))
      | .error err => (some err, none) := by
  simp only [«export», batch, forEach_appendUpdate, List.nil_append]

private theorem eq_ok_of_toOption {α : Type} {x : Except Err α} {a : α}
    (h : x.toOption = some a) : x = .ok a := by
  cases x <;> simp_all [Except.toOption]

/-- Under `DoNotPrintTime` the batch `Export` encodes carries no timestamp, neither its own
nor any update's, whatever the records. -/
theorem batch_timestamp_none (hd : config.doNotPrintTime = true) (now : Time)
    (records : List (Record Num Q Err Lbl Res)) :
    (batch env config (V := V) now records).1.timestamp = none ∧
      ∀ u ∈ (batch env config (V := V) now records).1.updates, u.timestamp = none := by
  refine ⟨by simp [batch, hd], fun u hu => ?_⟩
  simp only [batch, forEach_appendUpdate, List.nil_append, List.mem_filterMap] at hu
  obtain ⟨r, -, hr⟩ := hu
  obtain ⟨e, he, rfl⟩ := exposeRecord_ok env config (eq_ok_of_toOption hr)
  exact exposeAggregation_timestamp env config (e := e) hd he

end

theorem batch_timestamp_none_of_lastValue :
    let config : Config Nat := ⟨false, true, []⟩
    let records : List (Record Nat Nat Bool Unit Unit) :=
      [⟨⟨"ex.com.one", .float64, "", ""⟩, (), (),
        ⟨none, none, none, some (.ok (1, ⟨5, none⟩))⟩⟩]
    config.doNotPrintTime = true ∧
      (batch natEnv config (V := Nat) ⟨9, none⟩ records).1.timestamp = none ∧
      ∀ u ∈ (batch natEnv config (V := Nat) ⟨9, none⟩ records).1.updates,
        u.timestamp = none := by
  intro config records
  exact ⟨rfl, batch_timestamp_none natEnv config rfl ⟨9, none⟩ records⟩

end OtelMetric.Stdout
