import Mathlib.Logic.Function.Basic
import OtelMetric.Pull.Runs

/-!
The processor's `sync.RWMutex` around the pull controller: `Collect` and `SetClock` hold it
for writing, `ForEach` for reading. Goroutines interleave the statements of their calls; a
`Lock()` waits until no goroutine holds the mutex, an `RLock()` until none holds it for
writing. Go also keeps new readers out while a writer waits; without that rule there are
more interleavings, so what holds here holds in Go.

The calls take effect one at a time, each at one statement (`Collect` at its cache gate,
`SetClock` at its `Lock()`), and the controller evolves as the sequential `Controller.run`
of them in that order; a `ForEach` sees one processor state and checkpoint set from its
`RLock()` to its `RUnlock()`.
-/

namespace OtelMetric.Pull

open OtelMetric.GoTime

/-- The statement a goroutine runs next in its call on the controller: none; `Collect`,
holding the lock, at `if c.period > 0`, at `StartCollection()`, at the accumulator's
`Collect(ctx)`, at `FinishCollection()` and at `c.checkpoint = c.processor.CheckpointSet()`
(with the error it returns); `SetClock`, holding the lock, at `c.clock = clock`; a call at
its deferred `Unlock()`; `ForEach`, holding the read lock, over what it read. -/
inductive Pc (Clock Proc Ckpt Err : Type)
  | idle
  | gate
  | startCollection
  | collect
  | finishCollection
  | checkpointSet (err : Option Err)
  | setClock (clock : Clock)
  | unlock (err : Option Err)
  | forEach (processor : Proc) (checkpoint : Ckpt)
deriving DecidableEq

namespace Pc

variable {Clock Proc Ckpt Err : Type}

def writing : Pc Clock Proc Ckpt Err → Bool
  | idle | forEach _ _ => false
  | _ => true

/-- Whether the goroutine's call has taken effect and not returned. -/
def pending : Pc Clock Proc Ckpt Err → Bool
  | idle | gate | forEach _ _ => false
  | _ => true

theorem writing_of_pending {p : Pc Clock Proc Ckpt Err} (h : p.pending) : p.writing := by
  cases p <;> simp_all [pending, writing]

theorem pending_eq_false {p : Pc Clock Proc Ckpt Err} (h : p.writing = false) :
    p.pending = false :=
  Bool.eq_false_iff.mpr fun hp => by simpa [h] using writing_of_pending hp

end Pc

structure State (G Clock Acc Proc Ckpt Err : Type) where
  controller : Controller Clock Acc Proc Ckpt
  pc : G → Pc Clock Proc Ckpt Err

section

variable {Clock Acc Proc Ckpt Err Res : Type} (ops : Collaborators Clock Acc Proc Ckpt Err Res)

/-- `Collect`'s cache gate, at clock readings `now`: on to `Unlock()`, or on to the
collection, with the reading recorded when caching is on. -/
def Controller.gate (c : Controller Clock Acc Proc Ckpt) (now : Clock → Time) :
    Pc Clock Proc Ckpt Err × Controller Clock Acc Proc Ckpt :=
  if 0 < c.period.ns then
    let now := now c.clock
    let elapsed := now.sub c.lastCollect
    if elapsed.ns < c.period.ns then (.unlock none, c)
    else (.startCollection, { c with lastCollect := now })
  else (.startCollection, c)

/-- The statement at `pc`, but the cache gate: the next `pc`, and the controller after it. -/
def Pc.next (c : Controller Clock Acc Proc Ckpt) :
    Pc Clock Proc Ckpt Err → Pc Clock Proc Ckpt Err × Controller Clock Acc Proc Ckpt
  | .startCollection => (.collect, { c with processor := ops.startCollection c.processor })
  | .collect =>
      let (accumulator, processor) := ops.collect c.accumulator c.processor
      (.finishCollection, { c with accumulator, processor })
  | .finishCollection =>
      let (processor, err) := ops.finishCollection c.processor
      (.checkpointSet err, { c with processor })
  | .checkpointSet err => (.unlock err, { c with checkpoint := ops.checkpointSet c.processor })
  | .setClock clock => (.unlock none, c.setClock clock)
  | .gate => (.gate, c)
  | .unlock _ | .forEach _ _ | .idle => (.idle, c)

/-- What a call that took effect returns, and the controller it leaves, at its `Unlock()`. -/
def Pc.rest (c : Controller Clock Acc Proc Ckpt) :
    Pc Clock Proc Ckpt Err → Option Err × Controller Clock Acc Proc Ckpt
  | .startCollection => c.collection ops
  | .collect =>
      let (accumulator, processor) := ops.collect c.accumulator c.processor
      let (processor, err) := ops.finishCollection processor
      (err, { c with accumulator, processor, checkpoint := ops.checkpointSet processor })
  | .finishCollection =>
      let (processor, err) := ops.finishCollection c.processor
      (err, { c with processor, checkpoint := ops.checkpointSet processor })
  | .checkpointSet err => (err, { c with checkpoint := ops.checkpointSet c.processor })
  | .setClock clock => (none, c.setClock clock)
  | .unlock err => (err, c)
  | .gate | .forEach _ _ | .idle => (none, c)

variable {c : Controller Clock Acc Proc Ckpt}

theorem rest_gate (now : Clock → Time) :
    (c.gate now : Pc Clock Proc Ckpt Err × _).1.rest ops
      (c.gate now : Pc Clock Proc Ckpt Err × _).2 = c.collect ops now := by
  unfold Controller.gate Controller.collect
  dsimp only
  split_ifs <;> rfl

theorem gate_pending (now : Clock → Time) :
    (c.gate now : Pc Clock Proc Ckpt Err × _).1.pending := by
  unfold Controller.gate
  dsimp only
  split_ifs <;> rfl

theorem rest_next {p : Pc Clock Proc Ckpt Err} (hp : p.pending) :
    ((p.next ops c).1.rest ops (p.next ops c).2 = p.rest ops c ∧ (p.next ops c).1.pending) ∨
      ∃ err, p = .unlock err ∧ p.next ops c = (.idle, c) := by
  cases p with
  | unlock err => exact .inr ⟨err, rfl, rfl⟩
  | idle | gate | forEach => simp [Pc.pending] at hp
  | _ => exact .inl ⟨rfl, rfl⟩

variable {G : Type}

/-- What holds in every state a controller `c0` reaches, with `log` the calls that took
effect and the goroutines that made them: a writer holds the lock alone, a `ForEach` sees
what it read at `RLock()`, a call that took effect and has not returned is the last call
logged, by its goroutine, and ends as the sequential run does it, and with no such call the
controller is the sequential run. -/
structure Inv (c0 : Controller Clock Acc Proc Ckpt) (s : State G Clock Acc Proc Ckpt Err)
    (log : List (G × Call Clock)) : Prop where
  exclusive : ∀ g h, (s.pc g).writing → h ≠ g → s.pc h = .idle
  snapshot : ∀ g processor checkpoint, s.pc g = .forEach processor checkpoint →
    s.controller.processor = processor ∧ s.controller.checkpoint = checkpoint
  pending : ∀ g, (s.pc g).pending → ∃ pre call, log = pre ++ [(g, call)] ∧
    (s.pc g).rest ops s.controller = (c0.run ops (pre.map Prod.snd)).step ops call
  settled : (∀ g, (s.pc g).pending = false) → s.controller = c0.run ops (log.map Prod.snd)

variable {c0 : Controller Clock Acc Proc Ckpt} {s : State G Clock Acc Proc Ckpt Err}
  {log : List (G × Call Clock)}

theorem Inv.settled_of_idle (hi : Inv ops c0 s log) (hfree : ∀ g, s.pc g = .idle) :
    s.controller = c0.run ops (log.map Prod.snd) :=
  hi.settled fun g => by simp [hfree g, Pc.pending]

theorem Inv.writer (g : G) (hidle : ∀ h, h ≠ g → s.pc h = .idle) (hw : (s.pc g).writing)
    (hpending : (s.pc g).pending → ∃ pre call, log = pre ++ [(g, call)] ∧
      (s.pc g).rest ops s.controller = (c0.run ops (pre.map Prod.snd)).step ops call)
    (hsettled : (s.pc g).pending = false → s.controller = c0.run ops (log.map Prod.snd)) :
    Inv ops c0 s log := by
  have hg : ∀ g₁, s.pc g₁ ≠ .idle → g₁ = g := fun g₁ hne => by_contra fun h => hne (hidle g₁ h)
  refine ⟨fun g₁ h hw₁ hne => ?_, fun g₁ _ _ hf => ?_, fun g₁ hq => ?_, fun hq => hsettled (hq g)⟩
  · obtain rfl := hg g₁ fun h => by simp [h, Pc.writing] at hw₁
    exact hidle h hne
  · obtain rfl := hg g₁ fun h => by simp [h] at hf
    simp [hf, Pc.writing] at hw
  · obtain rfl := hg g₁ fun h => by simp [h, Pc.pending] at hq
    exact hpending hq

theorem Inv.idle (hfree : ∀ g, s.pc g = .idle) (hc : s.controller = c0.run ops (log.map Prod.snd)) :
    Inv ops c0 s log :=
  ⟨fun g _ hw => by simp [hfree g, Pc.writing] at hw, fun g _ _ hf => by simp [hfree g] at hf,
    fun g hq => by simp [hfree g, Pc.pending] at hq, fun _ => hc⟩

theorem Inv.not_writing (hi : Inv ops c0 s log) {g : G} {processor : Proc} {checkpoint : Ckpt}
    (hg : s.pc g = .forEach processor checkpoint) (h : G) : (s.pc h).writing = false :=
  Bool.eq_false_iff.mpr fun hw => by
    have hne : g ≠ h := fun he => by simp [← he, hg, Pc.writing] at hw
    simp [hi.exclusive h g hw hne] at hg

variable [DecidableEq G]

/-- The states a controller `c0` reaches while goroutines call `Collect`, `SetClock` and
`ForEach` on it, with the calls in the order they take effect, each with its goroutine. A
step is a `Lock()` (`SetClock` takes effect there), an `RLock()` (`ForEach` reads the
checkpoint set), `Collect`'s cache gate (where it takes effect), or any other statement;
at `ForEach`'s, the call returns and `RUnlock()` runs. -/
inductive Reach (c0 : Controller Clock Acc Proc Ckpt) :
    State G Clock Acc Proc Ckpt Err → List (G × Call Clock) → Prop
  | init : Reach c0 ⟨c0, fun _ => .idle⟩ []
  | lockCollect {s log} (g : G) (h : Reach c0 s log) (hfree : ∀ g, s.pc g = .idle) :
      Reach c0 ⟨s.controller, Function.update s.pc g .gate⟩ log
  | lockSetClock {s log} (g : G) (clock : Clock) (h : Reach c0 s log)
      (hfree : ∀ g, s.pc g = .idle) :
      Reach c0 ⟨s.controller, Function.update s.pc g (.setClock clock)⟩
        (log ++ [(g, .setClock clock)])
  | rlock {s log} (g : G) (h : Reach c0 s log) (hg : s.pc g = .idle)
      (hw : ∀ g, (s.pc g).writing = false) :
      Reach c0 ⟨s.controller,
        Function.update s.pc g (.forEach s.controller.processor s.controller.checkpoint)⟩ log
  | gate {s log} (g : G) (now : Clock → Time) (h : Reach c0 s log) (hg : s.pc g = .gate) :
      Reach c0 ⟨(s.controller.gate now : Pc Clock Proc Ckpt Err × _).2,
        Function.update s.pc g (s.controller.gate now).1⟩ (log ++ [(g, .collect now)])
  | next {s log} (g : G) (h : Reach c0 s log) (hg : s.pc g ≠ .idle) (hg' : s.pc g ≠ .gate) :
      Reach c0 ⟨((s.pc g).next ops s.controller).2,
        Function.update s.pc g ((s.pc g).next ops s.controller).1⟩ log

theorem Inv.lock (hi : Inv ops c0 s log) (hfree : ∀ g, s.pc g = .idle) (g : G)
    {p : Pc Clock Proc Ckpt Err} (hw : p.writing) (effect : List (G × Call Clock))
    (hpending : p.pending → ∃ call, effect = [(g, call)] ∧
      p.rest ops s.controller = s.controller.step ops call)
    (hsettled : p.pending = false → effect = []) :
    Inv ops c0 ⟨s.controller, Function.update s.pc g p⟩ (log ++ effect) := by
  have hc := hi.settled_of_idle ops hfree
  refine Inv.writer ops g (fun h hne => by simp [Function.update_noteq hne, hfree])
    (by simpa using hw) (fun hq => ?_) (fun hq => ?_)
  · obtain ⟨call, rfl, hr⟩ := hpending (by simpa using hq)
    exact ⟨log, call, rfl, by simpa [hc] using hr⟩
  · simp [hsettled (by simpa using hq), hc]

theorem Inv.reader (hi : Inv ops c0 s log) (hw : ∀ g, (s.pc g).writing = false) (g : G)
    {p : Pc Clock Proc Ckpt Err}
    (hp : p = .idle ∨ p = .forEach s.controller.processor s.controller.checkpoint) :
    Inv ops c0 ⟨s.controller, Function.update s.pc g p⟩ log := by
  have hw' : ∀ g₁, (Function.update s.pc g p g₁).writing = false := fun g₁ => by
    by_cases h₁g : g₁ = g
    · subst h₁g; rw [Function.update_same]; rcases hp with rfl | rfl <;> rfl
    · simpa [Function.update_noteq h₁g] using hw g₁
  refine ⟨fun g₁ _ h₁ _ => by simp [hw' g₁] at h₁, fun g₁ _ _ hf => ?_,
    fun g₁ h₁ => by simp [Pc.pending_eq_false (hw' g₁)] at h₁,
    fun _ => hi.settled fun g₁ => Pc.pending_eq_false (hw g₁)⟩
  by_cases h₁g : g₁ = g
  · subst h₁g
    rcases hp with rfl | rfl <;> simp_all
  · simp only [Function.update_noteq h₁g] at hf
    exact hi.snapshot g₁ _ _ hf

theorem Inv.gate (hi : Inv ops c0 s log) (g : G) (now : Clock → Time) (hg : s.pc g = .gate) :
    Inv ops c0 ⟨(s.controller.gate now : Pc Clock Proc Ckpt Err × _).2,
      Function.update s.pc g (s.controller.gate now).1⟩ (log ++ [(g, .collect now)]) := by
  have hidle : ∀ h, h ≠ g → s.pc h = .idle :=
    fun h hne => hi.exclusive g h (by simp [hg, Pc.writing]) hne
  have hc : s.controller = c0.run ops (log.map Prod.snd) := hi.settled fun h => by
    by_cases hh : h = g
    · simp [hh, hg, Pc.pending]
    · simp [hidle h hh, Pc.pending]
  have hp : (s.controller.gate now : Pc Clock Proc Ckpt Err × _).1.pending := gate_pending now
  refine Inv.writer ops g (fun h hne => by simp [Function.update_noteq hne, hidle h hne])
    (by simpa using Pc.writing_of_pending hp) (fun _ => ⟨log, .collect now, rfl, ?_⟩)
    (fun hq => by simp [hp] at hq)
  simp only [Function.update_same]
  rw [rest_gate, hc]
  rfl

theorem Inv.next (hi : Inv ops c0 s log) (g : G) (hg : s.pc g ≠ .idle) (hg' : s.pc g ≠ .gate) :
    Inv ops c0 ⟨((s.pc g).next ops s.controller).2,
      Function.update s.pc g ((s.pc g).next ops s.controller).1⟩ log := by
  by_cases hr : ∃ processor checkpoint, s.pc g = .forEach processor checkpoint
  · obtain ⟨processor, checkpoint, hpc⟩ := hr
    simpa only [hpc, Pc.next] using hi.reader ops (hi.not_writing ops hpc) g (.inl rfl)
  · have hp : (s.pc g).pending := by
      cases h : s.pc g <;> simp_all [Pc.pending]
    have hidle : ∀ h, h ≠ g → s.pc h = .idle :=
      fun h hne => hi.exclusive g h (Pc.writing_of_pending hp) hne
    obtain ⟨pre, call, hlog, hrest⟩ := hi.pending g hp
    rcases rest_next ops (c := s.controller) hp with ⟨hn, hq⟩ | ⟨err, hu, hn⟩
    · refine Inv.writer ops g (fun h hne => by simp [Function.update_noteq hne, hidle h hne])
        (by simpa using Pc.writing_of_pending hq) (fun _ => ⟨pre, call, hlog, ?_⟩)
        (fun hq' => by simp [hq] at hq')
      simpa [hn] using hrest
    · rw [hn]
      refine Inv.idle ops (fun h => ?_) ?_
      · by_cases hh : h = g
        · subst hh; exact Function.update_same _ _ _
        · simp [Function.update_noteq hh, hidle h hh]
      · rw [hu] at hrest
        simp only [hlog, List.map_append, List.map_singleton, run_append, ← hrest, Pc.rest]

theorem Reach.inv {s : State G Clock Acc Proc Ckpt Err} {log : List (G × Call Clock)}
    (h : Reach ops c0 s log) : Inv ops c0 s log := by
  induction h with
  | init => exact Inv.idle ops (fun _ => rfl) rfl
  | lockCollect g _ hfree ih =>
      simpa using ih.lock ops hfree g (p := .gate) rfl [] (by simp [Pc.pending]) fun _ => rfl
  | lockSetClock g clock _ hfree ih =>
      exact ih.lock ops hfree g (p := .setClock clock) rfl _ (fun _ => ⟨_, rfl, rfl⟩)
        (by simp [Pc.pending])
  | rlock g _ _ hw ih => exact ih.reader ops hw g (.inr rfl)
  | gate g now _ hg ih => exact ih.gate ops g now hg
  | next g _ hg hg' ih => exact ih.next ops g hg hg'

/-- However the goroutines' statements interleave, the calls take effect one at a time as
the sequential run of them in the order they took effect: while no call is between its
effect and its `Unlock()`, the controller is that run, and a call at its `Unlock()` returns
and leaves what that call does in the run. -/
theorem reach_serializable {s : State G Clock Acc Proc Ckpt Err} {log : List (G × Call Clock)}
    (h : Reach ops c0 s log) :
    ((∀ g, (s.pc g).pending = false) → s.controller = c0.run ops (log.map Prod.snd)) ∧
      ∀ g err, s.pc g = .unlock err → ∃ pre call, log = pre ++ [(g, call)] ∧
        (c0.run ops (pre.map Prod.snd)).step ops call = (err, s.controller) := by
  have hi := Reach.inv ops h
  refine ⟨hi.settled, fun g err hg => ?_⟩
  obtain ⟨pre, call, hlog, hr⟩ := hi.pending g (by simp [hg, Pc.pending])
  exact ⟨pre, call, hlog, by rw [← hr, hg]; rfl⟩

/-- However the goroutines' statements interleave, a goroutine that holds the lock for
writing holds it alone, and while a `ForEach` holds the read lock no goroutine holds it for
writing and the processor state and checkpoint set are those it read at its `RLock()`. -/
theorem reach_exclusive {s : State G Clock Acc Proc Ckpt Err} {log : List (G × Call Clock)}
    (h : Reach ops c0 s log) :
    (∀ g g', (s.pc g).writing → g' ≠ g → s.pc g' = .idle) ∧
      ∀ g processor checkpoint, s.pc g = .forEach processor checkpoint →
        (∀ g', (s.pc g').writing = false) ∧
          s.controller.processor = processor ∧ s.controller.checkpoint = checkpoint := by
  have hi := Reach.inv ops h
  exact ⟨hi.exclusive, fun g _ _ hg => ⟨hi.not_writing ops hg, hi.snapshot g _ _ hg⟩⟩

/-- However goroutines interleave their calls on a controller from `New`, a `ForEach`
iterates the processor state of the last collection that finished before its `RLock()`,
and the `CheckpointSet()` the processor gave for it: never a collection in progress. -/
theorem forEach_reads_finished_collection (options : List (Config Res → Config Res))
    {s : State G Clock Acc Proc Ckpt Err} {log : List (G × Call Clock)}
    (h : Reach ops (new ops options) s log) {g : G} {processor : Proc} {checkpoint : Ckpt}
    (hg : s.pc g = .forEach processor checkpoint) :
    processor = ((new ops options).run ops (log.map Prod.snd)).processor ∧
      checkpoint = ops.checkpointSet processor := by
  have hi := Reach.inv ops h
  obtain ⟨hp, hc⟩ := hi.snapshot g _ _ hg
  have hs := hi.settled fun g' => Pc.pending_eq_false (hi.not_writing ops hg g')
  have hcons := run_consistent ops (c := new ops options) rfl (log.map Prod.snd)
  subst hp hc
  exact ⟨by rw [hs], by rw [hs]; exact hcons⟩

end

theorem collect_reaches_unlock :
    ∃ (s : State Bool Unit Unit Nat Nat Unit) (log : List (Bool × Call Unit)),
      Reach countingCollaborators (new countingCollaborators []) s log ∧
        s.pc true = .unlock none ∧
        ((∀ g, (s.pc g).pending = false) →
          s.controller =
            (new countingCollaborators []).run countingCollaborators (log.map Prod.snd)) ∧
        ∀ g err, s.pc g = .unlock err → ∃ pre call, log = pre ++ [(g, call)] ∧
          ((new countingCollaborators []).run countingCollaborators (pre.map Prod.snd)).step
            countingCollaborators call = (err, s.controller) := by
  have h0 : Reach countingCollaborators (new countingCollaborators [])
      (⟨new countingCollaborators [], fun _ => .idle⟩ : State Bool Unit Unit Nat Nat Unit) [] :=
    .init
  have h1 := Reach.gate true (fun _ => ⟨20000000000, none⟩) (.lockCollect true h0 fun _ => rfl) rfl
  have h := Reach.next true (.next true (.next true (.next true h1 (by decide) (by decide))
    (by decide) (by decide)) (by decide) (by decide)) (by decide) (by decide)
  exact ⟨_, _, h, rfl, reach_serializable countingCollaborators h⟩

theorem reach_forEach_after_collect :
    ∃ (s : State Bool Unit Unit Nat Nat Unit) (log : List (Bool × Call Unit)),
      Reach countingCollaborators (new countingCollaborators []) s log ∧
        s.pc false = .forEach 1 1 := by
  have h0 : Reach countingCollaborators (new countingCollaborators [])
      (⟨new countingCollaborators [], fun _ => .idle⟩ : State Bool Unit Unit Nat Nat Unit) [] :=
    .init
  have h1 := Reach.gate true (fun _ => ⟨20000000000, none⟩) (.lockCollect true h0 fun _ => rfl) rfl
  have h2 := Reach.next true (.next true (.next true (.next true (.next true h1 (by decide)
    (by decide)) (by decide) (by decide)) (by decide) (by decide)) (by decide) (by decide))
    (by decide) (by decide)
  exact ⟨_, _, Reach.rlock false h2 (by decide) (by decide), rfl⟩

theorem forEach_after_collect :
    ∃ (s : State Bool Unit Unit Nat Nat Unit) (log : List (Bool × Call Unit)),
      Reach countingCollaborators (new countingCollaborators []) s log ∧
        s.pc false = .forEach 1 1 ∧
        (∀ g g', (s.pc g).writing → g' ≠ g → s.pc g' = .idle) ∧
        ∀ g processor checkpoint, s.pc g = .forEach processor checkpoint →
          (∀ g', (s.pc g').writing = false) ∧
            s.controller.processor = processor ∧ s.controller.checkpoint = checkpoint := by
  obtain ⟨s, log, h, hg⟩ := reach_forEach_after_collect
  exact ⟨s, log, h, hg, reach_exclusive countingCollaborators h⟩

theorem forEach_after_collect_reads_it :
    ∃ (s : State Bool Unit Unit Nat Nat Unit) (log : List (Bool × Call Unit)),
      Reach countingCollaborators (new countingCollaborators []) s log ∧
        s.pc false = .forEach 1 1 ∧
        1 = ((new countingCollaborators []).run countingCollaborators
          (log.map Prod.snd)).processor ∧
        1 = countingCollaborators.checkpointSet 1 := by
  obtain ⟨s, log, h, hg⟩ := reach_forEach_after_collect
  exact ⟨s, log, h, hg, forEach_reads_finished_collection countingCollaborators [] h hg⟩

end OtelMetric.Pull
