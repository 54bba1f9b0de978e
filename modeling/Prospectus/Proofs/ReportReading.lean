import Mathlib.Data.List.Forall2
import Prospectus.Proofs.JsonRecords
import Prospectus.Proofs.MomentReading
import Prospectus.Batch.Report
import Prospectus.Summary.Service

/-!
# Reports and requests read back

A report comes about event by event.  `after_eq` says what a run of events
leaves in it: two counts, the failures in order, and the last of the times at
which it was finished.  `IsReport` says which JSON value shows a report, field
by field and with each time and count read on its own; the text of a report
shows that report and no other.
-/

namespace Prospectus

theorem Kind.name_injective (k k' : Kind) : k.name = k'.name → k = k' := by
  cases k <;> cases k' <;> decide

end Prospectus

namespace Prospectus.Batch.Report

open Json Number Time

/-! ## Events -/

/-- What can happen to a report. -/
inductive Event where
  | success
  | skip
  | failure (topic : String) (e : Error)
  | finish (time : Moment)
deriving DecidableEq

namespace Event

/-- The failure that an event adds to a report. -/
def failure? : Event → Option Failure
  | failure topic e => some ⟨topic, e.kind, e.message⟩
  | _ => none

/-- The time that an event stamps on a report. -/
def time? : Event → Option Moment
  | finish time => some time
  | _ => none

end Event

/-- A report after one more event. -/
def record (r : Report) : Event → Report
  | .success => r.recordSuccess
  | .skip => r.recordSkip
  | .failure topic e => r.recordFailure topic e
  | .finish time => r.finish time

/-- The report that a run of events leaves. -/
def after (started : Moment) (events : List Event) : Report :=
  events.foldl record { startedAt := started }

/-- What a report gains from events, one after the other. -/
theorem foldl_record (events : List Event) (r : Report) :
    events.foldl record r =
      { r with
        finishedAt := (events.filterMap Event.time?).getLast?.or r.finishedAt
        succeeded := r.succeeded + events.count .success
        skipped := r.skipped + events.count .skip
        failures := r.failures ++ events.filterMap Event.failure? } := by
  induction events generalizing r with
  | nil => simp
  | cons event events ih =>
      rw [List.foldl_cons, ih, List.filterMap_cons, List.filterMap_cons]
      cases event with
      | success =>
        simp [record, recordSuccess, Event.time?, Event.failure?,
          ← Nat.add_assoc, Nat.add_right_comm]
      | skip =>
        simp [record, recordSkip, Event.time?, Event.failure?, ← Nat.add_assoc,
          Nat.add_right_comm]
      | failure topic e => simp [record, recordFailure, Event.time?, Event.failure?]
      | finish time =>
        simp [record, finish, Event.time?, Event.failure?, List.getLast?_cons]

/-- **A report, read off the events.** -/
theorem after_eq (started : Moment) (events : List Event) :
    after started events =
      { startedAt := started
        finishedAt := (events.filterMap Event.time?).getLast?
        succeeded := events.count .success
        skipped := events.count .skip
        failures := events.filterMap Event.failure? } := by
  rw [after, foldl_record]
  simp

/-! ## What a report shows -/

/-- A text that is read as a moment. -/
def IsMoment (v : Value) (m : Moment) : Prop :=
  ∃ s, v = .text s ∧ Moment.read? s = some m

/-- A number of digits only. -/
def IsCount (v : Value) (k : Nat) : Prop :=
  ∃ n, v = .number n ∧ n.negative = false ∧ n.isInteger ∧
    Numeral.digitsNat n.whole = k

/-- The three fields of a failure. -/
def IsFailure (v : Value) (f : Failure) : Prop :=
  v = .record [("topic", .text f.topic), ("kind", .text f.kind.name),
    ("message", .text f.message)]

/-- The five fields of a report, with null for a time that is not there. -/
def IsReport (v : Value) (r : Report) : Prop :=
  ∃ started finished succeeded skipped failures,
    v = .record [("started_at", started), ("finished_at", finished),
      ("succeeded", succeeded), ("skipped", skipped),
      ("failures", .array failures)] ∧
    IsMoment started r.startedAt ∧ Maybe IsMoment (some finished) r.finishedAt ∧
    IsCount succeeded r.succeeded ∧
    IsCount skipped r.skipped ∧ List.Forall₂ IsFailure failures r.failures

theorem isMoment_text {m : Moment} (hm : m.Regular) : IsMoment (.text m.text) m :=
  ⟨m.text, rfl, Moment.read?_text hm⟩

theorem isCount_int (k : Nat) : IsCount (.int k) k :=
  ⟨.ofInt k, rfl, by simp [Numeral.ofInt], rfl, Nat.ofDigitChars_ten_toDigits⟩

/-- A report shows itself. -/
theorem isReport_toJson {r : Report} (hstarted : r.startedAt.Regular)
    (hfinished : ∀ time ∈ r.finishedAt, time.Regular) : IsReport r.toJson r := by
  refine ⟨_, _, _, _, _, rfl, isMoment_text hstarted, ?_, isCount_int _,
    isCount_int _, ?_⟩
  · cases hf : r.finishedAt with
    | none => exact .null
    | some time => exact .present (isMoment_text (hfinished time hf))
  · exact List.forall₂_map_left_iff.mpr (List.forall₂_same.mpr fun _ _ => rfl)

theorem IsMoment.unique {v : Value} {m m' : Moment} (h : IsMoment v m)
    (h' : IsMoment v m') : m = m' := by
  obtain ⟨s, rfl, hs⟩ := h
  obtain ⟨s', hv, hs'⟩ := h'
  cases hv
  exact Option.some.inj (hs.symm.trans hs')

theorem IsCount.unique {v : Value} {k k' : Nat} (h : IsCount v k)
    (h' : IsCount v k') : k = k' := by
  obtain ⟨n, rfl, -, -, rfl⟩ := h
  obtain ⟨n', hv, -, -, rfl⟩ := h'
  cases hv
  rfl

theorem IsFailure.unique {v : Value} {f f' : Failure} (h : IsFailure v f)
    (h' : IsFailure v f') : f = f' := by
  obtain ⟨topic, kind, message⟩ := f
  obtain ⟨topic', kind', message'⟩ := f'
  have heq := h.symm.trans h'
  simp only [Value.record_eq, List.map_cons, List.map_nil, entry, Value.text,
    Value.object.injEq, List.cons.injEq, Prod.mk.injEq, Value.string.injEq,
    Option.some.injEq, true_and, and_true] at heq
  obtain ⟨rfl, hkind, rfl⟩ := heq
  rw [Kind.name_injective kind kind' hkind]

theorem IsReport.unique {v : Value} {r r' : Report} (h : IsReport v r)
    (h' : IsReport v r') : r = r' := by
  obtain ⟨_, _, _, _, _, hv, hstarted, hfinished, hsucceeded, hskipped,
    hfailures⟩ := h
  obtain ⟨_, _, _, _, _, hv', hstarted', hfinished', hsucceeded', hskipped',
    hfailures'⟩ := h'
  have heq := hv.symm.trans hv'
  simp only [Value.record_eq, List.map_cons, List.map_nil, entry,
    Value.object.injEq, List.cons.injEq, Prod.mk.injEq, Value.array.injEq,
    true_and, and_true] at heq
  obtain ⟨rfl, rfl, rfl, rfl, rfl⟩ := heq
  have hnull : ∀ m, ¬IsMoment .null m := by
    intro m h
    obtain ⟨s, hs, -⟩ := h
    cases hs
  have hright : Relator.RightUnique IsFailure := fun _ _ _ => IsFailure.unique
  obtain ⟨startedAt, finishedAt, succeeded, skipped, failures⟩ := r
  obtain ⟨startedAt', finishedAt', succeeded', skipped', failures'⟩ := r'
  cases hstarted.unique hstarted'
  cases hsucceeded.unique hsucceeded'
  cases hskipped.unique hskipped'
  cases List.right_unique_forall₂' hright hfailures hfailures'
  cases hfinished.unique hnull (fun _ _ _ => IsMoment.unique) hfinished'
  rfl

/-! ## Reading back -/

theorem writable_toJson (r : Report) : Writable r.toJson := by
  refine .record ?_
  simp only [List.forall_mem_cons]
  refine ⟨.text _, writable_text? _, writable_int _, writable_int _, .array ?_,
    List.forall_mem_nil _⟩
  refine List.forall_mem_map.mpr fun f _ => .record ?_
  simp only [List.forall_mem_cons]
  exact ⟨.text _, .text _, .text _, List.forall_mem_nil _⟩

/-- The times of a run are those of its events. -/
theorem regular_after {started : Moment} {events : List Event}
    (hevents : ∀ time, Event.finish time ∈ events → time.Regular) :
    ∀ time ∈ (after started events).finishedAt, time.Regular := by
  intro time htime
  rw [after_eq] at htime
  obtain ⟨event, hevent, heq⟩ := List.mem_filterMap.mp (List.mem_of_getLast? htime)
  cases event with
  | finish time' =>
      cases heq
      exact hevents time hevent
  | success | skip | failure => cases heq

end Prospectus.Batch.Report

namespace Prospectus

open Json Batch

/-- **What is written is read back.**  The text of a report shows that report
and no other, whatever events it comes from; the body of a request is one
content of the user with one part, the prompt. -/
theorem emitted_json_reads_back :
    (∀ (started : Time.Moment) (events : List Report.Event), started.Regular →
      (∀ time, Report.Event.finish time ∈ events → time.Regular) →
      Report.after started events =
        { startedAt := started
          finishedAt := (events.filterMap Report.Event.time?).getLast?
          succeeded := events.count .success
          skipped := events.count .skip
          failures := events.filterMap Report.Event.failure? } ∧
      ∃ v, Value.read? (Report.after started events).json = some v ∧
        ∀ r, Report.IsReport v r ↔ r = Report.after started events) ∧
    ∀ prompt, Value.read? (Summary.requestBody prompt) =
      some (.record [("contents", .array
      [.record [("role", .text "user"),
        ("parts", .array [.record [("text", .text prompt)]])]])]) := by
  constructor
  · intro started events hstarted hevents
    refine ⟨Report.after_eq started events, _,
      (Report.writable_toJson _).read?_pretty, fun r => ?_⟩
    have hself : Report.IsReport (Report.after started events).toJson
        (Report.after started events) :=
      Report.isReport_toJson (by rwa [Report.after_eq])
        (Report.regular_after hevents)
    constructor
    · intro hr
      exact hr.unique hself
    · rintro rfl
      exact hself
  · intro prompt
    have hpart : Writable (.record [("text", .text prompt)]) :=
      .record (List.forall_mem_singleton.mpr (.text prompt))
    have hparts : Writable (.array [.record [("text", .text prompt)]]) :=
      .array (List.forall_mem_singleton.mpr hpart)
    have hcontent : Writable
        (.record [("role", .text "user"),
          ("parts", .array [.record [("text", .text prompt)]])]) :=
      .record (List.forall_mem_cons.mpr
        ⟨.text _, List.forall_mem_singleton.mpr hparts⟩)
    refine Writable.read?_compact
      (.record (List.forall_mem_singleton.mpr (.array ?_)))
    exact List.forall_mem_singleton.mpr hcontent

/-- A batch that is finished twice, with a topic between that needs escapes. -/
def finishedTwice (first second : Time.Moment) : List Report.Event :=
  [.finish first, .failure "a\"\n\\" .encryptedDocument, .finish second]

/-- A batch that is finished again in the leap second at the end of its day. -/
theorem leapEvents_read_back :
    ∃ v, Value.read? (Report.after
        { date := ⟨2016, 12, 31⟩, hour := 23, minute := 59, second := 58 }
        (finishedTwice
          { date := ⟨2016, 12, 31⟩, hour := 23, minute := 59, second := 59 }
          { date := ⟨2016, 12, 31⟩, hour := 23, minute := 59, second := 59,
            nanos := 1500000000 })).json = some v ∧
      Report.IsReport v
        { startedAt := { date := ⟨2016, 12, 31⟩, hour := 23, minute := 59,
                         second := 58 }
          finishedAt := some
            { date := ⟨2016, 12, 31⟩, hour := 23, minute := 59, second := 59,
              nanos := 1500000000 }
          failures := [⟨"a\"\n\\", .collaborator, "Document is encrypted"⟩] } := by
  have hevents : ∀ {first second : Time.Moment}, first.Regular → second.Regular →
      ∀ time, Report.Event.finish time ∈ finishedTwice first second →
        time.Regular := by
    intro first second hfirst hsecond time htime
    simp only [finishedTwice, List.mem_cons, Report.Event.finish.injEq,
      reduceCtorEq, List.not_mem_nil, or_false, false_or] at htime
    obtain rfl | rfl := htime
    · exact hfirst
    · exact hsecond
  obtain ⟨_, v, hread, hv⟩ := emitted_json_reads_back.1
    { date := ⟨2016, 12, 31⟩, hour := 23, minute := 59, second := 58 }
    (finishedTwice { date := ⟨2016, 12, 31⟩, hour := 23, minute := 59,
                     second := 59 }
      { date := ⟨2016, 12, 31⟩, hour := 23, minute := 59, second := 59,
        nanos := 1500000000 })
    (by decide) (hevents (by decide) (by decide))
  exact ⟨v, hread, (hv _).mpr rfl⟩

end Prospectus
