import Prospectus.Proofs.BatchAccounting
import Prospectus.Proofs.RunsAsMoves

/-!
# What is told while a batch runs

The start of a topic is told when its job is started.  Its end is told by a move
of its own, after the work has come to an outcome, so that other jobs may be
told of in between.  The events about a job can be read off its stage
(`Job.told`), and a move tells exactly what its job gains (`events_move`).  From
this one fact follows what is told in a whole run, with any number of workers:
the events about one topic stand in order, and all events together are those of
the jobs, in some order (`Told`).

The report is made from the outcomes after the run.  Since the events are read
off the same outcomes, the two agree (`countP_told`, `topics_of_failed`).
-/

namespace Prospectus.Batch

namespace Event

/-- The index of the topic that an event is about. -/
def index : Event → Nat
  | started index _ => index
  | finished index _ _ => index

/-- The topic that an event is about. -/
def topic : Event → String
  | started _ topic => topic
  | finished _ topic _ => topic

/-- How the topic has ended, if the event tells of its end. -/
def status? : Event → Option Status
  | started _ _ => none
  | finished _ _ status => some status

end Event

/-! ## One job -/

/-- What has been told of a job. -/
def Job.told (job : Job) : List Event :=
  match job.stage with
  | none => []
  | some (.finished (.ok outcome)) =>
    [.started job.index job.topic, .finished job.index job.topic outcome.status]
  | some _ => [.started job.index job.topic]

/-- What is told of a job carries its index. -/
theorem Job.index_of_mem_told {job : Job} {event : Event} (h : event ∈ job.told) :
    event.index = job.index := by
  unfold told at h
  split at h
  · cases h
  · simp only [List.mem_cons, List.not_mem_nil, or_false] at h
    rcases h with rfl | rfl <;> rfl
  · simp only [List.mem_cons, List.not_mem_nil, or_false] at h
    rw [h]
    rfl

/-- What has been told of a job that has ended with an outcome. -/
theorem Job.told_of_result {job : Job} {outcome : Outcome}
    (h : job.result? = some (.ok outcome)) :
    job.told = [.started job.index job.topic, .finished job.index job.topic
      outcome.status] := by
  rw [told, Job.stage_of_result h]

/-- What has been told of a job that has been started and has not ended. -/
theorem Job.told_of_remaining {job : Job} (hstarted : job.remaining < 6)
    (hunder : 0 < job.remaining) :
    job.told = [.started job.index job.topic] := by
  unfold told
  unfold remaining at hstarted hunder
  cases hstage : job.stage with
  | none => simp [hstage] at hstarted
  | some stage =>
      cases stage with
      | finished result => simp [hstage] at hunder
      | check | extract | summarize prompt | write text | tell result => rfl

/-- No stage tells anything by itself. -/
theorem events_step (b : Batch) (topic : String) (stage : Stage) (w : World) :
    (b.step topic stage w).2.events = w.events := by
  cases stage with
  | check => rw [step_check_snd]
  | extract => rw [step_extract]
  | summarize prompt => rw [step_summarize]
  | write text => rw [step_write]
  | tell result | finished result => rfl

/-- When a job ends, its end is told if it has come to an outcome. -/
theorem events_ended (job : Job) (result : Except Error Outcome) (w : World) :
    ∃ news, (job.ended result w).2.events = w.events ++ news ∧
      (job.ended result w).1.told = [.started job.index job.topic] ++ news := by
  cases result with
  | ok outcome => exact ⟨_, rfl, rfl⟩
  | error e => exact ⟨[], (List.append_nil _).symm, rfl⟩

/-- **One move** tells what its job gains by it. -/
theorem events_move (b : Batch) (job : Job) (w : World) :
    ∃ news, (b.move job w).2.events = w.events ++ news ∧
      (b.move job w).1.told = job.told ++ news := by
  have hremaining := remaining_move b job w
  obtain ⟨hindex, htopic⟩ := move_job b job w
  cases hstage : job.stage with
  | none =>
      rw [move_none b hstage]
      refine ⟨[.started job.index job.topic], rfl, ?_⟩
      rw [show job.told = [] by rw [Job.told, hstage]]
      rfl
  | some stage =>
      have hstarted : job.remaining < 6 :=
        Job.remaining_lt_iff.mpr (by rw [hstage]; rfl)
      cases stage with
      | finished result =>
          rw [move_finished b hstage]
          exact ⟨[], (List.append_nil _).symm, (List.append_nil _).symm⟩
      | tell result =>
          rw [move_tell b hstage,
            Job.told_of_remaining hstarted (by simp [Job.remaining, hstage])]
          exact events_ended job result w
      | check | extract | summarize prompt | write text =>
          -- a job at work is still under way after its move
          have hwork : 1 < job.remaining := by simp [Job.remaining, hstage]
          refine ⟨[], ?_, ?_⟩
          · rw [move_some b hstage (by simp), events_step, List.append_nil]
          · rw [Job.told_of_remaining (by omega) (by omega),
              Job.told_of_remaining hstarted (by omega), hindex, htopic,
              List.append_nil]

/-- Some moves tell what their job gains by them. -/
theorem events_moves (b : Batch) (n : Nat) (job : Job) (w : World) :
    ∃ news, (b.moves n job w).2.events = w.events ++ news ∧
      (b.moves n job w).1.told = job.told ++ news := by
  induction n generalizing job w with
  | zero => exact ⟨[], (List.append_nil _).symm, (List.append_nil _).symm⟩
  | succ n ih =>
      obtain ⟨news, hevents, htold⟩ := events_move b job w
      obtain ⟨more, hevents', htold'⟩ := ih (b.move job w).1 (b.move job w).2
      refine ⟨news ++ more, ?_, ?_⟩
      · rw [moves, hevents', hevents, List.append_assoc]
      · rw [moves, htold', htold, List.append_assoc]

/-! ## All jobs -/

/-- Lists gathered from the members of a list gain what one member gains, in
some order. -/
theorem perm_flatMap_set {α β : Type} (f : α → List β) {xs : List α} {k : Nat}
    {x y : α} {news : List β} (hx : xs[k]? = some x) (hy : f y = f x ++ news) :
    ((xs.set k y).flatMap f).Perm (xs.flatMap f ++ news) := by
  induction xs generalizing k with
  | nil => cases hx
  | cons a rest ih =>
      cases k with
      | zero =>
          cases hx
          rw [List.set_cons_zero, List.flatMap_cons, List.flatMap_cons, hy,
            List.append_assoc, List.append_assoc]
          exact List.perm_append_comm.append_left _
      | succ k =>
          rw [List.set_cons_succ, List.flatMap_cons, List.flatMap_cons,
            List.append_assoc]
          exact (ih hx).append_left _

/-- **Jobs and the events sent about them.**  All events together are those of
the jobs, in some order; the events about one job stand in their own order. -/
structure Told (jobs : List Job) (sent : List Event) : Prop where
  perm : sent.Perm (jobs.flatMap Job.told)
  index_eq : ∀ (i : Nat) job, jobs[i]? = some job → job.index = i
  inOrder : ∀ (i : Nat) job, jobs[i]? = some job →
    sent.filter (·.index = i) = job.told

/-- Before the first move nothing has been told. -/
theorem told_jobsOf (topics : List String) : Told (jobsOf topics) [] := by
  have htold : ∀ job ∈ jobsOf topics, job.told = [] := by
    intro job hjob
    rw [Job.told, stage_of_mem_jobsOf hjob]
  refine ⟨?_, ?_, ?_⟩
  · rw [List.flatMap_eq_nil_iff.mpr htold]
  · intro i job hjob
    rw [getElem?_jobsOf] at hjob
    obtain ⟨topic, -, rfl⟩ := Option.map_eq_some_iff.mp hjob
    rfl
  · intro i job hjob
    rw [htold job (List.mem_of_getElem? hjob)]
    rfl

/-- One move keeps jobs and events together. -/
theorem Told.move {jobs : List Job} {sent : List Event} (h : Told jobs sent)
    (b : Batch) {k : Nat} {job : Job} (hjob : jobs[k]? = some job) (w : World) :
    ∃ news, (b.move job w).2.events = w.events ++ news ∧
      Told (jobs.set k (b.move job w).1) (sent ++ news) := by
  obtain ⟨news, hevents, htold⟩ := events_move b job w
  obtain ⟨hindex, -⟩ := move_job b job w
  rw [h.index_eq k job hjob] at hindex
  have hnews : ∀ event ∈ news, event.index = k := by
    intro event hevent
    rw [← hindex]
    exact Job.index_of_mem_told (htold ▸ List.mem_append_right _ hevent)
  have hk : k < jobs.length := (List.getElem?_eq_some_iff.mp hjob).1
  refine ⟨news, hevents, ?_, ?_, ?_⟩
  · exact (h.perm.append_right news).trans
      (perm_flatMap_set Job.told hjob htold).symm
  · intro i other hother
    by_cases hik : i = k
    · subst hik
      rw [List.getElem?_set_self hk] at hother
      cases hother
      exact hindex
    · rw [List.getElem?_set_ne (Ne.symm hik)] at hother
      exact h.index_eq i other hother
  · intro i other hother
    rw [List.filter_append]
    by_cases hik : i = k
    · subst hik
      rw [List.getElem?_set_self hk] at hother
      cases hother
      have hall : news.filter (·.index = i) = news := by
        rw [List.filter_eq_self]
        intro event hevent
        simpa using hnews event hevent
      rw [htold, h.inOrder i job hjob, hall]
    · rw [List.getElem?_set_ne (Ne.symm hik)] at hother
      have hnone : news.filter (·.index = i) = [] := by
        rw [List.filter_eq_nil_iff]
        intro event hevent
        simpa [hnews event hevent] using Ne.symm hik
      rw [h.inOrder i other hother, hnone, List.append_nil]

/-- **Whatever moves are made**, jobs and events stay together. -/
theorem told_of_unfolds {b : Batch} {topics : List String} {jobs : List Job}
    {w later : World} (h : b.Unfolds (jobsOf topics) w jobs later) :
    ∃ sent, later.events = w.events ++ sent ∧ Told jobs sent := by
  induction h with
  | start => exact ⟨[], (List.append_nil _).symm, told_jobsOf topics⟩
  | @move now v k job _ hjob ih =>
      obtain ⟨sent, hevents, htold⟩ := ih
      obtain ⟨news, hnews, hmoved⟩ := htold.move b hjob v
      exact ⟨sent ++ news, by rw [hnews, hevents, List.append_assoc], hmoved⟩

/-! ## Events and the report -/

section Report

variable {topics : List String} {jobs : List Job} {outcomes : List Outcome}
  {sent : List Event}

/-- What is told in a run is about topics of the batch. -/
theorem Told.index_lt (h : Told jobs sent)
    (hended : EndedWith topics jobs outcomes) {event : Event}
    (hevent : event ∈ sent) : event.index < topics.length := by
  obtain ⟨job, hjob, htold⟩ := List.mem_flatMap.mp (h.perm.mem_iff.mp hevent)
  rw [Job.index_of_mem_told htold, ← List.mem_range, ← hended.indices_eq]
  exact List.mem_map_of_mem hjob

/-- What is told of a topic: its start, and then its end. -/
theorem Told.events_of_topic (h : Told jobs sent)
    (hended : EndedWith topics jobs outcomes) {i : Nat}
    {topic : String} (htopic : topics[i]? = some topic) :
    ∃ outcome, outcomes[i]? = some outcome ∧
      sent.filter (·.index = i) =
        [.started i topic, .finished i topic outcome.status] := by
  obtain ⟨outcome, houtcome, hjob⟩ := hended.job i topic htopic
  exact ⟨outcome, houtcome, h.inOrder i _ hjob⟩

/-- **Counting ends.**  As many ends are told with a status as there are
outcomes with it. -/
theorem countP_told (h : jobs.map (·.result?) =
    outcomes.map fun outcome => some (.ok outcome))
    (status : Status) :
    (jobs.flatMap Job.told).countP (·.status? = some status) =
      (outcomes.map (·.status)).count status := by
  induction jobs generalizing outcomes with
  | nil =>
      cases outcomes with
      | nil => rfl
      | cons outcome rest => cases h
  | cons job rest ih =>
      cases outcomes with
      | nil => cases h
      | cons outcome others =>
          obtain ⟨hjob, hrest⟩ := List.cons.inj h
          rw [List.flatMap_cons, List.countP_append, ih hrest,
            Job.told_of_result hjob, List.map_cons, List.count_cons]
          by_cases hstatus : outcome.status =
              status <;> simp [Event.status?, hstatus, Nat.add_comm]

/-- **The report counts the same.** -/
theorem reportOn_counts (started finished : Time.Moment)
    (h : outcomes.length = topics.length) :
    (reportOn started finished (topics.zip outcomes)).succeeded =
        (outcomes.map (·.status)).count .succeeded ∧
      (reportOn started finished (topics.zip outcomes)).skipped =
        (outcomes.map (·.status)).count .skipped ∧
      (reportOn started finished (topics.zip outcomes)).failed =
        (outcomes.map (·.status)).count .failed := by
  rw [reportOn_eq, Report.failed]
  dsimp only
  induction topics generalizing outcomes with
  | nil =>
      rw [List.length_eq_zero_iff.mp h]
      exact ⟨rfl, rfl, rfl⟩
  | cons topic rest ih =>
      cases outcomes with
      | nil => cases h
      | cons outcome others =>
          obtain ⟨hwritten, hskipped, hfailed⟩ := ih (Nat.succ.inj h)
          rw [List.zip_cons_cons, List.map_cons, List.filterMap_cons]
          cases outcome with
          | written | skipped | failed e =>
              simp [failureOf?, Outcome.status, hwritten, hskipped, hfailed]

/-- **The topics that failed**, as they are told of by jobs that have ended and
as a report lists them. -/
theorem topics_of_failed (htopics : jobs.map (·.topic) = topics)
    (hresults : jobs.map (·.result?) =
      outcomes.map fun outcome => some (.ok outcome)) :
    ((jobs.flatMap Job.told).filter (·.status? = some .failed)).map (·.topic) =
      ((topics.zip outcomes).filterMap failureOf?).map (·.topic) := by
  subst htopics
  induction jobs generalizing outcomes with
  | nil => rfl
  | cons job rest ih =>
      cases outcomes with
      | nil => cases hresults
      | cons outcome others =>
          obtain ⟨hjob, hrest⟩ := List.cons.inj hresults
          rw [List.flatMap_cons, List.filter_append, List.map_append, ih hrest,
            Job.told_of_result hjob, List.map_cons, List.zip_cons_cons,
            List.filterMap_cons]
          cases outcome with
          | written | skipped | failed e =>
            simp [Event.status?, Outcome.status, failureOf?, Event.topic]

/-- Jobs that are listed by their indices tell of them by their indices. -/
theorem pairwise_told (h : (jobs.map (·.index)).Pairwise (· < ·)) :
    (jobs.flatMap Job.told).Pairwise fun e f => e.index ≤ f.index := by
  rw [List.pairwise_flatMap]
  constructor
  · intro job _
    refine List.pairwise_iff_forall_sublist.mpr ?_
    intro e f hsub
    have he : e ∈ job.told := hsub.subset (by simp)
    have hf : f ∈ job.told := hsub.subset (by simp)
    rw [Job.index_of_mem_told he, Job.index_of_mem_told hf]
  · rw [List.pairwise_map] at h
    refine h.imp ?_
    intro job other hlt e he f hf
    rw [Job.index_of_mem_told he, Job.index_of_mem_told hf]
    exact Nat.le_of_lt hlt

/-- Failures that are told of one topic are the same. -/
theorem Told.eq_of_failed (h : Told jobs sent)
    (hended : EndedWith topics jobs outcomes) {e f : Event}
    (he : e ∈ sent) (hf : f ∈ sent) (hfailed : e.status? = some .failed)
    (hfailed' : f.status? = some .failed)
    (hindex : e.index = f.index) : e = f := by
  have hi : e.index < topics.length := h.index_lt hended he
  obtain ⟨outcome, -, hevents⟩ :=
    h.events_of_topic hended (List.getElem?_eq_getElem hi)
  have hmem : ∀ event ∈ sent, event.index = e.index → event.status? = some .failed →
      event = .finished e.index topics[e.index] outcome.status := by
    intro event hevent hsame hstatus
    have hfilter : event ∈ sent.filter (·.index = e.index) :=
      List.mem_filter.mpr ⟨hevent, by simpa using hsame⟩
    rw [hevents] at hfilter
    simp only [List.mem_cons, List.not_mem_nil, or_false] at hfilter
    rcases hfilter with rfl | rfl
    · cases hstatus
    · rfl
  rw [hmem e he rfl hfailed, hmem f hf hindex.symm hfailed']

/-- **Failures by their indices** are the failures of the report. -/
theorem Told.failed_in_order (h : Told jobs sent)
    (hended : EndedWith topics jobs outcomes) :
    ((sent.filter (·.status? = some .failed)).mergeSort fun e f => e.index ≤
      f.index).map (·.topic) =
      ((topics.zip outcomes).filterMap failureOf?).map (·.topic) := by
  have hsorted : (jobs.map (·.index)).Pairwise (· < ·) := by
    rw [hended.indices_eq]
    exact List.pairwise_lt_range
  rw [← topics_of_failed hended.topics_eq hended.results_eq]
  have hmerged : ((sent.filter (·.status? = some .failed)).mergeSort fun e f =>
    e.index ≤ f.index).Pairwise
      fun e f => decide (e.index ≤ f.index) = true :=
    List.pairwise_mergeSort
      (fun _ _ _ hab hbc => by simp only [decide_eq_true_eq] at *; omega)
      (fun _ _ => by simp only [Bool.or_eq_true, decide_eq_true_eq]; omega) _
  have hperm := (List.mergeSort_perm _ fun (e f : Event) =>
    decide (e.index ≤ f.index)).trans
    (h.perm.filter (·.status? = some .failed))
  refine congrArg (List.map Event.topic)
    (hperm.eq_of_pairwise ?_ (hmerged.imp of_decide_eq_true)
    ((pairwise_told hsorted).filter _))
  intro e f he hf hle hle'
  obtain ⟨he, hfailed⟩ := List.mem_filter.mp (List.mem_mergeSort.mp he)
  obtain ⟨hf, hfailed'⟩ := List.mem_filter.mp hf
  exact h.eq_of_failed hended he (h.perm.mem_iff.mpr hf)
    (by simpa using hfailed) (by simpa using hfailed')
    (Nat.le_antisymm hle hle')

end Report

/-! ## Jobs in order -/

/-- What is told of topics that are done one after the other. -/
def inTurn (ends : List (String × Status)) : List Event :=
  ends.zipIdx.flatMap fun ((topic, status), index) =>
    [.started index topic, .finished index topic status]

/-- **Jobs in order** tell of one after the other. -/
theorem events_runInOrder {b : Batch} {jobs : List Job} {w later : World}
    {outcomes : List Outcome} (h : b.runInOrder jobs w = (later, .ok outcomes))
    (hjobs : ∀ job ∈ jobs, job.stage = none) :
    later.events = w.events ++ (jobs.zip outcomes).flatMap fun (job, outcome) =>
      [.started job.index job.topic,
        .finished job.index job.topic outcome.status] := by
  induction jobs generalizing w outcomes with
  | nil =>
      simp only [runInOrder, Prod.mk.injEq, Except.ok.injEq] at h
      rw [h.1]
      exact (List.append_nil _).symm
  | cons job rest ih =>
      obtain ⟨hnone, hrest⟩ := List.forall_mem_cons.mp hjobs
      obtain ⟨outcome, others, hresult, hothers, rfl⟩ := runInOrder_cons_ok h
      obtain ⟨news, hevents, htold⟩ := events_moves b maxMoves job w
      rw [← complete] at hevents htold
      rw [show job.told = [] by rw [Job.told, hnone], List.nil_append] at htold
      have hboth : (b.complete job w).1.told =
          [.started job.index job.topic,
            .finished job.index job.topic outcome.status] := by
        rw [complete_eq b hnone, Job.result_ended] at hresult
        rw [complete_eq b hnone, Job.ended, hresult]
        rfl
      rw [ih hothers hrest, hevents, ← htold, hboth, List.zip_cons_cons,
        List.flatMap_cons, List.append_assoc]

/-- Jobs of topics, each with what it came to. -/
theorem zip_jobsOf (topics : List String) (outcomes : List Outcome) :
    (jobsOf topics).zip outcomes =
      (topics.zip outcomes).zipIdx.map fun ((topic, outcome), index) =>
        ({ index, topic }, outcome) := by
  unfold jobsOf
  generalize 0 = first
  induction topics generalizing outcomes first with
  | nil => rfl
  | cons topic rest ih =>
      cases outcomes with
      | nil => rfl
      | cons outcome others => simp [ih]

/-- With one worker, topics are told of one after the other. -/
theorem events_of_execute_one {b : Batch} (hworkers : b.options.workers ≤ 1)
    {turns : List Nat}
    {topics : List String} {w later : World} {outcomes : List Outcome}
    (h : b.execute turns (jobsOf topics) w = (later, .ok outcomes)) :
    later.events = w.events ++ inTurn (topics.zip (outcomes.map (·.status))) := by
  rw [execute_eq_runInOrder hworkers] at h
  rw [events_runInOrder h fun _ => stage_of_mem_jobsOf, zip_jobsOf, inTurn,
    List.zip_map_right, List.zipIdx_map, List.flatMap_map, List.flatMap_map]
  rfl

/-- **What is told in a run.**  A run that gives a report, with any number of
workers and whichever of them moves next, has told of each topic exactly twice,
of its start and then of its end; of no other index; and always with the topic
itself.  The ends that were told are those that the report counts, and the
topics that failed, by their indices, are those that it lists.  With one worker
the topics are told of one after the other. -/
theorem run_tells_of_each_topic {b : Batch} {turns : List Nat}
    {topics : List String}
    {started finished : Time.Moment} {w later : World} {report : Report}
    (hrun : b.run turns topics started finished w = (later, .ok report)) :
    ∃ sent : List Event,
      later.events = w.events ++ sent ∧
      (∀ event ∈ sent, event.index < (cleanTopics topics).length) ∧
      (∀ i topic, (cleanTopics topics)[i]? = some topic → ∃ status,
        sent.filter (·.index = i) = [.started i topic, .finished i topic status]) ∧
      sent.countP (·.status? = some .succeeded) = report.succeeded ∧
      sent.countP (·.status? = some .skipped) = report.skipped ∧
      sent.countP (·.status? = some .failed) = report.failed ∧
      ((sent.filter (·.status? = some .failed)).mergeSort fun e f => e.index ≤
        f.index).map (·.topic) = report.failedTopics ∧
      (b.options.workers ≤ 1 → ∃ statuses : List Status,
        statuses.length = (cleanTopics topics).length ∧
        sent = inTurn ((cleanTopics topics).zip statuses)) := by
  obtain ⟨outcomes, hexecute, rfl⟩ := execute_of_run_ok hrun
  obtain ⟨jobs, hunfolds, hended⟩ := unfolds_of_execute_ok hexecute
  obtain ⟨sent, hevents, htold⟩ := told_of_unfolds hunfolds
  have hcount : ∀ status, sent.countP (·.status? = some status) =
      (outcomes.map (·.status)).count status := by
    intro status
    rw [htold.perm.countP_eq, countP_told hended.results_eq]
  obtain ⟨hsucceeded, hskipped, hfailed⟩ :=
    reportOn_counts started finished hended.length_outcomes
  refine ⟨sent, hevents, fun event => htold.index_lt hended, ?_,
    by rw [hcount, hsucceeded], by rw [hcount, hskipped],
    by rw [hcount, hfailed], ?_, ?_⟩
  · intro i topic htopic
    obtain ⟨outcome, -, hboth⟩ := htold.events_of_topic hended htopic
    exact ⟨outcome.status, hboth⟩
  · rw [htold.failed_in_order hended, reportOn_eq, Report.failedTopics]
  · intro hworkers
    refine ⟨outcomes.map (·.status),
      by rw [List.length_map, hended.length_outcomes], ?_⟩
    have hinTurn := events_of_execute_one hworkers hexecute
    exact List.append_cancel_left (hevents.symm.trans hinTurn)

/-- The batch on the short catalog, with two workers. -/
def pairBatch : Batch :=
  { shortBatch with options := shortBatch.options.withWorkers 2 }

/-- Two workers, who begin with the last of three topics, tell of each topic
twice, and of one failure.  With one topic twice, the second job finds the
summary of the first and is over before the end of the first has been told. -/
theorem pairBatch_tells_of_each_topic :
    (pairBatch.run [2, 0, 1, 0, 2, 1] ["Law", " Cup ", "Art"] newYear newYear
      halfDone).2 = .ok ⟨newYear, some newYear, 1, 1,
          [⟨"Cup", .notFound,
            "Topic \"Cup\" not found in the table of contents"⟩]⟩ ∧
      (∃ sent status,
        (pairBatch.run [2, 0, 1, 0, 2, 1] ["Law", " Cup ", "Art"] newYear newYear
          halfDone).1.events = sent ∧
        sent.filter (·.index = 1) = [.started 1 "Cup", .finished 1 "Cup" status] ∧
        sent.countP (·.status? = some .skipped) = 1 ∧
        ((sent.filter (·.status? = some .failed)).mergeSort fun e f =>
          e.index ≤ f.index).map (·.topic) = ["Cup"]) ∧
      (pairBatch.run [0, 0, 0, 0, 0, 1, 1, 1] ["Law", "Law"] newYear newYear
        halfDone).1.events =
        [.started 0 "Law", .started 1 "Law", .finished 1 "Law" .skipped,
          .finished 0 "Law" .succeeded] := by
  have hreport :
      (pairBatch.run [2, 0, 1, 0, 2, 1] ["Law", " Cup ", "Art"] newYear newYear
      halfDone).2 = .ok ⟨newYear, some newYear, 1, 1,
        [⟨"Cup", .notFound,
          "Topic \"Cup\" not found in the table of contents"⟩]⟩ := by
    decide +kernel
  have hbetween :
      (pairBatch.run [0, 0, 0, 0, 0, 1, 1, 1] ["Law", "Law"] newYear newYear
      halfDone).1.events =
        [.started 0 "Law", .started 1 "Law", .finished 1 "Law" .skipped,
        .finished 0 "Law" .succeeded] := by
    decide +kernel
  generalize hrun : pairBatch.run [2, 0, 1, 0, 2, 1] ["Law", " Cup ", "Art"]
      newYear newYear
    halfDone = ran at hreport ⊢
  have hcup : (cleanTopics ["Law", " Cup ", "Art"])[1]? = some "Cup" := by
    decide +kernel
  obtain ⟨sent, hevents, -, heach, -, hskipped, -, hfailed, -⟩ :=
    run_tells_of_each_topic (hrun.trans (Prod.ext rfl hreport))
  obtain ⟨status, hboth⟩ := heach 1 "Cup" hcup
  have hbare : halfDone.events = [] := rfl
  rw [hbare, List.nil_append] at hevents
  exact ⟨hreport, ⟨sent, status, hevents, hboth, hskipped, hfailed⟩, hbetween⟩

end Prospectus.Batch
