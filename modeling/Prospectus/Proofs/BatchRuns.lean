import Prospectus.Proofs.TopicProcessing

/-!
# Runs of a batch

A run makes the output directory, opens the document once to see that it can be,
and then works on the topics.  `run_of_canStart` takes the first two apart from
the third: once a batch can start, its run is the execution of its jobs and a
report on what they came to.

With one worker the jobs are done in order.  `worldBefore` is the world in which
a topic's turn comes, and `turns_of_runInOrder_ok` says that a run that ends
with outcomes has taken every job to its end in the world that the jobs before
it left.
-/

namespace Prospectus.Batch

open Storage

/-- The world in which the topics are begun: the output directory is made and
the document has been opened once. -/
def opening (b : Batch) (w : World) : World :=
  { w with files := (prepareOutput w.files b.output).1, opened := w.opened + 1 }

/-- Whether a batch gets as far as its topics: the output directory can be made
and the document opened. -/
def CanStart (b : Batch) (w : World) : Prop :=
  (prepareOutput w.files b.output).2 = .ok () ∧
    ∃ source, b.source.openAt w.opened (b.opening w).files = .ok source

/-- **A run of a batch that can start** is the execution of its jobs, and a
report on their outcomes. -/
theorem run_of_canStart {b : Batch} {w : World} (h : b.CanStart w)
    (turns : List Nat) (topics : List String) (started finished : Time.Moment) :
    b.run turns topics started finished w =
      ((b.execute turns (jobsOf (cleanTopics topics)) (b.opening w)).1,
        (b.execute turns (jobsOf (cleanTopics topics)) (b.opening w)).2.map
          fun outcomes =>
          reportOn started finished ((cleanTopics topics).zip outcomes)) := by
  obtain ⟨hprepared, source, hopen⟩ := h
  unfold run
  unfold opening at hopen ⊢
  generalize prepareOutput w.files b.output = prepared at hprepared hopen ⊢
  obtain ⟨files, result⟩ := prepared
  dsimp only at hprepared hopen ⊢
  subst hprepared
  dsimp only
  rw [hopen]

/-- **How a run can begin.**  The output directory cannot be made, or the
document cannot be opened, and then the run ends at once; or the batch can
start. -/
theorem run_cases (b : Batch) (turns : List Nat) (topics : List String)
    (started finished : Time.Moment) (w : World) :
    (∃ e, (prepareOutput w.files b.output).2 = .error e ∧
      b.run turns topics started finished w =
        ({ w with files := (prepareOutput w.files b.output).1 }, .error e)) ∨
      (∃ cause, (prepareOutput w.files b.output).2 = .ok () ∧
        b.source.openAt w.opened (b.opening w).files = .error cause ∧
        b.run turns topics started finished w =
          (b.opening w, .error (.openDocument b.source.describe cause.message))) ∨
      b.CanStart w := by
  unfold CanStart opening run
  generalize prepareOutput w.files b.output = prepared
  obtain ⟨files, result⟩ := prepared
  cases result with
  | error e => exact Or.inl ⟨e, rfl, rfl⟩
  | ok u =>
      refine Or.inr ?_
      dsimp only
      cases hopen : b.source.openAt w.opened files with
      | error cause => exact Or.inl ⟨cause, rfl, rfl, rfl⟩
      | ok source => exact Or.inr ⟨rfl, source, rfl⟩

/-- A batch that gives a report could start. -/
theorem canStart_of_run_ok {b : Batch} {w later : World} {turns : List Nat}
    {topics : List String} {started finished : Time.Moment} {report : Report}
    (h : b.run turns topics started finished w = (later, .ok report)) :
    b.CanStart w := by
  rcases run_cases b turns topics started finished w with ⟨e, -, hrun⟩ |
    ⟨cause, -, -, hrun⟩ | hstart
  · cases hrun.symm.trans h
  · cases hrun.symm.trans h
  · exact hstart

/-- What is read off the report of a run: the outcomes of its jobs. -/
theorem execute_of_run_ok {b : Batch} {w later : World} {turns : List Nat}
    {topics : List String} {started finished : Time.Moment} {report : Report}
    (h : b.run turns topics started finished w = (later, .ok report)) :
    ∃ outcomes, b.execute turns (jobsOf (cleanTopics topics)) (b.opening w) =
      (later, .ok outcomes) ∧
      report = reportOn started finished ((cleanTopics topics).zip outcomes) := by
  rw [run_of_canStart (canStart_of_run_ok h)] at h
  generalize b.execute turns (jobsOf (cleanTopics topics)) (b.opening w) =
      executed at h ⊢
  obtain ⟨world, result⟩ := executed
  cases result with
  | error e => simp [Except.map] at h
  | ok outcomes =>
      simp only [Except.map, Prod.mk.injEq, Except.ok.injEq] at h
      exact ⟨outcomes, by rw [h.1], h.2.symm⟩

/-- Whether several workers, if a batch has them, can be started. -/
def CrewStarts (b : Batch) : Prop := 1 < b.options.workers → b.refusal = none

/-- One worker does the jobs in order. -/
theorem execute_eq_runInOrder {b : Batch} (hworkers : b.options.workers ≤ 1)
    (turns : List Nat)
    (jobs : List Job) (w : World) : b.execute turns jobs w = b.runInOrder jobs w :=
  if_pos hworkers

/-- Several workers who can be started do the jobs side by side. -/
theorem execute_eq_runTogether {b : Batch} (hworkers : ¬b.options.workers ≤ 1)
    (hcrew : b.CrewStarts) (turns : List Nat) (jobs : List Job) (w : World) :
    b.execute turns jobs w = b.runTogether turns jobs w := by
  unfold execute
  rw [if_neg hworkers, hcrew (Nat.lt_of_not_le hworkers)]

/-- Workers who have done jobs could be started. -/
theorem crewStarts_of_execute_ok {b : Batch} {turns : List Nat}
    {jobs : List Job} {w later : World}
    {outcomes : List Outcome} (h : b.execute turns jobs w = (later, .ok outcomes)) :
    b.CrewStarts := by
  intro hworkers
  unfold execute at h
  rw [if_neg (Nat.not_le.mpr hworkers)] at h
  cases hrefusal : b.refusal with
  | none => rfl
  | some reason =>
      rw [hrefusal] at h
      cases h

/-- No directory stands at the empty path. -/
theorem isDirectory_empty (fs : FileSystem) : fs.isDirectory "" = false := rfl

/-- **The output directory stays** once it is made. -/
theorem outputStays_opening {b : Batch} {w : World}
    (h : (prepareOutput w.files b.output).2 = .ok ()) :
    b.OutputStays (b.opening w).files := by
  intro later hlater
  cases hpath : b.output.isEmpty with
  | true =>
      rw [String.isEmpty_iff.mp hpath]
      exact isDirectory_empty later
  | false =>
      unfold opening at hlater
      dsimp only at hlater
      unfold prepareOutput at h hlater
      cases hmade : w.files.makeDirectories b.output with
      | mk files result =>
          rw [hmade] at h hlater
          cases result with
          | error fault => simp at h
          | ok u =>
            exact hlater.isDirectory
              (FileSystem.isDirectory_of_makeDirectories hmade hpath)

/-! ## Jobs in order -/

/-- The world after jobs have been done in order. -/
def worldAfter (b : Batch) (jobs : List Job) (w : World) : World :=
  jobs.foldl (fun w job => (b.complete job w).2) w

/-- A run in order that ends with outcomes has taken its first job to an
outcome, and then the others. -/
theorem runInOrder_cons_ok {b : Batch} {job : Job} {rest : List Job}
    {w later : World} {outcomes : List Outcome}
    (h : b.runInOrder (job :: rest) w = (later, .ok outcomes)) :
    ∃ outcome others, (b.complete job w).1.result = .ok outcome ∧
      b.runInOrder rest (b.complete job w).2 = (later, .ok others) ∧
      outcomes = outcome :: others := by
  rw [runInOrder] at h
  cases hfirst : (b.complete job w).1.result with
  | error e => simp [hfirst] at h
  | ok outcome =>
      simp only [hfirst] at h
      generalize b.runInOrder rest (b.complete job w).2 = ended at h ⊢
      obtain ⟨world, result⟩ := ended
      cases result with
      | error e => simp [Except.map] at h
      | ok others =>
          simp only [Except.map, Prod.mk.injEq, Except.ok.injEq] at h
          obtain ⟨rfl, rfl⟩ := h
          exact ⟨outcome, others, rfl, rfl, rfl⟩

/-- **A run in order.**  If it ends with outcomes, there is one for each job,
and it is what the job came to in the world after the jobs before it. -/
theorem runInOrder_ok {b : Batch} {jobs : List Job} {w later : World}
    {outcomes : List Outcome}
    (h : b.runInOrder jobs w = (later, .ok outcomes)) :
    later = b.worldAfter jobs w ∧ outcomes.length = jobs.length ∧
      ∀ i job, jobs[i]? = some job → ∃ outcome, outcomes[i]? = some outcome ∧
        (b.complete job (b.worldAfter (jobs.take i) w)).1.result = .ok outcome := by
  induction jobs generalizing w later outcomes with
  | nil =>
      simp only [runInOrder, Prod.mk.injEq, Except.ok.injEq] at h
      obtain ⟨rfl, rfl⟩ := h
      exact ⟨rfl, rfl, by simp⟩
  | cons job rest ih =>
      obtain ⟨outcome, others, hfirst, hrest, rfl⟩ := runInOrder_cons_ok h
      obtain ⟨hworld, hlength, heach⟩ := ih hrest
      refine ⟨hworld, by simp [hlength], ?_⟩
      intro i j hj
      cases i with
      | zero =>
          simp only [List.getElem?_cons_zero, Option.some.injEq] at hj
          subst hj
          exact ⟨outcome, rfl, hfirst⟩
      | succ i => exact heach i j hj

/-- **A run in order that ends with an error** was cut at one job: the jobs
before it went as they go without it, and it gave the error. -/
theorem runInOrder_error {b : Batch} {jobs : List Job} {w later : World} {e : Error}
    (h : b.runInOrder jobs w = (later, .error e)) :
    ∃ i job outcomes, jobs[i]? = some job ∧
      b.runInOrder (jobs.take i) w = (b.worldAfter (jobs.take i) w, .ok outcomes) ∧
      (b.complete job (b.worldAfter (jobs.take i) w)).1.result = .error e ∧
      (b.complete job (b.worldAfter (jobs.take i) w)).2 = later := by
  induction jobs generalizing w with
  | nil => cases h
  | cons job rest ih =>
      rw [runInOrder] at h
      cases hfirst : (b.complete job w).1.result with
      | error cause =>
          simp only [hfirst, Prod.mk.injEq, Except.error.injEq] at h
          obtain ⟨rfl, rfl⟩ := h
          exact ⟨0, job, [], rfl, rfl, hfirst, rfl⟩
      | ok outcome =>
          simp only [hfirst] at h
          generalize hrest : b.runInOrder rest (b.complete job w).2 = ended at h
          obtain ⟨world, result⟩ := ended
          cases result with
          | ok others => simp [Except.map] at h
          | error cause =>
              simp only [Except.map, Prod.mk.injEq, Except.error.injEq] at h
              obtain ⟨rfl, rfl⟩ := h
              obtain ⟨i, other, outcomes, hother, hbefore, hresult⟩ := ih hrest
              refine ⟨i + 1, other, outcome :: outcomes, hother, ?_, hresult⟩
              rw [List.take_succ_cons, runInOrder]
              simp only [hfirst, hbefore, Except.map]
              rfl

/-- The job of a topic. -/
theorem getElem?_jobsOf (topics : List String) (i : Nat) :
    (jobsOf topics)[i]? = topics[i]?.map fun topic => { index := i, topic } := by
  simp [jobsOf, List.getElem?_zipIdx, Function.comp_def]

/-- There is a job for each topic. -/
theorem length_jobsOf (topics : List String) :
    (jobsOf topics).length = topics.length := by
  simp [jobsOf]

/-- The world when a topic's turn comes. -/
def worldBefore (b : Batch) (topics : List String) (w : World) (i : Nat) : World :=
  b.worldAfter ((jobsOf (cleanTopics topics)).take i) (b.opening w)

/-- A topic's turn leads to the next. -/
theorem worldBefore_succ (b : Batch) {topics : List String} (w : World)
    {i : Nat} {topic : String} (h : (cleanTopics topics)[i]? = some topic) :
    b.worldBefore topics w (i + 1) =
      (b.complete { index := i, topic } (b.worldBefore topics w i)).2 := by
  rw [worldBefore, List.take_add_one, getElem?_jobsOf, h]
  simp [worldBefore, worldAfter]

/-- **Turn after turn.**  A run in order that ends with outcomes has taken the
job of each topic to its end, in the world that the topics before it left. -/
theorem turns_of_runInOrder_ok {b : Batch} {topics : List String} {w later : World}
    {outcomes : List Outcome}
    (h : b.runInOrder (jobsOf (cleanTopics topics)) (b.opening w) =
      (later, .ok outcomes)) :
    outcomes.length = (cleanTopics topics).length ∧
      later = b.worldBefore topics w (cleanTopics topics).length ∧
      ∀ i topic, (cleanTopics topics)[i]? = some topic →
        ∃ outcome, outcomes[i]? = some outcome ∧
        b.complete { index := i, topic } (b.worldBefore topics w i) =
          ({ index := i, topic, stage := some (.finished (.ok outcome)) },
            b.worldBefore topics w (i + 1)) := by
  obtain ⟨hlater, hlength, heach⟩ := runInOrder_ok h
  refine ⟨by rw [hlength, length_jobsOf], ?_, ?_⟩
  · rw [hlater, worldBefore, ← length_jobsOf, List.take_length]
  · intro i topic htopic
    obtain ⟨outcome, houtcome, hresult⟩ :=
      heach i { index := i, topic } (by rw [getElem?_jobsOf, htopic]; rfl)
    refine ⟨outcome, houtcome, ?_⟩
    rw [← worldBefore] at hresult
    rw [worldBefore_succ b w htopic]
    rw [complete_eq b rfl] at hresult ⊢
    rw [Job.result_ended] at hresult
    rw [hresult]
    rfl

end Prospectus.Batch
