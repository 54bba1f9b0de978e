import Prospectus.Proofs.BatchRuns
import Prospectus.Proofs.JobProgress

/-!
# Runs as series of moves

Jobs in order and jobs in turns are both made of single moves (`Unfolds`), and a
run that ends with outcomes has taken every job to its end (`EndedWith`).
`unfolds_of_execute_ok` says so once for both kinds of run.  What one move keeps
is therefore kept by every run, whatever the number of workers and whichever of
them moves next.  Conversely, if no series of moves leads to a fatal error,
every run ends with outcomes (`NeverFatal.execute_ok`).

The workers of a batch say how its jobs are done, not what a move does
(`move_withCrew`), so that what is known of the moves of a batch is known with
any workers.
-/

namespace Prospectus.Batch

open Storage

/-- What becomes of jobs and a world by single moves, one after the other. -/
inductive Unfolds (b : Batch) (jobs : List Job) (w : World) :
    List Job → World → Prop
  | start : Unfolds b jobs w jobs w
  | move {now : List Job} {v : World} {k : Nat} {job : Job}
      (h : Unfolds b jobs w now v)
      (hjob : now[k]? = some job) :
      Unfolds b jobs w (now.set k (b.move job v).1) (b.move job v).2

section Unfolds

variable {b : Batch} {jobs now later : List Job} {w v u : World}

/-- Moves can be followed by further moves. -/
theorem Unfolds.trans (h : b.Unfolds jobs w now v) (h' : b.Unfolds now v later u) :
    b.Unfolds jobs w later u := by
  induction h' with
  | start => exact h
  | move _ hjob ih => exact ih.move hjob

/-- Some moves of one job. -/
theorem Unfolds.moves {k : Nat} {job : Job} (hjob : jobs[k]? = some job) (n : Nat) :
    b.Unfolds jobs w (jobs.set k (b.moves n job w).1) (b.moves n job w).2 := by
  obtain ⟨hk, hget⟩ := List.getElem?_eq_some_iff.mp hjob
  induction n generalizing jobs w job with
  | zero =>
      rw [Batch.moves, ← hget, List.set_getElem_self]
      exact .start
  | succ n ih =>
      have hself := List.getElem?_set_self (a := (b.move job w).1) hk
      obtain ⟨hk', hget'⟩ := List.getElem?_eq_some_iff.mp hself
      have hrest := ih (w := (b.move job w).2) hself hk' hget'
      rw [List.set_set] at hrest
      exact (Unfolds.start.move hjob).trans hrest

/-- A job that is taken to its end. -/
theorem Unfolds.complete (done : List Job) (job : Job) (rest : List Job) :
    b.Unfolds (done ++ job :: rest) w (done ++ (b.complete job w).1 :: rest)
      (b.complete job w).2 := by
  have hmoves : b.Unfolds (done ++ job :: rest) w
      ((done ++ job :: rest).set done.length (b.moves maxMoves job w).1)
      (b.moves maxMoves job w).2 :=
    Unfolds.moves (by simp) maxMoves
  rw [List.set_append_right _ _ (Nat.le_refl _), Nat.sub_self,
    List.set_cons_zero] at hmoves
  exact hmoves

/-- Turns are moves, as far as they change anything. -/
theorem Unfolds.foldl_turn (b : Batch) (turns : List Nat) (f : Floor) :
    b.Unfolds f.jobs f.world (turns.foldl b.turn f).jobs
      (turns.foldl b.turn f).world := by
  induction turns generalizing f with
  | nil => exact .start
  | cons k rest ih =>
      rw [List.foldl_cons]
      rcases turn_cases b f k with hsame | ⟨job, hjob, hmove⟩
      · rw [hsame]
        exact ih f
      · have hfirst : b.Unfolds f.jobs f.world (b.turn f k).jobs
            (b.turn f k).world := by
          rw [hmove]
          exact Unfolds.start.move hjob
        exact hfirst.trans (ih _)

/-- Moves change the stages of jobs and nothing else about them. -/
theorem Unfolds.map_eq {α : Type} (f : Job → α)
    (hf : ∀ job stage, f { job with stage } = f job)
    (h : b.Unfolds jobs w now v) : now.map f = jobs.map f := by
  induction h with
  | start => rfl
  | @move now v k job _ hjob ih =>
      obtain ⟨hk, hget⟩ := List.getElem?_eq_some_iff.mp hjob
      obtain ⟨hindex, htopic⟩ := move_job b job v
      have hmoved : (b.move job v).1 =
          { job with stage := (b.move job v).1.stage } := by
        rw [← hindex, ← htopic]
      have hkeep : f (b.move job v).1 = f now[k] := by rw [hmoved, hf, hget]
      have hlist : (now.map f).set k (f now[k]) = now.map f := by
        rw [← List.getElem_map f (h := by simpa using hk), List.set_getElem_self]
      rw [List.map_set, hkeep, hlist, ih]

end Unfolds

/-! ## Runs that end with outcomes -/

/-- All jobs of some topics have ended, with these outcomes. -/
structure EndedWith (topics : List String) (jobs : List Job)
    (outcomes : List Outcome) : Prop where
  topics_eq : jobs.map (·.topic) = topics
  indices_eq : jobs.map (·.index) = List.range topics.length
  results_eq : jobs.map (·.result?) = outcomes.map fun outcome => some (.ok outcome)

section EndedWith

variable {topics : List String} {jobs : List Job} {outcomes : List Outcome}

/-- There is a job for each topic. -/
theorem EndedWith.length_eq (h : EndedWith topics jobs outcomes) :
    jobs.length = topics.length := by
  rw [← h.topics_eq, List.length_map]

/-- There is an outcome for each topic. -/
theorem EndedWith.length_outcomes (h : EndedWith topics jobs outcomes) :
    outcomes.length = topics.length := by
  have hlength := congrArg List.length h.results_eq
  rw [List.length_map, List.length_map, h.length_eq] at hlength
  exact hlength.symm

/-- A job that has a result has ended with it. -/
theorem Job.stage_of_result {job : Job} {result : Except Error Outcome}
    (h : job.result? = some result) :
    job.stage = some (.finished result) := by
  obtain ⟨index, topic, stage⟩ := job
  cases stage with
  | none => cases h
  | some stage =>
      cases stage with
      | finished other => cases h; rfl
      | check | extract | summarize prompt | write text | tell result => cases h

/-- Each job on its own. -/
theorem EndedWith.job (h : EndedWith topics jobs outcomes) (i : Nat)
    (topic : String)
    (htopic : topics[i]? = some topic) : ∃ outcome, outcomes[i]? = some outcome ∧
      jobs[i]? =
        some { index := i, topic, stage := some (.finished (.ok outcome)) } := by
  have hi : i < topics.length := (List.getElem?_eq_some_iff.mp htopic).1
  obtain ⟨job, hjob⟩ : ∃ job, jobs[i]? = some job :=
    ⟨_, List.getElem?_eq_getElem (h.length_eq.symm ▸ hi)⟩
  obtain ⟨outcome, houtcome⟩ : ∃ outcome, outcomes[i]? = some outcome :=
    ⟨_, List.getElem?_eq_getElem (h.length_outcomes.symm ▸ hi)⟩
  have hindex : job.index = i := by
    have hmap := congrArg (·[i]?) h.indices_eq
    simpa [hjob, hi] using hmap
  have hname : job.topic = topic := by
    have hmap := congrArg (·[i]?) h.topics_eq
    simpa [hjob, htopic] using hmap
  have hresult : job.result? = some (.ok outcome) := by
    have hmap := congrArg (·[i]?) h.results_eq
    simpa [hjob, houtcome] using hmap
  have hstage := Job.stage_of_result hresult
  subst hindex hname
  exact ⟨outcome, houtcome, by rw [hjob, ← hstage]⟩

/-- The jobs of some topics, taken to their ends by moves. -/
theorem endedWith_of_unfolds {b : Batch} {w later : World}
    (h : b.Unfolds (jobsOf topics) w jobs later)
    (hresults : jobs.map (·.result?) =
      outcomes.map fun outcome => some (.ok outcome)) :
    EndedWith topics jobs outcomes := by
  refine ⟨?_, ?_, hresults⟩
  · rw [h.map_eq (·.topic) fun _ _ => rfl]
    simp [jobsOf, Function.comp_def]
  · rw [h.map_eq (·.index) fun _ _ => rfl]
    simp [jobsOf, Function.comp_def, List.range_eq_range']

end EndedWith

/-- Values can be taken together iff they are all there. -/
theorem mapM_eq_ok_iff {α β ε : Type} {f : α → Except ε β} {xs : List α}
    {ys : List β} :
    xs.mapM f = .ok ys ↔ xs.map f = ys.map .ok := by
  induction xs generalizing ys with
  | nil => cases ys <;> simp [pure, Except.pure]
  | cons x xs ih =>
      rw [List.mapM_cons, List.map_cons]
      cases hx : f x with
      | error e => cases ys <;> simp [bind, Except.bind]
      | ok y =>
          cases hxs : xs.mapM f with
          | error e =>
              have hno : ∀ ys', xs.map f ≠ List.map .ok ys' := by
                intro ys' hys'
                rw [ih.mpr hys'] at hxs
                cases hxs
              cases ys with
              | nil => simp [bind, Except.bind]
              | cons z zs => simp [bind, Except.bind, hno zs]
          | ok ys' =>
              have hys' := ih.mp hxs
              have hinj : Function.Injective (Except.ok : β → Except ε β) :=
                fun _ _ h => Except.ok.inj h
              cases ys with
              | nil => simp [bind, Except.bind, pure, Except.pure]
              | cons z zs =>
                simp [bind, Except.bind, pure, Except.pure, hys',
                  List.map_inj_right hinj]

/-- Values that are all there can be taken together. -/
theorem exists_mapM_ok {α β ε : Type} {f : α → Except ε β} {xs : List α}
    (h : ∀ x ∈ xs, ∃ y, f x = .ok y) :
    ∃ ys, xs.mapM f = .ok ys := by
  induction xs with
  | nil => exact ⟨[], rfl⟩
  | cons x rest ih =>
      obtain ⟨⟨y, hy⟩, hrest⟩ := List.forall_mem_cons.mp h
      obtain ⟨ys, hys⟩ := ih hrest
      refine ⟨y :: ys, ?_⟩
      rw [mapM_eq_ok_iff] at hys ⊢
      rw [List.map_cons, List.map_cons, hy, hys]

/-- **Jobs in order** are moves of one job after the other.  `done` are jobs
that have had their turn. -/
theorem unfolds_of_runInOrder {b : Batch} {rest : List Job} {w later : World}
    {outcomes : List Outcome} (h : b.runInOrder rest w = (later, .ok outcomes))
    (hrest : ∀ job ∈ rest, job.stage = none) (done : List Job) :
    ∃ ended, b.Unfolds (done ++ rest) w (done ++ ended) later ∧
      ended.map (·.result?) = outcomes.map fun outcome => some (.ok outcome) := by
  induction rest generalizing w outcomes done with
  | nil =>
      simp only [runInOrder, Prod.mk.injEq, Except.ok.injEq] at h
      obtain ⟨rfl, rfl⟩ := h
      exact ⟨[], .start, rfl⟩
  | cons job rest ih =>
      obtain ⟨hnone, hrest⟩ := List.forall_mem_cons.mp hrest
      obtain ⟨outcome, others, hresult, hothers, rfl⟩ := runInOrder_cons_ok h
      obtain ⟨ended, hunfolds, hresults⟩ :=
        ih hothers hrest (done ++ [(b.complete job w).1])
      refine ⟨(b.complete job w).1 :: ended, ?_, ?_⟩
      · have hfirst := Unfolds.complete (b := b) (w := w) done job rest
        rw [List.append_assoc, List.append_assoc] at hunfolds
        exact hfirst.trans hunfolds
      · have hafter : (b.complete job w).1.result? =
            some (b.complete job w).1.result := by
          rw [complete_eq b hnone]
          rfl
        rw [List.map_cons, List.map_cons, hresults, hafter, hresult]

/-- Jobs of topics have not been started. -/
theorem stage_of_mem_jobsOf {topics : List String} {job : Job}
    (h : job ∈ jobsOf topics) :
    job.stage = none := by
  obtain ⟨i, hi⟩ := List.mem_iff_getElem?.mp h
  rw [getElem?_jobsOf] at hi
  obtain ⟨topic, -, rfl⟩ := Option.map_eq_some_iff.mp hi
  rfl

/-- A job without a move left has a result. -/
theorem Job.result?_of_remaining {job : Job} (h : job.remaining = 0) :
    job.result? = some job.result := by
  obtain ⟨result, hstage⟩ := Job.remaining_eq_zero_iff.mp h
  simp [Job.result, Job.result?, hstage]

/-- **Jobs in turns** that end with outcomes have all been taken to their ends. -/
theorem unfolds_of_runTogether {b : Batch} (hworkers : 0 < b.options.workers)
    {turns : List Nat}
    {jobs : List Job} {w later : World} {outcomes : List Outcome}
    (h : b.runTogether turns jobs w = (later, .ok outcomes)) :
    ∃ ended, b.Unfolds jobs w ended later ∧
      ended.map (·.result?) = outcomes.map fun outcome => some (.ok outcome) := by
  unfold runTogether at h
  dsimp only at h
  have hunfolds := Unfolds.foldl_turn b
    (turns ++ allTurns jobs.length ++ allTurns jobs.length) ⟨jobs, w, none⟩
  dsimp only at hunfolds
  generalize hf : (turns ++ allTurns jobs.length ++ allTurns jobs.length).foldl
      b.turn ⟨jobs, w, none⟩ = f
    at h hunfolds
  cases hfatal : f.fatal with
  | some e => simp [hfatal] at h
  | none =>
      have hended : ∀ job ∈ f.jobs, job.remaining = 0 := by
        intro job hjob
        rw [← hf] at hfatal hjob
        exact finished_of_rounds hworkers turns hfatal hjob
      simp only [hfatal, Prod.mk.injEq] at h
      obtain ⟨rfl, hresults⟩ := h
      refine ⟨f.jobs, hunfolds, ?_⟩
      have hmap : f.jobs.map (·.result?) = (f.jobs.map (·.result)).map some := by
        rw [List.map_map]
        exact List.map_congr_left fun job hjob =>
          Job.result?_of_remaining (hended job hjob)
      rw [hmap, mapM_eq_ok_iff.mp hresults, List.map_map]
      rfl

/-- **Any execution that ends with outcomes** is a series of moves that takes
every job to its end. -/
theorem unfolds_of_execute_ok {b : Batch} {turns : List Nat}
    {topics : List String} {w later : World} {outcomes : List Outcome}
    (h : b.execute turns (jobsOf topics) w = (later, .ok outcomes)) :
    ∃ jobs, b.Unfolds (jobsOf topics) w jobs later ∧
      EndedWith topics jobs outcomes := by
  have hcrew := crewStarts_of_execute_ok h
  by_cases hworkers : b.options.workers ≤ 1
  · rw [execute_eq_runInOrder hworkers] at h
    obtain ⟨jobs, hunfolds, hresults⟩ :=
      unfolds_of_runInOrder h (fun _ => stage_of_mem_jobsOf) []
    exact ⟨jobs, hunfolds, endedWith_of_unfolds hunfolds hresults⟩
  · rw [execute_eq_runTogether hworkers hcrew] at h
    obtain ⟨jobs, hunfolds, hresults⟩ := unfolds_of_runTogether (by omega) h
    exact ⟨jobs, hunfolds, endedWith_of_unfolds hunfolds hresults⟩

/-! ## Runs that nothing ends early -/

/-- Whatever moves are made, no job comes to an error that ends the batch. -/
def NeverFatal (b : Batch) (jobs : List Job) (w : World) : Prop :=
  ∀ now v, b.Unfolds jobs w now v →
    ∀ job ∈ now, ∀ e, job.stage ≠ some (.finished (.error e))

section NeverFatal

variable {b : Batch} {jobs : List Job} {w : World}

/-- It stays so after some moves. -/
theorem NeverFatal.later (h : b.NeverFatal jobs w) {now : List Job} {v : World}
    (hmoves : b.Unfolds jobs w now v) :
    b.NeverFatal now v :=
  fun last u hlast => h last u (hmoves.trans hlast)

/-- Jobs in order then end with outcomes. -/
theorem NeverFatal.runInOrder_ok {rest : List Job}
    (hrest : ∀ job ∈ rest, job.stage = none) (done : List Job)
    (h : b.NeverFatal (done ++ rest) w) :
    ∃ later outcomes, b.runInOrder rest w = (later, .ok outcomes) := by
  induction rest generalizing done w with
  | nil => exact ⟨w, [], rfl⟩
  | cons job rest ih =>
      obtain ⟨hnone, hrest⟩ := List.forall_mem_cons.mp hrest
      have hfirst := Unfolds.complete (b := b) (w := w) done job rest
      have hend : (b.complete job w).1.stage =
          some (.finished (b.complete job w).1.result) := by
        rw [complete_eq b hnone]
        rfl
      rw [runInOrder]
      cases hresult : (b.complete job w).1.result with
      | error e =>
          rw [hresult] at hend
          exact absurd hend (h _ _ hfirst _ (by simp) e)
      | ok outcome =>
          have hnext : b.NeverFatal (done ++ [(b.complete job w).1] ++ rest)
              (b.complete job w).2 := by
            rw [List.append_assoc]
            exact h.later hfirst
          obtain ⟨later, outcomes, hothers⟩ := ih hrest _ hnext
          refine ⟨later, outcome :: outcomes, ?_⟩
          simp only [hresult, hothers, Except.map]

/-- Turns then end nothing. -/
theorem NeverFatal.fatal_foldl_turn (turns : List Nat) {f : Floor}
    (h : b.NeverFatal f.jobs f.world)
    (hfatal : f.fatal = none) : (turns.foldl b.turn f).fatal = none := by
  induction turns generalizing f with
  | nil => exact hfatal
  | cons k rest ih =>
      rw [List.foldl_cons]
      rcases turn_cases b f k with hsame | ⟨job, hjob, hmove⟩
      · rw [hsame]
        exact ih h hfatal
      · have hmoved := Unfolds.start.move (b := b) (w := f.world) hjob
        rw [hmove]
        refine ih (h.later hmoved) ?_
        have hmem : (b.move job f.world).1 ∈ f.jobs.set k (b.move job f.world).1 :=
          List.mem_set (List.getElem?_eq_some_iff.mp hjob).1 _
        cases hnews : (b.move job f.world).1.fatal? with
        | none => rw [hfatal]; rfl
        | some e => exact absurd (Job.stage_of_fatal hnews) (h _ _ hmoved _ hmem e)

/-- **If nothing can end a batch early, its run ends with outcomes**, in order
or in turns, as soon as its workers can be started. -/
theorem NeverFatal.execute_ok {topics : List String}
    (h : b.NeverFatal (jobsOf topics) w)
    (hcrew : b.CrewStarts) (turns : List Nat) :
    ∃ later outcomes, b.execute turns (jobsOf topics) w =
      (later, .ok outcomes) := by
  by_cases hworkers : b.options.workers ≤ 1
  · rw [execute_eq_runInOrder hworkers]
    exact NeverFatal.runInOrder_ok (fun _ => stage_of_mem_jobsOf) [] h
  · rw [execute_eq_runTogether hworkers hcrew, runTogether]
    have hunfolds := Unfolds.foldl_turn b
      (turns ++ allTurns (jobsOf topics).length ++
        allTurns (jobsOf topics).length) ⟨jobsOf topics, w, none⟩
    have hfatal := NeverFatal.fatal_foldl_turn (f := ⟨jobsOf topics, w, none⟩)
      (turns ++ allTurns (jobsOf topics).length ++
        allTurns (jobsOf topics).length) h rfl
    dsimp only at hunfolds ⊢
    generalize hf : List.foldl b.turn _ _ = f at hunfolds hfatal ⊢
    have hok : ∀ job ∈ f.jobs, ∃ outcome, job.result = .ok outcome := by
      intro job hjob
      have hzero : job.remaining = 0 := by
        rw [← hf] at hfatal hjob
        exact finished_of_rounds (by omega) turns hfatal hjob
      obtain ⟨result, hstage⟩ := Job.remaining_eq_zero_iff.mp hzero
      cases result with
      | error e => exact absurd hstage (h _ _ hunfolds job hjob e)
      | ok outcome => exact ⟨outcome, by simp [Job.result, Job.result?, hstage]⟩
    obtain ⟨outcomes, houtcomes⟩ := exists_mapM_ok hok
    exact ⟨f.world, outcomes, by rw [hfatal, houtcomes]⟩

end NeverFatal

/-! ## Other workers -/

/-- A batch with other workers: so many of them, who may be refused. -/
def withCrew (b : Batch) (workers : Nat) (refusal : Option String) : Batch :=
  { b with options := b.options.withWorkers workers, refusal }

section Crew

variable (b : Batch) (workers : Nat) (refusal : Option String)

/-- The workers have no part in a stage of the work on a topic. -/
theorem step_withCrew (topic : String) (stage : Stage) (w : World) :
    (b.withCrew workers refusal).step topic stage w = b.step topic stage w := by
  have hpath : (b.withCrew workers refusal).pathOf topic = b.pathOf topic := rfl
  have hpass : (b.withCrew workers refusal).passesOver topic w.files =
    b.passesOver topic w.files := rfl
  have hprompt : (b.withCrew workers refusal).promptFor topic w.opened w.files =
    b.promptFor topic w.opened w.files := rfl
  have hconclude : ∀ written, (b.withCrew workers refusal).conclude topic written =
    b.conclude topic written := fun _ => rfl
  cases stage with
  | check => rw [step_check, step_check, hpass]
  | extract => rw [step_extract, step_extract, hprompt]
  | summarize prompt => rw [step_summarize, step_summarize]; rfl
  | write text => rw [step_write, step_write, hpath, hconclude]
  | tell result | finished result => rfl

/-- The workers have no part in a move of a job. -/
theorem move_withCrew (job : Job) (w : World) :
    (b.withCrew workers refusal).move job w = b.move job w := by
  unfold move
  simp only [step_withCrew]

variable {b workers refusal}

/-- A series of moves is one with any workers. -/
theorem Unfolds.of_withCrew {jobs now : List Job} {w v : World}
    (h : (b.withCrew workers refusal).Unfolds jobs w now v) :
    b.Unfolds jobs w now v := by
  induction h with
  | start => exact .start
  | move _ hjob ih =>
      rw [move_withCrew]
      exact ih.move hjob

/-- What no series of moves ends early, it does not end with other workers. -/
theorem NeverFatal.withCrew {jobs : List Job} {w : World}
    (h : b.NeverFatal jobs w) :
    (b.withCrew workers refusal).NeverFatal jobs w :=
  fun now v hmoves => h now v hmoves.of_withCrew

end Crew

end Prospectus.Batch
