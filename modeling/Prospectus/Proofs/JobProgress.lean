import Mathlib.Logic.Function.Iterate
import Prospectus.Proofs.TopicProcessing

/-!
# Progress of jobs side by side

Every move takes a job one stage on or to the end of its work, which is then
told, so six moves are enough (`Job.remaining`, `remaining_move`).  When several
jobs take turns, a turn touches one job, and a job that has been started may
always move.  Hence the turns that are added at the end of a run suffice: the
first round ends every job that is under way, and the second starts the others,
one at a time, and ends them too (`finished_of_rounds`).
-/

namespace Prospectus.Batch

open Storage

/-! ## One job -/

/-- The number of moves after which a job has ended at the latest. -/
def Job.remaining (job : Job) : Nat :=
  match job.stage with
  | none => 6
  | some .check => 5
  | some .extract => 4
  | some (.summarize _) => 3
  | some (.write _) => 2
  | some (.tell _) => 1
  | some (.finished _) => 0

/-- No move remains to a job that has ended, and to no other. -/
theorem Job.remaining_eq_zero_iff {job : Job} :
    job.remaining = 0 ↔ ∃ result, job.stage = some (.finished result) := by
  obtain ⟨index, topic, stage⟩ := job
  cases stage with
  | none => simp [remaining]
  | some stage => cases stage <;> simp [remaining]

/-- A job that has been started is less than six moves from its end. -/
theorem Job.remaining_lt_iff {job : Job} :
    job.remaining < 6 ↔ job.stage.isSome = true := by
  obtain ⟨index, topic, stage⟩ := job
  cases stage with
  | none => simp [remaining]
  | some stage => cases stage <;> simp [remaining]

/-- A job is not under way if it has not been started or has ended. -/
theorem Job.isActive_eq_false_iff {job : Job} :
    job.isActive = false ↔ job.stage = none ∨ job.remaining = 0 := by
  obtain ⟨index, topic, stage⟩ := job
  cases stage with
  | none => simp [isActive]
  | some stage => cases stage <;> simp [isActive, remaining, result?]

/-- A move does not change which job it is. -/
theorem move_job (b : Batch) (job : Job) (w : World) :
    (b.move job w).1.index = job.index ∧ (b.move job w).1.topic = job.topic := by
  cases hstage : job.stage with
  | none => rw [move_none b hstage]; exact ⟨rfl, rfl⟩
  | some stage =>
      cases stage with
      | tell result => rw [move_tell b hstage]; exact ⟨rfl, rfl⟩
      | check | extract | summarize prompt | write text | finished result =>
          rw [move_some b hstage (by simp)]
          exact ⟨rfl, rfl⟩

/-- **One move.**  It takes a job one stage on, or its work to its end; a job
that has ended stays where it is. -/
theorem remaining_move (b : Batch) (job : Job) (w : World) :
    (b.move job w).1.remaining + 1 = job.remaining ∨
      (b.move job w).1.remaining = 1 ∧ 1 < job.remaining ∨
      (b.move job w).1.remaining = 0 ∧ job.remaining = 0 := by
  cases hstage : job.stage with
  | none =>
      rw [move_none b hstage]
      exact Or.inl (by simp [Job.remaining, hstage])
  | some stage =>
      cases stage with
      | check =>
          rw [move_some b hstage (by simp), step_check]
          by_cases hpass : b.passesOver job.topic w.files = true <;>
            simp [Job.remaining, hstage, hpass]
      | extract =>
          rw [move_some b hstage (by simp), step_extract]
          cases b.promptFor job.topic w.opened w.files <;>
            simp [Job.remaining, hstage]
      | summarize prompt =>
          rw [move_some b hstage (by simp), step_summarize]
          cases (b.summarizer.generate b.options.model prompt w.files).2 <;>
            simp [Job.remaining, hstage]
      | write text =>
          rw [move_some b hstage (by simp), step_write]
          simp [Job.remaining, hstage]
      | tell result =>
          rw [move_tell b hstage]
          simp [Job.ended, Job.remaining, hstage]
      | finished result =>
          rw [move_finished b hstage]
          simp [Job.remaining, hstage]

/-- A job that makes so many moves in a world that stays the same. -/
def jobAfter (b : Batch) (w : World) (job : Job) (k : Nat) : Job :=
  (fun job => (b.move job w).1)^[k] job

/-- One move more. -/
theorem jobAfter_succ (b : Batch) (w : World) (job : Job) (k : Nat) :
    b.jobAfter w job (k + 1) = (b.move (b.jobAfter w job k) w).1 :=
  Function.iterate_succ_apply' ..

/-- Until its work is done, a job has as many moves behind it as are missing
from six. -/
theorem remaining_jobAfter (b : Batch) (w : World) {job : Job}
    (h : job.stage = none) (k : Nat) :
    (b.jobAfter w job k).remaining ≤ 1 ∨
    (b.jobAfter w job k).remaining + k = 6 := by
  induction k with
  | zero => exact Or.inr (by simp [jobAfter, Job.remaining, h])
  | succ k ih =>
      rw [jobAfter_succ]
      have hmove := remaining_move b (b.jobAfter w job k) w
      omega

/-! ## Jobs in turns -/

/-- The error that ends the batch, if a job has come to one. -/
def Job.fatal? (job : Job) : Option Error :=
  match job.result? with
  | some (.error e) => some e
  | _ => none

/-- An error ends the batch only when a job has ended with it. -/
theorem Job.stage_of_fatal {job : Job} {e : Error} (h : job.fatal? = some e) :
    job.stage = some (.finished (.error e)) := by
  obtain ⟨index, topic, stage⟩ := job
  cases stage with
  | none => simp [fatal?, result?] at h
  | some stage =>
      cases stage with
      | finished result => cases result <;> simp_all [fatal?, result?]
      | check | extract | summarize prompt | write text | tell result =>
        simp [fatal?, result?] at h

/-- The turn of a job that may move. -/
theorem turn_of_mayMove (b : Batch) {f : Floor} {k : Nat} {job : Job}
    (hjob : f.jobs[k]? = some job)
    (hmay : f.mayMove b.options.workers job = true) :
    b.turn f k =
      ⟨f.jobs.set k (b.move job f.world).1, (b.move job f.world).2,
        f.fatal <|> (b.move job f.world).1.fatal?⟩ := by
  unfold turn
  rw [hjob]
  dsimp only
  rw [if_pos hmay]
  rfl

/-- The turn of a job that may not move. -/
theorem turn_of_not_mayMove (b : Batch) {f : Floor} {k : Nat} {job : Job}
    (hjob : f.jobs[k]? = some job)
    (hmay : f.mayMove b.options.workers job = false) : b.turn f k = f := by
  unfold turn
  rw [hjob]
  dsimp only
  rw [hmay]
  rfl

/-- **All that a turn can do.**  Nothing changes, or one job moves. -/
theorem turn_cases (b : Batch) (f : Floor) (k : Nat) :
    b.turn f k = f ∨ ∃ job, f.jobs[k]? = some job ∧
      b.turn f k =
        ⟨f.jobs.set k (b.move job f.world).1, (b.move job f.world).2,
          f.fatal <|> (b.move job f.world).1.fatal?⟩ := by
  cases hjob : f.jobs[k]? with
  | none =>
      left
      unfold turn
      rw [hjob]
  | some job =>
      cases hmay : f.mayMove b.options.workers job with
      | false => exact Or.inl (turn_of_not_mayMove b hjob hmay)
      | true => exact Or.inr ⟨job, rfl, turn_of_mayMove b hjob hmay⟩

/-- A turn touches one job. -/
theorem getElem?_turn_of_ne (b : Batch) (f : Floor) {k i : Nat} (h : i ≠ k) :
    (b.turn f k).jobs[i]? = f.jobs[i]? := by
  rcases turn_cases b f k with hsame | ⟨job, -, hmove⟩
  · rw [hsame]
  · rw [hmove]
    exact List.getElem?_set_ne (Ne.symm h)

/-- Turns of one job touch no other. -/
theorem getElem?_foldl_turn_of_ne (b : Batch) (f : Floor) {k i : Nat}
    (h : i ≠ k) (n : Nat) :
    ((List.replicate n k).foldl b.turn f).jobs[i]? = f.jobs[i]? := by
  induction n generalizing f with
  | zero => rfl
  | succ n ih =>
    rw [List.replicate_succ, List.foldl_cons, ih, getElem?_turn_of_ne b f h]

/-- A job that has been started comes closer to its end with each of its turns. -/
theorem foldl_turn_of_started (b : Batch) {f : Floor} {k : Nat} {job : Job}
    (hjob : f.jobs[k]? = some job) (hstarted : job.stage.isSome = true) (n : Nat) :
    ∃ after, ((List.replicate n k).foldl b.turn f).jobs[k]? = some after ∧
      after.remaining ≤ job.remaining - n := by
  induction n generalizing f job with
  | zero => exact ⟨job, hjob, Nat.le_refl _⟩
  | succ n ih =>
      have hmay : f.mayMove b.options.workers job = true := by
        simp [Floor.mayMove, hstarted]
      have hk : k < f.jobs.length := (List.getElem?_eq_some_iff.mp hjob).1
      have hnext : (b.turn f k).jobs[k]? = some (b.move job f.world).1 := by
        rw [turn_of_mayMove b hjob hmay]
        exact List.getElem?_set_self hk
      have hless := remaining_move b job f.world
      have hlt := Job.remaining_lt_iff.mpr hstarted
      obtain ⟨after, hafter, hle⟩ := ih hnext (Job.remaining_lt_iff.mp (by omega))
      exact ⟨after, by rw [List.replicate_succ, List.foldl_cons, hafter], by omega⟩

/-- **Six turns in a row** end a job, unless it has not been started and may not
be. -/
theorem block_cases (b : Batch) {f : Floor} {k : Nat} {job : Job}
    (hjob : f.jobs[k]? = some job) :
    (∃ after, ((List.replicate maxMoves k).foldl b.turn f).jobs[k]? =
      some after ∧ after.remaining = 0) ∨
      ((List.replicate maxMoves k).foldl b.turn f = f ∧ job.stage = none ∧
        f.mayMove b.options.workers job = false) := by
  by_cases hstarted : job.stage.isSome = true
  · obtain ⟨after, hafter, hle⟩ := foldl_turn_of_started b hjob hstarted maxMoves
    have hlt := Job.remaining_lt_iff.mpr hstarted
    exact Or.inl ⟨after, hafter, by simp only [maxMoves] at hle; omega⟩
  · have hnone : job.stage = none := by simpa using hstarted
    cases hmay : f.mayMove b.options.workers job with
    | true =>
        have hk : k < f.jobs.length := (List.getElem?_eq_some_iff.mp hjob).1
        have hnext : (b.turn f k).jobs[k]? =
            some { job with stage := some .check } := by
          rw [turn_of_mayMove b hjob hmay, move_none b hnone]
          exact List.getElem?_set_self hk
        obtain ⟨after, hafter, hle⟩ := foldl_turn_of_started b hnext rfl 5
        exact Or.inl ⟨after, hafter, Nat.le_zero.mp hle⟩
    | false =>
        have hstill : ∀ n, (List.replicate n k).foldl b.turn f = f := by
          intro n
          induction n with
          | zero => rfl
          | succ n ih =>
            rw [List.replicate_succ, List.foldl_cons,
              turn_of_not_mayMove b hjob hmay, ih]
        exact Or.inr ⟨hstill maxMoves, hnone, rfl⟩

/-! ## Rounds of turns -/

/-- Turns do not change how many jobs there are. -/
theorem length_foldl_turn (b : Batch) (f : Floor) (turns : List Nat) :
    (turns.foldl b.turn f).jobs.length = f.jobs.length := by
  induction turns generalizing f with
  | nil => rfl
  | cons k rest ih =>
      rw [List.foldl_cons, ih]
      rcases turn_cases b f k with hsame | ⟨job, -, hmove⟩
      · rw [hsame]
      · rw [hmove]
        exact List.length_set

/-- The last six turns of a round are those of one job. -/
theorem allTurns_succ (n : Nat) :
    allTurns (n + 1) = allTurns n ++ List.replicate maxMoves n := by
  simp [allTurns, List.range_succ]

/-- **The first round** leaves no job under way among those that had a turn. -/
theorem not_active_of_round (b : Batch) (f : Floor) (n : Nat) {k : Nat}
    {job : Job} (hk : k < n)
    (hjob : ((allTurns n).foldl b.turn f).jobs[k]? = some job) :
    job.isActive = false := by
  induction n with
  | zero => omega
  | succ n ih =>
      rw [allTurns_succ, List.foldl_append] at hjob
      by_cases hlast : k = n
      · subst hlast
        have hlength : k < ((allTurns k).foldl b.turn f).jobs.length := by
          rw [← length_foldl_turn b _ (List.replicate maxMoves k)]
          exact (List.getElem?_eq_some_iff.mp hjob).1
        have hbefore := List.getElem?_eq_getElem hlength
        rcases block_cases b hbefore with ⟨after, hafter, hend⟩ | ⟨hstill, hnone, -⟩
        · cases hjob.symm.trans hafter
          exact Job.isActive_eq_false_iff.mpr (Or.inr hend)
        · rw [hstill] at hjob
          cases hjob.symm.trans hbefore
          exact Job.isActive_eq_false_iff.mpr (Or.inl hnone)
      · rw [getElem?_foldl_turn_of_ne b _ hlast] at hjob
        exact ih (by omega) hjob

/-- A job may be started when no other is under way and nothing has ended the
batch. -/
theorem mayMove_of_idle {f : Floor} {workers : Nat} (hworkers : 0 < workers)
    (hfatal : f.fatal = none)
    (hidle : ∀ job ∈ f.jobs, job.isActive = false) (job : Job) :
    f.mayMove workers job = true := by
  have hnone : f.jobs.filter (·.isActive) = [] := by
    rw [List.filter_eq_nil_iff]
    intro other hother
    simp [hidle other hother]
  simp [Floor.mayMove, hnone, hfatal, hworkers]

/-- An error that has ended the batch is not forgotten. -/
theorem fatal_of_foldl_turn (b : Batch) (turns : List Nat) {f : Floor}
    (h : (turns.foldl b.turn f).fatal = none) : f.fatal = none := by
  induction turns generalizing f with
  | nil => exact h
  | cons k rest ih =>
      have hnext : (b.turn f k).fatal = none := ih h
      rcases turn_cases b f k with hsame | ⟨job, -, hmove⟩
      · rwa [hsame] at hnext
      · rw [hmove] at hnext
        cases hfatal : f.fatal with
        | none => rfl
        | some e => simp [hfatal] at hnext

/-- **The second round.**  If no job is under way and nothing ends the batch, a
round ends every job that has a turn, and again leaves none under way. -/
theorem finished_of_round {b : Batch} {f : Floor} (hworkers : 0 < b.options.workers)
    (hidle : ∀ job ∈ f.jobs, job.isActive = false) (n : Nat)
    (hfatal : ((allTurns n).foldl b.turn f).fatal = none) :
    (∀ job ∈ ((allTurns n).foldl b.turn f).jobs, job.isActive = false) ∧
      ∀ k job, k < n → ((allTurns n).foldl b.turn f).jobs[k]? = some job →
        job.remaining = 0 := by
  induction n with
  | zero => exact ⟨hidle, fun k job hk => by omega⟩
  | succ n ih =>
      rw [allTurns_succ, List.foldl_append] at hfatal ⊢
      have hfatal' := fatal_of_foldl_turn b _ hfatal
      obtain ⟨hidle', hended⟩ := ih hfatal'
      generalize (allTurns n).foldl b.turn f = g at hidle' hended hfatal' ⊢
      -- the job of this turn is the only one that can have changed, and it has
      -- ended
      have hlast : ∀ job,
          ((List.replicate maxMoves n).foldl b.turn g).jobs[n]? = some job →
          job.remaining = 0 := by
        intro job hjob
        have hlength : n < g.jobs.length := by
          rw [← length_foldl_turn b g (List.replicate maxMoves n)]
          exact (List.getElem?_eq_some_iff.mp hjob).1
        rcases block_cases b (List.getElem?_eq_getElem hlength) with ⟨after,
          hafter, hend⟩ | ⟨-, -, hmay⟩
        · cases hjob.symm.trans hafter
          exact hend
        · rw [mayMove_of_idle hworkers hfatal' hidle'] at hmay
          cases hmay
      constructor
      · intro job hmem
        obtain ⟨i, hi⟩ := List.mem_iff_getElem?.mp hmem
        by_cases hin : i = n
        · subst hin
          exact Job.isActive_eq_false_iff.mpr (Or.inr (hlast job hi))
        · rw [getElem?_foldl_turn_of_ne b g hin] at hi
          exact hidle' job (List.mem_of_getElem? hi)
      · intro k job hk hjob
        by_cases hkn : k = n
        · subst hkn
          exact hlast job hjob
        · rw [getElem?_foldl_turn_of_ne b g hkn] at hjob
          exact hended k job (by omega) hjob

/-- **Two rounds are enough.**  Whatever turns were taken before, two rounds end
every job, if there is a worker and nothing has ended the batch. -/
theorem finished_of_rounds {b : Batch} {f : Floor}
    (hworkers : 0 < b.options.workers) (turns : List Nat)
    (hfatal : ((turns ++ allTurns f.jobs.length ++ allTurns f.jobs.length).foldl
      b.turn f).fatal = none)
    {job : Job}
    (hjob : job ∈
      ((turns ++ allTurns f.jobs.length ++ allTurns f.jobs.length).foldl b.turn
        f).jobs) :
    job.remaining = 0 := by
  rw [List.foldl_append] at hfatal hjob
  generalize hg : (turns ++ allTurns f.jobs.length).foldl b.turn f =
      g at hfatal hjob
  have hlength : g.jobs.length = f.jobs.length := by rw [← hg, length_foldl_turn]
  have hidle : ∀ job ∈ g.jobs, job.isActive = false := by
    intro job hmem
    obtain ⟨k, hk⟩ := List.mem_iff_getElem?.mp hmem
    have hlt : k < f.jobs.length := hlength ▸ (List.getElem?_eq_some_iff.mp hk).1
    rw [← hg, List.foldl_append] at hk
    exact not_active_of_round b _ _ hlt hk
  obtain ⟨k, hk⟩ := List.mem_iff_getElem?.mp hjob
  have hlt : k < f.jobs.length := by
    rw [← hlength, ← length_foldl_turn b g (allTurns f.jobs.length)]
    exact (List.getElem?_eq_some_iff.mp hk).1
  exact (finished_of_round hworkers hidle _ hfatal).2 k job hlt hk

end Prospectus.Batch
