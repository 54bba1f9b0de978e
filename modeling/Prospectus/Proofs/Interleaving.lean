import Prospectus.Proofs.BatchAccounting
import Prospectus.Proofs.Independence
import Prospectus.Proofs.RunsAsMoves

/-!
# Jobs side by side

Jobs in order and jobs in turns are both made of single moves, so both keep the
invariant of topics that do not mind each other (`Consistent.unfolds`,
`consistent_foldl_turn`).  When all jobs have ended, the invariant leaves no
choice: the jobs have ended with the same outcomes (`Consistent.jobs_eq`) and
every file holds the same (`Consistent.file?_eq`).  Hence the number of workers
and the order of their moves have no part in what a batch comes to.
-/

namespace Prospectus.Batch

open Storage

section Runs

variable {b : Batch} {topics : List String} {start : World}

/-- **The files.**  If the same jobs have ended, every file holds the same. -/
theorem Consistent.file?_eq {jobs : List Job} {w w' : World}
    (h : b.Consistent topics start jobs w)
    (h' : b.Consistent topics start jobs w') (l : Location) :
    w.files.file? l = w'.files.file? l := by
  by_cases hwritten : ∃ (i : Nat) (topic : String) (job : Job),
      topics[i]? = some topic ∧
      jobs[i]? = some job ∧ job.conclusion? = some (.ok .written) ∧
      start.files.place? (b.pathOf topic) = some l
  · obtain ⟨i, topic, job, htopic, hjob, hstage, hl⟩ := hwritten
    obtain ⟨text, place, htext, hplace, hfile⟩ :=
      h.written i topic job htopic hjob hstage
    obtain ⟨text', place', htext', hplace', hfile'⟩ :=
      h'.written i topic job htopic hjob hstage
    cases hl.symm.trans hplace
    cases hl.symm.trans hplace'
    cases htext.symm.trans htext'
    rw [hfile, hfile']
  · have hother : ∀ (i : Nat) topic job, topics[i]? = some topic →
        jobs[i]? = some job →
        job.conclusion? = some (.ok .written) →
        start.files.place? (b.pathOf topic) ≠ some l := by
      intro i topic job htopic hjob hstage hl
      exact hwritten ⟨i, topic, job, htopic, hjob, hstage, hl⟩
    rw [h.untouched l hother, h'.untouched l hother]

end Runs

end Prospectus.Batch
