import Prospectus.Proofs.BatchRuns
import Prospectus.Proofs.JobProgress

/-!
# Topics that do not mind each other

Jobs that are done side by side see the files as the others have left them so
far.  If no job minds what the others do (`Independent`), each job goes the way
it would go in the world in which the topics are begun, and only the order of
events is left to chance.

The argument is an invariant (`Consistent`) of the jobs and the world: every job
has made some number of moves on its own way, a job that is at work finds its
path as at the beginning, and the files are those of the beginning but for the
summaries of the jobs whose work is done.  One move of any job keeps it
(`Consistent.move`): a move that writes nothing changes no files, and a move
that writes is the last of its job's work and touches one place.

A list may name a topic twice.  Different topics get along (`Compatible`) if it
is only the same topic whose jobs meet; without repetitions, topics that get
along do not mind each other (`Compatible.independent`).
-/

namespace Prospectus.Batch

open Storage

/-- **Topics that do not mind each other.**  The summarizer only computes, and
the document is found the same whatever summaries are there.  The summaries of
two topics have different places, and writing the one changes neither whether
the other's path exists nor whether it can be written. -/
structure Independent (b : Batch) (topics : List String) (start : World) :
    Prop where
  onlyComputes : b.summarizer.OnlyComputes
  steady : ∀ files, FileSystem.Reached (topics.map b.pathOf) start.files files →
    ∀ n, b.source.openAt n files = b.source.openAt start.opened start.files
  place_ne : ∀ (i j : Nat) topic other, i ≠ j → topics[i]? = some topic →
    topics[j]? = some other →
    ∀ l, start.files.place? (b.pathOf topic) = some l →
      start.files.place? (b.pathOf other) ≠ some l
  apart : ∀ files, FileSystem.Reached (topics.map b.pathOf) start.files files →
    ∀ (i j : Nat) topic other, i ≠ j → topics[i]? = some topic →
      topics[j]? = some other → ∀ text,
      FileSystem.SameAccess (b.pathOf topic) files
        (files.writeText (b.pathOf other) text).1

/-- **Topics that get along.**  The summarizer only computes, and the document
is found the same whatever summaries are there.  The summaries of different
topics have different places, and writing the one changes neither whether the
other's path exists nor how writing there is answered. -/
structure Compatible (b : Batch) (topics : List String) (start : World) : Prop where
  onlyComputes : b.summarizer.OnlyComputes
  steady : ∀ files, FileSystem.Reached (topics.map b.pathOf) start.files files →
    ∀ n, b.source.openAt n files = b.source.openAt start.opened start.files
  place_ne : ∀ topic ∈ topics, ∀ other ∈ topics, topic ≠ other →
    ∀ l, start.files.place? (b.pathOf topic) = some l →
      start.files.place? (b.pathOf other) ≠ some l
  apart : ∀ files, FileSystem.Reached (topics.map b.pathOf) start.files files →
    ∀ topic ∈ topics, ∀ other ∈ topics, topic ≠ other → ∀ text,
      FileSystem.SameAccess (b.pathOf topic) files
        (files.writeText (b.pathOf other) text).1

/-- Topics whose summaries lie beside each other in a directory that is there,
each under its own name, get along. -/
theorem compatible_of_sitedAt {b : Batch} {topics : List String} {start : World}
    (hpure : b.summarizer.OnlyComputes)
    (hsteady : ∀ n files, b.source.openAt n files =
      b.source.openAt start.opened start.files)
    {parent : Location} {name : String → String}
    (hsited : ∀ topic ∈ topics,
      start.files.SitedAt (b.pathOf topic) parent (name topic))
    (hnames : ∀ topic ∈ topics, ∀ other ∈ topics, name topic = name other →
      topic = other) :
    b.Compatible topics start := by
  have hne : ∀ topic ∈ topics, ∀ other ∈ topics, topic ≠ other →
      parent ++ [name topic] ≠ parent ++ [name other] := by
    intro topic htopic other hother htopics hsame
    exact htopics (hnames topic htopic other hother (by simpa using hsame))
  refine ⟨hpure, fun files _ n => hsteady n files, ?_, ?_⟩
  · intro topic htopic other hother htopics l hl hl'
    rw [(hsited topic htopic).place?_eq] at hl
    rw [(hsited other hother).place?_eq] at hl'
    exact hne topic htopic other hother htopics
      (Option.some.inj (hl.trans hl'.symm))
  · intro files hreached topic htopic other hother htopics text
    have htopicAt := (hsited topic htopic).later hreached.extends
    have hotherAt := (hsited other hother).later hreached.extends
    exact htopicAt.sameAccess_writeText hotherAt
      (hne topic htopic other hother htopics) text

/-! ## One move in like worlds -/

/-- What the work on a job has come to, told or not. -/
def Job.conclusion? (job : Job) : Option (Except Error Outcome) :=
  match job.stage with
  | some (.tell result) | some (.finished result) => some result
  | _ => none

/-- The work on a job is done when it is one move from its end at most. -/
theorem Job.conclusion?_eq_none_iff {job : Job} :
    job.conclusion? = none ↔ 1 < job.remaining := by
  obtain ⟨index, topic, stage⟩ := job
  cases stage with
  | none => simp [conclusion?, remaining]
  | some stage => cases stage <;> simp [conclusion?, remaining]

/-- Once the work is done, what it has come to stays. -/
theorem conclusion?_move {b : Batch} {job : Job} {w : World}
    {result : Except Error Outcome} (h : job.conclusion? = some result) :
    (b.move job w).1.conclusion? = some result := by
  cases hstage : job.stage with
  | none => simp [Job.conclusion?, hstage] at h
  | some stage =>
      simp only [Job.conclusion?, hstage] at h
      cases stage with
      | tell other =>
          cases h
          rw [move_tell b hstage]
          rfl
      | finished other =>
          cases h
          rw [move_finished b hstage]
          simp [Job.conclusion?, hstage]
      | check | extract | summarize prompt | write text => cases h

/-- A job that is to write its summary writes it. -/
theorem files_move_of_write (b : Batch) {job : Job} {text : String}
    (h : job.stage = some (.write text)) (w : World) :
    (b.move job w).2.files = (w.files.writeText (b.pathOf job.topic) text).1 := by
  rw [move_some b h (by simp), step_write]

/-- A job at any other stage changes no files. -/
theorem files_move_of_ne {b : Batch} (hpure : b.summarizer.OnlyComputes) {job : Job}
    (h : ∀ text, job.stage ≠ some (.write text)) (w : World) :
    (b.move job w).2.files = w.files := by
  obtain ⟨answer, hgenerate⟩ := hpure
  cases hstage : job.stage with
  | none => rw [move_none b hstage]; rfl
  | some stage =>
      cases stage with
      | tell result => rw [move_tell b hstage, Job.files_ended]
      | finished result => rw [move_finished b hstage]
      | write text => exact absurd hstage (h text)
      | check => rw [move_some b hstage (by simp), step_check_snd]
      | extract => rw [move_some b hstage (by simp), step_extract]
      | summarize prompt =>
          rw [move_some b hstage (by simp), step_summarize]
          dsimp only
          rw [hgenerate]

/-- **All that a move can do to the files**: a job that is to write its summary
writes it, and a job at any other stage changes nothing. -/
theorem files_move_cases {b : Batch} (hpure : b.summarizer.OnlyComputes)
    (job : Job) (w : World) :
    (∃ text, job.stage = some (.write text) ∧
      (b.move job w).2.files = (w.files.writeText (b.pathOf job.topic) text).1) ∨
    (∀ text, job.stage ≠ some (.write text)) ∧ (b.move job w).2.files = w.files := by
  by_cases hwrite : ∃ text, job.stage = some (.write text)
  · obtain ⟨text, hwrite⟩ := hwrite
    exact .inl ⟨text, hwrite, files_move_of_write b hwrite w⟩
  · have hquiet : ∀ text, job.stage ≠ some (.write text) :=
      fun text hstage => hwrite ⟨text, hstage⟩
    exact .inr ⟨hquiet, files_move_of_ne hpure hquiet w⟩

/-- A job whose work is done makes the same move in any world. -/
theorem move_eq_of_conclusion {b : Batch} {job : Job} (h : job.remaining ≤ 1)
    (w other : World) :
    (b.move job w).1 = (b.move job other).1 := by
  cases hstage : job.stage with
  | none => simp [Job.remaining, hstage] at h
  | some stage =>
      cases stage with
      | tell result => rw [move_tell b hstage, move_tell b hstage]; rfl
      | finished result => rw [move_finished b hstage, move_finished b hstage]
      | check | extract | summarize prompt | write text =>
        simp [Job.remaining, hstage] at h

/-- **In like worlds a job makes the same move.** -/
theorem Alike.move_eq {b : Batch} {job : Job} {w other : World}
    (h : b.Alike job.topic w other) (hpure : b.summarizer.OnlyComputes) :
    (b.move job w).1 = (b.move job other).1 := by
  obtain ⟨answer, hgenerate⟩ := hpure
  cases hstage : job.stage with
  | none => rw [move_none b hstage, move_none b hstage]
  | some stage =>
      cases stage with
      | tell result | finished result =>
          exact move_eq_of_conclusion (by simp [Job.remaining, hstage]) w other
      | check =>
          rw [move_some b hstage (by simp), move_some b hstage (by simp),
            step_check, step_check, h.passesOver_eq]
          by_cases hpass : b.passesOver job.topic other.files = true
          · rw [if_pos hpass, if_pos hpass]
          · rw [if_neg hpass, if_neg hpass]
      | extract =>
          rw [move_some b hstage (by simp), move_some b hstage (by simp),
            step_extract, step_extract, h.promptFor_eq]
      | summarize prompt =>
          rw [move_some b hstage (by simp), move_some b hstage (by simp),
            step_summarize, step_summarize, hgenerate, hgenerate]
      | write text =>
          rw [move_some b hstage (by simp), move_some b hstage (by simp),
            step_write, step_write, h.conclude_eq]

/-- A job writes its summary, if it does, in the last move of its work. -/
theorem write_of_move_written {b : Batch} {job : Job} {w : World}
    (hwork : 1 < job.remaining)
    (h : (b.move job w).1.conclusion? = some (.ok .written)) :
    ∃ text, job.stage = some (.write text) := by
  cases hstage : job.stage with
  | none =>
      rw [move_none b hstage] at h
      cases h
  | some stage =>
      cases stage with
      | tell result | finished result => simp [Job.remaining, hstage] at hwork
      | write text => exact ⟨text, rfl⟩
      | check =>
          rw [move_some b hstage (by simp), step_check] at h
          by_cases hpass : b.passesOver job.topic w.files = true
          · simp [Job.conclusion?, hpass] at h
          · simp [Job.conclusion?, hpass] at h
      | extract =>
          rw [move_some b hstage (by simp), step_extract] at h
          cases hprompt : b.promptFor job.topic w.opened w.files with
          | ok prompt => simp [Job.conclusion?, hprompt] at h
          | error e =>
              by_cases hfatal : e.isFatal = true <;>
                simp [Job.conclusion?, hprompt, settle, hfatal] at h
      | summarize prompt =>
          rw [move_some b hstage (by simp), step_summarize] at h
          cases hanswer :
              (b.summarizer.generate b.options.model prompt w.files).2 with
          | ok text => simp [Job.conclusion?, hanswer] at h
          | error e =>
              by_cases hfatal : e.isFatal = true <;>
                simp [Job.conclusion?, hanswer, settle, hfatal] at h

/-! ## The invariant -/

/-- **The jobs and the world are consistent.**  Every job has made some moves on
the way that it goes in the first world.  A job that is at work finds its path
as at the beginning.  Where the work on a job has come to a summary, the summary
is there; every other file is as at the beginning. -/
structure Consistent (b : Batch) (topics : List String) (start : World)
    (jobs : List Job)
    (w : World) : Prop where
  length_eq : jobs.length = topics.length
  onTheWay : ∀ i topic, topics[i]? = some topic →
    ∃ k, jobs[i]? = some (b.jobAfter start { index := i, topic } k)
  reached : FileSystem.Reached (topics.map b.pathOf) start.files w.files
  access : ∀ (i : Nat) topic job, topics[i]? = some topic → jobs[i]? = some job →
    1 < job.remaining → FileSystem.SameAccess (b.pathOf topic) start.files w.files
  written : ∀ i topic job, topics[i]? = some topic → jobs[i]? = some job →
    job.conclusion? = some (.ok .written) →
      ∃ text l, (b.jobAfter start { index := i, topic } 4).stage =
        some (.write text) ∧
        start.files.place? (b.pathOf topic) = some l ∧
        w.files.file? l = some (Text.encodeUtf8 text)
  untouched : ∀ l, (∀ (i : Nat) topic job, topics[i]? = some topic →
    jobs[i]? = some job →
    job.conclusion? = some (.ok .written) →
    start.files.place? (b.pathOf topic) ≠ some l) →
      w.files.file? l = start.files.file? l

/-- A job on its way is still the job of its topic. -/
theorem topic_jobAfter (b : Batch) (w : World) (job : Job) (k : Nat) :
    (b.jobAfter w job k).topic = job.topic := by
  induction k with
  | zero => rfl
  | succ k ih => rw [jobAfter_succ, (move_job b _ w).2, ih]

/-- What stands in a list after one job has been replaced. -/
theorem getElem?_set_cases {jobs : List Job} {k i : Nat} {next job : Job}
    (h : (jobs.set k next)[i]? = some job) :
    (i = k ∧ job = next) ∨ (i ≠ k ∧ jobs[i]? = some job) := by
  by_cases hik : i = k
  · subst hik
    have hlt : i < jobs.length := by simpa using (List.getElem?_eq_some_iff.mp h).1
    rw [List.getElem?_set_self hlt] at h
    exact Or.inl ⟨rfl, (Option.some.inj h).symm⟩
  · rw [List.getElem?_set_ne (Ne.symm hik)] at h
    exact Or.inr ⟨hik, h⟩

/-- After a move, a job whose work has come to something still has come to it. -/
theorem exists_conclusion_move {b : Batch} {w : World} {jobs : List Job} {k i : Nat}
    {job done : Job} {result : Except Error Outcome} (hjob : jobs[k]? = some job)
    (hdone : jobs[i]? = some done) (hresult : done.conclusion? = some result) :
    ∃ after, (jobs.set k (b.move job w).1)[i]? = some after ∧
      after.conclusion? = some result := by
  by_cases hik : i = k
  · subst hik
    cases hjob.symm.trans hdone
    exact ⟨_, List.getElem?_set_self (List.getElem?_eq_some_iff.mp hjob).1,
      conclusion?_move hresult⟩
  · exact ⟨done, by rw [List.getElem?_set_ne (Ne.symm hik), hdone], hresult⟩

section Step

variable {b : Batch} {topics : List String} {start w : World} {jobs : List Job}
  {k : Nat} {topic : String} {job : Job}

/-- A job makes the same move as in the first world. -/
theorem Consistent.move_eq (h : b.Consistent topics start jobs w)
    (hind : b.Independent topics start) (houtput : b.OutputStays start.files)
    (htopic : topics[k]? = some job.topic) (hjob : jobs[k]? = some job) :
    (b.move job w).1 = (b.move job start).1 := by
  by_cases hwork : 1 < job.remaining
  · -- to a job at work, the world is like the first one
    have halike : b.Alike job.topic w start :=
      { openAt_eq := hind.steady _ h.reached _
        access := (h.access k job.topic job htopic hjob hwork).symm
        output := houtput.later h.reached.extends
        output_other := houtput }
    exact halike.move_eq hind.onlyComputes
  · exact move_eq_of_conclusion (Nat.le_of_not_lt hwork) w start

/-- After a move, every job is still on its way. -/
theorem Consistent.onTheWay_move (h : b.Consistent topics start jobs w)
    (hind : b.Independent topics start) (houtput : b.OutputStays start.files)
    (htopic : topics[k]? = some topic) (hjob : jobs[k]? = some job) (i : Nat)
    (other : String) (hother : topics[i]? = some other) :
    ∃ m, (jobs.set k (b.move job w).1)[i]? =
      some (b.jobAfter start { index := i, topic := other } m) := by
  obtain ⟨m, hm⟩ := h.onTheWay i other hother
  by_cases hik : i = k
  · subst hik
    cases htopic.symm.trans hother
    cases hjob.symm.trans hm
    refine ⟨m + 1, ?_⟩
    have hname : topics[i]? =
        some (b.jobAfter start { index := i, topic } m).topic := by
      rw [topic_jobAfter, htopic]
    rw [List.getElem?_set_self (List.getElem?_eq_some_iff.mp hjob).1, jobAfter_succ,
      h.move_eq hind houtput hname hjob]
  · exact ⟨m, by rw [List.getElem?_set_ne (Ne.symm hik), hm]⟩

/-- A move that writes nothing keeps the invariant. -/
theorem Consistent.move_of_ne (h : b.Consistent topics start jobs w)
    (hind : b.Independent topics start) (houtput : b.OutputStays start.files)
    (htopic : topics[k]? = some topic) (hjob : jobs[k]? = some job)
    (hquiet : ∀ text, job.stage ≠ some (.write text)) :
    b.Consistent topics start (jobs.set k (b.move job w).1) (b.move job w).2 := by
  have hfiles := files_move_of_ne hind.onlyComputes hquiet w
  have hremaining := remaining_move b job w
  -- only a job whose summary was there before has come to one
  have hbefore : (b.move job w).1.conclusion? = some (.ok .written) →
      job.conclusion? = some (.ok .written) := by
    intro hend
    cases hwork : job.conclusion? with
    | none =>
        obtain ⟨text, hwrite⟩ :=
          write_of_move_written (Job.conclusion?_eq_none_iff.mp hwork) hend
        exact absurd hwrite (hquiet text)
    | some result => rw [← hend, conclusion?_move hwork]
  refine ⟨by rw [List.length_set, h.length_eq],
    h.onTheWay_move hind houtput htopic hjob, hfiles ▸ h.reached, ?_, ?_, ?_⟩
  · intro i other job' hother hjob' hwork
    rw [hfiles]
    rcases getElem?_set_cases hjob' with ⟨rfl, rfl⟩ | ⟨-, hold⟩
    · exact h.access i other job hother hjob (by omega)
    · exact h.access i other job' hother hold hwork
  · intro i other job' hother hjob' hend
    rw [hfiles]
    rcases getElem?_set_cases hjob' with ⟨rfl, rfl⟩ | ⟨-, hold⟩
    · exact h.written i other job hother hjob (hbefore hend)
    · exact h.written i other job' hother hold hend
  · intro l hl
    rw [hfiles]
    refine h.untouched l ?_
    intro i other job' hother hold hend
    obtain ⟨after, hafter, hend'⟩ := exists_conclusion_move hjob hold hend
    exact hl i other after hother hafter hend'

/-- A job that is to write its summary has four moves behind it. -/
theorem Consistent.stage_four (h : b.Consistent topics start jobs w)
    (htopic : topics[k]? = some topic) (hjob : jobs[k]? = some job) {text : String}
    (hwrite : job.stage = some (.write text)) :
    job.topic = topic ∧
      (b.jobAfter start { index := k, topic } 4).stage = some (.write text) := by
  obtain ⟨m, hm⟩ := h.onTheWay k topic htopic
  cases hjob.symm.trans hm
  have htwo : (b.jobAfter start { index := k, topic } m).remaining = 2 := by
    rw [Job.remaining, hwrite]
  have hnew : ({ index := k, topic } : Job).stage = none := rfl
  have hcount := remaining_jobAfter b start hnew m
  have hfour : m = 4 := by omega
  subst hfour
  exact ⟨topic_jobAfter b start _ 4, hwrite⟩

/-- A move that writes a summary keeps the invariant: the work on the job is
done, and no other minds. -/
theorem Consistent.move_of_write (h : b.Consistent topics start jobs w)
    (hind : b.Independent topics start) (houtput : b.OutputStays start.files)
    (htopic : topics[k]? = some topic) (hjob : jobs[k]? = some job) {text : String}
    (hwrite : job.stage = some (.write text)) :
    b.Consistent topics start (jobs.set k (b.move job w).1) (b.move job w).2 := by
  obtain ⟨rfl, hfour⟩ := h.stage_four htopic hjob hwrite
  have hfiles := files_move_of_write b hwrite w
  have hend : (b.move job w).1.stage =
      some
        (.tell (b.conclude job.topic
          (w.files.writeText (b.pathOf job.topic) text))) := by
    rw [move_some b hwrite (by simp), step_write]
  have hconclusion : (b.move job w).1.conclusion? =
      some (b.conclude job.topic
        (w.files.writeText (b.pathOf job.topic) text)) := by
    rw [Job.conclusion?, hend]
  have hplace := h.reached.extends.place?_eq (b.pathOf job.topic)
  refine ⟨by rw [List.length_set, h.length_eq],
    h.onTheWay_move hind houtput htopic hjob, hfiles ▸ h.reached.write
      (List.mem_map_of_mem (List.mem_of_getElem? htopic)) text, ?_, ?_, ?_⟩
  -- the work on the job that wrote is done, and the others do not mind
  · intro i other job' hother hjob' hwork
    rcases getElem?_set_cases hjob' with ⟨-, rfl⟩ | ⟨hik, hold⟩
    · rw [Job.remaining, hend] at hwork
      exact absurd hwork (Nat.lt_irrefl 1)
    · rw [hfiles]
      exact (h.access i other job' hother hold hwork).trans
        (hind.apart _ h.reached i k other job.topic hik hother htopic text)
  -- its own summary is there, and those of others have other places
  · intro i other job' hother hjob' hwritten
    rw [hfiles]
    rcases getElem?_set_cases hjob' with ⟨rfl, rfl⟩ | ⟨hik, hold⟩
    · cases htopic.symm.trans hother
      rw [hconclusion, Option.some.injEq] at hwritten
      obtain ⟨l, hl, hfile⟩ :=
        FileSystem.file?_of_writeText_ok (conclude_eq_written_iff.mp hwritten)
      exact ⟨text, l, hfour, hplace ▸ hl, by rw [hfile, if_pos rfl]⟩
    · obtain ⟨text', l, hfour', hl, hfile⟩ :=
        h.written i other job' hother hold hwritten
      have hne := hind.place_ne i k other job.topic hik hother htopic l hl
      rw [← hplace] at hne
      exact ⟨text', l, hfour', hl,
        by rw [FileSystem.file?_writeText_of_ne hne, hfile]⟩
  · intro l hl
    rw [hfiles]
    -- a job that has come to a summary does not have its place here
    have helsewhere : (w.files.writeText (b.pathOf job.topic) text).2 = .ok () →
        w.files.place? (b.pathOf job.topic) ≠ some l := by
      intro hok
      rw [hplace]
      refine hl k job.topic _ htopic
        (List.getElem?_set_self (List.getElem?_eq_some_iff.mp hjob).1) ?_
      rw [hconclusion, conclude_eq_written_iff.mpr hok]
    rw [FileSystem.file?_writeText_eq helsewhere]
    refine h.untouched l ?_
    intro i other job' hother hold hwritten
    obtain ⟨after, hafter, hwritten'⟩ := exists_conclusion_move hjob hold hwritten
    exact hl i other after hother hafter hwritten'

/-- **One move keeps the invariant.** -/
theorem Consistent.move (h : b.Consistent topics start jobs w)
    (hind : b.Independent topics start) (houtput : b.OutputStays start.files)
    (hjob : jobs[k]? = some job) :
    b.Consistent topics start (jobs.set k (b.move job w).1) (b.move job w).2 := by
  have hlt : k < topics.length :=
    h.length_eq ▸ (List.getElem?_eq_some_iff.mp hjob).1
  have htopic := List.getElem?_eq_getElem hlt
  rcases files_move_cases hind.onlyComputes job w with ⟨text, hwrite, -⟩ | ⟨hquiet, -⟩
  · exact h.move_of_write hind houtput htopic hjob hwrite
  · exact h.move_of_ne hind houtput htopic hjob hquiet

end Step

end Prospectus.Batch
