import Prospectus.Proofs.Announcements
import Prospectus.Proofs.WrittenSummaries

/-!
# Errors that end a batch

With one worker a batch ends with an error in one of three ways: the output
directory cannot be made, the document cannot be opened at the beginning, or a
topic comes to a fatal error.  In the first two cases no topic has been touched
(`Untouched`).  In the third the run is cut at that topic (`CutAt`): up to it
the run is the run of the topics before it and nothing else, its start is told,
and its end is not.

What the topic itself has done by then is said once (`process_error`): the
document was opened once more, the summarizer may have been asked, and no file
was written.
-/

namespace Prospectus.Batch

open Storage

/-! ## The topic that ends the batch -/

/-- **A topic that ends the batch** does so with a fatal error.  It has opened
the document.  Either that was all, or it has asked the summarizer, and then
made some directories at most. -/
theorem process_error {b : Batch} {topic : String} {w later : World} {e : Error}
    (h : b.process topic w = (.error e, later)) :
    e.kind = .fatal ∧ later.events = w.events ∧ later.opened = w.opened + 1 ∧
      ((b.promptFor topic w.opened w.files = .error e ∧ later.calls = w.calls ∧
        later.files = w.files) ∨
        ∃ prompt, b.promptFor topic w.opened w.files = .ok prompt ∧
          later.calls = w.calls ++ [(b.options.model, prompt)] ∧
          (b.summarizer.generate b.options.model prompt
            w.files).1.OnlyMakesDirectories later.files) := by
  rcases process_cases b topic w with
    ⟨-, hprocess⟩ | ⟨-, ⟨cause, hprompt, hprocess⟩ |
      ⟨prompt, asked, hprompt, hasked, hrest⟩⟩
  · cases hprocess.symm.trans h
  · obtain ⟨hresult, rfl⟩ := Prod.mk.inj (hprocess.symm.trans h)
    obtain ⟨rfl, hkind⟩ := settle_eq_error hresult
    exact ⟨hkind, rfl, rfl, Or.inl ⟨hprompt, rfl, rfl⟩⟩
  · rcases hrest with ⟨cause, -, hprocess⟩ | ⟨text, -, hprocess⟩
    · obtain ⟨hresult, rfl⟩ := Prod.mk.inj (hprocess.symm.trans h)
      exact ⟨(settle_eq_error hresult).2, rfl, rfl,
        Or.inr ⟨prompt, hprompt, rfl, hasked ▸ .refl _⟩⟩
    · have honly : ∀ fault, (asked.1.writeText (b.pathOf topic) text).2 =
          .error fault →
          asked.1.OnlyMakesDirectories
            (asked.1.writeText (b.pathOf topic) text).1 :=
        fun _ => FileSystem.onlyMakesDirectories_of_writeText_error
      generalize asked.1.writeText (b.pathOf topic) text = written at hprocess honly
      obtain ⟨hresult, rfl⟩ := Prod.mk.inj (hprocess.symm.trans h)
      rcases conclude_cases b topic written with ⟨-, hend⟩ | ⟨fault, hfault, hend⟩
      · cases hend.symm.trans hresult
      · have hkind : e.kind = .fatal := by
          rcases hend with hend | hend
          · cases hend.symm.trans hresult
          · cases hend.symm.trans hresult
            rfl
        exact ⟨hkind, rfl, rfl,
          Or.inr ⟨prompt, hprompt, rfl, hasked ▸ honly fault hfault⟩⟩

/-! ## The topics before it -/

/-- Topics that are clean each by itself are a clean list. -/
theorem cleanTopics_of_forall {topics : List String}
    (h : ∀ topic ∈ topics, cleanTopics [topic] = [topic]) :
    cleanTopics topics = topics := by
  induction topics with
  | nil => rfl
  | cons topic rest ih =>
      obtain ⟨hfirst, hrest⟩ := List.forall_mem_cons.mp h
      have hsplit : cleanTopics (topic :: rest) =
          cleanTopics [topic] ++ cleanTopics rest := by
        rw [cleanTopics, cleanTopics, cleanTopics, ← List.filter_append,
          ← List.map_append]
        rfl
      rw [hsplit, hfirst, ih hrest]
      rfl

/-- The first topics of a clean list are a clean list. -/
theorem cleanTopics_take (topics : List String) (i : Nat) :
    cleanTopics ((cleanTopics topics).take i) = (cleanTopics topics).take i :=
  cleanTopics_of_forall fun _ htopic =>
    cleanTopics_singleton (List.mem_of_mem_take htopic)

/-- The jobs of the first topics are the first jobs. -/
theorem jobsOf_take (topics : List String) (i : Nat) :
    jobsOf (topics.take i) = (jobsOf topics).take i := by
  refine List.ext_getElem? fun j => ?_
  rw [getElem?_jobsOf, List.getElem?_take, List.getElem?_take]
  by_cases hj : j < i
  · rw [if_pos hj, if_pos hj, getElem?_jobsOf]
  · rw [if_neg hj, if_neg hj]
    rfl

/-- Up to a topic, the turns are those of the topics before it. -/
theorem worldBefore_take (b : Batch) (topics : List String) (w : World)
    {i j : Nat} (hj : j ≤ i) :
    b.worldBefore ((cleanTopics topics).take i) w j = b.worldBefore topics w j := by
  rw [worldBefore, worldBefore, cleanTopics_take, jobsOf_take, List.take_take,
    Nat.min_eq_left hj]

/-- **The run of the topics before a cut**, in a batch with one worker. -/
theorem run_take {b : Batch} (hworkers : b.options.workers ≤ 1)
    {topics : List String} {w : World}
    (hstart : b.CanStart w) {i : Nat} {outcomes : List Outcome}
    (h : b.runInOrder ((jobsOf (cleanTopics topics)).take i) (b.opening w) =
      (b.worldBefore topics w i, .ok outcomes)) (turns :
      List Nat) (started finished : Time.Moment) :
    b.run turns ((cleanTopics topics).take i) started finished w =
      (b.worldBefore topics w i,
        .ok (reportOn started finished
          (((cleanTopics topics).take i).zip outcomes))) := by
  rw [run_of_canStart hstart, cleanTopics_take, jobsOf_take,
    execute_eq_runInOrder hworkers, h]
  rfl

/-! ## The cut -/

/-- No topic has been touched: nothing was told, the summarizer was not asked,
and no file was written, though directories may have been made. -/
structure Untouched (w later : World) : Prop where
  events_eq : later.events = w.events
  calls_eq : later.calls = w.calls
  files : w.files.OnlyMakesDirectories later.files

/-- **A run is cut at a topic.** -/
structure CutAt (b : Batch) (topics : List String) (w later : World) (e : Error)
    (i : Nat) (topic : String)
    (outcomes : List Outcome) : Prop where
  topic_eq : (cleanTopics topics)[i]? = some topic
  length_eq : outcomes.length = i
  /-- The topics before it alone make a run that gives a report. -/
  before : ∀ turns started finished,
    b.run turns ((cleanTopics topics).take i) started finished w =
    (b.worldBefore topics w i,
      .ok (reportOn started finished (((cleanTopics topics).take i).zip outcomes)))
  /-- Each of them was taken to its end in its turn. -/
  ended : ∀ j t, j < i → (cleanTopics topics)[j]? = some t →
    ∃ outcome, outcomes[j]? = some outcome ∧
    b.complete { index := j, topic := t } (b.worldBefore topics w j) =
      ({ index := j, topic := t, stage := some (.finished (.ok outcome)) },
        b.worldBefore topics w (j + 1))
  /-- The topic's own turn ends the batch, and its world is the last one. -/
  fatal : b.process topic ((b.worldBefore topics w i).tell (.started i topic)) =
    (.error e, later)
  /-- Starts and ends are told of the topics before it, of the topic its start,
  and nothing else. -/
  told : later.events =
    w.events ++
      inTurn (((cleanTopics topics).take i).zip (outcomes.map (·.status))) ++
    [.started i topic]
  opened : later.opened = (b.worldBefore topics w i).opened + 1
  /-- The topic asks the summarizer once at most, and no file is written for it. -/
  work : (later.calls = (b.worldBefore topics w i).calls ∧
    later.files = (b.worldBefore topics w i).files) ∨
    ∃ prompt, b.promptFor topic (b.worldBefore topics w i).opened
      (b.worldBefore topics w i).files = .ok prompt ∧
      later.calls = (b.worldBefore topics w i).calls ++
        [(b.options.model, prompt)] ∧
      (b.summarizer.generate b.options.model prompt
        (b.worldBefore topics w i).files).1.OnlyMakesDirectories later.files

section CutAt

variable {b : Batch} {topics : List String} {w later : World} {e : Error}
  {i : Nat} {topic : String} {outcomes : List Outcome}

/-- Jobs in order that end with an error are cut at a topic. -/
theorem cutAt_of_runInOrder_error (hworkers : b.options.workers ≤ 1)
    (hstart : b.CanStart w)
    (h : b.runInOrder (jobsOf (cleanTopics topics)) (b.opening w) =
      (later, .error e)) :
    ∃ i topic outcomes, b.CutAt topics w later e i topic outcomes := by
  obtain ⟨i, job, outcomes, hjob, hbefore, hresult, hlater⟩ := runInOrder_error h
  rw [getElem?_jobsOf] at hjob
  obtain ⟨topic, htopic, rfl⟩ := Option.map_eq_some_iff.mp hjob
  rw [← worldBefore] at hbefore hresult hlater
  -- the topics before the cut, as a batch of their own
  have hclean : b.runInOrder
      (jobsOf (cleanTopics ((cleanTopics topics).take i))) (b.opening w) =
      (b.worldBefore topics w i, .ok outcomes) := by
    rw [cleanTopics_take, jobsOf_take, hbefore]
  obtain ⟨hlength, -, hturn⟩ := turns_of_runInOrder_ok hclean
  rw [cleanTopics_take] at hlength hturn
  have hi : i < (cleanTopics topics).length :=
    (List.getElem?_eq_some_iff.mp htopic).1
  -- the cut itself
  rw [complete_eq b rfl] at hresult hlater
  rw [Job.result_ended] at hresult
  have hfatal : b.process topic ((b.worldBefore topics w i).tell
      (.started i topic)) = (.error e, later) := by
    rw [hresult] at hlater
    exact Prod.ext hresult hlater
  obtain ⟨-, hevents, hopened, hwork⟩ := process_error hfatal
  have hbegun : (b.worldBefore topics w i).events =
      w.events ++ inTurn (((cleanTopics topics).take i).zip
        (outcomes.map (·.status))) := by
    have hexecute : b.execute [] (jobsOf ((cleanTopics topics).take i))
        (b.opening w) = (b.worldBefore topics w i, .ok outcomes) := by
      rw [execute_eq_runInOrder hworkers, jobsOf_take, hbefore]
    rw [events_of_execute_one hworkers hexecute, opening]
  refine ⟨i, topic, outcomes, htopic, ?_, run_take hworkers hstart hbefore, ?_,
    hfatal, ?_, hopened, ?_⟩
  · rw [hlength, List.length_take]
    omega
  · intro j t hj ht
    obtain ⟨outcome, houtcome, hcomplete⟩ :=
      hturn j t (by rw [List.getElem?_take, if_pos hj, ht])
    rw [worldBefore_take b topics w (Nat.le_of_lt hj),
      worldBefore_take b topics w hj] at hcomplete
    exact ⟨outcome, houtcome, hcomplete⟩
  · rw [hevents, World.tell, hbegun]
  · rcases hwork with ⟨-, hcalls, hfiles⟩ | ⟨prompt, hprompt, hcalls, hfiles⟩
    · exact Or.inl ⟨hcalls, hfiles⟩
    · exact Or.inr ⟨prompt, hprompt, hcalls, hfiles⟩

/-- If the summarizer only computes, the topic at a cut leaves every file as it
was. -/
theorem CutAt.onlyMakesDirectories (h : b.CutAt topics w later e i topic outcomes)
    (hpure : b.summarizer.OnlyComputes) :
    (b.worldBefore topics w i).files.OnlyMakesDirectories later.files := by
  obtain ⟨answer, hgenerate⟩ := hpure
  rcases h.work with ⟨-, hfiles⟩ | ⟨prompt, -, -, hfiles⟩
  · rw [hfiles]
    exact .refl _
  · rw [hgenerate] at hfiles
    exact hfiles

/-- If the summarizer only computes, the summaries of the topics before a cut
stay: at the path of each topic that was written stands the summary of the last
of them that wrote there. -/
theorem CutAt.readText_eq (h : b.CutAt topics w later e i topic outcomes)
    (hpure : b.summarizer.OnlyComputes)
    {j : Nat} {t : String} (ht : (cleanTopics topics)[j]? = some t)
    (hwritten : outcomes[j]? = some .written) :
    ∃ l text, b.WritesAt topics w j l text ∧ ∃ k last, j ≤ k ∧ k < i ∧
      b.WritesAt topics w k l last ∧
      (∀ m other, k < m → m < i → ¬ b.WritesAt topics w m l other) ∧
      later.files.readText (b.pathOf t) = .ok last := by
  have hj : j < i := h.length_eq ▸ (List.getElem?_eq_some_iff.mp hwritten).1
  have hi : i < (cleanTopics topics).length :=
    (List.getElem?_eq_some_iff.mp h.topic_eq).1
  obtain ⟨outcome, houtcome, hcomplete⟩ := h.ended j t hj ht
  cases hwritten.symm.trans houtcome
  obtain ⟨l, text, hwrites⟩ :=
    writesAt_of_written hpure ht (congrArg (·.1.result) hcomplete)
  obtain ⟨k, last, hjk, hki, hlastWrites, hlast⟩ := exists_last_writesAt hwrites hj
  have hfile := file?_last_written hpure hlastWrites hki (Nat.le_of_lt hi) hlast
  have honly := h.onlyMakesDirectories hpure
  exact ⟨l, text, hwrites, k, last, hjk, hki, hlastWrites, hlast,
    readText_of_writesAt hpure ht hwrites hj (Nat.le_of_lt hi) honly.laterState
      honly.file?_eq hfile⟩

end CutAt

/-- Making the output directory makes directories only. -/
theorem onlyMakesDirectories_prepareOutput (fs : FileSystem) (path : String) :
    fs.OnlyMakesDirectories (prepareOutput fs path).1 := by
  have honly := FileSystem.onlyMakesDirectories_makeDirectories fs path
  unfold prepareOutput
  generalize fs.makeDirectories path = made at honly ⊢
  obtain ⟨files, result⟩ := made
  cases result <;> exact honly

/-- An output directory that cannot be made is a fatal error. -/
theorem kind_of_prepareOutput {fs : FileSystem} {path : String} {e : Error}
    (h : (prepareOutput fs path).2 = .error e) : e.kind = .fatal := by
  unfold prepareOutput at h
  generalize fs.makeDirectories path = made at h
  obtain ⟨files, result⟩ := made
  cases result with
  | ok u => cases h
  | error fault =>
      cases h
      rfl

/-- **A fatal error cuts a run at a clean point.**  With one worker, a run ends
with an error only if the error is fatal, and in one of three ways.  The output
directory could not be made, or the document could not be opened at the
beginning: then no topic has been touched.  Or the run is cut at a topic: the
topics before it have been taken to their ends, just as in a run without it and
the topics after it; its start was told and not its end; the error is its own;
and nothing was done after it.  If the summarizer only computes, the summaries
that were written stay in the files. -/
theorem run_cut_by_fatal_error {b : Batch} (hworkers : b.options.workers ≤ 1)
    {turns : List Nat} {topics : List String} {started finished : Time.Moment}
    {w later : World} {e : Error}
    (hrun : b.run turns topics started finished w = (later, .error e)) :
    e.kind = .fatal ∧
      (((prepareOutput w.files b.output).2 = .error e ∧
        later.opened = w.opened ∧ Untouched w later) ∨
        (∃ cause, (prepareOutput w.files b.output).2 = .ok () ∧
          b.source.openAt w.opened later.files = .error cause ∧
          e = .openDocument b.source.describe cause.message ∧
          later.opened = w.opened + 1 ∧
          Untouched w later) ∨
        ∃ i topic outcomes, b.CutAt topics w later e i topic outcomes ∧
          (b.summarizer.OnlyComputes → ∀ j t, (cleanTopics topics)[j]? = some t →
            outcomes[j]? = some .written → ∃ l text, b.WritesAt topics w j l text ∧
              ∃ k last, j ≤ k ∧ k < i ∧ b.WritesAt topics w k l last ∧
                (∀ m other, k < m → m < i → ¬ b.WritesAt topics w m l other) ∧
                later.files.readText (b.pathOf t) = .ok last)) := by
  have honly := onlyMakesDirectories_prepareOutput w.files b.output
  rcases run_cases b turns topics started finished w with
    ⟨cause, hprepared, hbegun⟩ | ⟨cause, hprepared, hopen, hbegun⟩ | hstart
  · obtain ⟨rfl, hcause⟩ := Prod.mk.inj (hbegun.symm.trans hrun)
    cases hcause
    exact ⟨kind_of_prepareOutput hprepared,
      Or.inl ⟨hprepared, rfl, rfl, rfl, honly⟩⟩
  · obtain ⟨rfl, hcause⟩ := Prod.mk.inj (hbegun.symm.trans hrun)
    cases hcause
    exact ⟨rfl,
      Or.inr (Or.inl ⟨cause, hprepared, hopen, rfl, rfl, rfl, rfl, honly⟩)⟩
  · rw [run_of_canStart hstart, execute_eq_runInOrder hworkers] at hrun
    generalize hexecute : b.runInOrder (jobsOf (cleanTopics topics))
        (b.opening w) = executed at hrun
    obtain ⟨world, result⟩ := executed
    cases result with
    | ok outcomes => simp [Except.map] at hrun
    | error cause =>
        simp only [Except.map, Prod.mk.injEq, Except.error.injEq] at hrun
        obtain ⟨rfl, rfl⟩ := hrun
        obtain ⟨i, topic, outcomes, hcut⟩ :=
          cutAt_of_runInOrder_error hworkers hstart hexecute
        exact ⟨(process_error hcut.fatal).1,
          Or.inr (Or.inr ⟨i, topic, outcomes, hcut, fun hpure j t ht hwritten =>
            hcut.readText_eq hpure ht hwritten⟩)⟩

/-- A summarizer that gives the prompt back, but for one prompt: there its
template is missing. -/
def forgetful : Summarizer := .ofFunction "forgetful" fun _ prompt =>
  if prompt = "Courts?" then .error (.promptTemplate "courts" .missing)
    else .ok prompt

/-- The batch on topics and namesakes, with that summarizer. -/
def forgetfulBatch : Batch := { namesakesBatch with summarizer := forgetful }

/-- Of three topics the second ends the batch.  The first has been told of and
keeps its summary; the third is not begun. -/
theorem forgetfulBatch_cut_at_second_topic :
    (forgetfulBatch.run [] ["Law", "Art", "./Law"] newYear newYear bareWorld).2 =
        .error (.promptTemplate "courts" .missing) ∧
      ∃ outcomes,
        forgetfulBatch.CutAt ["Law", "Art", "./Law"] bareWorld
          (forgetfulBatch.run [] ["Law", "Art", "./Law"] newYear newYear
            bareWorld).1
          (.promptTemplate "courts" .missing) 1 "Art" outcomes ∧
        outcomes[0]? = some .written ∧
        ∃ text, (forgetfulBatch.run [] ["Law", "Art", "./Law"] newYear newYear
          bareWorld).1.files.readText
          (forgetfulBatch.pathOf "Law") = .ok text := by
  have herror : (forgetfulBatch.run [] ["Law", "Art", "./Law"] newYear newYear
      bareWorld).2 =
      .error (.promptTemplate "courts" .missing) := by decide +kernel
  have hevents : (forgetfulBatch.run [] ["Law", "Art", "./Law"] newYear newYear
      bareWorld).1.events.getLast? =
      some (.started 1 "Art") := by decide +kernel
  have hprepared : (prepareOutput bareWorld.files forgetfulBatch.output).2 =
      .ok () := by decide +kernel
  have hwritten : (forgetfulBatch.complete { index := 0, topic := "Law" }
      (forgetfulBatch.worldBefore ["Law", "Art", "./Law"] bareWorld
        0)).1.result = .ok .written := by
    decide +kernel
  have hpure : forgetfulBatch.summarizer.OnlyComputes := ⟨_, fun _ _ _ => rfl⟩
  have hlaw : (cleanTopics ["Law", "Art", "./Law"])[0]? = some "Law" := by
    decide +kernel
  generalize hrun : forgetfulBatch.run [] ["Law", "Art", "./Law"] newYear
      newYear bareWorld = ran
    at herror hevents ⊢
  obtain ⟨-, ⟨hunmade, -⟩ | ⟨cause, -, hopen, -⟩ |
    ⟨i, topic, outcomes, hcut, hkept⟩⟩ :=
    run_cut_by_fatal_error (by decide) (hrun.trans (Prod.ext rfl herror))
  · cases hprepared.symm.trans hunmade
  · cases hopen
  · rw [hcut.told, List.getLast?_append] at hevents
    cases hevents
    obtain ⟨outcome, houtcome, hcomplete⟩ := hcut.ended 0 "Law" (by decide) hlaw
    rw [hcomplete] at hwritten
    cases hwritten
    obtain ⟨-, -, -, -, last, -, -, -, -, hread⟩ :=
      hkept hpure 0 "Law" hlaw houtcome
    exact ⟨herror, outcomes, hcut, houtcome, last, hread⟩

end Prospectus.Batch
