import Prospectus.Proofs.BatchAccounting

/-!
# What a batch leaves in its files

A topic that is written leaves its summary at the place of its path, and a topic
that is not written leaves every file alone.  So after any number of turns a
place holds the text of the last topic that wrote there (`file?_written`,
`file?_stable`, `file?_last_written`), and the path of every topic that was
written still leads there (`sitedAt_of_writesAt`).

Two topics may have one place: topics are used as names just as they are, and
`Law` and `./Law` lead to one file.  There being no links, names without a slash
never meet (`topic_eq_of_place`).
-/

namespace Prospectus.Storage

/-! ## Plain names -/

/-- A slash divides names from names. -/
theorem splitSlashes_append (name front rest : List Char) :
    splitSlashes name (front ++ '/' :: rest) =
      splitSlashes name front ++ splitSlashes [] rest := by
  induction front generalizing name with
  | nil => simp [splitSlashes]
  | cons c front ih =>
      by_cases hc : c = '/'
      · simp [splitSlashes, hc, ih]
      · simp [splitSlashes, hc, ih]

/-- Without a slash there is one name. -/
theorem splitSlashes_of_not_mem {cs : List Char} (h : '/' ∉ cs) (name : List Char) :
    splitSlashes name cs = [name.reverse ++ cs] := by
  induction cs generalizing name with
  | nil => simp [splitSlashes]
  | cons c cs ih =>
      have hc : c ≠ '/' := fun hc => h (by simp [hc])
      have hcs : '/' ∉ cs := fun hmem => h (List.mem_cons_of_mem c hmem)
      simp [splitSlashes, hc, ih hcs]

/-- The names of a path and one plain name after a slash. -/
theorem namesOf_append {dir name : String} {front : List Char}
    (hdir : dir.toList = front ++ '/' :: name.toList)
    (hempty : name.isEmpty = false) (hslash : '/' ∉ name.toList) :
    namesOf dir = ((splitSlashes [] front).filter (!·.isEmpty)).map
      String.ofList ++ [name] := by
  have hname : name.toList.isEmpty = false := by
    rw [Bool.eq_false_iff, ne_eq, List.isEmpty_iff, String.toList_eq_nil_iff]
    rintro rfl
    cases hempty
  rw [namesOf, hdir, splitSlashes_append, splitSlashes_of_not_mem hslash]
  simp [hname]

/-- **A plain name below a directory** is the last name of the path. -/
theorem namesOf_join (dir : String) {name : String} (hempty : name.isEmpty = false)
    (hslash : '/' ∉ name.toList) :
    namesOf (join dir name) = namesOf dir ++ [name] := by
  have hrelative : isAbsolute name = false := by
    rw [isAbsolute, decide_eq_false_iff_not]
    intro hhead
    exact hslash (List.mem_of_head? hhead)
  rw [join, hrelative]
  simp only [Bool.false_eq_true, if_false]
  by_cases hdir : dir = ""
  · subst hdir
    have hname : name.toList ≠ [] := by
      rw [ne_eq, String.toList_eq_nil_iff]
      rintro rfl
      cases hempty
    simp [namesOf, splitSlashes, splitSlashes_of_not_mem hslash, hname]
  · have hsome : dir.isEmpty = false := by simpa using hdir
    by_cases hlast : dir.toList.getLast? = some '/'
    · obtain ⟨front, hfront⟩ := List.getLast?_eq_some_iff.mp hlast
      have hsplit : (dir ++ name).toList = front ++ '/' :: name.toList := by
        rw [String.toList_append, hfront, List.append_assoc, List.singleton_append]
      simp only [hsome, hlast, decide_true, Bool.or_true, if_true]
      rw [namesOf_append hsplit hempty hslash, namesOf, hfront, splitSlashes_append]
      simp [splitSlashes]
    · have hsplit : (dir ++ "/" ++ name).toList =
          dir.toList ++ '/' :: name.toList := by
        rw [String.toList_append, String.toList_append, List.append_assoc]
        rfl
      simp only [hsome, hlast, decide_false, Bool.or_self,
        Bool.false_eq_true, if_false]
      rw [namesOf_append hsplit hempty hslash, namesOf]

namespace FileSystem

/-- If names lead to a place, the last of them is its name. -/
theorem placeFrom_append_name {here l : Location} {names : List String}
    {name : String} (h : placeFrom here (names ++ [name]) = some l) :
    ∃ base, l = base ++ [name] := by
  induction names generalizing here with
  | nil =>
      rw [List.nil_append, placeFrom] at h
      by_cases hdot : name = "."
      · simp [hdot, placeFrom] at h
      · by_cases hdots : name = ".."
        · simp [hdots, placeFrom] at h
        · simp only [hdot, hdots, List.isEmpty_nil, if_false, if_true,
            Option.some.injEq] at h
          exact ⟨here, h.symm⟩
  | cons first rest ih =>
      have hmore : (rest ++ [name]).isEmpty = false := by simp
      rw [List.cons_append, placeFrom, hmore] at h
      by_cases hdot : first = "."
      · rw [if_pos hdot] at h
        exact ih h
      · by_cases hdots : first = ".."
        · rw [if_neg hdot, if_pos hdots] at h
          exact ih h
        · rw [if_neg hdot, if_neg hdots] at h
          exact ih h

end FileSystem

end Prospectus.Storage

namespace Prospectus.Batch

open Storage

/-- The name of a topic's file. -/
def fileName (b : Batch) (topic : String) : String :=
  if b.options.extension.isEmpty then topic else topic ++ "." ++ b.options.extension

/-- Topics have names of their own. -/
theorem fileName_injective (b : Batch) {topic other : String}
    (h : b.fileName topic = b.fileName other) :
    topic = other := by
  unfold fileName at h
  split at h
  · exact h
  · rw [← String.toList_inj] at h ⊢
    simpa using h

/-- **Plain names never meet.**  Topics without a slash, and with an extension
without one, have one place only if they are one topic. -/
theorem topic_eq_of_place {b : Batch} {fs : FileSystem} {topic other : String}
    {l : Location} (hextension : '/' ∉ b.options.extension.toList)
    (hplain : '/' ∉ topic.toList) (hplain' : '/' ∉ other.toList)
    (hempty : topic.isEmpty = false) (hempty' : other.isEmpty = false)
    (hl : fs.place? (b.pathOf topic) = some l)
    (hl' : fs.place? (b.pathOf other) = some l) :
    topic = other := by
  have hlast : ∀ t : String, '/' ∉ t.toList → t.isEmpty = false →
      fs.place? (b.pathOf t) = some l →
      ∃ base, l = base ++ [b.fileName t] := by
    intro t ht hsome hplace
    have hname : (b.fileName t).isEmpty = false := by
      unfold fileName
      split
      · exact hsome
      · simp
    have hslash : '/' ∉ (b.fileName t).toList := by
      unfold fileName
      split
      · exact ht
      · simp [ht, hextension]
    have hnames : namesOf (b.pathOf t) = namesOf b.output ++ [b.fileName t] :=
      namesOf_join b.output hname hslash
    rw [FileSystem.place?, hnames] at hplace
    exact FileSystem.placeFrom_append_name hplace
  obtain ⟨base, hbase⟩ := hlast topic hplain hempty hl
  obtain ⟨base', hbase'⟩ := hlast other hplain' hempty' hl'
  have hnames : b.fileName topic = b.fileName other := by
    have happend := hbase.symm.trans hbase'
    exact (List.append_inj_right' happend rfl |> List.cons.inj).1
  exact b.fileName_injective hnames

/-! ## One turn -/

/-- The summary of a topic, as the document and the summarizer give it. -/
def summaryOf (b : Batch) (topic : String) (w : World) : Except Error String :=
  (b.promptFor topic w.opened w.files).bind fun prompt =>
    (b.summarizer.generate b.options.model prompt w.files).2

/-- **The files after a topic.**  A topic that is written has put its summary at
its path; any other topic has left every file as it was. -/
theorem files_of_process {b : Batch} (hpure : b.summarizer.OnlyComputes)
    (topic : String) (w : World) :
    (∃ text, (b.process topic w).1 = .ok .written ∧ b.summaryOf topic w = .ok text ∧
        (w.files.writeText (b.pathOf topic) text).2 = .ok () ∧
        (b.process topic w).2.files = (w.files.writeText (b.pathOf topic) text).1) ∨
      ((b.process topic w).1 ≠ .ok .written ∧
        ∀ l, (b.process topic w).2.files.file? l = w.files.file? l) := by
  obtain ⟨answer, hgenerate⟩ := hpure
  have hfailed : ∀ e, settle e ≠ .ok .written := by
    intro e hsettle
    cases (settle_eq_ok hsettle).1
  rcases process_cases b topic w with ⟨-, hprocess⟩ |
    ⟨-, ⟨e, -, hprocess⟩ | ⟨prompt, asked, hprompt, hasked, hrest⟩⟩
  · exact Or.inr ⟨by rw [hprocess]; simp, fun l => by rw [hprocess]⟩
  · exact Or.inr ⟨by rw [hprocess]; exact hfailed e, fun l => by rw [hprocess]⟩
  · rw [hgenerate] at hasked
    subst hasked
    rcases hrest with ⟨e, -, hprocess⟩ | ⟨text, htext, hprocess⟩
    · exact Or.inr ⟨by rw [hprocess]; exact hfailed e, fun l => by rw [hprocess]⟩
    · rcases conclude_cases b topic (w.files.writeText (b.pathOf topic) text) with
        ⟨hok, hend⟩ | ⟨fault, hfault, hend⟩
      · have hsummary : b.summaryOf topic w = .ok text := by
          rw [summaryOf, hprompt]
          simpa [Except.bind, hgenerate] using htext
        exact Or.inl ⟨text, by rw [hprocess, hend], hsummary, hok, by rw [hprocess]⟩
      · refine Or.inr ⟨?_, ?_⟩
        · rw [hprocess]
          rcases hend with hend | hend <;> simp [hend]
        · intro l
          rw [hprocess]
          dsimp only
          exact FileSystem.file?_of_writeText_error hfault l

/-! ## Turn after turn -/

/-- In its turn, the topic at an index is written: its summary is put at the
place of its path. -/
def WritesAt (b : Batch) (topics : List String) (w : World) (i : Nat)
    (l : Location) (text : String) : Prop :=
  ∃ topic, (cleanTopics topics)[i]? = some topic ∧
    (b.complete { index := i, topic } (b.worldBefore topics w i)).1.result =
      .ok .written ∧
    b.summaryOf topic (b.worldBefore topics w i) = .ok text ∧
    (b.opening w).files.place? (b.pathOf topic) = some l

section Turns

variable {b : Batch} {topics : List String} {w : World}

/-- A topic that is written finds its summary and its place. -/
theorem writesAt_of_written (hpure : b.summarizer.OnlyComputes) {i : Nat}
    {topic : String} (htopic : (cleanTopics topics)[i]? = some topic)
    (hwritten : (b.complete { index := i, topic }
      (b.worldBefore topics w i)).1.result = .ok .written) :
    ∃ l text, b.WritesAt topics w i l text := by
  have hi : i < (cleanTopics topics).length :=
    (List.getElem?_eq_some_iff.mp htopic).1
  have hlater := extends_worldBefore hpure topics w (Nat.le_of_lt hi)
  have hresult := hwritten
  rw [complete_eq b rfl, Job.result_ended] at hresult
  rcases files_of_process hpure topic
    ((b.worldBefore topics w i).tell (.started i topic)) with
    ⟨text, -, hsummary, hok, -⟩ | ⟨hnot, -⟩
  · obtain ⟨l, hl, -⟩ := FileSystem.file?_of_writeText_ok hok
    have hplace : (b.opening w).files.place? (b.pathOf topic) = some l := by
      rw [← hlater.place?_eq]
      exact hl
    exact ⟨l, text, topic, htopic, hwritten, hsummary, hplace⟩
  · exact absurd hresult hnot

/-- A topic that is written leaves its path sited, with its summary there and
every other file as it was. -/
theorem sitedAt_of_writesAt (hpure : b.summarizer.OnlyComputes) {i : Nat}
    {l : Location} {text topic : String}
    (htopic : (cleanTopics topics)[i]? = some topic)
    (h : b.WritesAt topics w i l text) :
    ∃ parent name, (b.worldBefore topics w (i + 1)).files.SitedAt
      (b.pathOf topic) parent name ∧
      l = parent ++ [name] ∧ ∀ l', (b.worldBefore topics w (i + 1)).files.file? l' =
        if l' = l then some (Text.encodeUtf8 text)
          else (b.worldBefore topics w i).files.file? l' := by
  obtain ⟨topic', htopic', hwritten, hsummary, hplace⟩ := h
  cases htopic.symm.trans htopic'
  have hi : i < (cleanTopics topics).length :=
    (List.getElem?_eq_some_iff.mp htopic).1
  have hlater := extends_worldBefore hpure topics w hi
  rw [complete_eq b rfl, Job.result_ended] at hwritten
  have hfiles := worldBefore_succ b w htopic
  rw [complete_eq b rfl] at hfiles
  rcases files_of_process hpure topic
    ((b.worldBefore topics w i).tell (.started i topic)) with
    ⟨text', -, hsummary', hok, hprocess⟩ | ⟨hnot, -⟩
  · cases Except.ok.inj (hsummary.symm.trans hsummary')
    obtain ⟨parent, name, hsited, hfile⟩ := FileSystem.sitedAt_of_writeText_ok hok
    rw [← hprocess, ← Job.files_ended, ← hfiles] at hsited hfile
    have hl : l = parent ++ [name] := by
      rw [← hlater.place?_eq, hsited.place?_eq] at hplace
      exact (Option.some.inj hplace).symm
    subst hl
    exact ⟨parent, name, hsited, rfl, hfile⟩
  · exact absurd hwritten hnot

/-- **The topic that writes at a place** leaves its summary there. -/
theorem file?_written (hpure : b.summarizer.OnlyComputes) {i : Nat}
    {l : Location} {text : String} (h : b.WritesAt topics w i l text) :
    (b.worldBefore topics w (i + 1)).files.file? l =
      some (Text.encodeUtf8 text) := by
  obtain ⟨topic, htopic, -⟩ := id h
  obtain ⟨-, -, -, -, hfile⟩ := sitedAt_of_writesAt hpure htopic h
  rw [hfile, if_pos rfl]

/-- A topic that does not write at a place leaves it alone. -/
theorem file?_of_not_writesAt (hpure : b.summarizer.OnlyComputes) {i : Nat}
    {l : Location} (hi : i < (cleanTopics topics).length)
    (h : ∀ text, ¬ b.WritesAt topics w i l text) :
    (b.worldBefore topics w (i + 1)).files.file? l =
      (b.worldBefore topics w i).files.file? l := by
  obtain ⟨topic, htopic⟩ : ∃ topic, (cleanTopics topics)[i]? = some topic :=
    ⟨_, List.getElem?_eq_getElem hi⟩
  by_cases hwritten :
      (b.complete { index := i, topic } (b.worldBefore topics w i)).1.result =
        .ok .written
  · obtain ⟨l', text, hwrites⟩ := writesAt_of_written hpure htopic hwritten
    obtain ⟨-, -, -, -, hfile⟩ := sitedAt_of_writesAt hpure htopic hwrites
    have hne : l ≠ l' := by
      rintro rfl
      exact h text hwrites
    rw [hfile, if_neg hne]
  · rw [complete_eq b rfl, Job.result_ended] at hwritten
    rw [worldBefore_succ b w htopic, complete_eq b rfl, Job.files_ended]
    rcases files_of_process hpure topic
      ((b.worldBefore topics w i).tell (.started i topic)) with
      ⟨-, hyes, -⟩ | ⟨-, hfile⟩
    · exact absurd hyes hwritten
    · exact hfile l

/-- A place is stable across turns of topics that do not write there. -/
theorem file?_stable (hpure : b.summarizer.OnlyComputes) {i n : Nat}
    {l : Location} (hin : i ≤ n) (hn : n ≤ (cleanTopics topics).length)
    (h : ∀ k text, i ≤ k → k < n → ¬ b.WritesAt topics w k l text) :
    (b.worldBefore topics w n).files.file? l =
      (b.worldBefore topics w i).files.file? l := by
  induction hin with
  | refl => rfl
  | @step n hin ih =>
      have hskip := file?_of_not_writesAt hpure (by omega) fun text =>
        h n text hin (by omega)
      rw [hskip]
      exact ih (by omega) fun k text hik hkn => h k text hik (by omega)

/-- **A place holds the summary of the last topic that wrote there.** -/
theorem file?_last_written (hpure : b.summarizer.OnlyComputes) {j n : Nat}
    {l : Location} {text : String} (h : b.WritesAt topics w j l text)
    (hjn : j < n) (hn : n ≤ (cleanTopics topics).length)
    (hlast : ∀ k other, j < k → k < n → ¬ b.WritesAt topics w k l other) :
    (b.worldBefore topics w n).files.file? l = some (Text.encodeUtf8 text) := by
  rw [file?_stable hpure hjn hn hlast]
  exact file?_written hpure h

/-- Of the topics that wrote at a place there is a last one. -/
theorem exists_last_writesAt {i n : Nat} {l : Location} {text : String}
    (h : b.WritesAt topics w i l text)
    (hin : i < n) : ∃ j last, i ≤ j ∧ j < n ∧ b.WritesAt topics w j l last ∧
      ∀ k other, j < k → k < n → ¬ b.WritesAt topics w k l other := by
  induction hin with
  | refl =>
    exact ⟨i, text, Nat.le_refl i, Nat.lt_succ_self i, h,
      fun k other hik hkn => by omega⟩
  | @step n hin ih =>
      by_cases hwrites : ∃ last, b.WritesAt topics w n l last
      · obtain ⟨last, hwrites⟩ := hwrites
        exact ⟨n, last, Nat.le_of_lt hin, Nat.lt_succ_self n, hwrites,
          fun k other hnk hkn => by omega⟩
      · obtain ⟨j, last, hij, hjn, hwritten, hno⟩ := ih
        refine ⟨j, last, hij, by omega, hwritten, ?_⟩
        intro k other hjk hkn
        by_cases hk : k = n
        · subst hk
          exact fun hother => hwrites ⟨other, hother⟩
        · exact hno k other hjk (by omega)

/-- **The path of a topic that was written** leads to its place, and can be
read. -/
theorem readText_of_writesAt (hpure : b.summarizer.OnlyComputes) {i n : Nat}
    {l : Location} {topic text : String}
    (htopic : (cleanTopics topics)[i]? = some topic)
    (h : b.WritesAt topics w i l text) (hin : i < n)
    (hn : n ≤ (cleanTopics topics).length) {fs : FileSystem}
    (hlater : (b.worldBefore topics w n).files.Extends fs)
    (hfile : ∀ l, fs.file? l = (b.worldBefore topics w n).files.file? l)
    {last : String}
    (hlast : (b.worldBefore topics w n).files.file? l =
      some (Text.encodeUtf8 last)) :
    fs.readText (b.pathOf topic) = .ok last := by
  obtain ⟨parent, name, hsited, rfl, -⟩ := sitedAt_of_writesAt hpure htopic h
  have hsited' :=
    hsited.later ((extends_of_turns hpure topics w hin hn).trans hlater)
  exact hsited'.readText_eq (by rw [hfile, hlast])

end Turns

/-- A topic of a batch is not empty. -/
theorem isEmpty_of_mem_cleanTopics {topics : List String} {topic : String}
    (h : topic ∈ cleanTopics topics) :
    topic.isEmpty = false := by
  simpa using (List.mem_filter.mp h).2

/-- **What is found at the path of a topic** that was written, after a run with
one worker: the summary of the last topic that wrote at the same place.  That is
the topic's own, if no later topic wrote there; and so it is always if the
topics are different and neither they nor the extension have a slash. -/
theorem run_keeps_last_summaries {b : Batch} (hpure : b.summarizer.OnlyComputes)
    (hworkers : b.options.workers ≤ 1) {turns : List Nat} {topics : List String}
    {started finished : Time.Moment} {w later : World} {report : Report}
    (hrun : b.run turns topics started finished w = (later, .ok report))
    {i : Nat} {topic : String} (htopic : (cleanTopics topics)[i]? = some topic)
    (hwritten : (b.complete { index := i, topic }
      (b.worldBefore topics w i)).1.result = .ok .written) :
    ∃ l text, b.WritesAt topics w i l text ∧
      (∃ j last, i ≤ j ∧ b.WritesAt topics w j l last ∧
        (∀ k other, j < k → ¬ b.WritesAt topics w k l other) ∧
        later.files.readText (b.pathOf topic) = .ok last) ∧
      ((∀ k other, i < k → ¬ b.WritesAt topics w k l other) →
        later.files.readText (b.pathOf topic) = .ok text) ∧
      ((cleanTopics topics).Nodup → (∀ t ∈ cleanTopics topics, '/' ∉ t.toList) →
        '/' ∉ b.options.extension.toList →
        later.files.readText (b.pathOf topic) = .ok text) := by
  obtain ⟨outcomes, hexecute, -⟩ := execute_of_run_ok hrun
  rw [execute_eq_runInOrder hworkers] at hexecute
  obtain ⟨-, rfl, -⟩ := turns_of_runInOrder_ok hexecute
  obtain ⟨l, text, hwrites⟩ := writesAt_of_written hpure htopic hwritten
  have hi : i < (cleanTopics topics).length :=
    (List.getElem?_eq_some_iff.mp htopic).1
  have hread : ∀ {last},
      (b.worldBefore topics w (cleanTopics topics).length).files.file? l =
      some (Text.encodeUtf8 last) →
      (b.worldBefore topics w (cleanTopics topics).length).files.readText
        (b.pathOf topic) = .ok last :=
    readText_of_writesAt hpure htopic hwrites hi (Nat.le_refl _) (.refl _)
      fun _ => rfl
  -- topics beyond the list write nothing
  have hbound : ∀ {k l other}, b.WritesAt topics w k l other →
      k < (cleanTopics topics).length := by
    rintro k l other ⟨t, ht, -⟩
    exact (List.getElem?_eq_some_iff.mp ht).1
  have hown : (∀ k other, i < k → ¬ b.WritesAt topics w k l other) →
      (b.worldBefore topics w (cleanTopics topics).length).files.readText
        (b.pathOf topic) = .ok text := by
    intro hlast
    exact hread (file?_last_written hpure hwrites hi (Nat.le_refl _) fun k other
      hik _ => hlast k other hik)
  refine ⟨l, text, hwrites, ?_, hown, ?_⟩
  · obtain ⟨j, last, hij, hjn, hlastWrites, hlast⟩ :=
      exists_last_writesAt hwrites hi
    refine ⟨j, last, hij, hlastWrites, ?_,
      hread (file?_last_written hpure hlastWrites hjn (Nat.le_refl _) hlast)⟩
    intro k other hjk hother
    exact hlast k other hjk (hbound hother) hother
  · intro hnodup hplain hextension
    refine hown ?_
    rintro k other hik ⟨t, ht, -, -, hplace⟩
    obtain ⟨topic', htopic', -, -, hplace'⟩ := hwrites
    cases htopic.symm.trans htopic'
    have hmem := List.mem_of_getElem? htopic
    have hmem' := List.mem_of_getElem? ht
    have hsame : topic = t :=
      topic_eq_of_place hextension (hplain topic hmem) (hplain t hmem')
      (isEmpty_of_mem_cleanTopics hmem)
      (isEmpty_of_mem_cleanTopics hmem') hplace' hplace
    subst hsame
    have hik' : i = k := (List.getElem?_inj hi hnodup).mp (htopic.trans ht.symm)
    omega

/-- A catalog of three pages, with a topic and its namesake on pages of their
own. -/
def namesakes : Document :=
  .ofPages [⟨0, [⟨"Index\nLaw 2\n./Law 3\nArt 3", "Arial", none, 12, 0, 0⟩]⟩,
    ⟨0, [⟨"Statutes", "Arial-Bold", none, 12, 0, 0⟩]⟩,
    ⟨0, [⟨"Courts", "Arial-Bold", none, 12, 0, 0⟩]⟩]

/-- A batch on that catalog, which takes one page a topic and writes over what
is there. -/
def namesakesBatch : Batch where
  options := { locator := ⟨"Index", 9⟩, pagesBefore := 0, pagesAfter := 0 }
  source := .ofDocument namesakes
  summarizer := .dryRun
  prompt := "?"
  output := "out"

/-- A world without files. -/
def bareWorld : World where
  files := ⟨[], []⟩

/-- Two topics with plain names are both written, and the first keeps its
summary. -/
theorem namesakesBatch_keeps_plain_summaries :
    (namesakesBatch.run [] ["Law", "Art"] newYear newYear bareWorld).2 =
        .ok ⟨newYear, some newYear, 2, 0, []⟩ ∧
      (namesakesBatch.run [] ["Law", "Art"] newYear newYear
        bareWorld).1.files.readText "out/Law.txt" =
        .ok "Statutes?" := by
  have hrun : (namesakesBatch.run [] ["Law", "Art"] newYear newYear bareWorld).2 =
      .ok ⟨newYear, some newYear, 2, 0, []⟩ := by decide +kernel
  have hpure : namesakesBatch.summarizer.OnlyComputes :=
    ⟨fun _ prompt => .ok prompt, fun _ _ _ => rfl⟩
  have htopic : (cleanTopics ["Law", "Art"])[0]? = some "Law" := by decide +kernel
  have hsummary : namesakesBatch.summaryOf "Law"
      (namesakesBatch.worldBefore ["Law", "Art"] bareWorld 0) =
      .ok "Statutes?" := by decide +kernel
  obtain ⟨l, text, ⟨topic, htopic', -, htext, -⟩, -, -, hown⟩ :=
    run_keeps_last_summaries hpure (by decide) (Prod.ext rfl hrun) htopic
      (by decide +kernel)
  cases htopic.symm.trans htopic'
  cases htext.symm.trans hsummary
  exact ⟨hrun, hown (by decide +kernel) (by decide +kernel) (by decide +kernel)⟩

/-- **Namesakes.**  Two topics that are not the same are both written, but lead
to one file: the summary of the first is lost. -/
theorem namesakesBatch_loses_a_summary :
    cleanTopics ["Law", "./Law"] = ["Law", "./Law"] ∧
    namesakesBatch.options.existing = .overwrite ∧
      (namesakesBatch.run [] ["Law", "./Law"] newYear newYear bareWorld).2 =
        .ok ⟨newYear, some newYear, 2, 0, []⟩ ∧
      (namesakesBatch.complete { index := 0, topic := "Law" }
        (namesakesBatch.worldBefore ["Law", "./Law"] bareWorld 0)).1.result =
          .ok .written ∧
      namesakesBatch.summaryOf "Law"
        (namesakesBatch.worldBefore ["Law", "./Law"] bareWorld 0) =
        .ok "Statutes?" ∧
      (namesakesBatch.run [] ["Law", "./Law"] newYear newYear
        bareWorld).1.files.readText
        (namesakesBatch.pathOf "Law") = .ok "Courts?" := by
  decide +kernel

end Prospectus.Batch
