import Prospectus.Proofs.BatchAccounting
import Prospectus.Proofs.EntryReading

/-!
# Lists of topics and their layouts

A list of topics can be laid out in many ways (`LaidOut`): each topic has a line
of its own, with any blanks around it that stay on the line, and lines of blanks
may come before, between and after; lines end with a line feed, or with a
carriage return and a line feed, and the last one need not end at all.

Blanks around a line do not count (`topicsIn_padded`), and a carriage return is
one of them, so what is read of a text is what is read of its first line and
then of the rest (`topicsIn_append`).  So the topics come back from every
layout, and every text is a layout of the topics that are read from it
(`laidOut_topicsIn`).
-/

namespace Prospectus.Text

/-! ## Blanks around a text -/

theorem trimChars_eq (cs : List Char) :
    trimChars cs = (dropBlanks cs).rdropWhile isBlank := rfl

/-- Blanks before a text are taken off. -/
theorem trimChars_append_left {pad : List Char} (hpad : ∀ c ∈ pad, isBlank c)
    (cs : List Char) :
    trimChars (pad ++ cs) = trimChars cs := by
  rw [trimChars_eq, trimChars_eq, dropBlanks, dropBlanks,
    List.dropWhile_append_of_pos hpad]

theorem rdropWhile_append_of_pos {pad : List Char} (hpad : ∀ c ∈ pad, isBlank c)
    (cs : List Char) :
    (cs ++ pad).rdropWhile isBlank = cs.rdropWhile isBlank := by
  rw [List.rdropWhile, List.reverse_append, List.dropWhile_append_of_pos,
    ← List.rdropWhile]
  intro c hc
  exact hpad c (List.mem_reverse.mp hc)

/-- Blanks after a text are taken off. -/
theorem trimChars_append_right {pad : List Char} (hpad : ∀ c ∈ pad, isBlank c)
    (cs : List Char) :
    trimChars (cs ++ pad) = trimChars cs := by
  rw [trimChars_eq, trimChars_eq, dropBlanks, dropBlanks, List.dropWhile_append]
  split
  · rename_i hblank
    rw [List.isEmpty_iff.mp hblank, List.dropWhile_eq_nil_iff.mpr hpad]
  · exact rdropWhile_append_of_pos hpad _

/-- The carriage return at the end of a line is a blank. -/
theorem trimChars_closeLine (line : List Char) :
    trimChars (closeLine line) = trimChars line.reverse := by
  unfold closeLine
  split
  · rename_i rest
    rw [List.reverse_cons, trimChars_append_right]
    simp [isBlank, inRanges, blankRanges]
  · rfl

/-- A text is what is left of it with blanks on both sides. -/
theorem exists_padding (cs : List Char) :
    ∃ before after, (∀ c ∈ before, isBlank c) ∧ (∀ c ∈ after, isBlank c) ∧
    cs = before ++ trimChars cs ++ after := by
  refine ⟨cs.takeWhile isBlank, (dropBlanks cs).rtakeWhile isBlank, fun c hc =>
    List.mem_takeWhile_imp hc, fun c hc => List.mem_rtakeWhile_imp hc, ?_⟩
  rw [trimChars_eq, List.append_assoc, List.rdropWhile_append_rtakeWhile,
    dropBlanks, List.takeWhile_append_dropWhile]

end Prospectus.Text

namespace Prospectus.Batch

open Text

/-! ## Topics of a text -/

/-- The topics among the lines of a text, as characters. -/
def topicsIn (text : List Char) : List (List Char) :=
  ((linesFrom [] text).map trimChars).filter (!·.isEmpty)

/-- The topics that a text lists are those of what follows its byte-order marks. -/
theorem parseTopics_eq (text : String) :
    parseTopics text = (topicsIn (text.toList.dropWhile (· = '\ufeff'))).map
      String.ofList := by
  have htrim : trim ∘ String.ofList = String.ofList ∘ trimChars := by
    funext line
    simp [trim]
  have hempty : (!·.isEmpty) ∘ String.ofList = (!·.isEmpty) := by
    funext line
    cases line <;> simp
  unfold parseTopics cleanTopics topicsIn lines
  rw [String.toList_ofList, List.map_map, htrim, ← List.map_map,
    List.filter_map, hempty]

/-- One line has a topic on it, unless it is blank. -/
theorem topicsIn_line {line : List Char} (hfree : '\n' ∉ line) :
    topicsIn line = [trimChars line].filter (!·.isEmpty) := by
  have hread := linesFrom_append hfree [] []
  rw [List.append_nil, List.append_nil] at hread
  unfold topicsIn
  rw [hread]
  cases line with
  | nil => rfl
  | cons c rest => simp [linesFrom]

/-- What is read of a text is what is read of its first line, and then of the
rest. -/
theorem topicsIn_append {line : List Char} (hfree : '\n' ∉ line)
    (rest : List Char) :
    topicsIn (line ++ '\n' :: rest) = topicsIn line ++ topicsIn rest := by
  rw [topicsIn_line hfree]
  unfold topicsIn
  rw [linesFrom_append hfree, List.append_nil, linesFrom, if_pos rfl,
    List.map_cons, trimChars_closeLine, List.reverse_reverse,
    ← List.filter_append, List.singleton_append]

/-! ## Layouts -/

/-- Blanks that stay on their line. -/
def Padding (cs : List Char) : Prop := ∀ c ∈ cs, isBlank c ∧ c ≠ '\n'

/-- The ends that a line may have. -/
def lineEnds : List (List Char) := [['\n'], ['\r', '\n']]

/-- A text that can be a topic of a list: it is not empty, has no blanks around
it, and stays on one line. -/
structure IsTopic (topic : String) : Prop where
  nonempty : topic ≠ ""
  trimmed : trim topic = topic
  oneLine : '\n' ∉ topic.toList

/-- The ways to lay topics out over lines. -/
inductive LaidOut : List String → List Char → Prop
  | lastBlank {pad : List Char} (hpad : Padding pad) : LaidOut [] pad
  | lastTopic {topic : String} {before after : List Char}
      (htopic : IsTopic topic) (hbefore : Padding before)
      (hafter : Padding after) : LaidOut [topic] (before ++ topic.toList ++ after)
  | blank {topics : List String} {pad ending rest : List Char}
      (hpad : Padding pad) (hending : ending ∈ lineEnds)
      (tail : LaidOut topics rest) : LaidOut topics (pad ++ ending ++ rest)
  | topic {topic : String} {topics : List String}
      {before after ending rest : List Char} (htopic : IsTopic topic)
      (hbefore : Padding before) (hafter : Padding after)
      (hending : ending ∈ lineEnds) (tail : LaidOut topics rest) :
      LaidOut (topic :: topics) (before ++ topic.toList ++ after ++ ending ++ rest)

/-! ## Reading a layout -/

theorem Padding.append {xs ys : List Char} (hxs : Padding xs)
    (hys : Padding ys) : Padding (xs ++ ys) :=
  List.forall_mem_append.mpr ⟨hxs, hys⟩

theorem Padding.isBlank {pad : List Char} (hpad : Padding pad) :
    ∀ c ∈ pad, isBlank c := fun c hc => (hpad c hc).1

theorem Padding.oneLine {pad : List Char} (hpad : Padding pad) : '\n' ∉ pad :=
  fun hc => (hpad _ hc).2 rfl

/-- A line ends with a line feed, and what may come before it is a blank. -/
theorem exists_of_mem_lineEnds {ending : List Char} (h : ending ∈ lineEnds) :
    ∃ pad, Padding pad ∧ ending = pad ++ ['\n'] := by
  rcases List.mem_cons.mp h with rfl | h
  · exact ⟨[], List.forall_mem_nil _, rfl⟩
  · obtain rfl := List.mem_singleton.mp h
    exact ⟨['\r'], List.forall_mem_singleton.mpr ⟨by decide, by decide⟩, rfl⟩

/-- The blanks around a line do not count. -/
theorem topicsIn_padded {before cs after : List Char} (hbefore : Padding before)
    (hcs : '\n' ∉ cs) (hafter : Padding after) :
    topicsIn (before ++ cs ++ after) = [trimChars cs].filter (!·.isEmpty) := by
  have hfree : '\n' ∉ before ++ cs ++ after := by
    simp only [List.mem_append, not_or]
    exact ⟨⟨hbefore.oneLine, hcs⟩, hafter.oneLine⟩
  rw [topicsIn_line hfree, trimChars_append_right hafter.isBlank,
    trimChars_append_left hbefore.isBlank]

theorem topicsIn_padding {pad : List Char} (hpad : Padding pad) :
    topicsIn pad = [] := by
  have h :=
    topicsIn_padded hpad List.not_mem_nil (List.forall_mem_nil _ : Padding [])
  rw [List.append_nil, List.append_nil] at h
  exact h

theorem IsTopic.topicsIn_eq {topic : String} (htopic : IsTopic topic)
    {before after : List Char}
    (hbefore : Padding before) (hafter : Padding after) :
    topicsIn (before ++ topic.toList ++ after) = [topic.toList] := by
  have htrim : trimChars topic.toList = topic.toList := by
    have h := congrArg String.toList htopic.trimmed
    rwa [trim, String.toList_ofList] at h
  have hne : topic.toList ≠ [] :=
    fun h => htopic.nonempty (String.toList_eq_nil_iff.mp h)
  rw [topicsIn_padded hbefore htopic.oneLine hafter, htrim]
  simp [hne]

/-- **The topics come back from every layout of them.** -/
theorem LaidOut.topicsIn_eq {topics : List String} {text : List Char}
    (h : LaidOut topics text) :
    topicsIn text = topics.map String.toList := by
  induction h with
  | lastBlank hpad => exact topicsIn_padding hpad
  | lastTopic htopic hbefore hafter => exact htopic.topicsIn_eq hbefore hafter
  | @blank topics pad ending rest hpad hending tail ih =>
      obtain ⟨more, hmore, rfl⟩ := exists_of_mem_lineEnds hending
      have hline := hpad.append hmore
      rw [← List.append_assoc, List.append_assoc, List.singleton_append,
        topicsIn_append hline.oneLine, topicsIn_padding hline, ih, List.nil_append]
  | @topic topic topics before after ending rest htopic hbefore hafter hending
    tail ih =>
      obtain ⟨more, hmore, rfl⟩ := exists_of_mem_lineEnds hending
      have hline := htopic.topicsIn_eq hbefore (hafter.append hmore)
      rw [← List.append_assoc] at hline
      have hfree : '\n' ∉ before ++ topic.toList ++ after ++ more := by
        simp only [List.mem_append, not_or]
        exact ⟨⟨⟨hbefore.oneLine, htopic.oneLine⟩, hafter.oneLine⟩, hmore.oneLine⟩
      rw [← List.append_assoc, List.append_assoc _ ['\n'],
        List.singleton_append, topicsIn_append hfree, hline, ih]
      rfl

theorem isBlank_mark : isBlank '\ufeff' = false := by decide

/-- A layout begins with no byte-order mark, unless its first topic does. -/
theorem LaidOut.head?_ne {topics : List String} {text : List Char}
    (h : LaidOut topics text)
    (hfirst : ∀ topic ∈ topics.head?, topic.toList.head? ≠ some '\ufeff') :
    text.head? ≠ some '\ufeff' := by
  have hpadding : ∀ {pad rest : List Char}, Padding pad →
      rest.head? ≠ some '\ufeff' →
      (pad ++ rest).head? ≠ some '\ufeff' := by
    intro pad rest hpad hrest
    cases pad with
    | nil => exact hrest
    | cons c pad =>
        intro hc
        have hblank := (hpad c List.mem_cons_self).1
        rw [Option.some.inj hc, isBlank_mark] at hblank
        exact Bool.false_ne_true hblank
  have htopic : ∀ {topic : String} {rest : List Char}, IsTopic topic →
      topic.toList.head? ≠ some '\ufeff' →
      (topic.toList ++ rest).head? ≠ some '\ufeff' := by
    intro topic rest htopic hhead
    rwa [List.head?_append_of_ne_nil _ fun h =>
      htopic.nonempty (String.toList_eq_nil_iff.mp h)]
  cases h with
  | lastBlank hpad =>
      have h := @hpadding _ [] hpad (by simp)
      rwa [List.append_nil] at h
  | lastTopic ht hbefore hafter =>
      rw [List.append_assoc]
      exact hpadding hbefore (htopic ht (hfirst _ rfl))
  | blank hpad hending tail =>
      obtain ⟨more, hmore, rfl⟩ := exists_of_mem_lineEnds hending
      rw [List.append_assoc, List.append_assoc]
      exact hpadding hpad (hpadding hmore (by simp))
  | topic ht hbefore hafter hending tail =>
      simp only [List.append_assoc]
      exact hpadding hbefore (htopic ht (hfirst _ rfl))

/-- A layout is of topics only. -/
theorem LaidOut.isTopic {topics : List String} {text : List Char}
    (h : LaidOut topics text) :
    ∀ topic ∈ topics, IsTopic topic := by
  induction h with
  | lastBlank hpad => exact List.forall_mem_nil _
  | lastTopic htopic hbefore hafter => exact List.forall_mem_singleton.mpr htopic
  | blank hpad hending tail ih => exact ih
  | topic htopic hbefore hafter hending tail ih =>
    exact List.forall_mem_cons.mpr ⟨htopic, ih⟩

/-! ## Every text is a layout -/

/-- A line is blank, or a topic with blanks around it. -/
theorem blank_or_topic {line : List Char} (hfree : '\n' ∉ line) :
    Padding line ∧ topicsIn line = [] ∨
      ∃ (topic : String) (before after : List Char), IsTopic topic ∧
        Padding before ∧
      Padding after ∧ line = before ++ topic.toList ++ after ∧
      topicsIn line = [topic.toList] := by
  obtain ⟨before, after, hbefore, hafter, hline⟩ := exists_padding line
  have hne : ∀ c ∈ line, c ≠ '\n' := fun c hc h => hfree (h ▸ hc)
  have hmem : ∀ c, c ∈ before ∨ c ∈ trimChars line ∨ c ∈ after → c ∈ line := by
    intro c hc
    rw [hline]
    simpa [or_assoc] using hc
  by_cases hempty : trimChars line = []
  · rw [hempty, List.append_nil] at hline
    have hpad : Padding line := by
      intro c hc
      refine ⟨?_, hne c hc⟩
      rw [hline, List.mem_append] at hc
      exact hc.elim (hbefore c) (hafter c)
    exact .inl ⟨hpad, topicsIn_padding hpad⟩
  · have hbefore : Padding before :=
      fun c hc => ⟨hbefore c hc, hne c (hmem c (.inl hc))⟩
    have hafter : Padding after :=
      fun c hc => ⟨hafter c hc, hne c (hmem c (.inr (.inr hc)))⟩
    have htopic : IsTopic (String.ofList (trimChars line)) := by
      refine ⟨by simpa using hempty, ?_, ?_⟩
      · rw [trim, String.toList_ofList, trimChars_trimChars]
      · rw [String.toList_ofList]
        exact fun hc => hne _ (hmem _ (.inr (.inl hc))) rfl
    have hsplit : line = before ++ (String.ofList (trimChars line)).toList ++
        after := by rwa [String.toList_ofList]
    refine .inr ⟨_, before, after, htopic, hbefore, hafter, hsplit, ?_⟩
    have hread := htopic.topicsIn_eq hbefore hafter
    rwa [← hsplit] at hread

/-- A line before a layout makes another layout. -/
theorem LaidOut.line {line ending rest : List Char} {topics : List String}
    (h : LaidOut topics rest)
    (hfree : '\n' ∉ line) (hending : ending ∈ lineEnds) :
    LaidOut ((topicsIn line).map String.ofList ++ topics) (line ++ ending ++
      rest) := by
  rcases blank_or_topic hfree with ⟨hpad, hread⟩ |
    ⟨topic, before, after, htopic, hbefore, hafter, hline, hread⟩
  · rw [hread]
    exact .blank hpad hending h
  · rw [hread, hline, List.map_singleton, String.ofList_toList]
    exact .topic htopic hbefore hafter hending h

/-- **Every text is a layout of the topics that are read from it.** -/
theorem laidOut_topicsIn (text : List Char) :
    LaidOut ((topicsIn text).map String.ofList) text := by
  have hlined : Lined text (linesFrom [] text) := lined_iff.mpr rfl
  generalize linesFrom [] text = lines at hlined
  induction hlined with
  | nil => exact .lastBlank (List.forall_mem_nil _)
  | @last line hne hfree =>
      rcases blank_or_topic hfree with ⟨hpad, hread⟩ |
        ⟨topic, before, after, htopic, hbefore, hafter, hline, hread⟩
      · rw [hread]
        exact .lastBlank hpad
      · rw [hread, hline, List.map_singleton, String.ofList_toList]
        exact .lastTopic htopic hbefore hafter
  | @feed line rest lines hfree hend tail ih =>
      rw [topicsIn_append hfree, List.map_append, List.append_cons]
      exact ih.line hfree List.mem_cons_self
  | @returnFeed line rest lines hfree tail ih =>
      have hreturn : '\n' ∉ line ++ ['\r'] := by simpa using hfree
      have hread : topicsIn (line ++ ['\r']) = topicsIn line := by
        rw [topicsIn_line hreturn, topicsIn_line hfree,
          trimChars_append_right (List.forall_mem_singleton.mpr (by decide))]
      rw [List.append_cons, topicsIn_append hreturn, hread, List.map_append]
      have h := ih.line hfree
        (List.mem_cons_of_mem _ List.mem_cons_self : ['\r', '\n'] ∈ lineEnds)
      simpa using h

/-! ## Lists of topics -/

/-- Topics have nothing to be taken off them. -/
theorem cleanTopics_of_isTopic {topics : List String}
    (h : ∀ topic ∈ topics, IsTopic topic) :
    cleanTopics topics = topics := by
  have htrim : topics.map trim = topics := by
    rw [List.map_congr_left fun topic htopic => (h topic htopic).trimmed,
      List.map_id']
  rw [cleanTopics, htrim, List.filter_eq_self]
  intro topic htopic
  simpa using (h topic htopic).nonempty

/-- **Topics are read back from every layout of them**, after any number of
byte-order marks, unless the first topic begins with such a mark itself.
Whatever the text, what is read from it are topics, so that to clean them again
changes nothing. -/
theorem parseTopics_reads_layouts :
    (∀ (topics : List String) (marks : Nat) (text : List Char),
      LaidOut topics text →
      (∀ topic ∈ topics.head?, topic.toList.head? ≠ some '\ufeff') →
      parseTopics (String.ofList (List.replicate marks '\ufeff' ++ text)) =
        topics) ∧
    ∀ text : String, (∀ topic ∈ parseTopics text, IsTopic topic) ∧
      cleanTopics (parseTopics text) = parseTopics text := by
  constructor
  · intro topics marks text h hfirst
    have hmarks : (List.replicate marks '\ufeff' ++ text).dropWhile (· =
        '\ufeff') = text := by
      rw [List.dropWhile_append_of_pos (by simp), Json.dropWhile_eq_self]
      intro c hc
      exact decide_eq_false fun hmark => h.head?_ne hfirst (hmark ▸ hc)
    rw [parseTopics_eq, String.toList_ofList, hmarks, h.topicsIn_eq, List.map_map]
    simp
  · intro text
    have htopics : ∀ topic ∈ parseTopics text, IsTopic topic := by
      rw [parseTopics_eq]
      exact (laidOut_topicsIn _).isTopic
    exact ⟨htopics, cleanTopics_of_isTopic htopics⟩

/-- Two byte-order marks and a blank line, a topic that ends with such a mark
and has a carriage return too many after it, one with a form feed before it, and
a last one that begins with a mark and has no end of line. -/
theorem roughList_reads_layout :
    parseTopics "\ufeff\ufeff \r\nLaw\ufeff\r\r\n\x0cArt\n\ufeffMusic" =
      ["Law\ufeff", "Art", "\ufeffMusic"] := by
  have hlaw : IsTopic "Law\ufeff" := ⟨by decide, by decide, by decide⟩
  have hart : IsTopic "Art" := ⟨by decide, by decide, by decide⟩
  have hmusic : IsTopic "\ufeffMusic" := ⟨by decide, by decide, by decide⟩
  have hlayout : LaidOut ["Law\ufeff", "Art", "\ufeffMusic"]
      ([' '] ++ ['\r', '\n'] ++
        ([] ++ "Law\ufeff".toList ++ ['\r'] ++ ['\r', '\n'] ++
        (['\x0c'] ++ "Art".toList ++ [] ++ ['\n'] ++
          ([] ++ "\ufeffMusic".toList ++ [])))) :=
    .blank (by simp [Padding]; decide) (by simp [lineEnds])
      (.topic hlaw (by simp [Padding]) (by simp [Padding]; decide)
      (by simp [lineEnds])
      (.topic hart (by simp [Padding]; decide) (by simp [Padding])
        (by simp [lineEnds])
        (.lastTopic hmusic (by simp [Padding]) (by simp [Padding]))))
  exact parseTopics_reads_layouts.1 _ 2 _ hlayout (by simp)

end Prospectus.Batch
