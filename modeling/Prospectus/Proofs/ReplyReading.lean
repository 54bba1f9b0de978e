import Prospectus.Proofs.JsonReading
import Prospectus.Proofs.JsonRecords
import Prospectus.Summary.Reply

/-!
# What replies say

`IsReply` says which JSON values are replies and what they say, level by level:
a reply has candidates, a candidate a content, a content parts, and a part a
text.  The reader of replies accepts exactly these
(`Reply.ofJson?_eq_some_iff`), so the summary in a body is that of the reply the
body writes.

Two replies are alike (`AlikeReply`) if their first candidates and their
feedbacks are the same but for fields that no record here has; the candidates
after the first need only be candidates.  Replies that are alike have one
summary.
-/

namespace Prospectus.Summary

open Json

/-! ## What a reply says -/

/-- A text. -/
def IsText (v : Value) (s : String) : Prop := v = .text s

/-- A record whose only field is a text that may be null or left out. -/
def HasText (name : String) (v : Value) (text : Option String) : Prop :=
  ∃ x, Fields [(name, .nullable)] v [x] ∧ Maybe IsText x text

/-- A content, whose parts have the given texts; a part may have none. -/
def IsContent (v : Value) (texts : List String) : Prop :=
  ∃ x parts, Fields [("parts", .defaulted)] v [x] ∧
    ListOf (HasText "text") x parts ∧ texts = parts.filterMap id

/-- A candidate: its content and the reason why it ended, either of which may be
null or left out. -/
def IsCandidate (v : Value) (c : Candidate) : Prop :=
  ∃ content reason, Fields [("content", .nullable), ("finishReason", .nullable)]
    v [content, reason] ∧
    Maybe IsContent content c.texts ∧ Maybe IsText reason c.finishReason

/-- A reply: its candidates, which may be left out but not null, and the reason
in its feedback, if it has both. -/
def IsReply (v : Value) (r : Reply) : Prop :=
  ∃ candidates feedback reason,
    Fields [("candidates", .defaulted), ("promptFeedback", .nullable)] v
      [candidates, feedback] ∧
    ListOf IsCandidate candidates r.candidates ∧
    Maybe (HasText "blockReason") feedback reason ∧
    r.blockReason = reason.bind id

/-! ## Reading replies -/

theorem asText?_eq_some_iff (v : Value) (s : String) :
    v.asText? = some s ↔ IsText v s := by
  cases v with
  | string body =>
      refine ⟨fun h => congrArg Value.string h, fun h => ?_⟩
      exact Value.string.inj h
  | null | bool | number | array | object =>
      refine ⟨fun h => ?_, fun h => ?_⟩
      · cases h
      · cases h

theorem nullableText?_eq_some_iff {v : Option Value} {s : Option String} :
    Value.nullable? (·.asText?) v = some s ↔ Maybe IsText v s :=
  nullable?_eq_some_iff asText?_eq_some_iff rfl

theorem partText?_eq_some_iff (v : Value) (text : Option String) :
    partText? v = some text ↔ HasText "text" v text := by
  unfold partText?
  rw [Option.bind_eq_bind, recordFields?_bind_one]
  exact exists_congr fun x => and_congr_right fun _ => nullableText?_eq_some_iff

theorem blockReason?_eq_some_iff (v : Value) (reason : Option String) :
    blockReason? v = some reason ↔ HasText "blockReason" v reason := by
  unfold blockReason?
  rw [Option.bind_eq_bind, recordFields?_bind_one]
  exact exists_congr fun x => and_congr_right fun _ => nullableText?_eq_some_iff

theorem contentTexts?_eq_some_iff (v : Value) (texts : List String) :
    contentTexts? v = some texts ↔ IsContent v texts := by
  unfold contentTexts?
  rw [Option.bind_eq_bind, recordFields?_bind_one]
  refine exists_congr fun x => ?_
  cases x with
  | none =>
      constructor
      · intro ⟨hfields, h⟩
        exact ⟨[], hfields, .absent, (Option.some.inj h).symm⟩
      · intro ⟨parts, hfields, hparts, htexts⟩
        rw [listOf_none_iff.mp hparts] at htexts
        exact ⟨hfields, congrArg some htexts.symm⟩
  | some v =>
      constructor
      · intro ⟨hfields, h⟩
        obtain ⟨items, hitems, h⟩ := Option.bind_eq_some_iff.mp h
        obtain ⟨parts, hparts, h⟩ := Option.bind_eq_some_iff.mp h
        cases h
        exact ⟨parts, hfields, (listOf_some_iff partText?_eq_some_iff).mpr
          ⟨items, hitems, hparts⟩, rfl⟩
      · intro ⟨parts, hfields, hparts, htexts⟩
        obtain ⟨items, hitems, hparts⟩ :=
          (listOf_some_iff partText?_eq_some_iff).mp hparts
        refine ⟨hfields, Option.bind_eq_some_iff.mpr
          ⟨items, hitems, Option.bind_eq_some_iff.mpr ⟨parts, hparts, ?_⟩⟩⟩
        exact congrArg some htexts.symm

theorem Candidate.ofJson?_eq_some_iff (v : Value) (c : Candidate) :
    Candidate.ofJson? v = some c ↔ IsCandidate v c := by
  have hcontent : ∀ {x texts}, Value.nullable? contentTexts? x = some texts ↔
      Maybe IsContent x texts :=
    nullable?_eq_some_iff contentTexts?_eq_some_iff rfl
  unfold Candidate.ofJson?
  rw [Option.bind_eq_bind, recordFields?_bind_two]
  refine exists_congr fun content => exists_congr fun reason =>
    and_congr_right fun _ => ?_
  constructor
  · intro h
    obtain ⟨texts, htexts, h⟩ := Option.bind_eq_some_iff.mp h
    obtain ⟨finish, hfinish, h⟩ := Option.bind_eq_some_iff.mp h
    cases h
    exact ⟨hcontent.mp htexts, nullableText?_eq_some_iff.mp hfinish⟩
  · intro ⟨htexts, hfinish⟩
    exact Option.bind_eq_some_iff.mpr ⟨_, hcontent.mpr htexts,
      Option.bind_eq_some_iff.mpr ⟨_, nullableText?_eq_some_iff.mpr hfinish, rfl⟩⟩

/-- The end of reading a reply, when its candidates are known. -/
theorem concluded_eq_some_iff {candidates : List Candidate}
    {feedback : Option Value} {r : Reply} :
    ((Value.nullable? blockReason? feedback).bind fun reason =>
      some (Reply.mk candidates (reason.bind id))) = some r ↔
      ∃ reason, r.candidates = candidates ∧
        Maybe (HasText "blockReason") feedback reason ∧
        r.blockReason = reason.bind id := by
  rw [Option.bind_eq_some_iff]
  refine exists_congr fun reason => ?_
  rw [nullable?_eq_some_iff blockReason?_eq_some_iff rfl]
  constructor
  · intro ⟨hreason, h⟩
    cases h
    exact ⟨rfl, hreason, rfl⟩
  · intro ⟨hcandidates, hreason, h⟩
    rw [← hcandidates, ← h]
    exact ⟨hreason, rfl⟩

/-- **Replies are read exactly where there are any.** -/
theorem Reply.ofJson?_eq_some_iff (v : Value) (r : Reply) :
    Reply.ofJson? v = some r ↔ IsReply v r := by
  unfold Reply.ofJson?
  rw [Option.bind_eq_bind, recordFields?_bind_two]
  refine exists_congr fun candidates => exists_congr fun feedback => ?_
  cases candidates with
  | none =>
      constructor
      · intro ⟨hfields, h⟩
        obtain ⟨reason, hcandidates, hr⟩ := concluded_eq_some_iff.mp h
        exact ⟨reason, hfields, listOf_none_iff.mpr hcandidates, hr⟩
      · intro ⟨reason, hfields, hlist, hr⟩
        exact ⟨hfields, concluded_eq_some_iff.mpr
          ⟨reason, listOf_none_iff.mp hlist, hr⟩⟩
  | some v =>
      have hread :=
        @listOf_some_iff _ _ _ Candidate.ofJson?_eq_some_iff v r.candidates
      constructor
      · intro ⟨hfields, h⟩
        obtain ⟨items, hitems, h⟩ := Option.bind_eq_some_iff.mp h
        obtain ⟨list, hlist, h⟩ := Option.bind_eq_some_iff.mp h
        obtain ⟨reason, hcandidates, hr⟩ := concluded_eq_some_iff.mp h
        exact ⟨reason, hfields, hread.mpr ⟨items, hitems, hcandidates ▸ hlist⟩, hr⟩
      · intro ⟨reason, hfields, hlist, hr⟩
        obtain ⟨items, hitems, hlist⟩ := hread.mp hlist
        exact ⟨hfields, Option.bind_eq_some_iff.mpr ⟨items, hitems,
          Option.bind_eq_some_iff.mpr
            ⟨_, hlist, concluded_eq_some_iff.mpr ⟨reason, rfl, hr⟩⟩⟩⟩

/-! ## The summary of a reply -/

theorem Reply.summary_eq_ok_iff (r : Reply) (t : String) :
    r.summary = .ok t ↔
      t ≠ "" ∧ ∃ first later, r.candidates = first :: later ∧
      t = String.join (first.texts.getD []) := by
  unfold Reply.summary
  cases r.candidates with
  | nil =>
      refine ⟨fun h => ?_, fun ⟨_, first, later, h, _⟩ => ?_⟩
      · cases h
      · cases h
  | cons first later =>
      constructor
      · intro h
        dsimp only at h
        split at h
        · cases h
        · rename_i hne
          cases h
          exact ⟨fun hempty => hne (String.isEmpty_iff.mpr hempty), first,
            later, rfl, rfl⟩
      · intro ⟨hne, _, _, hlist, ht⟩
        cases hlist
        exact (if_neg fun hempty =>
          hne (ht.trans (String.isEmpty_iff.mp hempty))).trans
            (congrArg Except.ok ht.symm)

theorem Reply.summary_eq_error_iff (r : Reply) (e : Error) :
    r.summary = .error e ↔ (r.candidates = [] ∧ e = .emptySummary r.blockReason) ∨
      ∃ first later, r.candidates = first :: later ∧
        (∀ text ∈ first.texts.getD [], text = "") ∧
        e = .emptySummary first.finishReason := by
  unfold Reply.summary
  cases r.candidates with
  | nil =>
      constructor
      · intro h
        cases h
        exact .inl ⟨rfl, rfl⟩
      · intro h
        obtain ⟨_, rfl⟩ | ⟨_, _, h, _⟩ := h
        · rfl
        · cases h
  | cons first later =>
      have hempty : (String.join (first.texts.getD [])).isEmpty ↔
          ∀ text ∈ first.texts.getD [], text = "" := by
        rw [String.isEmpty_iff, ← String.toList_eq_nil_iff, String.toList_join,
          List.flatMap_eq_nil_iff]
        simp only [String.toList_eq_nil_iff]
      constructor
      · intro h
        dsimp only at h
        split at h
        · rename_i htext
          cases h
          exact .inr ⟨first, later, rfl, hempty.mp htext, rfl⟩
        · cases h
      · intro h
        obtain ⟨h, _⟩ | ⟨_, _, h, htexts, rfl⟩ := h
        · cases h
        · cases h
          exact if_pos (hempty.mpr htexts)

/-- The summary is that of the reply in the body. -/
theorem readSummary_of_isReply (complaint : String → String) {body : String}
    {v : Value} {r : Reply} (hbody : Written body v) (hv : IsReply v r) :
    readSummary complaint body = r.summary := by
  unfold readSummary
  rw [read?_eq_some_iff.mpr hbody, Option.bind_some,
    (Reply.ofJson?_eq_some_iff v r).mpr hv]

theorem readSummary_of_no_reply (complaint : String → String) {body : String}
    (h : ¬∃ v r, Written body v ∧ IsReply v r) :
    readSummary complaint body =
      .error (.summarizer ("Malformed response: " ++ complaint body)) := by
  have hnone : (Value.read? body).bind Reply.ofJson? = none := by
    refine Option.eq_none_iff_forall_ne_some.mpr fun r hr => h ?_
    obtain ⟨v, hv, hr⟩ := Option.bind_eq_some_iff.mp hr
    exact ⟨v, r, read?_eq_some_iff.mp hv, (Reply.ofJson?_eq_some_iff v r).mp hr⟩
  unfold readSummary
  rw [hnone]

/-! ## What does not matter -/

/-- Records with one field in common, whatever else they hold. -/
def SameField (field : String × Need) (v w : Value) : Prop :=
  ∃ x, Fields [field] v [x] ∧ Fields [field] w [x]

/-- Values that may be null or left out, and are the same or alike. -/
inductive AlikeMaybe (Alike : Value → Value → Prop) :
    Option Value → Option Value → Prop
  | same {x : Option Value} : AlikeMaybe Alike x x
  | alike {v w : Value} (h : Alike v w) : AlikeMaybe Alike (some v) (some w)

/-- Arrays with the same number of parts, each with the same text. -/
inductive AlikeParts : Value → Value → Prop
  | mk {parts others : List Value}
      (h : List.Forall₂ (SameField ("text", .nullable)) parts others) :
      AlikeParts (.array parts) (.array others)

/-- Contents whose parts are alike, whatever else they hold. -/
def AlikeContent (v w : Value) : Prop :=
  ∃ parts others, Fields [("parts", .defaulted)] v [parts] ∧
    Fields [("parts", .defaulted)] w [others] ∧
    AlikeMaybe AlikeParts parts others

/-- Candidates that end for the same reason and whose contents are alike,
whatever else they hold. -/
def AlikeCandidate (v w : Value) : Prop :=
  ∃ content other reason,
    Fields [("content", .nullable), ("finishReason", .nullable)] v
      [content, reason] ∧
    Fields [("content", .nullable), ("finishReason", .nullable)] w [other, reason] ∧
    AlikeMaybe AlikeContent content other

/-- Arrays of candidates, of which only the first need be alike. -/
inductive AlikeCandidates : Value → Value → Prop
  | mk {v w : Value} {later others : List Value} (hfirst : AlikeCandidate v w)
      (hlater : ∀ u ∈ later, ∃ c, IsCandidate u c)
      (hothers : ∀ u ∈ others, ∃ c, IsCandidate u c) :
      AlikeCandidates (.array (v :: later)) (.array (w :: others))

/-- Replies whose first candidates are alike and whose feedbacks give the same
reason, whatever else they hold. -/
def AlikeReply (v w : Value) : Prop :=
  ∃ candidates others feedback remark,
    Fields [("candidates", .defaulted), ("promptFeedback", .nullable)] v
      [candidates, feedback] ∧
    Fields [("candidates", .defaulted), ("promptFeedback", .nullable)] w
      [others, remark] ∧
    AlikeMaybe AlikeCandidates candidates others ∧
    AlikeMaybe (SameField ("blockReason", .nullable)) feedback remark

theorem AlikeMaybe.maybe {α : Type} {Alike : Value → Value → Prop}
    {Holds : Value → α → Prop} {x y : Option Value}
    {a : Option α} (h : AlikeMaybe Alike x y) (hx : Maybe Holds x a)
    (hnull : ∀ w, ¬Alike .null w)
    (halike : ∀ {v w a}, Alike v w → Holds v a → Holds w a) : Maybe Holds y a := by
  cases h with
  | same => exact hx
  | alike h =>
      cases hx with
      | null => exact absurd h (hnull _)
      | present hv => exact .present (halike h hv)

theorem not_fields_null {spec : List (String × Need)}
    {values : List (Option Value)} : ¬Fields spec .null values := by
  intro h
  cases h

theorem forall₂_alike {α : Type} {Alike : Value → Value → Prop}
    {Holds : Value → α → Prop} {vs ws : List Value}
    {as : List α} (h : List.Forall₂ Alike vs ws) (hvs : List.Forall₂ Holds vs as)
    (halike : ∀ {v w a}, Alike v w → Holds v a → Holds w a) :
    List.Forall₂ Holds ws as := by
  induction h generalizing as with
  | nil =>
      cases hvs
      exact .nil
  | cons h _ ih =>
      cases hvs with
      | cons hv hvs => exact .cons (halike h hv) (ih hvs)

theorem exists_candidates {vs : List Value} (h : ∀ v ∈ vs, ∃ c, IsCandidate v c) :
    ∃ cs, List.Forall₂ IsCandidate vs cs := by
  induction vs with
  | nil => exact ⟨[], .nil⟩
  | cons v vs ih =>
      obtain ⟨c, hc⟩ := h v List.mem_cons_self
      obtain ⟨cs, hcs⟩ := ih fun v hv => h v (List.mem_cons_of_mem _ hv)
      exact ⟨c :: cs, .cons hc hcs⟩

theorem SameField.hasText {name : String} {v w : Value} {text : Option String}
    (h : SameField (name, .nullable) v w)
    (hv : HasText name v text) : HasText name w text := by
  obtain ⟨x, hx, hw⟩ := h
  obtain ⟨y, hy, htext⟩ := hv
  cases hx.unique hy
  exact ⟨x, hw, htext⟩

theorem AlikeContent.isContent {v w : Value} {texts : List String}
    (h : AlikeContent v w) (hv : IsContent v texts) :
    IsContent w texts := by
  obtain ⟨x, y, hx, hy, hparts⟩ := h
  obtain ⟨x', parts, hx', hlist, htexts⟩ := hv
  cases hx.unique hx'
  refine ⟨y, parts, hy, ?_, htexts⟩
  cases hparts with
  | same => exact hlist
  | alike h =>
      cases h with
      | mk h =>
          cases hlist with
          | present hitems =>
            exact .present (forall₂_alike h hitems SameField.hasText)

theorem AlikeCandidate.isCandidate {v w : Value} {c : Candidate}
    (h : AlikeCandidate v w) (hv : IsCandidate v c) :
    IsCandidate w c := by
  obtain ⟨content, other, reason, hfields, hothers, halike⟩ := h
  obtain ⟨content', reason', hfields', hcontent, hreason⟩ := hv
  cases hfields.unique hfields'
  refine ⟨other, reason, hothers,
    halike.maybe hcontent ?_ AlikeContent.isContent, hreason⟩
  intro w ⟨_, _, hnull, _⟩
  exact not_fields_null hnull

theorem AlikeCandidates.exists_listOf {x y : Option Value} {cs : List Candidate}
    (h : AlikeMaybe AlikeCandidates x y) (hx : ListOf IsCandidate x cs) :
    ∃ others, ListOf IsCandidate y others ∧ others.head? = cs.head? := by
  cases h with
  | same => exact ⟨cs, hx, rfl⟩
  | alike h =>
      cases h with
      | mk hfirst hlater hothers =>
          cases hx with
          | present hitems =>
              cases hitems with
              | @cons _ c _ _ hc _ =>
                  obtain ⟨others, hcandidates⟩ := exists_candidates hothers
                  exact ⟨c :: others,
                    .present (.cons (hfirst.isCandidate hc) hcandidates), rfl⟩

/-- What is alike to a reply is a reply with the same first candidate and the
same feedback. -/
theorem AlikeReply.exists_isReply {v w : Value} {r : Reply} (h : AlikeReply v w)
    (hv : IsReply v r) :
    ∃ r', IsReply w r' ∧ r'.candidates.head? = r.candidates.head? ∧
      r'.blockReason = r.blockReason := by
  obtain ⟨candidates, others, feedback, remark, hfields, hothers, hcandidates,
    hfeedback⟩ := h
  obtain ⟨candidates', feedback', reason, hfields', hlist, hreason, hr⟩ := hv
  cases hfields.unique hfields'
  obtain ⟨cs, hcs, hhead⟩ := AlikeCandidates.exists_listOf hcandidates hlist
  refine ⟨⟨cs, r.blockReason⟩, ⟨others, remark, reason, hothers, hcs, ?_, hr⟩,
    hhead, rfl⟩
  refine hfeedback.maybe hreason ?_ SameField.hasText
  intro w ⟨_, hnull, _⟩
  exact not_fields_null hnull

theorem Reply.summary_congr {r r' : Reply}
    (hfirst : r'.candidates.head? = r.candidates.head?)
    (hreason : r'.blockReason = r.blockReason) : r'.summary = r.summary := by
  unfold Reply.summary
  cases hr : r.candidates with
  | nil =>
      rw [hr, List.head?_nil, List.head?_eq_none_iff] at hfirst
      rw [hfirst, hreason]
  | cons first later =>
      rw [hr, List.head?_cons, List.head?_eq_some_iff] at hfirst
      obtain ⟨others, hothers⟩ := hfirst
      rw [hothers]

/-- **The summary in a body.**  A body that writes a reply holds a summary if
and only if the reply has a first candidate with some text, and the summary is
then the texts of its parts in order; without a candidate, or without a text,
the error has the reason that the feedback, or the candidate, gives.  Fields
that no record has and the candidates after the first do not matter.  Every
other body is malformed, and the error says why in the reader's words. -/
theorem readSummary_reads_replies (complaint : String → String) (body : String) :
    (∀ v r, Written body v → IsReply v r →
      (∀ t, readSummary complaint body = .ok t ↔
        t ≠ "" ∧
          ∃ first later, r.candidates = first :: later ∧
            t = String.join (first.texts.getD [])) ∧
      (∀ e, readSummary complaint body = .error e ↔
        (r.candidates = [] ∧ e = .emptySummary r.blockReason) ∨
        ∃ first later, r.candidates = first :: later ∧
          (∀ text ∈ first.texts.getD [], text = "") ∧
          e = .emptySummary first.finishReason) ∧
      ∀ other w, Written other w → AlikeReply v w →
        readSummary complaint other = readSummary complaint body) ∧
    ((∃ reason, readSummary complaint body = .error (.summarizer reason)) ↔
      ¬∃ v r, Written body v ∧ IsReply v r) ∧
    (∀ reason, readSummary complaint body = .error (.summarizer reason) →
      reason = "Malformed response: " ++ complaint body) ∧
    (∀ t, readSummary complaint body = .ok t → t ≠ "") ∧
    ∀ e, readSummary complaint body = .error e → e.kind = .collaborator := by
  by_cases hreply : ∃ v r, Written body v ∧ IsReply v r
  · obtain ⟨v, r, hbody, hv⟩ := hreply
    -- a reply has none of the errors of a malformed body
    have hno : ∀ reason, r.summary ≠ .error (.summarizer reason) := by
      intro reason h
      obtain ⟨_, he⟩ | ⟨_, _, _, _, he⟩ := (r.summary_eq_error_iff _).mp h
      · cases he
      · cases he
    rw [readSummary_of_isReply complaint hbody hv]
    refine ⟨?_, ?_, ?_, ?_, ?_⟩
    · intro v' r' hbody' hv'
      rw [← readSummary_of_isReply complaint hbody hv,
        readSummary_of_isReply complaint hbody' hv']
      refine ⟨r'.summary_eq_ok_iff, r'.summary_eq_error_iff, ?_⟩
      intro other w hother halike
      obtain ⟨r'', hw, hfirst, hreason⟩ := halike.exists_isReply hv'
      rw [readSummary_of_isReply complaint hother hw,
        Reply.summary_congr hfirst hreason]
    · exact ⟨fun ⟨reason, h⟩ => absurd h (hno reason),
        fun h => absurd ⟨v, r, hbody, hv⟩ h⟩
    · intro reason h
      exact absurd h (hno reason)
    · intro t h
      exact ((r.summary_eq_ok_iff t).mp h).1
    · intro e h
      obtain ⟨_, rfl⟩ | ⟨_, _, _, _, rfl⟩ := (r.summary_eq_error_iff e).mp h
      · rfl
      · rfl
  · rw [readSummary_of_no_reply complaint hreply]
    refine ⟨?_, ⟨fun _ => hreply, fun _ => ⟨_, rfl⟩⟩, ?_, ?_, ?_⟩
    · intro v r hbody hv
      exact absurd ⟨v, r, hbody, hv⟩ hreply
    · intro reason h
      cases h
      rfl
    · intro t h
      cases h
    · intro e h
      cases h
      rfl

/-- A reply whose first candidate has a text in two parts, with other fields in
each of its records and other candidates. -/
def sampleReply (extra : List (String × Value)) (later : List Value) : Value :=
  .record
    (extra ++ [("candidates", .array
        (.record
          (extra ++ [("content", .record
              (extra ++
                [("parts", .array [.record (extra ++ [("text", .text "a")]),
                  .record (extra ++ [("text", .text "b")])])]))]) :: later))])

theorem written_sampleReply (extra : List (String × Value)) (later : List Value)
    (hextra : ∀ field ∈ extra, Writable field.2)
    (hlater : ∀ v ∈ later, Writable v) :
    Written (sampleReply extra later).compact (sampleReply extra later) := by
  have hrecord : ∀ name {v}, Writable v →
      Writable (.record (extra ++ [(name, v)])) := fun _ _ hv =>
    .record (List.forall_mem_append.mpr ⟨hextra, List.forall_mem_singleton.mpr hv⟩)
  have hparts : Writable
      (.array [.record (extra ++ [("text", .text "a")]),
        .record (extra ++ [("text", .text "b")])]) :=
    .array (List.forall_mem_cons.mpr ⟨hrecord _ (.text "a"),
      List.forall_mem_singleton.mpr (hrecord _ (.text "b"))⟩)
  have hcandidates := Writable.array (List.forall_mem_cons.mpr
    ⟨hrecord "content" (hrecord "parts" hparts), hlater⟩)
  exact read?_eq_some_iff.mp (hrecord "candidates" hcandidates).read?_compact

theorem otherFields_keep_summary :
    readSummary (fun _ => "") (sampleReply [] []).compact = .ok "ab" ∧
      readSummary (fun _ => "") (sampleReply [("id", .null)] [.record []]).compact =
        readSummary (fun _ => "") (sampleReply [] []).compact := by
  have hbare :=
    written_sampleReply [] [] (List.forall_mem_nil _) (List.forall_mem_nil _)
  have hpadded := written_sampleReply [("id", .null)] [.record []]
    (List.forall_mem_singleton.mpr .null)
    (List.forall_mem_singleton.mpr (.record (List.forall_mem_nil _)))
  have hreply : IsReply (sampleReply [] []) ⟨[⟨some ["a", "b"], none⟩], none⟩ :=
    (Reply.ofJson?_eq_some_iff _ _).mp rfl
  have hpart : ∀ {v w x}, recordFields? [("text", .nullable)] v = some [x] →
      recordFields? [("text", .nullable)] w = some [x] →
      SameField ("text", .nullable) v w := fun hv hw =>
    ⟨_, recordFields?_eq_some_iff.mp hv, recordFields?_eq_some_iff.mp hw⟩
  have hsame : AlikeReply (sampleReply [] [])
      (sampleReply [("id", .null)] [.record []]) := by
    refine ⟨_, _, _, _, recordFields?_eq_some_iff.mp rfl,
      recordFields?_eq_some_iff.mp rfl,
      .alike (.mk ?_ (List.forall_mem_nil _) ?_), .same⟩
    · refine ⟨_, _, _, recordFields?_eq_some_iff.mp rfl,
        recordFields?_eq_some_iff.mp rfl, .alike ?_⟩
      refine ⟨_, _, recordFields?_eq_some_iff.mp rfl,
        recordFields?_eq_some_iff.mp rfl, .alike (.mk ?_)⟩
      exact .cons (hpart rfl rfl) (.cons (hpart rfl rfl) .nil)
    · exact List.forall_mem_singleton.mpr
        ⟨⟨none, none⟩, (Candidate.ofJson?_eq_some_iff _ _).mp rfl⟩
  obtain ⟨hok, _, halike⟩ :=
    (readSummary_reads_replies (fun _ => "") _).1 _ _ hbare hreply
  exact ⟨(hok "ab").mpr ⟨by decide, _, _, rfl, rfl⟩, halike _ _ hpadded hsame⟩

end Prospectus.Summary
