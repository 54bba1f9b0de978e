import Mathlib.Data.List.TakeWhile
import Prospectus.Proofs.PageRanges

/-!
# What a visitor is told

A walk over pages is told here by its trace: all that the visitor was told, in
order, each time with what it answered.  The trace is what a visitor writes down
that answers like the given one (`Visitor.logged`), and writing it down changes
nothing in the walk (`Visitor.exists_tour`).

A `PageVisit` is what happens at one page.  The visits of a walk are a `Tour` of
the first pages of its range: of all of them, unless the visitor stops or a page
that it has agreed to cannot be read.  What is guaranteed of the order of calls
and of the result follows from the tour by induction.  Two more facts compare
walks: pages that the visitor does not agree to are not read
(`logged_walkPages_congr`), and visitors that differ at the ends of pages at
most in skipping or going on are told the same (`AnswersLike`).
-/

namespace Prospectus

/-- Whether a page can be read. -/
def PageSource.canRead (source : PageSource) (p : UInt32) : Bool :=
  (source.pageRuns p).isOk

/-- The runs of a page that can be read. -/
def PageSource.runsOf (source : PageSource) (p : UInt32) : List Run :=
  (source.pageRuns p).toOption.getD []

/-- What a visitor is told: that a page starts, a run of it, or that it ends. -/
inductive Call where
  | start (page : UInt32)
  | run (page : UInt32) (run : Run)
  | finish (page : UInt32)

namespace Call

/-- The page that a call is about. -/
def page : Call → UInt32
  | start p => p
  | run p _ => p
  | finish p => p

/-- The run that a call shows, if it shows one. -/
def run? : Call → Option Run
  | run _ r => some r
  | _ => none

end Call

/-- A call and the answer to it. -/
structure Exchange where
  call : Call
  answer : Action

namespace Visitor

variable {σ : Type}

/-- The answer to a call, and the state after it. -/
def respond (v : Visitor σ) : Call → σ → Action × σ
  | .start p, s => v.pageStart p s
  | .run p r, s => v.visit p r s
  | .finish p, s => v.pageEnd p s

/-- Answers a call and writes down both. -/
def log (v : Visitor σ) (c : Call) (h : List Exchange × σ) :
    Action × (List Exchange × σ) :=
  ((v.respond c h.2).1, h.1 ++ [⟨c, (v.respond c h.2).1⟩], (v.respond c h.2).2)

/-- The visitor that answers as `v` does and writes down all calls and answers. -/
def logged (v : Visitor σ) : Visitor (List Exchange × σ) where
  pageStart p := v.log (.start p)
  visit p r := v.log (.run p r)
  pageEnd p := v.log (.finish p)

/-- The answers are those that the visitor gives to the calls, one after the
other, from the first state to the last. -/
inductive Answers (v : Visitor σ) : σ → List Exchange → σ → Prop
  | nil (s : σ) : Answers v s [] s
  | cons {s s' s'' : σ} {e : Exchange} {rest : List Exchange}
      (head : v.respond e.call s = (e.answer, s'))
      (tail : Answers v s' rest s'') : Answers v s (e :: rest) s''

theorem Answers.append {v : Visitor σ} {s s' s'' : σ} {T U : List Exchange}
    (h : v.Answers s T s')
    (h' : v.Answers s' U s'') : v.Answers s (T ++ U) s'' := by
  induction h with
  | nil => exact h'
  | cons head _ ih => exact .cons head (ih h')

/-- Every answer is one that the visitor gives in some state. -/
theorem Answers.exists_state {v : Visitor σ} {s s' : σ} {T : List Exchange}
    (h : v.Answers s T s') {e : Exchange}
    (he : e ∈ T) : ∃ t, (v.respond e.call t).1 = e.answer := by
  induction h with
  | nil => cases he
  | @cons s s' s'' first rest head tail ih =>
      rcases List.mem_cons.mp he with rfl | hrest
      · exact ⟨s, congrArg Prod.fst head⟩
      · exact ih hrest

theorem Answers.single {v : Visitor σ} {s s' : σ} {c : Call} {a : Action}
    (h : v.respond c s = (a, s')) :
    v.Answers s [⟨c, a⟩] s' :=
  .cons h (.nil s')

end Visitor

/-! ## One page -/

/-- The visitor goes on at each of the runs. -/
def passed (p : UInt32) (runs : List Run) : List Exchange :=
  runs.map fun r => ⟨.run p r, .proceed⟩

/-- The runs of a page that are shown: all of them, or those up to the first at
which the visitor skips the rest of the page or stops.  The last part says
whether it stops. -/
inductive Shown (p : UInt32) : List Run → List Exchange → Bool → Prop
  | whole (runs : List Run) : Shown p runs (passed p runs) false
  | skip (seen : List Run) (r : Run) (rest : List Run) :
      Shown p (seen ++ r :: rest) (passed p seen ++ [⟨.run p r, .skipPage⟩]) false
  | stop (seen : List Run) (r : Run) (rest : List Run) :
      Shown p (seen ++ r :: rest) (passed p seen ++ [⟨.run p r, .stop⟩]) true

/-- What the visitor is told of a page.  It may decline the page, of which it is
told nothing more; it may agree to a page that cannot be read; it may stop at
one of the runs; or else it is told of the end of the page, also if it has
skipped some runs. -/
inductive PageVisit (source : PageSource) (p : UInt32) : List Exchange → Prop
  | declined {a : Action} (h : a ≠ .proceed) : PageVisit source p [⟨.start p, a⟩]
  | unreadable {e : Error} (h : source.pageRuns p = .error e) :
      PageVisit source p [⟨.start p, .proceed⟩]
  | stopped {runs : List Run} {shown : List Exchange}
      (h : source.pageRuns p = .ok runs)
      (hshown : Shown p runs shown true) :
      PageVisit source p (⟨.start p, .proceed⟩ :: shown)
  | finished {runs : List Run} {shown : List Exchange}
      (h : source.pageRuns p = .ok runs)
      (hshown : Shown p runs shown false) (a : Action) :
      PageVisit source p (⟨.start p, .proceed⟩ :: (shown ++ [⟨.finish p, a⟩]))

/-- A walk ends at this call, with this result: the visitor stops, or it agrees
to a page that cannot be read. -/
inductive Halts (source : PageSource) : Exchange → Except Error Unit → Prop
  | stop (c : Call) : Halts source ⟨c, .stop⟩ (.ok ())
  | fail {p : UInt32} {e : Error} (h : source.pageRuns p = .error e) :
      Halts source ⟨.start p, .proceed⟩ (.error e)

/-- None of the calls ends a walk. -/
def GoesOn (source : PageSource) (T : List Exchange) : Prop :=
  ∀ e ∈ T, ∀ result, ¬ Halts source e result

/-- How the calls of a visit end: the walk goes on, or it ends with a result. -/
def Closes (source : PageSource) (T : List Exchange) :
    Option (Except Error Unit) → Prop
  | none => GoesOn source T
  | some result =>
    ∃ init e, T = init ++ [e] ∧ GoesOn source init ∧ Halts source e result

/-- A call that does not end a walk may come before. -/
theorem Closes.cons {source : PageSource} {T : List Exchange}
    {result : Option (Except Error Unit)} {e : Exchange}
    (he : ∀ result, ¬ Halts source e result) (h : Closes source T result) :
    Closes source (e :: T) result := by
  cases result with
  | none => exact List.forall_mem_cons.mpr ⟨he, h⟩
  | some result =>
      obtain ⟨init, last, rfl, hinit, hlast⟩ := h
      exact ⟨e :: init, last, rfl, List.forall_mem_cons.mpr ⟨he, hinit⟩, hlast⟩

namespace Shown

theorem next {p : UInt32} {runs : List Run} {shown : List Exchange}
    {stopped : Bool} (r : Run) (h : Shown p runs shown stopped) :
    Shown p (r :: runs) (⟨.run p r, .proceed⟩ :: shown) stopped := by
  cases h with
  | whole => exact .whole (r :: runs)
  | skip seen q rest => exact .skip (r :: seen) q rest
  | stop seen q rest => exact .stop (r :: seen) q rest

theorem mem_passed {p : UInt32} {runs : List Run} {e : Exchange}
    (h : e ∈ passed p runs) :
    ∃ r, e = ⟨.run p r, .proceed⟩ := by
  obtain ⟨r, -, rfl⟩ := List.mem_map.mp h
  exact ⟨r, rfl⟩

theorem mem_passed_concat {p : UInt32} {seen : List Run} {r : Run} {a : Action}
    {e : Exchange}
    (h : e ∈ passed p seen ++ [⟨.run p r, a⟩]) : ∃ r a, e = ⟨.run p r, a⟩ := by
  rcases List.mem_append.mp h with hseen | hlast
  · obtain ⟨r, rfl⟩ := mem_passed hseen
    exact ⟨r, _, rfl⟩
  · exact ⟨r, a, List.mem_singleton.mp hlast⟩

/-- Each call shows a run of the page. -/
theorem call_eq {p : UInt32} {runs : List Run} {shown : List Exchange}
    {stopped : Bool}
    (h : Shown p runs shown stopped) {e : Exchange} (he : e ∈ shown) :
    ∃ r a, e = ⟨.run p r, a⟩ := by
  cases h with
  | whole =>
      obtain ⟨r, rfl⟩ := mem_passed he
      exact ⟨r, _, rfl⟩
  | skip seen r rest => exact mem_passed_concat he
  | stop seen r rest => exact mem_passed_concat he

theorem runs_passed (p : UInt32) (runs : List Run) :
    (passed p runs).filterMap (·.call.run?) = runs := by
  induction runs with
  | nil => rfl
  | cons r rest ih => exact congrArg (r :: ·) ih

/-- A visitor that goes on at every run is shown all of them. -/
theorem runs_eq {p : UInt32} {runs : List Run} {shown : List Exchange}
    {stopped : Bool}
    (h : Shown p runs shown stopped) (hgo : ∀ e ∈ shown, e.answer = .proceed) :
    shown.filterMap (·.call.run?) = runs := by
  cases h with
  | whole => exact runs_passed p runs
  | skip seen r rest => cases hgo ⟨.run p r, .skipPage⟩ (by simp)
  | stop seen r rest => cases hgo ⟨.run p r, .stop⟩ (by simp)

/-- A walk goes on while the visitor goes on at runs. -/
theorem goesOn_passed (source : PageSource) (p : UInt32) (runs : List Run) :
    GoesOn source (passed p runs) := by
  intro e he result hhalts
  obtain ⟨r, rfl⟩ := mem_passed he
  cases hhalts

/-- A walk goes on when runs are shown without a stop. -/
theorem goesOn {source : PageSource} {p : UInt32} {runs : List Run}
    {shown : List Exchange}
    (h : Shown p runs shown false) : GoesOn source shown := by
  cases h with
  | whole => exact goesOn_passed source p runs
  | skip seen q rest =>
      intro e he result hhalts
      rcases List.mem_append.mp he with hseen | hlast
      · exact goesOn_passed source p seen e hseen result hhalts
      · rw [List.mem_singleton.mp hlast] at hhalts
        cases hhalts

end Shown

namespace Visitor

variable {σ : Type}

/-- Tells the visitor of a page that has been read; the result is that of the
walk if the walk ends here. -/
def readPage (v : Visitor σ) (p : UInt32) (runs : List Run) (s : σ) :
    σ × Option (Except Error Unit) :=
  match v.visitRuns p runs s with
  | (true, s) => (s, some (.ok ()))
  | (false, s) =>
    match v.pageEnd p s with
    | (.stop, s) => (s, some (.ok ()))
    | (_, s) => (s, none)

/-- Tells the visitor of a page; the result is that of the walk if the walk ends
here. -/
def visitPage (v : Visitor σ) (source : PageSource) (p : UInt32) (s : σ) :
    σ × Option (Except Error Unit) :=
  match v.pageStart p s with
  | (.stop, s) => (s, some (.ok ()))
  | (.skipPage, s) => (s, none)
  | (.proceed, s) =>
    match source.pageRuns p with
    | .error e => (s, some (.error e))
    | .ok runs => v.readPage p runs s

/-- A walk visits one page after the other. -/
theorem walkPages_cons (v : Visitor σ) (source : PageSource) (p : UInt32)
    (rest : List UInt32) (s : σ) :
    v.walkPages source (p :: rest) s =
      match v.visitPage source p s with
      | (s, some result) => (s, result)
      | (s, none) => v.walkPages source rest s := by
  rw [walkPages, visitPage]
  rcases v.pageStart p s with ⟨_ | _ | _, s₁⟩
  · cases source.pageRuns p with
    | error e => rfl
    | ok runs =>
        dsimp only
        rw [readPage]
        rcases v.visitRuns p runs s₁ with ⟨_ | _, s₂⟩
        · dsimp only
          rcases v.pageEnd p s₂ with ⟨_ | _ | _, s₃⟩ <;> rfl
        · rfl
  · rfl
  · rfl

/-- **The runs of a page.**  Writing down changes nothing, and what is written
down are the runs that are shown. -/
theorem logged_visitRuns (v : Visitor σ) (p : UInt32) (runs : List Run)
    (T : List Exchange) (s : σ) :
    ∃ shown, Shown p runs shown (v.visitRuns p runs s).1 ∧
      v.Answers s shown (v.visitRuns p runs s).2 ∧
      v.logged.visitRuns p runs (T, s) =
        ((v.visitRuns p runs s).1, (T ++ shown, (v.visitRuns p runs s).2)) := by
  induction runs generalizing T s with
  | nil => exact ⟨[], .whole [], .nil s, by simp [visitRuns]⟩
  | cons r rest ih =>
      have hlog : v.logged.visit p r (T, s) =
          ((v.visit p r s).1,
            (T ++ [⟨.run p r, (v.visit p r s).1⟩], (v.visit p r s).2)) := rfl
      rw [visitRuns, visitRuns, hlog]
      rcases hvisit : v.visit p r s with ⟨a, s'⟩
      cases a with
      | proceed =>
          obtain ⟨shown, hshown, hanswers, hrest⟩ :=
            ih (T ++ [⟨.run p r, .proceed⟩]) s'
          exact ⟨⟨.run p r, .proceed⟩ :: shown, hshown.next r,
            .cons hvisit hanswers, by simpa using hrest⟩
      | skipPage => exact ⟨_, .skip [] r rest, .single hvisit, rfl⟩
      | stop => exact ⟨_, .stop [] r rest, .single hvisit, rfl⟩

/-- Writing down changes nothing when a page has been read, and completes the
visit of the page. -/
theorem logged_readPage (v : Visitor σ) {source : PageSource} {p : UInt32}
    {runs : List Run}
    (hread : source.pageRuns p = .ok runs) (T : List Exchange) (s : σ) :
    ∃ U, PageVisit source p (⟨.start p, .proceed⟩ :: U) ∧
      Closes source U (v.readPage p runs s).2 ∧
      v.Answers s U (v.readPage p runs s).1 ∧
      v.logged.readPage p runs (T, s) =
        ((T ++ U, (v.readPage p runs s).1), (v.readPage p runs s).2) := by
  obtain ⟨shown, hshown, hruns, hvisit⟩ := v.logged_visitRuns p runs T s
  rw [readPage, readPage, hvisit]
  rcases hleft : v.visitRuns p runs s with ⟨stopped, s'⟩
  rw [hleft] at hruns hshown
  cases stopped with
  | true =>
      refine ⟨shown, .stopped hread hshown, ?_, hruns, rfl⟩
      cases hshown with
      | stop seen r rest =>
        exact ⟨passed p seen, _, rfl, Shown.goesOn_passed source p seen, .stop _⟩
  | false =>
      have hend : v.logged.pageEnd p (T ++ shown, s') =
          ((v.pageEnd p s').1,
            (T ++ shown ++ [⟨.finish p, (v.pageEnd p s').1⟩],
              (v.pageEnd p s').2)) := rfl
      dsimp only
      rw [hend]
      rcases hfinish : v.pageEnd p s' with ⟨a, s''⟩
      have hanswers : v.Answers s (shown ++ [⟨.finish p, a⟩]) s'' :=
        hruns.append (.single hfinish)
      have hon : a ≠ .stop → GoesOn source (shown ++ [⟨.finish p, a⟩]) := by
        intro ha
        refine List.forall_mem_append.mpr ⟨hshown.goesOn, ?_⟩
        intro e he result hhalts
        rw [List.mem_singleton.mp he] at hhalts
        cases hhalts
        exact ha rfl
      refine ⟨_, .finished hread hshown a, ?_, ?_, ?_⟩
      · cases a with
        | stop => exact ⟨shown, _, rfl, hshown.goesOn, .stop _⟩
        | proceed => exact hon (by decide)
        | skipPage => exact hon (by decide)
      · cases a <;> exact hanswers
      · cases a <;> simp

/-- **One page.**  Writing down changes nothing, and what is written down is a
visit that closes as the page does. -/
theorem logged_visitPage (v : Visitor σ) (source : PageSource) (p : UInt32)
    (T : List Exchange) (s : σ) :
    ∃ U, PageVisit source p U ∧ Closes source U (v.visitPage source p s).2 ∧
      v.Answers s U (v.visitPage source p s).1 ∧
      v.logged.visitPage source p (T, s) =
        ((T ++ U, (v.visitPage source p s).1), (v.visitPage source p s).2) := by
  have hlog : v.logged.pageStart p (T, s) =
      ((v.pageStart p s).1,
        (T ++ [⟨.start p, (v.pageStart p s).1⟩], (v.pageStart p s).2)) := rfl
  rw [visitPage, visitPage, hlog]
  rcases hstart : v.pageStart p s with ⟨a, s'⟩
  have hfirst : v.respond (.start p) s = (a, s') := hstart
  cases a with
  | stop =>
    exact ⟨_, .declined (by decide), ⟨[], _, rfl, by simp [GoesOn], .stop _⟩,
      .single hfirst, rfl⟩
  | skipPage =>
      refine ⟨_, .declined (by decide), ?_, .single hfirst, rfl⟩
      intro e he result hhalts
      rw [List.mem_singleton.mp he] at hhalts
      cases hhalts
  | proceed =>
      cases hread : source.pageRuns p with
      | error e =>
          exact ⟨_, .unreadable hread,
            ⟨[], _, rfl, by simp [GoesOn], .fail hread⟩, .single hfirst, rfl⟩
      | ok runs =>
          obtain ⟨U, hvisit, hcloses, hanswers, hlogged⟩ :=
            v.logged_readPage hread (T ++ [⟨.start p, .proceed⟩]) s'
          refine ⟨_, hvisit, hcloses.cons ?_, .cons hfirst hanswers, ?_⟩
          · intro result hhalts
            cases hhalts with
            | fail hfail => cases hread.symm.trans hfail
          · simpa using hlogged

end Visitor

/-! ## All pages -/

/-- The visits of a walk over pages, one after the other, and how the walk ends. -/
inductive Tour (source : PageSource) :
    List UInt32 → List Exchange → Except Error Unit → Prop
  | done : Tour source [] [] (.ok ())
  | pass {p : UInt32} {pages : List UInt32} {T U : List Exchange}
      {result : Except Error Unit}
      (visit : PageVisit source p T) (go : Closes source T none)
      (tail : Tour source pages U result) :
      Tour source (p :: pages) (T ++ U) result
  | halt {p : UInt32} {pages : List UInt32} {T : List Exchange}
      {result : Except Error Unit}
      (visit : PageVisit source p T) (close : Closes source T (some result)) :
      Tour source (p :: pages) T result

namespace Visitor

variable {σ : Type}

/-- **A walk is a tour.**  Writing down changes nothing, and what is written
down are the visits of a tour of the pages. -/
theorem exists_tour (v : Visitor σ) (source : PageSource) (pages : List UInt32)
    (T : List Exchange) (s : σ) :
    ∃ U, Tour source pages U (v.walkPages source pages s).2 ∧
      v.Answers s U (v.walkPages source pages s).1 ∧
      v.logged.walkPages source pages (T, s) =
        ((T ++ U, (v.walkPages source pages s).1),
          (v.walkPages source pages s).2) := by
  induction pages generalizing T s with
  | nil => exact ⟨[], .done, .nil s, by simp [walkPages]⟩
  | cons p rest ih =>
      obtain ⟨U, hvisit, hcloses, hanswers, hpage⟩ :=
        v.logged_visitPage source p T s
      rw [walkPages_cons, walkPages_cons, hpage]
      rcases hvisited : v.visitPage source p s with ⟨s', result⟩
      rw [hvisited] at hcloses hanswers
      cases result with
      | some result => exact ⟨U, .halt hvisit hcloses, hanswers, rfl⟩
      | none =>
          obtain ⟨U', htour, hrest, hwalk⟩ := ih (T ++ U) s'
          exact ⟨U ++ U', .pass hvisit hcloses htour, hanswers.append hrest,
            by simpa using hwalk⟩

end Visitor

/-! ### What a tour guarantees -/

namespace PageVisit

/-- All calls of a visit are about its page. -/
theorem page_eq {source : PageSource} {p : UInt32} {T : List Exchange}
    (h : PageVisit source p T) {e : Exchange}
    (he : e ∈ T) : e.call.page = p := by
  have hstart : ∀ {a : Action}, e = ⟨.start p, a⟩ → e.call.page = p := by
    rintro a rfl
    rfl
  have hrun : ∀ {runs shown stopped}, Shown p runs shown stopped → e ∈ shown →
      e.call.page = p := by
    intro runs shown stopped hshown hmem
    obtain ⟨r, a, rfl⟩ := hshown.call_eq hmem
    rfl
  cases h with
  | declined h => exact hstart (List.mem_singleton.mp he)
  | unreadable h => exact hstart (List.mem_singleton.mp he)
  | stopped h hshown => exact (List.mem_cons.mp he).elim hstart (hrun hshown)
  | finished h hshown a =>
      rcases List.mem_cons.mp he with hfirst | hrest
      · exact hstart hfirst
      · rcases List.mem_append.mp hrest with hmem | hlast
        · exact hrun hshown hmem
        · rw [List.mem_singleton.mp hlast]
          rfl

/-- A visit begins with the start of its page. -/
theorem exists_start {source : PageSource} {p : UInt32} {T : List Exchange}
    (h : PageVisit source p T) :
    ∃ a rest, T = ⟨.start p, a⟩ :: rest := by
  cases h <;> exact ⟨_, _, rfl⟩

/-- If the visitor goes on at all calls, it is shown all runs of a page that can
be read. -/
theorem runs_eq {source : PageSource} {p : UInt32} {T : List Exchange}
    (h : PageVisit source p T) (hgo : ∀ e ∈ T, e.answer = .proceed) :
    T.filterMap (·.call.run?) = source.runsOf p := by
  cases h with
  | declined h => exact absurd (hgo _ List.mem_cons_self) h
  | unreadable h =>
      rw [PageSource.runsOf, h]
      rfl
  | stopped h hruns =>
      have hseen := hruns.runs_eq fun e he => hgo e (List.mem_cons_of_mem _ he)
      rw [PageSource.runsOf, h]
      exact hseen
  | finished h hruns a =>
      have hseen := hruns.runs_eq fun e he =>
        hgo e (List.mem_cons_of_mem _ (List.mem_append_left _ he))
      rw [PageSource.runsOf, h, ← List.cons_append, List.filterMap_append]
      exact (List.append_nil _).trans hseen

end PageVisit

namespace Tour

variable {source : PageSource} {pages : List UInt32} {T : List Exchange}
  {result : Except Error Unit}

/-- A tour ends at its first call that ends a walk, or after its last page. -/
theorem closes (h : Tour source pages T result) :
    Closes source T (some result) ∨ GoesOn source T ∧ result = .ok () := by
  induction h with
  | done => exact .inr ⟨by simp [GoesOn], rfl⟩
  | halt visit close => exact .inl close
  | pass visit go tail ih =>
      rcases ih with ⟨init, e, rfl, hinit, hhalts⟩ | ⟨hgo, hresult⟩
      · refine .inl ⟨_ ++ init, e, (List.append_assoc ..).symm, ?_, hhalts⟩
        exact List.forall_mem_append.mpr ⟨go, hinit⟩
      · exact .inr ⟨List.forall_mem_append.mpr ⟨go, hgo⟩, hresult⟩

/-- **Nothing follows a call that ends a walk**, and the result is as that call
has it. -/
theorem eq_nil_of_halts (h : Tour source pages T result)
    {before after : List Exchange} {e : Exchange} {r : Except Error Unit}
    (hsplit : T = before ++ e :: after) (hhalts : Halts source e r) :
    after = [] ∧ result = r := by
  rcases h.closes with ⟨init, last, rfl, hinit, hlast⟩ | ⟨hgo, -⟩
  · rcases List.eq_nil_or_concat after with rfl | ⟨middle, other, rfl⟩
    · obtain ⟨-, hsame⟩ := List.append_inj' hsplit rfl
      obtain rfl := List.singleton_inj.mp hsame
      cases hhalts with
      | stop => cases hlast; exact ⟨rfl, rfl⟩
      | fail hread =>
          cases hlast with
          | fail hread' =>
              obtain rfl := Except.error.inj (hread'.symm.trans hread)
              exact ⟨rfl, rfl⟩
    · have hassoc : init ++ [last] = (before ++ e :: middle) ++ [other] := by
        simp [hsplit]
      have hmem : e ∈ init := by
        rw [(List.append_inj' hassoc rfl).1]
        simp
      exact absurd hhalts (hinit e hmem r)
  · exact absurd hhalts (hgo e (by simp [hsplit]) r)

/-- A tour fails exactly if the visitor agrees to a page that cannot be read. -/
theorem eq_error_iff (h : Tour source pages T result) {e : Error} :
    result = .error e ↔ ∃ p, ⟨.start p, .proceed⟩ ∈ T ∧
    source.pageRuns p = .error e := by
  constructor
  · rintro rfl
    rcases h.closes with ⟨init, last, rfl, -, hhalts⟩ | ⟨-, hresult⟩
    · cases hhalts with
      | fail hread => exact ⟨_, by simp, hread⟩
    · cases hresult
  · rintro ⟨p, hmem, hread⟩
    obtain ⟨before, after, hsplit⟩ := List.append_of_mem hmem
    exact (h.eq_nil_of_halts hsplit (.fail hread)).2

/-- A tour is made up of visits of the first pages: of all, unless it is cut
short. -/
theorem exists_visits (h : Tour source pages T result) :
    ∃ visits : List (UInt32 × List Exchange), T = visits.flatMap Prod.snd ∧
      visits.map Prod.fst <+: pages ∧
      (∀ visit ∈ visits, PageVisit source visit.1 visit.2) ∧
      (GoesOn source T → visits.map Prod.fst = pages) := by
  induction h with
  | done => exact ⟨[], rfl, List.nil_prefix, by simp, fun _ => rfl⟩
  | @pass p pages T U result visit go tail ih =>
      obtain ⟨visits, rfl, hinitial, hvisits, hall⟩ := ih
      refine ⟨(p, T) :: visits, rfl, List.cons_prefix_cons.mpr ⟨rfl, hinitial⟩,
        ?_, ?_⟩
      · exact List.forall_mem_cons.mpr ⟨visit, hvisits⟩
      · intro hgo
        rw [List.map_cons, hall (List.forall_mem_append.mp hgo).2]
  | @halt p pages T result visit close =>
      refine ⟨[(p, T)], by simp, ⟨pages, rfl⟩, by simpa using visit, ?_⟩
      intro hgo
      obtain ⟨init, e, rfl, -, hhalts⟩ := close
      exact absurd hhalts (hgo e (by simp) result)

/-- If the visitor goes on at all calls, it is shown all runs of the pages
before the first that cannot be read. -/
theorem runs_eq (h : Tour source pages T result)
    (hgo : ∀ e ∈ T, e.answer = .proceed) :
    T.filterMap (·.call.run?) =
      (pages.takeWhile source.canRead).flatMap source.runsOf := by
  induction h with
  | done => rfl
  | @pass p pages T U result visit go tail ih =>
      obtain ⟨hhead, hrest⟩ := List.forall_mem_append.mp hgo
      obtain ⟨a, rest, rfl⟩ := visit.exists_start
      have hread : source.canRead p = true := by
        obtain rfl : a = .proceed := hhead _ List.mem_cons_self
        cases hruns : source.pageRuns p with
        | ok runs => rw [PageSource.canRead, hruns]; rfl
        | error e => exact absurd (.fail hruns) (go _ List.mem_cons_self _)
      rw [List.filterMap_append, visit.runs_eq hhead, ih hrest,
        List.takeWhile_cons_of_pos hread, List.flatMap_cons]
  | @halt p pages T result visit close =>
      obtain ⟨init, e, rfl, -, hhalts⟩ := close
      have hlast := hgo e (by simp)
      cases hhalts with
      | stop => cases hlast
      | @fail q error hread =>
          obtain rfl : q = p := visit.page_eq (e := ⟨.start q, .proceed⟩) (by simp)
          have hno : ¬ source.canRead q = true := by
            rw [PageSource.canRead, hread]
            exact Bool.false_ne_true
          rw [visit.runs_eq hgo, List.takeWhile_cons_of_neg hno,
            PageSource.runsOf, hread]
          rfl

end Tour

/-! ## Walks that are the same -/

namespace Visitor

variable {σ τ : Type}

/-- Of a page that the visitor declines nothing is read. -/
theorem visitPage_congr (v : Visitor σ) {source other : PageSource}
    {p : UInt32} {s : σ}
    (h : (v.pageStart p s).1 = .proceed → other.pageRuns p = source.pageRuns p) :
    v.visitPage other p s = v.visitPage source p s := by
  rw [visitPage, visitPage]
  rcases hstart : v.pageStart p s with ⟨a, s'⟩
  rw [hstart] at h
  cases a with
  | proceed => simp only [h rfl]
  | skipPage => rfl
  | stop => rfl

/-- **Only pages that the visitor agrees to are read.** -/
theorem logged_walkPages_congr (v : Visitor σ) {source other : PageSource}
    {pages : List UInt32} {T : List Exchange}
    {s : σ} (h : ∀ p, ⟨.start p, .proceed⟩ ∈
      (v.logged.walkPages source pages (T, s)).1.1 →
      other.pageRuns p = source.pageRuns p) :
    v.logged.walkPages other pages (T, s) =
      v.logged.walkPages source pages (T, s) := by
  induction pages generalizing T s with
  | nil => rfl
  | cons p rest ih =>
      obtain ⟨U, hvisit, -, hanswers, hpage⟩ := v.logged_visitPage source p T s
      obtain ⟨a, shown, rfl⟩ := hvisit.exists_start
      have hsame : v.logged.visitPage other p (T, s) =
          v.logged.visitPage source p (T, s) := by
        refine v.logged.visitPage_congr fun hagreed => h p ?_
        have ha : a = .proceed := by
          cases hanswers with
          | cons head tail => exact (congrArg Prod.fst head).symm.trans hagreed
        subst ha
        rw [walkPages_cons, hpage]
        cases (v.visitPage source p s).2 with
        | some result => simp
        | none =>
            obtain ⟨U', -, -, hwalk⟩ :=
              v.exists_tour source rest (T ++ ⟨.start p, .proceed⟩ :: shown)
              (v.visitPage source p s).1
            simp [hwalk]
      rw [walkPages_cons, hpage] at h
      rw [walkPages_cons, walkPages_cons, hsame, hpage]
      cases hended : (v.visitPage source p s).2 with
      | some result => rfl
      | none =>
          rw [hended] at h
          exact ih h

/-- Two visitors, in related states, answer alike, except that one may skip the
rest of a page at its end where the other goes on. -/
structure AnswersLike (v : Visitor σ) (w : Visitor τ) (R : σ → τ → Prop) :
    Prop where
  start : ∀ p s t, R s t → (w.pageStart p t).1 = (v.pageStart p s).1 ∧
    R (v.pageStart p s).2 (w.pageStart p t).2
  visit : ∀ p r s t, R s t → (w.visit p r t).1 = (v.visit p r s).1 ∧
    R (v.visit p r s).2 (w.visit p r t).2
  finish : ∀ p s t, R s t →
    ((w.pageEnd p t).1 = .stop ↔ (v.pageEnd p s).1 = .stop) ∧
    R (v.pageEnd p s).2 (w.pageEnd p t).2

namespace AnswersLike

variable {v : Visitor σ} {w : Visitor τ} {R : σ → τ → Prop}

theorem visitRuns (h : v.AnswersLike w R) (p : UInt32) (runs : List Run) {s : σ}
    {t : τ} (hR : R s t) :
    (w.visitRuns p runs t).1 = (v.visitRuns p runs s).1 ∧
    R (v.visitRuns p runs s).2 (w.visitRuns p runs t).2 := by
  induction runs generalizing s t with
  | nil => exact ⟨rfl, hR⟩
  | cons r rest ih =>
      obtain ⟨hanswer, hafter⟩ := h.visit p r s t hR
      rw [Visitor.visitRuns, Visitor.visitRuns]
      rcases hv : v.visit p r s with ⟨a, s'⟩
      rcases hw : w.visit p r t with ⟨b, t'⟩
      rw [hv, hw] at hanswer hafter
      obtain rfl : b = a := hanswer
      cases b with
      | proceed => exact ih hafter
      | skipPage => exact ⟨rfl, hafter⟩
      | stop => exact ⟨rfl, hafter⟩

theorem readPage (h : v.AnswersLike w R) (p : UInt32) (runs : List Run) {s : σ}
    {t : τ} (hR : R s t) :
    (w.readPage p runs t).2 = (v.readPage p runs s).2 ∧
    R (v.readPage p runs s).1 (w.readPage p runs t).1 := by
  obtain ⟨hstopped, hshown⟩ := h.visitRuns p runs hR
  rw [Visitor.readPage, Visitor.readPage]
  rcases hv : v.visitRuns p runs s with ⟨stopped, s'⟩
  rcases hw : w.visitRuns p runs t with ⟨stopped', t'⟩
  rw [hv, hw] at hstopped hshown
  obtain rfl : stopped' = stopped := hstopped
  cases stopped' with
  | true => exact ⟨rfl, hshown⟩
  | false =>
      obtain ⟨hstop, hend⟩ := h.finish p s' t' hshown
      dsimp only
      rcases hve : v.pageEnd p s' with ⟨a, s''⟩
      rcases hwe : w.pageEnd p t' with ⟨b, t''⟩
      rw [hve, hwe] at hstop hend
      cases a <;> cases b <;> simp_all

theorem visitPage (h : v.AnswersLike w R) (source : PageSource) (p : UInt32)
    {s : σ} {t : τ} (hR : R s t) :
    (w.visitPage source p t).2 = (v.visitPage source p s).2 ∧
      R (v.visitPage source p s).1 (w.visitPage source p t).1 := by
  obtain ⟨hanswer, hafter⟩ := h.start p s t hR
  rw [Visitor.visitPage, Visitor.visitPage]
  rcases hv : v.pageStart p s with ⟨a, s'⟩
  rcases hw : w.pageStart p t with ⟨b, t'⟩
  rw [hv, hw] at hanswer hafter
  obtain rfl : b = a := hanswer
  cases b with
  | skipPage => exact ⟨rfl, hafter⟩
  | stop => exact ⟨rfl, hafter⟩
  | proceed =>
      cases source.pageRuns p with
      | error e => exact ⟨rfl, hafter⟩
      | ok runs => exact h.readPage p runs hafter

theorem walkPages (h : v.AnswersLike w R) (source : PageSource)
    (pages : List UInt32) {s : σ} {t : τ} (hR : R s t) :
    (w.walkPages source pages t).2 = (v.walkPages source pages s).2 ∧
      R (v.walkPages source pages s).1 (w.walkPages source pages t).1 := by
  induction pages generalizing s t with
  | nil => exact ⟨rfl, hR⟩
  | cons p rest ih =>
      obtain ⟨hended, hafter⟩ := h.visitPage source p hR
      rw [walkPages_cons, walkPages_cons]
      rcases hv : v.visitPage source p s with ⟨s', result⟩
      rcases hw : w.visitPage source p t with ⟨t', result'⟩
      rw [hv, hw] at hended hafter
      obtain rfl : result' = result := hended
      cases result' with
      | some result => exact ⟨rfl, hafter⟩
      | none => exact ih hafter

/-- Writing down keeps it so that visitors answer alike, and then they are told
the same. -/
theorem logged (h : v.AnswersLike w R) :
    v.logged.AnswersLike w.logged fun l k =>
      k.1.map (·.call) = l.1.map (·.call) ∧ R l.2 k.2 := by
  refine ⟨?_, ?_, ?_⟩
  · rintro p s t ⟨hcalls, hR⟩
    obtain ⟨hanswer, hafter⟩ := h.start p s.2 t.2 hR
    exact ⟨hanswer, by simp [Visitor.logged, log, hcalls], hafter⟩
  · rintro p r s t ⟨hcalls, hR⟩
    obtain ⟨hanswer, hafter⟩ := h.visit p r s.2 t.2 hR
    exact ⟨hanswer, by simp [Visitor.logged, log, hcalls], hafter⟩
  · rintro p s t ⟨hcalls, hR⟩
    obtain ⟨hstop, hafter⟩ := h.finish p s.2 t.2 hR
    exact ⟨hstop, by simp [Visitor.logged, log, hcalls], hafter⟩

end AnswersLike

/-! ## The contract of a walk -/

/-- **What a visitor is told on a walk.**  It is told of pages of the range
alone, in increasing order, each time by a `PageVisit`: of all of them unless it
stops or a page fails.  Nothing follows a stop, and then the walk succeeds.  The
walk fails exactly if the visitor agrees to a page that cannot be read, and
nothing follows that either.  Pages that it does not agree to are not read.
Skipping at the end of a page is the same as going on.  A visitor that always
goes on is shown all runs of the range, up to the first page that cannot be
read. -/
theorem walk_visits_pages_in_order (v : Visitor σ) (source : PageSource)
    (first last : UInt32) (s : σ) :
    ∃ told after result, v.walk source first last s = (after, result) ∧
      v.logged.walk source first last ([], s) = ((told, after), result) ∧
      v.Answers s told after ∧
      (∀ e ∈ told, max first 1 ≤ e.call.page ∧
        e.call.page ≤ min last source.pageCount) ∧
      (∃ visits : List (UInt32 × List Exchange), told = visits.flatMap Prod.snd ∧
        (visits.map Prod.fst).Pairwise (· < ·) ∧
        (∀ visit ∈ visits, PageVisit source visit.1 visit.2) ∧
        visits.map Prod.fst <+: pagesBetween (max first 1)
          (min last source.pageCount) ∧
        (result = .ok () → (∀ e ∈ told, e.answer ≠ .stop) →
          visits.map Prod.fst =
            pagesBetween (max first 1) (min last source.pageCount))) ∧
      (∀ before c rest, told = before ++ ⟨c, .stop⟩ :: rest →
        rest = [] ∧ result = .ok ()) ∧
      (∀ e, result = .error e ↔ ∃ p, ⟨.start p, .proceed⟩ ∈ told ∧
        source.pageRuns p = .error e) ∧
      (∀ before p rest e, told = before ++ ⟨.start p, .proceed⟩ :: rest →
        source.pageRuns p = .error e → rest = []) ∧
      (∀ other : PageSource, other.pageCount = source.pageCount →
        (∀ p, ⟨.start p, .proceed⟩ ∈ told → other.pageRuns p = source.pageRuns p) →
        v.logged.walk other first last ([], s) = ((told, after), result)) ∧
      (∀ w : Visitor σ, v.AnswersLike w Eq →
        w.walk source first last s = (after, result) ∧
        (w.logged.walk source first last ([], s)).1.1.map (·.call) =
          told.map (·.call)) ∧
      ((∀ c t, (v.respond c t).1 = .proceed) →
        told.filterMap (·.call.run?) =
          ((pagesBetween (max first 1) (min last source.pageCount)).takeWhile
            source.canRead).flatMap source.runsOf ∧
        ((∀ p, max first 1 ≤ p → p ≤ min last source.pageCount → source.canRead p) →
          told.filterMap (·.call.run?) =
            (pagesBetween (max first 1) (min last source.pageCount)).flatMap
              source.runsOf)) := by
  obtain ⟨told, htour, hanswers, hwalk⟩ :=
    v.exists_tour source
      (pagesBetween (max first 1) (min last source.pageCount)) [] s
  obtain ⟨visits, hvisits, hinitial, hpages, hall⟩ := htour.exists_visits
  refine ⟨told, _, _, rfl, hwalk, hanswers, ?_,
    ⟨visits, hvisits, ?_, hpages, hinitial, ?_⟩, ?_, ?_, ?_, ?_, ?_, ?_⟩
  · intro e he
    rw [hvisits] at he
    obtain ⟨visit, hvisit, hmem⟩ := List.mem_flatMap.mp he
    rw [(hpages visit hvisit).page_eq hmem]
    exact mem_pagesBetween.mp (hinitial.subset (List.mem_map_of_mem hvisit))
  · exact (pagesBetween_pairwise _ _).sublist hinitial.sublist
  · intro hok hgo
    refine hall fun e he result hhalts => ?_
    obtain ⟨before, rest, hsplit⟩ := List.append_of_mem he
    have hended := (htour.eq_nil_of_halts hsplit hhalts).2
    cases hhalts with
    | stop => exact hgo _ he rfl
    | fail hread => exact absurd (hok.symm.trans hended) (by simp)
  · exact fun before c rest hsplit => htour.eq_nil_of_halts hsplit (.stop c)
  · exact fun e => htour.eq_error_iff
  · exact fun before p rest e hsplit hread =>
      (htour.eq_nil_of_halts hsplit (.fail hread)).1
  · intro other hcount hsame
    rw [walk, hcount, v.logged_walkPages_congr (by rw [hwalk]; exact hsame)]
    exact hwalk
  · intro w halike
    obtain ⟨hresult, hafter⟩ := halike.walkPages source
      (pagesBetween (max first 1) (min last source.pageCount))
      (rfl : s = s)
    refine ⟨(Prod.ext hafter hresult.symm).symm, ?_⟩
    have hcalls := (halike.logged.walkPages source
      (pagesBetween (max first 1) (min last source.pageCount))
      (s := ([], s)) (t := ([], s)) ⟨rfl, rfl⟩).2.1
    rw [hwalk] at hcalls
    exact hcalls
  · intro hgo
    have hruns := htour.runs_eq fun e he => by
      obtain ⟨t, ht⟩ := hanswers.exists_state he
      exact ht.symm.trans (hgo e.call t)
    refine ⟨hruns, fun hread => ?_⟩
    rw [hruns, List.takeWhile_eq_self_iff.mpr]
    intro p hp
    obtain ⟨hfirst, hlast⟩ := mem_pagesBetween.mp hp
    exact hread p hfirst hlast

end Visitor

/-- A run of the pages below. -/
def plainRun (text : String) : Run := ⟨text, "Arial", none, 12, 0, 700⟩

/-- Five pages with two runs each, but the last cannot be read, and the second
reads as given. -/
def patchySource (second : Except Error (List Run)) : PageSource where
  pageCount := 5
  pageRuns p :=
    if p = 2 then second
    else if p = 5 then .error .encryptedDocument
    else .ok [plainRun "Law", plainRun "Art"]

/-- A visitor that counts runs.  It declines the second page, skips the rest of
a page at the third run that it is shown and at the end of every page, and stops
at the run with the given number. -/
def fickleVisitor (patience : Nat) : Visitor Nat where
  pageStart p n := (if p = 2 then .skipPage else .proceed, n)
  visit _ _ n := (if n + 1 = patience then .stop else if n = 2 then .skipPage
    else .proceed, n + 1)
  pageEnd _ n := (.skipPage, n)

/-- The same visitor, going on at the end of every page. -/
def plainVisitor (patience : Nat) : Visitor Nat :=
  { fickleVisitor patience with pageEnd := fun _ n => (.proceed, n) }

/-- A visitor that counts runs and always goes on. -/
def countingVisitor : Visitor Nat where
  visit _ _ n := (.proceed, n + 1)

/-- What the visitor is told before it stops at the fourth run. -/
def fickleTold : List Exchange :=
  [⟨.start 1, .proceed⟩, ⟨.run 1 (plainRun "Law"), .proceed⟩,
    ⟨.run 1 (plainRun "Art"), .proceed⟩, ⟨.finish 1, .skipPage⟩,
    ⟨.start 2, .skipPage⟩, ⟨.start 3, .proceed⟩,
    ⟨.run 3 (plainRun "Law"), .skipPage⟩, ⟨.finish 3, .skipPage⟩,
    ⟨.start 4, .proceed⟩, ⟨.run 4 (plainRun "Law"), .stop⟩]

/-- With little patience, the visitor stops on the fourth page, whether or not
the second can be read and whether or not it goes on at the end of pages.  With
more, it comes to the fifth page, which fails.  The visitor that always goes on
is shown the first page and fails on the second. -/
theorem patchySource_visits_pages_in_order :
    (fickleVisitor 4).logged.walk (patchySource (.error .encryptedDocument)) 0
      9 ([], 0) = ((fickleTold, 4), .ok ()) ∧
    (fickleVisitor 4).logged.walk (patchySource (.ok [])) 0 9 ([], 0) =
      ((fickleTold, 4), .ok ()) ∧
    (plainVisitor 4).walk (patchySource (.error .encryptedDocument)) 0 9 0 =
      (4, .ok ()) ∧
    ((fickleVisitor 9).walk (patchySource (.error .encryptedDocument)) 0 9
      0).2 = .error .encryptedDocument ∧
    (countingVisitor.logged.walk (patchySource (.error .encryptedDocument)) 0 9
      ([], 0)).1.1.filterMap (·.call.run?) =
      [plainRun "Law", plainRun "Art"] := by
  have htold : (fickleVisitor 4).logged.walk
      (patchySource (.error .encryptedDocument)) 0 9 ([], 0) =
      ((fickleTold, 4), .ok ()) := rfl
  refine ⟨htold, ?_, ?_, ?_, ?_⟩
  · obtain ⟨told, after, result, -, hlogged, -, -, -, -, -, -, hread, -⟩ :=
      (fickleVisitor 4).walk_visits_pages_in_order
        (patchySource (.error .encryptedDocument)) 0 9 0
    obtain ⟨⟨rfl, rfl⟩, rfl⟩ : (told = fickleTold ∧ after = 4) ∧
        result = .ok () := by
      simpa using hlogged.symm.trans htold
    refine hread (patchySource (.ok [])) rfl ?_
    intro p hp
    have hne : p ≠ 2 := by
      rintro rfl
      simp [fickleTold] at hp
    simp [patchySource, hne]
  · obtain ⟨told, after, result, hwalk, -, -, -, -, -, -, -, -, hend, -⟩ :=
      (fickleVisitor 4).walk_visits_pages_in_order
        (patchySource (.error .encryptedDocument)) 0 9 0
    have halike : (fickleVisitor 4).AnswersLike (plainVisitor 4) Eq := by
      refine ⟨?_, ?_, ?_⟩
      · rintro p s t rfl
        exact ⟨rfl, rfl⟩
      · rintro p r s t rfl
        exact ⟨rfl, rfl⟩
      · rintro p s t rfl
        exact ⟨by simp [plainVisitor, fickleVisitor], rfl⟩
    rw [(hend (plainVisitor 4) halike).1, ← hwalk]
    rfl
  · obtain ⟨told, after, result, hwalk, hlogged, -, -, -, -, herror, -⟩ :=
      (fickleVisitor 9).walk_visits_pages_in_order
        (patchySource (.error .encryptedDocument)) 0 9 0
    rw [hwalk]
    refine (herror _).mpr ⟨5, ?_, rfl⟩
    have hlast : told.getLast? = some ⟨.start 5, .proceed⟩ :=
      (congrArg (·.1.1.getLast?) hlogged).symm
    exact List.mem_of_mem_getLast? hlast
  · obtain ⟨told, after, result, -, hlogged, -, -, -, -, -, -, -, -, hgo⟩ :=
      countingVisitor.walk_visits_pages_in_order
        (patchySource (.error .encryptedDocument)) 0 9 0
    have hproceed : ∀ c t, (countingVisitor.respond c t).1 = .proceed := by
      intro c t
      cases c <;> rfl
    rw [hlogged, (hgo hproceed).1]
    rfl

end Prospectus
