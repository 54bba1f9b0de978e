import Prospectus.Proofs.EagerReading
import Prospectus.Proofs.ExcerptFootprint
import Prospectus.Proofs.SteadyCatalog

/-!
# Lenient reading blanks the pages that cannot be read

A strict reader passes on what goes wrong with the fonts, the content or the
operations of a page (`Backend.pageRuns_eq_error_iff`).  A lenient one gives the
same runs where the strict one gives runs, and none where it fails
(`Backend.pageRuns_leniently`).  So it reads every page that there is: the
document as a whole is `Backend.blanked`, and a lookup can only fail because the
catalog does not list what was asked for.
-/

namespace Prospectus

/-! ## What a lookup can fail with -/

/-- An error that says that the catalog does not list what was asked for. -/
inductive Error.SaysNotListed : Error → Prop
  | contents (marker : String) (pagesSearched : UInt32) :
      SaysNotListed (.contentsNotFound marker pagesSearched)
  | topic (topic : String) : SaysNotListed (.topicNotFound topic)
  | pageNumber (topic line : String) : SaysNotListed (.pageNumberMissing topic line)

/-- Every page of the source can be read. -/
def PageSource.Readable (source : PageSource) : Prop :=
  ∀ n, 1 ≤ n → n ≤ source.pageCount → ∃ runs, source.pageRuns n = .ok runs

/-- A walk over pages of the source that can be read does not fail. -/
theorem PageSource.Readable.walk_ok {σ : Type} {source : PageSource}
    (h : source.Readable) (v : Visitor σ) (first last : UInt32) (s : σ) :
    ∃ t, v.walk source first last s = (t, .ok ()) := by
  cases hwalk : v.walk source first last s with
  | mk t ended =>
      cases ended with
      | ok u => exact ⟨t, rfl⟩
      | error e =>
          -- a walk fails with the error of a page, and clamping keeps it to
          -- pages that there are
          obtain ⟨page, hpage, hfail⟩ :=
            v.error_of_walkPages (congrArg Prod.snd hwalk)
          obtain ⟨⟨hpos, hlast⟩, -⟩ := mem_pagesBetween_clamped.mp hpage
          obtain ⟨runs, hread⟩ := h page hpos hlast
          rw [hread] at hfail
          cases hfail

/-- Where every page can be read, locating fails only if there is no table of
contents. -/
theorem PageSource.Readable.saysNotListed_of_locate {source : PageSource}
    (h : source.Readable)
    {l : Contents.Locator} {e : Error} (hfail : l.locate source = .error e) :
    e.SaysNotListed := by
  obtain ⟨found, hwalk⟩ :=
    h.walk_ok (Contents.searcher (Text.composed l.marker)) 1 l.pageLimit {}
  rw [Contents.Locator.locate, hwalk] at hfail
  dsimp only at hfail
  split at hfail
  · cases hfail
  · cases hfail
    exact .contents ..

/-- Where every page can be read, bold text can be collected. -/
theorem PageSource.Readable.boldText_ok {source : PageSource}
    (h : source.Readable) (c : Classifier)
    (window : Option Window) : ∃ text, boldText c source window = .ok text := by
  cases window with
  | none => exact ⟨"", rfl⟩
  | some w =>
      obtain ⟨b, hwalk⟩ := h.walk_ok (BoldText.collector c) w.first w.last {}
      exact ⟨b.text.text, by rw [boldText, BoldText.collect, hwalk]⟩

/-- Resolving a topic fails only if its entry or the number in it is missing. -/
theorem Contents.saysNotListed_of_findPage {contents topic : String} {e : Error}
    (hfail : Contents.findPage contents topic = .error e) : e.SaysNotListed := by
  simp only [findPage, findEntry] at hfail
  split at hfail
  · cases hfail
    exact .topic _
  · split at hfail
    · cases hfail
      exact .pageNumber ..
    · cases hfail

/-- **Where every page can be read, a lookup fails only for want of an entry.** -/
theorem PageSource.Readable.saysNotListed_of_extract {source : PageSource}
    (h : source.Readable) {x : Extractor}
    {topic : String} {e : Error} (hfail : x.extract source topic = .error e) :
    e.SaysNotListed := by
  rw [Extractor.extract_eq, Extractor.listedPage] at hfail
  cases hlocate : x.locator.locate source with
  | error e' =>
      rw [hlocate] at hfail
      cases hfail
      exact h.saysNotListed_of_locate hlocate
  | ok contents =>
      cases hpage : Contents.findPage contents topic with
      | error e' =>
          simp only [hlocate, Except.bind, hpage] at hfail
          cases hfail
          exact Contents.saysNotListed_of_findPage hpage
      | ok page =>
          -- nothing is left that could fail: the pages of the window are read
          obtain ⟨text, htext⟩ :=
            h.boldText_ok x.classifier (x.window page source.pageCount)
          simp only [hlocate, Except.bind, hpage, htext] at hfail
          cases hfail

namespace Pdf

/-! ## One page -/

namespace Backend

/-- What goes wrong with a page: its fonts, its content, or the operations of a
content that is not empty. -/
theorem pageRuns_eq_error_iff {b : Backend} {page : ObjectId} {e : Error} :
    b.pageRuns page = .error e ↔
      b.fonts page = .error e ∨
      (∃ fonts, b.fonts page = .ok fonts ∧ b.content page = .error e) ∨
      ∃ fonts content, b.fonts page = .ok fonts ∧ b.content page = .ok content ∧
        content ≠ [] ∧
        b.operations content = .error e := by
  rw [pageRuns]
  cases hfonts : b.fonts page with
  | error e' => simp [bind, Except.bind]
  | ok fonts =>
      cases hcontent : b.content page with
      | error e' => simp [bind, Except.bind]
      | ok content =>
          cases content with
          | nil => simp [bind, Except.bind, pure, Except.pure]
          | cons first rest =>
              cases hoperations : b.operations (first :: rest) with
              | error e' => simp [bind, Except.bind, hoperations]
              | ok operations =>
                simp [bind, Except.bind, pure, Except.pure, hoperations]

/-- The backend, read strictly. -/
def strictly (b : Backend) : Reader := ⟨b, .strict⟩

/-- The backend, read leniently. -/
def leniently (b : Backend) : Reader := ⟨b, .lenient⟩

/-- The runs of a page that can be read strictly, and none of one that cannot. -/
def runsOrNone (b : Backend) (n : UInt32) : List Run :=
  match b.strictly.pageRuns n with
  | .ok runs => runs
  | .error _ => []

/-- The document in which the pages that cannot be read are empty. -/
def blanked (b : Backend) : Document :=
  .ofPages (b.pages.entries.map fun entry => ⟨entry.1, b.runsOrNone entry.1⟩)

/-- Neither way of reading gives a page that is not there. -/
theorem pageRuns_of_absent {b : Backend} {n : UInt32}
    (h : b.pages.get? n = none) (tolerance : Tolerance) :
    (Reader.mk b tolerance).pageRuns n =
      .error (.pageOutOfRange n b.pages.size) := by
  rw [Reader.pageRuns, h]
  rfl

theorem pageRuns_strictly {b : Backend} {n : UInt32} {page : ObjectId}
    (h : b.pages.get? n = some page) :
    b.strictly.pageRuns n = b.pageRuns page := by
  simp only [strictly, Reader.pageRuns, h]
  cases b.pageRuns page <;> rfl

/-- **One page.**  A lenient reader gives the runs of a strict one, and none
where the strict one fails. -/
theorem pageRuns_leniently {b : Backend} {n : UInt32}
    (h : (b.pages.get? n).isSome) :
    b.leniently.pageRuns n = .ok (b.runsOrNone n) := by
  obtain ⟨page, hpage⟩ := Option.isSome_iff_exists.mp h
  rw [runsOrNone, pageRuns_strictly hpage]
  simp only [leniently, Reader.pageRuns, hpage]
  cases b.pageRuns page <;> rfl

/-! ## All pages -/

/-- Adding entries of the map leniently adds their pages, blanked where they
cannot be read. -/
theorem foldlM_addEntry_leniently {b : Backend} {entries : List (UInt32 × ObjectId)}
    (h : ∀ entry ∈ entries, (b.pages.get? entry.1).isSome) (d : Document) :
    entries.foldlM b.leniently.addEntry d =
      .ok ((entries.map fun entry =>
        (⟨entry.1, b.runsOrNone entry.1⟩ : Page)).foldl Document.addPage d) := by
  induction entries generalizing d with
  | nil => rfl
  | cons entry rest ih =>
      have hread := pageRuns_leniently (h entry List.mem_cons_self)
      have hrest :=
        ih fun other hother => h other (List.mem_cons_of_mem entry hother)
      rw [List.foldlM_cons, Reader.addEntry_of_ok hread]
      exact hrest _

/-- **All pages.**  Reading leniently as a whole always succeeds, with the pages
that cannot be read blanked. -/
theorem document_leniently (b : Backend) :
    b.leniently.document = .ok b.blanked := by
  rw [Reader.document_eq_foldlM]
  apply foldlM_addEntry_leniently
  intro entry hentry
  rw [PageMap.isSome_get?_iff]
  exact List.mem_map_of_mem hentry

/-- The blanked document holds a page for each entry of the map, in the order of
the keys. -/
theorem transcribes_blanked (b : Backend) :
    Reader.Transcribes b.leniently (b.pages.entries.map (·.1)) b.blanked := by
  have hdocument := b.document_leniently
  rw [Reader.document_eq_foldlM] at hdocument
  exact Reader.transcribes_of_foldlM (Reader.transcribes_nil b.leniently) hdocument

/-- Without gaps in the page map, a lenient reader is the same source of pages
as the blanked document. -/
theorem source_blanked {b : Backend} {n : UInt32} (hkeys : b.pages.KeyedTo n) :
    b.blanked.source = b.leniently.source := by
  have htranscribes := b.transcribes_blanked
  rw [PageMap.keyedTo_iff.mp hkeys] at htranscribes
  exact htranscribes.source_eq (r := b.leniently) hkeys

/-- Without gaps in the page map, a lenient reader can read every page. -/
theorem readable_leniently {b : Backend} {n : UInt32} (hkeys : b.pages.KeyedTo n) :
    b.leniently.source.Readable := by
  intro k hpos hlast
  have hcount : b.leniently.source.pageCount = n := hkeys.size_eq
  exact ⟨_, pageRuns_leniently ((hkeys k).mpr ⟨hpos, hcount ▸ hlast⟩)⟩

/-- **Lenient reading is strict reading with broken pages blanked.**  A page
that is not in the map is out of range either way.  For any other, the lenient
reader gives the runs that the strict one gives; and where the strict one fails,
which is for the fonts, the content or the operations of the page, it gives
none.  So all pages together are always read, one for each entry of the map in
the order of the keys.  If the map has no gaps, every excerpt is that of the
blanked document, and fails only if the catalog does not list what was asked
for. -/
theorem leniently_blanks_broken_pages (b : Backend) :
    (∀ n, b.pages.get? n = none →
      b.strictly.pageRuns n = .error (.pageOutOfRange n b.strictly.pageCount) ∧
      b.leniently.pageRuns n = .error (.pageOutOfRange n b.leniently.pageCount)) ∧
    (∀ n page, b.pages.get? n = some page →
      (∀ runs, b.strictly.pageRuns n = .ok runs →
        b.leniently.pageRuns n = .ok runs) ∧
      (∀ e, b.strictly.pageRuns n = .error e → b.leniently.pageRuns n = .ok []) ∧
      ∀ e, b.strictly.pageRuns n = .error e ↔
        b.fonts page = .error e ∨
        (∃ fonts, b.fonts page = .ok fonts ∧ b.content page = .error e) ∨
        ∃ fonts content, b.fonts page = .ok fonts ∧
          b.content page = .ok content ∧ content ≠ [] ∧
          b.operations content = .error e) ∧
    (b.leniently.document = .ok b.blanked ∧
      b.blanked.pages.length = b.pages.entries.length ∧
      ∀ (i : Nat) (n : UInt32), (b.pages.entries.map (·.1))[i]? = some n →
        ∃ page, b.blanked.pages[i]? = some page ∧ page.number = (i + 1).toUInt32 ∧
          b.leniently.pageRuns n = .ok page.runs) ∧
    ∀ count, b.pages.KeyedTo count →
      (∀ n, 1 ≤ n → n ≤ count →
        (∀ runs, b.strictly.pageRuns n = .ok runs →
          b.blanked.pageRuns n = .ok runs) ∧
        ∀ e, b.strictly.pageRuns n = .error e → b.blanked.pageRuns n = .ok []) ∧
      ∀ (x : Extractor) (topic : String),
        x.extract b.leniently.source topic = x.extract b.blanked.source topic ∧
        ∀ e, x.extract b.leniently.source topic = .error e → e.SaysNotListed := by
  have hpresent : ∀ n, (b.pages.get? n).isSome →
      (∀ runs, b.strictly.pageRuns n = .ok runs →
        b.leniently.pageRuns n = .ok runs) ∧
      ∀ e, b.strictly.pageRuns n = .error e → b.leniently.pageRuns n = .ok [] := by
    intro n hn
    constructor
    · intro runs hruns
      rw [pageRuns_leniently hn, runsOrNone, hruns]
    · intro e he
      rw [pageRuns_leniently hn, runsOrNone, he]
  refine ⟨?_, ?_, ?_, ?_⟩
  · intro n hn
    exact ⟨pageRuns_of_absent hn .strict, pageRuns_of_absent hn .lenient⟩
  · intro n page hpage
    obtain ⟨hok, herror⟩ := hpresent n (by rw [hpage]; rfl)
    refine ⟨hok, herror, ?_⟩
    intro e
    rw [pageRuns_strictly hpage, pageRuns_eq_error_iff]
  · have htranscribes := b.transcribes_blanked
    refine ⟨b.document_leniently, ?_, ?_⟩
    · rw [htranscribes.length_eq, List.length_map]
    · intro i n hn
      exact htranscribes.page_at i n hn
  · intro count hkeys
    -- one equation of sources settles pages and lookups alike
    have hsource := source_blanked hkeys
    have hruns : b.blanked.pageRuns = b.leniently.pageRuns :=
      congrArg PageSource.pageRuns hsource
    refine ⟨?_, ?_⟩
    · intro n hpos hlast
      rw [hruns]
      exact hpresent n ((hkeys n).mpr ⟨hpos, hlast⟩)
    · intro x topic
      rw [hsource]
      refine ⟨rfl, ?_⟩
      intro e hfail
      exact (readable_leniently hkeys).saysNotListed_of_extract hfail

/-- Four pages: one with a text, one whose fonts and one whose content cannot be
read, and one whose content is no sequence of operations. -/
def brokenPages : Backend where
  pages := .ofPages [⟨10, 0⟩, ⟨20, 0⟩, ⟨30, 0⟩, ⟨40, 0⟩]
  fonts page := if page = ⟨20, 0⟩ then .error (.malformedDocument "fonts")
    else .ok []
  content page := if page = ⟨30, 0⟩ then .error (.malformedDocument "content")
    else .ok [page.number.toUInt8]
  operations bytes :=
    if bytes = [40] then .error (.malformedDocument "operations")
    else .ok [⟨"BT", []⟩, ⟨"Tj", [.string [76, 97, 119, 32, 51]]⟩]
  text _ _ bytes := Text.decodeUtf8Lossy bytes

/-- Read leniently, three of the pages are empty and none is missing; a lookup
in them can only fail for want of an entry, as it does for a topic that is not
listed. -/
theorem brokenPages_leniently :
    brokenPages.pages.KeyedTo 4 ∧
    brokenPages.leniently.pageRuns 2 = .ok [] ∧
    brokenPages.leniently.pageRuns 3 = .ok [] ∧
    brokenPages.leniently.pageRuns 4 = .ok [] ∧
    brokenPages.leniently.pageRuns 5 = .error (.pageOutOfRange 5 4) ∧
    (∃ d, brokenPages.leniently.document = .ok d ∧ d.pages.length = 4) ∧
    ∃ e, (Extractor.mk ⟨"Law", 9⟩ 0 0 .standard).extract
      brokenPages.leniently.source "Art" = .error e ∧
      e.SaysNotListed := by
  have hkeys : brokenPages.pages.KeyedTo 4 := PageMap.keyedTo_iff.mpr rfl
  obtain ⟨habsent, hpresent, ⟨hdocument, hlength, -⟩, hlookup⟩ :=
    leniently_blanks_broken_pages brokenPages
  have hfonts : brokenPages.strictly.pageRuns 2 =
      .error (.malformedDocument "fonts") := rfl
  have hcontent : brokenPages.strictly.pageRuns 3 =
      .error (.malformedDocument "content") := rfl
  have hoperations : brokenPages.strictly.pageRuns 4 =
      .error (.malformedDocument "operations") := rfl
  have hmissing : (Extractor.mk ⟨"Law", 9⟩ 0 0 .standard).extract
      brokenPages.leniently.source "Art" =
      .error (.topicNotFound "Art") := by decide +kernel
  exact ⟨hkeys, (hpresent 2 ⟨20, 0⟩ rfl).2.1 _ hfonts,
    (hpresent 3 ⟨30, 0⟩ rfl).2.1 _ hcontent,
    (hpresent 4 ⟨40, 0⟩ rfl).2.1 _ hoperations, (habsent 5 rfl).2,
    ⟨_, hdocument, hlength⟩, _, hmissing,
    ((hlookup 4 hkeys).2 _ "Art").2 _ hmissing⟩

end Backend

end Pdf

end Prospectus
