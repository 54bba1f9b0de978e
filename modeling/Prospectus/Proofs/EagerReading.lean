import Prospectus.Excerpt
import Prospectus.Pdf.Reader
import Prospectus.Proofs.PageRanges

/-!
# Lazy and eager reading

A reader decodes a page when it is asked for; `Reader.document` decodes all of
them and numbers them anew, by their places.  For a page map that is keyed from
one on without gaps the new numbers are the old ones, and the document cannot be
told from the reader: they are the same source of pages.

The step is `Transcribes.addPage`, the run along the page map
`transcribes_of_foldlM` and its counterpart `first_failure_of_foldlM`.
-/

namespace Prospectus

/-- A document has no page outside the numbers from one to its page count. -/
theorem Document.pageRuns_of_not_mem {d : Document} {n k : UInt32}
    (hlength : d.pages.length = n.toNat) (hcount : d.pageCount = n)
    (hk : ¬ (1 ≤ k ∧ k ≤ n)) :
    d.pageRuns k = .error (.pageOutOfRange k n) := by
  have hnone : d.page? k = none := by
    rw [Document.page?]
    split
    · rfl
    · rename_i hne
      have hpos : 1 ≤ k := by
        rw [UInt32.le_iff_toNat_le]
        have : k.toNat ≠ 0 := fun h0 => hne (UInt32.toNat_inj.mp h0)
        show 1 ≤ k.toNat
        omega
      have hbeyond : ¬ k.toNat ≤ n.toNat :=
        fun hle => hk ⟨hpos, UInt32.le_iff_toNat_le.mpr hle⟩
      rw [List.getElem?_eq_none_iff]
      omega
  rw [Document.pageRuns, hnone, hcount]

namespace Pdf

/-- The map has the page numbers from one to `n`, and no others. -/
def PageMap.KeyedTo (m : PageMap) (n : UInt32) : Prop :=
  ∀ k, (m.get? k).isSome ↔ 1 ≤ k ∧ k ≤ n

/-- A map has a page iff the page's number is among its keys. -/
theorem PageMap.isSome_get?_iff {m : PageMap} {k : UInt32} :
    (m.get? k).isSome ↔ k ∈ m.entries.map (·.1) := by
  simp [PageMap.get?, List.mem_map]

/-- A map has no gaps iff its keys are the numbers from one on, in order. -/
theorem PageMap.keyedTo_iff {m : PageMap} {n : UInt32} :
    m.KeyedTo n ↔ m.entries.map (·.1) = pagesBetween 1 n := by
  constructor
  · intro h
    apply eq_pagesBetween
    · rw [List.pairwise_map]
      exact m.sorted
    · intro k
      rw [← PageMap.isSome_get?_iff]
      exact h k
  · intro h k
    rw [PageMap.isSome_get?_iff, h, mem_pagesBetween]

/-- The size of a map without gaps is its last number. -/
theorem PageMap.KeyedTo.size_eq {m : PageMap} {n : UInt32} (h : m.KeyedTo n) :
    m.size = n := by
  have hlength : m.entries.length = n.toNat := by
    rw [← length_pagesBetween_one n, ← PageMap.keyedTo_iff.mp h, List.length_map]
  rw [PageMap.size, hlength, Nat.toUInt32_eq, UInt32.ofNat_toNat]

namespace Reader

/-- The document holds the pages with the given keys as the reader reads them,
in the order of the keys, each numbered by its place. -/
structure Transcribes (r : Reader) (keys : List UInt32) (d : Document) : Prop where
  length_eq : d.pages.length = keys.length
  page_at : ∀ i k, keys[i]? = some k →
    ∃ page, d.pages[i]? = some page ∧ page.number = (i + 1).toUInt32 ∧
      r.pageRuns k = .ok page.runs

/-- The empty document holds no page. -/
theorem transcribes_nil (r : Reader) : Transcribes r [] {} :=
  ⟨rfl, by simp⟩

/-- **One page more.**  Adding a page that was read keeps the transcript. -/
theorem Transcribes.addPage {r : Reader} {keys : List UInt32} {d : Document}
    (h : Transcribes r keys d) {k : UInt32} {runs : List Run}
    (hread : r.pageRuns k = .ok runs) :
    Transcribes r (keys ++ [k]) (d.addPage ⟨k, runs⟩) := by
  constructor
  · simp [Document.addPage, h.length_eq]
  · intro i j hj
    rw [List.getElem?_append] at hj
    split at hj
    · rename_i hlt
      obtain ⟨page, hpage, hnumber, hruns⟩ := h.page_at i j hj
      refine ⟨page, ?_, hnumber, hruns⟩
      rw [Document.addPage,
        List.getElem?_append_left (by rw [h.length_eq]; exact hlt)]
      exact hpage
    · rename_i hge
      obtain ⟨hzero, hjk⟩ : i - keys.length = 0 ∧ k = j := by
        rw [List.getElem?_singleton] at hj
        split at hj
        · exact ⟨by assumption, Option.some.inj hj⟩
        · cases hj
      have hi : i = d.pages.length := by rw [h.length_eq]; omega
      subst hjk hi
      refine ⟨⟨d.pageCount + 1, runs⟩, by simp [Document.addPage], ?_, hread⟩
      simp [Document.pageCount, Nat.toUInt32_eq, UInt32.ofNat_add]

/-- Adds the page of an entry to a document, as `Reader.document` does for one
entry after the other. -/
def addEntry (r : Reader) (d : Document) (entry : UInt32 × ObjectId) :
    Except Error Document := do
  return d.addPage { number := entry.1, runs := ← r.pageRuns entry.1 }

/-- The document is made by adding entry after entry. -/
theorem document_eq_foldlM (r : Reader) :
    r.document = r.backend.pages.entries.foldlM r.addEntry {} := rfl

/-- An entry is added iff its page can be read. -/
theorem addEntry_of_ok {r : Reader} {d : Document} {entry : UInt32 × ObjectId}
    {runs : List Run} (h : r.pageRuns entry.1 = .ok runs) :
    r.addEntry d entry = .ok (d.addPage ⟨entry.1, runs⟩) := by
  simp [addEntry, h, bind, Except.bind, pure, Except.pure]

/-- A page that cannot be read ends the transcript with the reader's error. -/
theorem addEntry_of_error {r : Reader} {d : Document}
    {entry : UInt32 × ObjectId} {e : Error}
    (h : r.pageRuns entry.1 = .error e) : r.addEntry d entry = .error e := by
  simp [addEntry, h, bind, Except.bind]

/-- **All pages.**  What comes of adding entries transcribes their keys. -/
theorem transcribes_of_foldlM {r : Reader} {entries : List (UInt32 × ObjectId)}
    {done : List UInt32} {d d' : Document} (h : Transcribes r done d)
    (hfold : entries.foldlM r.addEntry d = .ok d') :
    Transcribes r (done ++ entries.map (·.1)) d' := by
  induction entries generalizing done d with
  | nil =>
      cases hfold
      simpa using h
  | cons entry rest ih =>
      rw [List.foldlM_cons] at hfold
      cases hread : r.pageRuns entry.1 with
      | error e =>
          rw [addEntry_of_error hread] at hfold
          cases hfold
      | ok runs =>
          rw [addEntry_of_ok hread] at hfold
          have hrest := ih (h.addPage hread) hfold
          simpa using hrest

/-- If adding entries fails, it fails with the error of the first entry that
cannot be read. -/
theorem first_failure_of_foldlM {r : Reader}
    {entries : List (UInt32 × ObjectId)} {d : Document}
    {e : Error} (hfold : entries.foldlM r.addEntry d = .error e) :
    ∃ done k rest, entries.map (·.1) = done ++ k :: rest ∧ r.pageRuns k = .error e ∧
      ∀ j ∈ done, ∃ runs, r.pageRuns j = .ok runs := by
  induction entries generalizing d with
  | nil => cases hfold
  | cons entry rest ih =>
      rw [List.foldlM_cons] at hfold
      cases hread : r.pageRuns entry.1 with
      | error e' =>
          rw [addEntry_of_error hread] at hfold
          cases hfold
          exact ⟨[], entry.1, rest.map (·.1), rfl, hread, by simp⟩
      | ok runs =>
          rw [addEntry_of_ok hread] at hfold
          obtain ⟨done, k, tail, hkeys, hfail, hdone⟩ := ih hfold
          refine ⟨entry.1 :: done, k, tail, by simp [hkeys], hfail, ?_⟩
          intro j hj
          rcases List.mem_cons.mp hj with rfl | hj
          · exact ⟨runs, hread⟩
          · exact hdone j hj

/-- The page with the number `k` of a transcript of the pages from one to `n` is
the reader's. -/
theorem Transcribes.page?_eq {r : Reader} {n : UInt32} {d : Document}
    (h : Transcribes r (pagesBetween 1 n) d) {k : UInt32} (hpos : 1 ≤ k)
    (hlast : k ≤ n) :
    ∃ page, d.page? k = some page ∧ page.number = k ∧
      r.pageRuns k = .ok page.runs := by
  obtain ⟨page, hpage, hnumber, hruns⟩ :=
    h.page_at _ k (getElem?_pagesBetween_one hpos hlast)
  have hk : 1 ≤ k.toNat := UInt32.le_iff_toNat_le.mp hpos
  have hne : k ≠ 0 := by
    rintro rfl
    exact absurd hk (by decide)
  refine ⟨page, ?_, ?_, hruns⟩
  · rw [Document.page?, if_neg hne]
    exact hpage
  · rw [hnumber, Nat.sub_add_cancel hk, Nat.toUInt32_eq, UInt32.ofNat_toNat]

/-- A transcript of the pages from one to `n` counts `n` pages. -/
theorem Transcribes.pageCount_eq {r : Reader} {n : UInt32} {d : Document}
    (h : Transcribes r (pagesBetween 1 n) d) : d.pageCount = n := by
  rw [Document.pageCount, h.length_eq, length_pagesBetween_one, Nat.toUInt32_eq,
    UInt32.ofNat_toNat]

/-- A reader has no page outside the numbers of its map. -/
theorem pageRuns_of_not_mem {r : Reader} {n k : UInt32}
    (hkeys : r.backend.pages.KeyedTo n)
    (hk : ¬ (1 ≤ k ∧ k ≤ n)) : r.pageRuns k = .error (.pageOutOfRange k n) := by
  have hnone : r.backend.pages.get? k = none := by
    rw [← Option.not_isSome_iff_eq_none, hkeys k]
    exact hk
  rw [pageRuns, hnone, pageCount, hkeys.size_eq]

/-- **One source.**  A transcript of a reader without gaps is the same source of
pages as the reader: the same pages, and the same errors beyond them. -/
theorem Transcribes.source_eq {r : Reader} {n : UInt32} {d : Document}
    (hkeys : r.backend.pages.KeyedTo n) (h : Transcribes r (pagesBetween 1 n) d) :
    d.source = r.source := by
  have hcount : d.pageCount = r.pageCount := h.pageCount_eq.trans hkeys.size_eq.symm
  have hruns : d.pageRuns = r.pageRuns := by
    funext k
    by_cases hk : 1 ≤ k ∧ k ≤ n
    · obtain ⟨page, hpage, -, hread⟩ := h.page?_eq hk.1 hk.2
      rw [hread, Document.pageRuns, hpage]
    · have hlength : d.pages.length = n.toNat :=
        h.length_eq.trans (length_pagesBetween_one n)
      rw [pageRuns_of_not_mem hkeys hk,
        Document.pageRuns_of_not_mem hlength h.pageCount_eq hk]
  rw [Document.source, source, hcount, hruns]

/-- **Lazy and eager reading agree.**  Where the page map is keyed from one to
`n` without gaps, a document that could be read as a whole answers every
extractor as the reader does, and holds the reader's pages under their numbers.
If it could not be read, the error is that of the first page that cannot. -/
theorem document_agrees_with_reader (r : Reader) (n : UInt32)
    (hkeys : r.backend.pages.KeyedTo n) :
    (∀ d, r.document = .ok d →
      (∀ (x : Extractor) (topic : String), x.extract r.source topic =
        x.extract d.source topic) ∧
      d.pages.length = n.toNat ∧
      ∀ k, 1 ≤ k → k ≤ n →
        ∃ page, d.page? k = some page ∧ page.number = k ∧
          r.pageRuns k = .ok page.runs) ∧
    (∀ e, r.document = .error e →
      ∃ k, 1 ≤ k ∧ k ≤ n ∧ r.pageRuns k = .error e ∧
        ∀ j, 1 ≤ j → j < k → ∃ runs, r.pageRuns j = .ok runs) := by
  have hmap := PageMap.keyedTo_iff.mp hkeys
  constructor
  · intro d hd
    have htrans : Transcribes r (pagesBetween 1 n) d := by
      rw [document_eq_foldlM] at hd
      simpa [hmap] using transcribes_of_foldlM (transcribes_nil r) hd
    refine ⟨?_, htrans.length_eq.trans (length_pagesBetween_one n), ?_⟩
    · intro x topic
      rw [htrans.source_eq hkeys]
    · intro k hpos hlast
      exact htrans.page?_eq hpos hlast
  · intro e he
    rw [document_eq_foldlM] at he
    obtain ⟨done, k, rest, hsplit, hfail, hdone⟩ := first_failure_of_foldlM he
    rw [hmap] at hsplit
    have hk : k ∈ pagesBetween 1 n :=
      hsplit ▸ List.mem_append_right done List.mem_cons_self
    obtain ⟨hpos, hlast⟩ := mem_pagesBetween.mp hk
    refine ⟨k, hpos, hlast, hfail, ?_⟩
    intro j hj hlt
    exact hdone j (mem_before_of_pagesBetween hsplit hj hlt)

/-- A table of contents, the page of a topic, and a page that cannot be read. -/
def halfReadable : Backend where
  pages := .ofPages [⟨10, 0⟩, ⟨20, 0⟩, ⟨30, 0⟩]
  fonts _ := .ok [⟨[70], "Arial-Bold", none⟩]
  content page :=
    if page = ⟨30, 0⟩ then .error (.malformedDocument "page content") else .ok [84]
  operations content := .ok
    [⟨"BT", []⟩, ⟨"Tf", [.name [70], .integer 12]⟩, ⟨"Tj", [.string content]⟩,
      ⟨"ET", []⟩]
  text page _ _ := if page = ⟨10, 0⟩ then "Index\nLaw 2" else "Statutes"

/-- The lenient reader of such pages is read as a whole, and the document has
the excerpt of the topic; the strict one fails at the last page. -/
theorem halfReadable_document_agrees :
    halfReadable.pages.KeyedTo 3 ∧
    (∃ d, (Reader.mk halfReadable .lenient).document = .ok d ∧ d.pages.length = 3 ∧
      (∀ (x : Extractor) (topic : String),
        x.extract (Reader.mk halfReadable .lenient).source topic =
          x.extract d.source topic) ∧
      Extractor.extract
        { locator := ⟨"Index", 9⟩, pagesBefore := 0, pagesAfter := 0 } d.source
        "Law" = .ok ⟨"Law", 2, some ⟨2, 2⟩, "Statutes"⟩) ∧
    ∃ e k, (Reader.mk halfReadable .strict).document = .error e ∧
      (Reader.mk halfReadable .strict).pageRuns k = .error e ∧ 1 ≤ k ∧ k ≤ 3 := by
  have hkeys : halfReadable.pages.KeyedTo 3 := PageMap.keyedTo_iff.mpr (by decide)
  have hread : (Reader.mk halfReadable .lenient).document.isOk = true ∧
      (Reader.mk halfReadable .strict).document.isOk = false ∧
      Extractor.extract
        { locator := ⟨"Index", 9⟩, pagesBefore := 0, pagesAfter := 0 }
        (Reader.mk halfReadable .lenient).source "Law" =
          .ok ⟨"Law", 2, some ⟨2, 2⟩, "Statutes"⟩ := by
    decide +kernel
  obtain ⟨hlenient, hstrict, hlaw⟩ := hread
  refine ⟨hkeys, ?_, ?_⟩
  · cases hd : (Reader.mk halfReadable .lenient).document with
    | error e =>
        rw [hd] at hlenient
        cases hlenient
    | ok d =>
        obtain ⟨hagree, hlength, -⟩ :=
          (document_agrees_with_reader ⟨halfReadable, .lenient⟩ 3 hkeys).1 d hd
        exact ⟨d, rfl, hlength, hagree, by rw [← hagree, hlaw]⟩
  · cases hd : (Reader.mk halfReadable .strict).document with
    | ok d =>
        rw [hd] at hstrict
        cases hstrict
    | error e =>
        obtain ⟨k, hpos, hlast, hfail, -⟩ :=
          (document_agrees_with_reader ⟨halfReadable, .strict⟩ 3 hkeys).2 e hd
        exact ⟨e, k, rfl, hfail, hpos, hlast⟩

end Reader

end Pdf

end Prospectus
