import Prospectus.Proofs.BoldPages
import Prospectus.Proofs.ContentsSearch

/-!
# Where the table of contents is

The search for the table of contents ends at the first page that cannot be read
or that holds the marker (`Locator.locate_eq`).  Here its answer is told in
words of pages alone.  A page is the `FirstMatch` if it holds the marker and all
pages before it can be read and do not; if there is none, the first page that
cannot be read decides; and if there is none of these either, the table of
contents is not found.  `locate_cases` says that one of the three is the case.

A first match stays one when the limit is raised or pages are added at the end
(`FirstMatch.extend`).
-/

namespace Prospectus

namespace Text

/-- The search for a block of characters finds it exactly if it is there. -/
theorem occursIn_iff (needle cs : List Char) :
    occursIn needle cs = true ↔ needle <:+: cs := by
  induction cs with
  | nil => simp [occursIn]
  | cons c rest ih =>
      rw [occursIn, Bool.or_eq_true, ih, List.isPrefixOf_iff_prefix]
      exact List.infix_cons_iff.symm

/-- A text holds another exactly if its characters stand in it side by side. -/
theorem contains_iff (text needle : String) :
    contains text needle = true ↔ needle.toList <:+: text.toList :=
  occursIn_iff _ _

end Text

/-- A source has the pages of another, and perhaps more after them. -/
structure PageSource.Extends (longer shorter : PageSource) : Prop where
  count : shorter.pageCount ≤ longer.pageCount
  pages : ∀ p, 1 ≤ p → p ≤ shorter.pageCount →
    longer.pageRuns p = shorter.pageRuns p

/-- Adding a page to a document adds one to its source, as long as pages can be
counted. -/
theorem Document.addPage_extends (d : Document) (page : Page)
    (h : d.pages.length + 1 < UInt32.size) :
    (d.addPage page).source.Extends d.source := by
  have hshort : d.pageCount.toNat = d.pages.length := by
    rw [pageCount, Nat.toUInt32_eq, UInt32.toNat_ofNat',
      Nat.mod_eq_of_lt (Nat.lt_of_succ_lt h)]
  have hlong : (d.addPage page).pageCount.toNat = d.pages.length + 1 := by
    rw [pageCount, Nat.toUInt32_eq, UInt32.toNat_ofNat']
    simp only [addPage, List.length_append, List.length_singleton]
    exact Nat.mod_eq_of_lt h
  refine ⟨?_, ?_⟩
  · change d.pageCount ≤ (d.addPage page).pageCount
    rw [UInt32.le_iff_toNat_le, hshort, hlong]
    omega
  · intro p hpos hcount
    change (d.addPage page).pageRuns p = d.pageRuns p
    obtain ⟨found, hplace, hfound⟩ := exists_page? hpos hcount
    have hpage : (d.addPage page).page? p = d.page? p := by
      simp only [page?, addPage,
        List.getElem?_append_left (List.getElem?_eq_some_iff.mp hplace).1]
    rw [pageRuns, pageRuns, hpage, hfound]

/-- The only page before the second is the first. -/
theorem eq_one_of_lt_two {p : UInt32} (hpos : 1 ≤ p) (hlt : p < 2) : p = 1 := by
  rw [UInt32.le_iff_toNat_le] at hpos
  rw [UInt32.lt_iff_toNat_lt] at hlt
  exact UInt32.toNat_inj.mp (Nat.le_antisymm (Nat.lt_succ_iff.mp hlt) hpos)

namespace Contents.Locator

/-- The text of the runs holds the marker, both in composed form. -/
def Holds (l : Locator) (runs : List Run) : Prop :=
  (Text.composed l.marker).toList <:+: (Text.composed (plainText runs)).toList

/-- A page within the limit that holds the marker, after pages that can be read
and do not hold it. -/
structure FirstMatch (l : Locator) (source : PageSource) (page : UInt32)
    (runs : List Run) : Prop where
  searched : 1 ≤ page ∧ page ≤ l.lastSearched source
  readable : source.pageRuns page = .ok runs
  holds : l.Holds runs
  earlier : ∀ q, 1 ≤ q → q < page → ∃ runs, source.pageRuns q = .ok runs ∧
    ¬ l.Holds runs

/-- A page that does not end the search can be read and does not hold the
marker. -/
theorem endsSearch_eq_false_iff {l : Locator} {source : PageSource}
    {page : UInt32} :
    endsSearch (Text.composed l.marker) source page = false ↔
      ∃ runs, source.pageRuns page = .ok runs ∧ ¬ l.Holds runs := by
  cases hread : source.pageRuns page with
  | error e => simp [endsSearch, hread]
  | ok runs => simp [endsSearch, hread, Holds, ← Text.contains_iff]

/-- A page that can be read ends the search exactly if it holds the marker. -/
theorem endsSearch_of_ok {l : Locator} {source : PageSource} {page : UInt32}
    {runs : List Run} (hread : source.pageRuns page = .ok runs) :
    endsSearch (Text.composed l.marker) source page = true ↔ l.Holds runs := by
  simp [endsSearch, hread, Holds, Text.contains_iff]

/-- The pages that are searched are the first ones, up to the limit. -/
theorem searched_iff {l : Locator} {source : PageSource} {page : UInt32} :
    1 ≤ page ∧ page ≤ l.lastSearched source ↔
      (1 ≤ page ∧ page ≤ source.pageCount) ∧ (1 : UInt32) ≤ page ∧
      page ≤ l.pageLimit := by
  rw [← mem_pagesBetween_clamped, ← mem_pagesBetween]
  rfl

/-- **The search ends at a first match, at the first page that cannot be read,
or nowhere.** -/
theorem locate_cases (l : Locator) (source : PageSource) :
    (∃ page runs, l.FirstMatch source page runs ∧
      l.locate source = .ok (plainText runs)) ∨
    (∃ page e, FirstUnreadable source ⟨1, l.pageLimit⟩ page e ∧
      (∀ q, 1 ≤ q → q < page → ∃ runs, source.pageRuns q = .ok runs ∧
        ¬ l.Holds runs) ∧
      l.locate source = .error e) ∨
    ((∀ q, 1 ≤ q → q ≤ l.lastSearched source →
      ∃ runs, source.pageRuns q = .ok runs ∧ ¬ l.Holds runs) ∧
      l.locate source =
        .error (.contentsNotFound l.marker (l.lastSearched source))) := by
  have hlocate := l.locate_eq source
  cases hending : l.endingPage? source with
  | none =>
      rw [hending] at hlocate
      refine .inr (.inr ⟨?_, hlocate⟩)
      intro q hpos hlast
      have hends :=
        List.find?_eq_none.mp hending q (mem_pagesBetween.mpr ⟨hpos, hlast⟩)
      exact endsSearch_eq_false_iff.mp (Bool.eq_false_iff.mpr hends)
  | some page =>
      obtain ⟨hends, done, rest, hsplit, hdone⟩ :=
        List.find?_eq_some_iff_append.mp hending
      have hsearched : 1 ≤ page ∧ page ≤ l.lastSearched source :=
        mem_pagesBetween.mp (hsplit ▸ List.mem_append_right done List.mem_cons_self)
      have hearlier : ∀ q, 1 ≤ q → q < page →
          ∃ runs, source.pageRuns q = .ok runs ∧ ¬ l.Holds runs := by
        intro q hpos hlt
        have hq := hdone q (mem_before_of_pagesBetween hsplit hpos hlt)
        exact endsSearch_eq_false_iff.mp (by simpa using hq)
      rw [hending] at hlocate
      cases hread : source.pageRuns page with
      | ok runs =>
          simp only [hread, Except.map] at hlocate
          exact .inl ⟨page, runs, ⟨hsearched, hread, (endsSearch_of_ok hread).mp
            hends, hearlier⟩, hlocate⟩
      | error e =>
          simp only [hread, Except.map] at hlocate
          obtain ⟨hpresent, hinside⟩ := searched_iff.mp hsearched
          refine .inr
            (.inl ⟨page, e, ⟨hpresent, hinside, hread, ?_⟩, hearlier, hlocate⟩)
          intro q hpos _ hlt
          obtain ⟨runs, hruns, -⟩ := hearlier q hpos hlt
          exact ⟨runs, hruns⟩

/-- Nothing that ends the search comes before a first match. -/
theorem FirstMatch.le {l : Locator} {source : PageSource} {page q : UInt32}
    {runs : List Run} (h : l.FirstMatch source page runs) (hpos : 1 ≤ q)
    (hends : ¬ ∃ runs, source.pageRuns q = .ok runs ∧ ¬ l.Holds runs) :
    page ≤ q := by
  rw [← UInt32.not_lt]
  intro hlt
  exact hends (h.earlier q hpos hlt)

/-- A first match ends the search. -/
theorem FirstMatch.ends {l : Locator} {source : PageSource} {page : UInt32}
    {runs : List Run}
    (h : l.FirstMatch source page runs) : ¬ ∃ runs,
      source.pageRuns page = .ok runs ∧ ¬ l.Holds runs := by
  rintro ⟨runs', hread, hno⟩
  obtain rfl := Except.ok.inj (h.readable.symm.trans hread)
  exact hno h.holds

/-- A first match is found. -/
theorem FirstMatch.locate_eq_ok {l : Locator} {source : PageSource}
    {page : UInt32} {runs : List Run} (h : l.FirstMatch source page runs) :
    l.locate source = .ok (plainText runs) := by
  rcases l.locate_cases source with ⟨page', runs', h', hlocate⟩ |
    ⟨page', e, hfail, hearlier, -⟩ | ⟨hnone, -⟩
  · have hpage : page = page' :=
      UInt32.le_antisymm (h.le h'.searched.1 h'.ends) (h'.le h.searched.1 h.ends)
    subst hpage
    obtain rfl := Except.ok.inj (h.readable.symm.trans h'.readable)
    exact hlocate
  · -- the page that cannot be read neither comes before the match nor after it
    have hle : page ≤ page' :=
      h.le hfail.present.1 (by rw [hfail.unreadable]; rintro ⟨_, ⟨⟩, -⟩)
    have hge : page' ≤ page :=
      UInt32.not_lt.mp fun hlt => h.ends (hearlier page h.searched.1 hlt)
    obtain rfl := UInt32.le_antisymm hle hge
    cases h.readable.symm.trans hfail.unreadable
  · exact absurd (hnone page h.searched.1 h.searched.2) h.ends

/-- A first match stays one when the limit is raised and pages are added. -/
theorem FirstMatch.extend {l : Locator} {source longer : PageSource}
    {page : UInt32} {runs : List Run} (h : l.FirstMatch source page runs)
    {limit : UInt32} (hlimit : l.pageLimit ≤ limit)
    (hlonger : longer.Extends source) :
    FirstMatch ⟨l.marker, limit⟩ longer page runs := by
  obtain ⟨⟨hpos, hcount⟩, -, hlast⟩ := searched_iff.mp h.searched
  refine ⟨searched_iff.mpr ⟨⟨hpos, UInt32.le_trans hcount hlonger.count⟩, hpos,
    UInt32.le_trans hlast hlimit⟩, ?_, h.holds, ?_⟩
  · rw [hlonger.pages page hpos hcount]
    exact h.readable
  · intro q hq hlt
    rw [hlonger.pages q hq (UInt32.le_trans (UInt32.le_of_lt hlt) hcount)]
    exact h.earlier q hq hlt

/-- **The table of contents is the first match.**  If a page up to the limit
holds the marker and all before it can be read and do not, the answer is its
text as it stands.  If there is no such page, the answer is the error of the
first page up to the limit that cannot be read, and without such a page either,
the table of contents is not found.  So raising the limit or adding pages never
changes a text that was found. -/
theorem locate_is_first_match (l : Locator) (source : PageSource) :
    (∀ page runs, l.FirstMatch source page runs →
      l.locate source = .ok (Page.plainText ⟨page, runs⟩)) ∧
    ((¬ ∃ page runs, l.FirstMatch source page runs) → ∀ p e, 1 ≤ p →
      p ≤ min l.pageLimit source.pageCount →
      source.pageRuns p = .error e →
        ∃ page e', page ≤ p ∧ FirstUnreadable source ⟨1, l.pageLimit⟩ page e' ∧
          l.locate source = .error e') ∧
    ((¬ ∃ page runs, l.FirstMatch source page runs) →
      (∀ p, 1 ≤ p → p ≤ min l.pageLimit source.pageCount →
        ∃ runs, source.pageRuns p = .ok runs) →
        l.locate source =
          .error (.contentsNotFound l.marker (min l.pageLimit source.pageCount))) ∧
    (∀ (limit : UInt32) (longer : PageSource) (text : String),
      l.pageLimit ≤ limit → longer.Extends source →
      l.locate source = .ok text → locate ⟨l.marker, limit⟩ longer = .ok text) := by
  refine ⟨fun page runs h => h.locate_eq_ok, ?_, ?_, ?_⟩
  · intro hnone p e hpos hlast hread
    rcases l.locate_cases source with ⟨page, runs, h, -⟩ |
      ⟨page, e', hfail, hearlier, hlocate⟩ | ⟨hall, -⟩
    · exact absurd ⟨page, runs, h⟩ hnone
    · refine ⟨page, e', ?_, hfail, hlocate⟩
      rw [← UInt32.not_lt]
      intro hlt
      obtain ⟨runs, hruns, -⟩ := hearlier p hpos hlt
      cases hread.symm.trans hruns
    · obtain ⟨runs, hruns, -⟩ := hall p hpos hlast
      cases hread.symm.trans hruns
  · intro hnone hreadable
    rcases l.locate_cases source with ⟨page, runs, h, -⟩ | ⟨page, e, hfail, -⟩ |
      ⟨-, hlocate⟩
    · exact absurd ⟨page, runs, h⟩ hnone
    · have hsearched := searched_iff.mpr ⟨hfail.present, hfail.inside⟩
      obtain ⟨runs, hruns⟩ := hreadable page hsearched.1 hsearched.2
      cases hruns.symm.trans hfail.unreadable
    · exact hlocate
  · intro limit longer text hlimit hlonger hfound
    rcases l.locate_cases source with ⟨page, runs, h, hlocate⟩ |
      ⟨page, e, -, -, hlocate⟩ | ⟨-, hlocate⟩
    · rw [(h.extend hlimit hlonger).locate_eq_ok, ← hlocate, hfound]
    · cases hfound.symm.trans hlocate
    · cases hfound.symm.trans hlocate

end Contents.Locator

/-- A cover and a page whose text has the word for the table of contents with
its accents apart. -/
def accentedDocument : Document :=
  .ofPages [⟨0, [⟨"Cover", "Arial", none, 12, 0, 700⟩]⟩,
    ⟨0, [⟨"Re\u0301", "Arial", none, 12, 0, 700⟩, ⟨"sume\u0301", "Arial", none,
      12, 0, 700⟩, ⟨"Law 7", "Arial", none, 12, 0, 650⟩]⟩]

/-- The same document with a second page that cannot be read. -/
def tornSource : PageSource :=
  ⟨2, fun p => if p = 2 then .error .encryptedDocument
    else accentedDocument.pageRuns p⟩

/-- The marker, with its accents put together. -/
def accentedLocator (limit : UInt32) : Contents.Locator :=
  ⟨"R\u00e9sum\u00e9", limit⟩

/-- The cover alone does not match. -/
theorem accentedLocator_not_first_match {limit : UInt32} {source : PageSource}
    {runs : List Run}
    (hcover : source.pageRuns 1 = accentedDocument.pageRuns 1) :
    ¬ (accentedLocator limit).FirstMatch source 1 runs := by
  intro h
  have hruns : accentedDocument.pageRuns 1 =
      .ok [⟨"Cover", "Arial", none, 12, 0, 700⟩] := rfl
  obtain rfl := Except.ok.inj ((hruns.symm.trans hcover.symm).trans h.readable)
  have hno : ¬ (Text.composed "R\u00e9sum\u00e9").toList <:+:
      (Text.composed (plainText
        [⟨"Cover", "Arial", none, 12, 0, 700⟩])).toList := by decide +kernel
  exact hno h.holds

/-- The marker is found on the second page, in other characters than it was
given in, and also with another page behind it and a larger limit.  With a limit
of one page it is not found, and if the second page cannot be read, that is the
answer. -/
theorem accentedDocument_first_match :
    (accentedLocator 2).locate accentedDocument.source =
      .ok "Re\u0301sume\u0301\nLaw 7" ∧
    (accentedLocator 9).locate (accentedDocument.addPage ⟨0, []⟩).source =
      .ok "Re\u0301sume\u0301\nLaw 7" ∧
    (accentedLocator 1).locate accentedDocument.source =
      .error (.contentsNotFound "R\u00e9sum\u00e9" 1) ∧
    (∃ page e, page ≤ 2 ∧ FirstUnreadable tornSource ⟨1, 9⟩ page e ∧
      (accentedLocator 9).locate tornSource = .error e) := by
  obtain ⟨hfound, -, -, hraised⟩ :=
    (accentedLocator 2).locate_is_first_match accentedDocument.source
  obtain ⟨-, -, hmissing, -⟩ :=
    (accentedLocator 1).locate_is_first_match accentedDocument.source
  obtain ⟨-, htorn, -, -⟩ := (accentedLocator 9).locate_is_first_match tornSource
  have htext := hfound 2
    [⟨"Re\u0301", "Arial", none, 12, 0, 700⟩,
      ⟨"sume\u0301", "Arial", none, 12, 0, 700⟩,
      ⟨"Law 7", "Arial", none, 12, 0, 650⟩]
    ⟨by decide, rfl, by unfold Contents.Locator.Holds; decide +kernel, by
      intro q hpos hlt
      obtain rfl := eq_one_of_lt_two hpos hlt
      exact ⟨_, rfl, by unfold Contents.Locator.Holds; decide +kernel⟩⟩
  refine ⟨htext, hraised 9 _ _ (by decide)
    (accentedDocument.addPage_extends _ (by decide)) htext, ?_, ?_⟩
  · refine hmissing ?_ ?_
    · rintro ⟨page, runs, h⟩
      obtain rfl := eq_one_of_lt_two h.searched.1
        (UInt32.lt_of_le_of_lt h.searched.2 (by decide))
      exact accentedLocator_not_first_match rfl h
    · intro p hpos hlast
      obtain rfl := eq_one_of_lt_two hpos (UInt32.lt_of_le_of_lt hlast (by decide))
      exact ⟨_, rfl⟩
  · refine htorn ?_ 2 _ (by decide) (by decide) rfl
    rintro ⟨page, runs, h⟩
    rcases UInt32.lt_or_eq_of_le h.searched.2 with hlt | rfl
    · obtain rfl := eq_one_of_lt_two h.searched.1 hlt
      exact accentedLocator_not_first_match rfl h
    · cases h.readable

end Prospectus
