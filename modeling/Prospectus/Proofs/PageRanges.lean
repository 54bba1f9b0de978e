import Mathlib.Data.List.Sort
import Prospectus.Walk

/-!
# Ranges of page numbers

`pagesBetween first last` lists page numbers in increasing order.  This file
says which numbers are in the list (`mem_pagesBetween`), that they are
increasing (`pagesBetween_pairwise`), and at which place each of those that
start from one stands (`getElem?_pagesBetween_one`).  A document has a page for
each number from one to its count (`Document.exists_page?`).
-/

namespace Prospectus

/-- A number that is not beyond some page number is a page number itself. -/
theorem toNat_toUInt32_of_le {n : Nat} (last : UInt32) (h : n ≤ last.toNat) :
    n.toUInt32.toNat = n := by
  rw [Nat.toUInt32_eq,
    UInt32.toNat_ofNat_of_lt' (Nat.lt_of_le_of_lt h last.toNat_lt_size)]

/-- A range of pages holds exactly the numbers between its ends. -/
theorem mem_pagesBetween {first last page : UInt32} :
    page ∈ pagesBetween first last ↔ first ≤ page ∧ page ≤ last := by
  simp only [pagesBetween, List.mem_map, List.mem_range'_1, UInt32.le_iff_toNat_le]
  constructor
  · rintro ⟨n, ⟨hfirst, hlast⟩, rfl⟩
    rw [toNat_toUInt32_of_le last (by omega)]
    omega
  · rintro ⟨hfirst, hlast⟩
    exact ⟨page.toNat, by omega, by simp⟩

/-- A range of pages is increasing. -/
theorem pagesBetween_pairwise (first last : UInt32) :
    (pagesBetween first last).Pairwise (· < ·) := by
  rw [pagesBetween, List.pairwise_map]
  refine (List.pairwise_lt_range' (s := first.toNat) (n := last.toNat + 1 -
    first.toNat)).imp_of_mem ?_
  intro m n hm hn hlt
  rw [List.mem_range'_1] at hm hn
  rw [UInt32.lt_iff_toNat_lt, toNat_toUInt32_of_le last (by omega),
    toNat_toUInt32_of_le last (by omega)]
  exact hlt

/-- There are as many pages from one to `last` as `last` says. -/
theorem length_pagesBetween_one (last : UInt32) :
    (pagesBetween 1 last).length = last.toNat := by
  simp [pagesBetween]

/-- The page with the number `k` stands at the place before `k`. -/
theorem getElem?_pagesBetween_one {last k : UInt32} (hpos : 1 ≤ k)
    (hlast : k ≤ last) :
    (pagesBetween 1 last)[k.toNat - 1]? = some k := by
  rw [UInt32.le_iff_toNat_le] at hpos hlast
  have hone : (1 : UInt32).toNat = 1 := rfl
  have hplace : 1 + (k.toNat - 1) = k.toNat := by omega
  rw [pagesBetween, List.getElem?_map, List.getElem?_range' (by omega)]
  simp [hplace]

/-- Increasing lists of pages with the same pages are the same. -/
theorem eq_pagesBetween {pages : List UInt32} {first last : UInt32}
    (hsorted : pages.Pairwise (· < ·))
    (hmem : ∀ page, page ∈ pages ↔ first ≤ page ∧ page ≤ last) :
    pages = pagesBetween first last := by
  refine List.Pairwise.eq_of_mem_iff hsorted (pagesBetween_pairwise first last) ?_
  intro page
  rw [hmem, mem_pagesBetween]

/-- The pages that a walk from `first` to `last` comes to are those that exist
and lie between. -/
theorem mem_pagesBetween_clamped {first last count page : UInt32} :
    page ∈ pagesBetween (max first 1) (min last count) ↔
      (1 ≤ page ∧ page ≤ count) ∧ first ≤ page ∧ page ≤ last := by
  have hmax : max first 1 = if first ≤ 1 then 1 else first := rfl
  have hmin : min last count = if last ≤ count then last else count := rfl
  rw [mem_pagesBetween, hmax, hmin]
  simp only [UInt32.le_iff_toNat_le]
  split <;> split <;> omega

/-- A smaller page stands earlier in a range. -/
theorem mem_before_of_pagesBetween {first last k : UInt32} {done rest : List UInt32}
    (h : pagesBetween first last = done ++ k :: rest) {j : UInt32}
    (hfirst : first ≤ j) (hlt : j < k) :
    j ∈ done := by
  have hsorted := h ▸ pagesBetween_pairwise first last
  have hk : k ≤ last :=
    (mem_pagesBetween.mp (h ▸ List.mem_append_right done List.mem_cons_self)).2
  have hj : j ∈ done ++ k :: rest :=
    h ▸ mem_pagesBetween.mpr ⟨hfirst, UInt32.le_trans (UInt32.le_of_lt hlt) hk⟩
  rcases List.mem_append.mp hj with hdone | htail
  · exact hdone
  · rcases List.mem_cons.mp htail with rfl | hrest
    · exact absurd hlt (UInt32.lt_irrefl _)
    · have hafter :=
        (List.pairwise_cons.mp (List.pairwise_append.mp hsorted).2.1).1 j hrest
      exact absurd (UInt32.lt_trans hlt hafter) (UInt32.lt_irrefl _)

/-- A document has a page of each number up to its count. -/
theorem Document.exists_page? {d : Document} {p : UInt32} (hpos : 1 ≤ p)
    (hcount : p ≤ d.pageCount) :
    ∃ page, d.pages[p.toNat - 1]? = some page ∧ d.page? p = some page := by
  rw [UInt32.le_iff_toNat_le] at hpos hcount
  have hone : (1 : UInt32).toNat = 1 := rfl
  have hlength : d.pageCount.toNat ≤ d.pages.length := by
    rw [pageCount, Nat.toUInt32_eq, UInt32.toNat_ofNat']
    exact Nat.mod_le _ _
  have hlt : p.toNat - 1 < d.pages.length := by omega
  have hne : p ≠ 0 := by
    rintro rfl
    exact absurd hpos (by decide)
  refine ⟨d.pages[p.toNat - 1], List.getElem?_eq_getElem hlt, ?_⟩
  rw [page?, if_neg hne, List.getElem?_eq_getElem hlt]

end Prospectus
