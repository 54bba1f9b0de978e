import Mathlib.Data.Int.Interval
import Mathlib.Data.Set.Card
import Prospectus.Proofs.PageNumbers
import Prospectus.Window

/-!
# Windows hold exactly the pages in reach

A window is computed with 64-bit integers that stop at the ends of their range,
and its ends are cut down to 32 bits.  Here it is compared with the integers:
`Reaches` says which page numbers are asked for, in arithmetic without bounds.

Stopping at an end of the range does no harm, since all page numbers lie far
inside it (`max_saturate`, `min_saturate`), and what is cut down to 32 bits is a
page number already (`toNat_narrowed`).  So the ends of a window are those of
the exact interval (`around_cases`), and the rest is read off this.
-/

namespace Prospectus.Window

open Contents

/-- A page number of a document of `count` pages that is at most `before` less
and at most `after` more than the number of a given page. -/
structure Reaches (page : Int64) (before after count : UInt32) (p : Int) :
    Prop where
  pos : 1 ≤ p
  le_count : p ≤ count.toNat
  start_le : page.toInt - before.toNat ≤ p
  le_stop : p ≤ page.toInt + after.toNat

/-! ## Machine integers -/

theorem toInt_widened (n : UInt32) : n.toUInt64.toInt64.toInt = n.toNat := by
  have hn := n.toNat_lt
  have hsmall : 2 * n.toUInt64.toNat < 2 ^ 64 := by
    rw [UInt32.toNat_toUInt64]
    omega
  exact (BitVec.toInt_eq_toNat_of_lt hsmall).trans
    (congrArg Nat.cast n.toNat_toUInt64)

/-- Cutting down to 32 bits loses nothing of a number that has no more. -/
theorem toNat_narrowed {x : Int64} (hpos : 0 ≤ x.toInt)
    (hsize : x.toInt < UInt32.size) :
    (x.toUInt64.toUInt32.toNat : Int) = x.toInt := by
  have hx : (x.toUInt64.toNat : Int) = x.toInt := by
    rw [Int64.toNat_toUInt64_of_le (Int64.le_iff_toInt_le.mpr hpos)]
    exact Int.toNat_of_nonneg hpos
  have hlt : x.toUInt64.toNat < UInt32.size := by omega
  rw [UInt64.toNat_toUInt32, Nat.mod_eq_of_lt hlt, hx]

/-- No difference of a 64-bit and a 32-bit number is beyond the upper end of the
range, and beyond the lower end there are no pages. -/
theorem max_saturate (page : Int64) (before : UInt32) :
    max 1 (saturate (page.toInt - before.toNat)).toInt =
      max 1 (page.toInt - before.toNat) := by
  have hpage := page.toInt_lt
  rw [toInt_saturate, clamped]
  omega

/-- No sum of a 64-bit and a 32-bit number is beyond the lower end of the range,
and beyond the upper end there are no pages. -/
theorem min_saturate (page : Int64) (after count : UInt32) :
    min (count.toNat : Int) (saturate (page.toInt + after.toNat)).toInt =
      min (count.toNat : Int) (page.toInt + after.toNat) := by
  have hpage := page.le_toInt
  have hcount := count.toNat_lt
  rw [toInt_saturate, clamped]
  omega

/-! ## Ends of a window -/

/-- **The ends of a window.**  There is a window exactly if the later of its two
starts does not come after the earlier of its two ends, and these are where it
begins and ends. -/
theorem around_cases (page : Int64) (before after count : UInt32) :
    (around page before after count = none ∧
      min (count.toNat : Int) (page.toInt + after.toNat) <
        max 1 (page.toInt - before.toNat)) ∨
    ∃ w, around page before after count = some w ∧
      (w.first.toNat : Int) = max 1 (page.toInt - before.toNat) ∧
      (w.last.toNat : Int) = min (count.toNat : Int) (page.toInt + after.toNat) ∧
      w.first.toNat ≤ w.last.toNat := by
  have hcount : count.toNat < UInt32.size := count.toNat_lt
  have hlimit := toInt_widened count
  rw [← max_saturate page before, ← min_saturate page after count]
  have hstart : (saturate (page.toInt - before.toNat)).toInt ≤
      (saturate (page.toInt + after.toNat)).toInt := by
    rw [toInt_saturate, toInt_saturate, clamped, clamped]
    omega
  unfold around
  dsimp only
  generalize saturate (page.toInt - before.toNat) = start at hstart ⊢
  generalize saturate (page.toInt + after.toNat) = stop at hstart ⊢
  generalize count.toUInt64.toInt64 = limit at hlimit ⊢
  have hone : (1 : Int64).toInt = 1 := rfl
  by_cases hzero : count = 0
  · rw [if_pos hzero, hzero]
    refine .inl ⟨rfl, ?_⟩
    have hnone : (0 : UInt32).toNat = 0 := rfl
    omega
  rw [if_neg hzero]
  simp only [Bool.or_eq_true, decide_eq_true_eq, Int64.lt_iff_toInt_lt,
    hlimit, hone]
  by_cases hapart : stop.toInt < 1 ∨ (count.toNat : Int) < start.toInt
  · rw [if_pos hapart]
    exact .inl ⟨rfl, by omega⟩
  rw [if_neg hapart]
  have hpos : count.toNat ≠ 0 := fun h => hzero (UInt32.toNat_inj.mp h)
  have hfirst : (if start.toInt < 1 then 1 else start).toInt =
      max 1 start.toInt := by
    split <;> omega
  have hlast : (if (count.toNat : Int) < stop.toInt then limit else stop).toInt =
      min (count.toNat : Int) stop.toInt := by
    split <;> omega
  have hfirst' := toNat_narrowed (x := if start.toInt < 1 then 1
    else start) (by omega) (by omega)
  have hlast' := toNat_narrowed (x := if (count.toNat : Int) < stop.toInt
    then limit else stop) (by omega) (by omega)
  rw [hfirst] at hfirst'
  rw [hlast] at hlast'
  exact .inr ⟨_, rfl, hfirst', hlast', by dsimp only; omega⟩

/-! ## Pages in reach -/

/-- What is in reach is an interval. -/
theorem reaches_iff {page : Int64} {before after count : UInt32} {p : Int} :
    Reaches page before after count p ↔
      max 1 (page.toInt - before.toNat) ≤ p ∧
        p ≤ min (count.toNat : Int) (page.toInt + after.toNat) := by
  rw [max_le_iff, le_min_iff]
  exact ⟨fun ⟨h1, h2, h3, h4⟩ => ⟨⟨h1, h3⟩, h2, h4⟩, fun ⟨⟨h1, h3⟩, h2, h4⟩ =>
    ⟨h1, h2, h3, h4⟩⟩

/-- The pages of a window that does not begin with page zero can be counted in
32 bits. -/
theorem toNat_pageCount {w : Window} (hpos : 1 ≤ w.first.toNat)
    (hle : w.first.toNat ≤ w.last.toNat) :
    w.last.toNat - w.first.toNat + 1 < UInt32.size ∧
    w.pageCount.toNat = w.last.toNat - w.first.toNat + 1 := by
  have hlast : w.last.toNat < UInt32.size := w.last.toNat_lt
  have hdiff : (w.last - w.first).toNat = w.last.toNat - w.first.toNat :=
    UInt32.toNat_sub_of_le _ _ (UInt32.le_iff_toNat_le.mpr hle)
  have hlt : w.last.toNat - w.first.toNat + 1 < UInt32.size := by omega
  refine ⟨hlt, ?_⟩
  rw [pageCount, UInt32.toNat_add, hdiff]
  exact Nat.mod_eq_of_lt hlt

/-- The number of integers from one natural number to another. -/
theorem ncard_between {first last : Nat} (hle : first ≤ last) :
    {p : Int | (first : Int) ≤ p ∧ p ≤ last}.ncard = last - first + 1 := by
  have hset : {p : Int | (first : Int) ≤ p ∧ p ≤ last} =
      Finset.Icc (first : Int) last := by
    ext p
    simp
  rw [hset, Set.ncard_coe_finset, Int.card_Icc]
  omega

/-- **A window holds exactly the pages in reach.**  There is none exactly if no
page is in reach.  Otherwise it lies in the document, a number is in reach
exactly if it stands between the ends of the window, the ends are the 64-bit
integers that were cut down to them, and counting the pages of the window does
not overflow. -/
theorem around_holds_reach (page : Int64) (before after count : UInt32) :
    (around page before after count = none ↔ ¬ ∃ p,
      Reaches page before after count p) ∧
    ((∃ p, Reaches page before after count p) →
      ∃ w, around page before after count = some w ∧
      1 ≤ w.first ∧ w.first ≤ w.last ∧ w.last ≤ count ∧
      (∀ p, Reaches page before after count p ↔ (w.first.toNat : Int) ≤ p ∧
        p ≤ w.last.toNat) ∧
      (w.first.toNat : Int) = max 1 (saturate (page.toInt - before.toNat)).toInt ∧
      (w.last.toNat : Int) = min (count.toNat : Int)
      (saturate (page.toInt + after.toNat)).toInt ∧
      w.last.toNat - w.first.toNat + 1 < UInt32.size ∧
      w.pageCount.toNat = {p | Reaches page before after count p}.ncard) := by
  rcases around_cases page before after count with ⟨hnone, hempty⟩ |
    ⟨w, hsome, hfirst, hlast, hle⟩
  · have hreach : ¬ ∃ p, Reaches page before after count p := by
      rintro ⟨p, hp⟩
      obtain ⟨hlow, hhigh⟩ := reaches_iff.mp hp
      omega
    exact ⟨iff_of_true hnone hreach, fun h => absurd h hreach⟩
  · have hmem : ∀ p, Reaches page before after count p ↔
        (w.first.toNat : Int) ≤ p ∧ p ≤ w.last.toNat := by
      intro p
      rw [reaches_iff, hfirst, hlast]
    have hreach : ∃ p, Reaches page before after count p :=
      ⟨w.first.toNat, (hmem _).mpr ⟨le_rfl, by omega⟩⟩
    have hpos : 1 ≤ w.first.toNat := by omega
    obtain ⟨hlt, hpages⟩ := toNat_pageCount hpos hle
    refine ⟨iff_of_false (by simp [hsome]) (not_not_intro hreach),
      fun _ => ⟨w, hsome, hpos, hle, ?_, hmem, ?_, ?_, hlt, ?_⟩⟩
    · rw [UInt32.le_iff_toNat_le]
      omega
    · rw [max_saturate, hfirst]
    · rw [min_saturate, hlast]
    · simp only [hmem]
      rw [ncard_between hle, hpages]

/-- A page number with 33 bits, and all pages before it: the window is as large
as can be. -/
theorem wholeRange_holds_reach :
    Reaches 0x100000000 0xFFFFFFFF 0 0xFFFFFFFF 1 ∧
    around 0x100000000 0xFFFFFFFF 0 0xFFFFFFFF = some ⟨1, 0xFFFFFFFF⟩ ∧
    {p | Reaches 0x100000000 0xFFFFFFFF 0 0xFFFFFFFF p}.ncard = 0xFFFFFFFF := by
  have hreach : Reaches 0x100000000 0xFFFFFFFF 0 0xFFFFFFFF 1 :=
    ⟨by decide, by decide, by decide, by decide⟩
  have hwindow : around 0x100000000 0xFFFFFFFF 0 0xFFFFFFFF =
      some ⟨1, 0xFFFFFFFF⟩ := by decide
  obtain ⟨w, hw, -, -, -, -, -, -, -, hcard⟩ :=
    (around_holds_reach 0x100000000 0xFFFFFFFF 0 0xFFFFFFFF).2 ⟨1, hreach⟩
  obtain rfl : ⟨1, 0xFFFFFFFF⟩ = w := Option.some.inj (hwindow.symm.trans hw)
  exact ⟨hreach, hwindow, hcard.symm⟩

end Prospectus.Window
