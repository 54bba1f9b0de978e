import Prospectus.Pdf.TextState
import Prospectus.Proofs.FloatOrder

/-!
# Texts of arrays of strings

An array of strings and adjustments is shown as one text.  The fold that makes
it decides at each adjustment, from the text so far, whether to add a space.
Here the array is cut at its strings (`exists_pieces`), and the decision is made
once for the items that follow a string up to the next one: `foldl_joinItem_gap`
is one such gap, `exists_spacing` all of them.

An integer is compared with the threshold as the float nearest to it.  Rounding
cannot take it over the threshold, since small integers are floats and large
ones stay large (`isGap_float32OfInt`).
-/

namespace Prospectus.Pdf

open Number

/-! ## Wide adjustments -/

/-- Integers above two hundred, whose float has the bits `0x43480000`, are
rounded to floats above it, and no others are. -/
theorem threshold_lt_round_iff (n : Nat) :
    0x43480000 < binary32.round n 1 ↔ 201 ≤ n := by
  by_cases hsmall : n < 256
  · have hall : ∀ n < 256, 0x43480000 < binary32.round n 1 ↔ 201 ≤ n := by
      decide +kernel
    exact hall n hsmall
  · have hn : (2 : ℚ) ^ (8 : ℤ) ≤ (n : ℚ) / (1 : Nat) := by
      rw [Nat.cast_one, div_one]
      exact_mod_cast Nat.le_of_not_lt hsmall
    have hunit : binary32.unit = 2 ^ 23 := rfl
    have hnormal : binary32.unit * (2 : ℚ) ^ (-(binary32.least : ℤ)) ≤
        (n : ℚ) / (1 : Nat) :=
      le_trans (by rw [hunit]; norm_num [binary32]) hn
    obtain ⟨m, q, hlow, hhigh, hq, hnear, hround⟩ :=
      binary32.round_normal (by omega : 0 < n) one_pos hnormal
    -- a significand of 24 bits reaches a number of nine bits only if its last
    -- bit is not too small
    have hexp : (8 : ℤ) < 24 + q := by
      have hm : (m : ℚ) + 1 ≤ 2 ^ (24 : ℤ) := by exact_mod_cast hhigh
      have hpos : (0 : ℚ) < 2 ^ q := by positivity
      rw [← zpow_lt_zpow_iff_right₀ (one_lt_two (α := ℚ)), zpow_add₀ two_ne_zero]
      have hclose := (abs_le.mp hnear).2
      nlinarith
    have hleast : (binary32.least : ℤ) = 149 := rfl
    have hinf : binary32.infinity = 0x7F800000 := rfl
    rw [hround, hunit, hinf]
    rw [hunit] at hlow
    omega

/-- An integer adjustment is wide from `-201` down. -/
theorem isGap_float32OfInt (i : Int) :
    isGap (float32OfInt i) = true ↔ i ≤ -201 := by
  have hthreshold : Shows spaceThreshold .positive 0x43480000 :=
    .of_toBits (by decide) (by decide +kernel)
  have hx := (shows_float32OfInt i).neg
  rw [isGap, decide_eq_true_eq]
  by_cases hneg : i < 0
  · rw [if_pos hneg] at hx
    rw [gt_iff_lt, hthreshold.lt_iff hx, threshold_lt_round_iff]
    omega
  · rw [if_neg hneg] at hx
    exact iff_of_false (hthreshold.not_lt hx) (by omega)

/-- An item that moves what follows it so far away that the gap is wide. -/
def Operand.OpensGap : Operand → Prop
  | .integer i => i ≤ -201
  | .real x => -x > 200.0
  | _ => False

instance (item : Operand) : Decidable item.OpensGap :=
  match item with
  | .integer i => inferInstanceAs (Decidable (i ≤ -201))
  | .real x => inferInstanceAs (Decidable (-x > 200.0))
  | .name _ | .string _ | .array _ | .other => inferInstanceAs (Decidable False)

/-- A text after which a wide gap is shown: its last character is neither a
space nor of a script without spaces. -/
def EndsOpen (text : String) : Prop :=
  ∃ c, text.toList.getLast? = some c ∧ c ≠ ' ' ∧ c ≠ '\u00a0' ∧
    isSpacelessScript c = false

theorem takesSpace_iff (text : String) :
    takesSpace text = true ↔ EndsOpen text := by
  unfold takesSpace EndsOpen
  cases text.toList.getLast? with
  | none => simp
  | some c => simp [and_assoc]

instance (text : String) : Decidable (EndsOpen text) :=
  decidable_of_iff _ (takesSpace_iff text)

theorem EndsOpen.ne_empty {text : String} (h : EndsOpen text) : text ≠ "" := by
  rintro rfl
  obtain ⟨c, hc, -⟩ := h
  cases hc

/-- A text that ends with a space takes no other. -/
theorem not_endsOpen_space (text : String) : ¬ EndsOpen (text ++ " ") := by
  rintro ⟨c, hc, hspace, -⟩
  rw [String.toList_append] at hc
  simp only [String.reduceToList, List.getLast?_concat, Option.some.injEq] at hc
  exact hspace hc.symm

/-! ## Gaps -/

/-- Whether an item is a string. -/
def Operand.isString : Operand → Bool
  | .string _ => true
  | _ => false

/-- An item that is no string adds a space or nothing. -/
theorem joinItem_eq (decode : Bytes → String) (text : String) {item : Operand}
    (h : item.isString = false) :
    joinItem decode text item = if item.OpensGap ∧ EndsOpen text
      then text ++ " " else text := by
  cases item with
  | integer i =>
    exact if_congr (by rw [Bool.and_eq_true, isGap_float32OfInt, takesSpace_iff,
      Operand.OpensGap]) rfl rfl
  | real x =>
      have hgap : isGap x = true ↔ -x > 200.0 := decide_eq_true_iff
      exact if_congr (by rw [Bool.and_eq_true, hgap, takesSpace_iff,
        Operand.OpensGap]) rfl rfl
  | string bytes => cases h
  | name bytes => exact (if_neg And.left).symm
  | array items => exact (if_neg And.left).symm
  | other => exact (if_neg And.left).symm

/-- **One gap.**  However many wide adjustments there are between two strings,
they add one space at most. -/
theorem foldl_joinItem_gap (decode : Bytes → String) (text : String)
    {gap : List Operand} (h : ∀ item ∈ gap, item.isString = false) :
    gap.foldl (joinItem decode) text =
      if (∃ item ∈ gap, item.OpensGap) ∧ EndsOpen text then text ++ " "
        else text := by
  induction gap generalizing text with
  | nil => simp
  | cons item gap ih =>
      obtain ⟨hitem, hgap⟩ := List.forall_mem_cons.mp h
      rw [List.foldl_cons, joinItem_eq decode text hitem]
      by_cases hadds : item.OpensGap ∧ EndsOpen text
      · -- this space keeps the rest of the gap from adding another
        rw [if_pos hadds, ih _ hgap,
          if_neg (not_and_of_not_right _ (not_endsOpen_space text)),
          if_pos ⟨⟨item, List.mem_cons_self, hadds.1⟩, hadds.2⟩]
      · rw [if_neg hadds, ih _ hgap]
        refine if_congr ?_ rfl rfl
        rw [List.exists_mem_cons_iff]
        tauto

/-! ## Pieces -/

/-- A string of an array, with the items between it and the next string. -/
structure Piece where
  bytes : Bytes
  gap : List Operand

/-- The items of a piece. -/
def Piece.items (piece : Piece) : List Operand := .string piece.bytes :: piece.gap

/-- The texts of strings, with a space after each that is marked. -/
def spacedText (decode : Bytes → String) (pieces : List (Piece × Bool)) : String :=
  String.join (pieces.map fun piece => decode piece.1.bytes ++ if piece.2
    then " " else "")

theorem spacedText_cons (decode : Bytes → String) (piece : Piece × Bool)
    (pieces : List (Piece × Bool)) :
    spacedText decode (piece :: pieces) =
      decode piece.1.bytes ++ (if piece.2 then " "
        else "") ++ spacedText decode pieces := by
  rw [spacedText, List.map_cons, String.join_cons]
  rfl

theorem spacedText_append (decode : Bytes → String)
    (pieces more : List (Piece × Bool)) :
    spacedText decode (pieces ++ more) =
      spacedText decode pieces ++ spacedText decode more := by
  rw [spacedText, List.map_append, String.join_append]
  rfl

/-- Every array is some items that are no strings, and then pieces. -/
theorem exists_pieces (items : List Operand) :
    ∃ (lead : List Operand) (pieces : List Piece),
      items = lead ++ pieces.flatMap (·.items) ∧
      (∀ item ∈ lead, item.isString = false) ∧
      ∀ piece ∈ pieces, ∀ item ∈ piece.gap, item.isString = false := by
  induction items with
  | nil => exact ⟨[], [], rfl, by simp, by simp⟩
  | cons item rest ih =>
      obtain ⟨lead, pieces, rfl, hlead, hpieces⟩ := ih
      cases hitem : item.isString with
      | false =>
        exact ⟨item :: lead, pieces, rfl,
          List.forall_mem_cons.mpr ⟨hitem, hlead⟩, hpieces⟩
      | true =>
          cases item with
          | string bytes =>
            exact ⟨[], ⟨bytes, lead⟩ :: pieces, by simp [Piece.items], by simp,
              List.forall_mem_cons.mpr ⟨hlead, hpieces⟩⟩
          | _ => cases hitem

/-- The marks of pieces say, after a given text, which gaps are shown as a
space. -/
def Spaced (decode : Bytes → String) (text : String)
    (pieces : List (Piece × Bool)) : Prop :=
  ∀ before piece spaced after, pieces = before ++ (piece, spaced) :: after →
    (spaced = true ↔ (∃ item ∈ piece.gap, item.OpensGap) ∧
      EndsOpen (text ++ spacedText decode before ++ decode piece.bytes))

/-- **All gaps.**  The fold goes from piece to piece. -/
theorem exists_spacing (decode : Bytes → String) (text : String)
    {pieces : List Piece}
    (h : ∀ piece ∈ pieces, ∀ item ∈ piece.gap, item.isString = false) :
    ∃ marked : List (Piece × Bool), marked.map Prod.fst = pieces ∧
      Spaced decode text marked ∧
      (pieces.flatMap (·.items)).foldl (joinItem decode) text =
        text ++ spacedText decode marked := by
  induction pieces generalizing text with
  | nil => exact ⟨[], rfl, by simp [Spaced], by simp [spacedText]⟩
  | cons piece pieces ih =>
      obtain ⟨hpiece, hpieces⟩ := List.forall_mem_cons.mp h
      obtain ⟨spaced, hspaced⟩ : ∃ spaced : Bool, spaced = true ↔
          (∃ item ∈ piece.gap, item.OpensGap) ∧
          EndsOpen (text ++ decode piece.bytes) :=
        ⟨decide _, decide_eq_true_iff⟩
      have hgap : piece.items.foldl (joinItem decode) text =
          text ++ (decode piece.bytes ++ if spaced then " " else "") := by
        rw [Piece.items, List.foldl_cons, joinItem,
          foldl_joinItem_gap decode _ hpiece]
        cases spaced with
        | true => rw [if_pos (hspaced.mp rfl), if_pos rfl, String.append_assoc]
        | false =>
          rw [if_neg fun hboth => Bool.false_ne_true (hspaced.mpr hboth),
            if_neg Bool.false_ne_true, String.append_empty]
      obtain ⟨marked, hmap, hmarks, hfold⟩ :=
        ih (text ++ (decode piece.bytes ++ if spaced then " " else "")) hpieces
      refine ⟨(piece, spaced) :: marked, by rw [List.map_cons, hmap], ?_, ?_⟩
      · intro before other mark after hsplit
        cases before with
        | nil =>
            obtain ⟨hhead, -⟩ := List.cons.inj hsplit
            obtain ⟨rfl, rfl⟩ := Prod.mk.inj hhead
            rw [hspaced]
            simp [spacedText]
        | cons first before =>
            obtain ⟨rfl, htail⟩ := List.cons.inj hsplit
            have hjoin : text ++ (decode piece.bytes ++ if spaced then " "
              else "") ++ spacedText decode before =
                text ++ spacedText decode ((piece, spaced) :: before) := by
              rw [spacedText_cons, String.append_assoc]
            rw [← hjoin]
            exact hmarks before other mark after htail
      · rw [List.flatMap_cons, List.foldl_append, hgap, hfold, spacedText_cons,
          String.append_assoc]

/-- Between two spaces that are added there is text. -/
theorem Spaced.apart {decode : Bytes → String} {text : String}
    {before between after : List (Piece × Bool)} {first second : Piece}
    (h : Spaced decode text (before ++ (first, true) ::
      (between ++ (second, true) :: after))) :
    spacedText decode between ++ decode second.bytes ≠ "" := by
  intro hempty
  obtain ⟨-, hopen⟩ :=
    (h (before ++ (first, true) :: between) second true after (by simp)).mp rfl
  refine not_endsOpen_space
    (text ++ (spacedText decode before ++ decode first.bytes)) ?_
  have hjoin : text ++ spacedText decode (before ++ (first, true) :: between) ++
      decode second.bytes =
      text ++ (spacedText decode before ++ decode first.bytes) ++ " " ++
        (spacedText decode between ++ decode second.bytes) := by
    rw [spacedText_append, spacedText_cons, if_pos rfl]
    simp only [String.append_assoc]
  rwa [hjoin, hempty, String.append_empty] at hopen

/-- Items that are neither strings nor numbers change nothing. -/
theorem joinItems_filter (decode : Bytes → String) (items : List Operand) :
    joinItems decode (items.filter fun item => item.isString ||
      item.number?.isSome) = joinItems decode items := by
  unfold joinItems
  generalize "" = text
  induction items generalizing text with
  | nil => rfl
  | cons item rest ih =>
      cases item with
      | integer i => exact ih _
      | real x => exact ih _
      | string bytes => exact ih _
      | name bytes => exact ih _
      | array items => exact ih _
      | other => exact ih _

/-- **The text of an array has one space in each wide gap.**  The array is cut
into pieces, each a string and the items that follow it up to the next.  Its
text is that of the strings, in order, with a space after a string exactly if an
item of its gap opens it and the text so far is not empty and ends neither with
a space nor in a script without spaces.  So the text does not begin with an
added space, between two added spaces there is text, and items that are neither
strings nor numbers change nothing. -/
theorem joinItems_spaces_gaps (decode : Bytes → Bytes → String) (key : Bytes)
    (items : List Operand) :
    (∃ (lead : List Operand) (pieces : List (Piece × Bool)),
      items = lead ++ pieces.flatMap (·.1.items) ∧
      (∀ item ∈ lead, item.isString = false) ∧
      (∀ piece ∈ pieces, ∀ item ∈ piece.1.gap, item.isString = false) ∧
      joinItems (decode key) items = spacedText (decode key) pieces ∧
      (∀ before piece spaced after, pieces = before ++ (piece, spaced) :: after →
        (spaced = true ↔ (∃ item ∈ piece.gap, item.OpensGap) ∧
          EndsOpen (spacedText (decode key) before ++ decode key piece.bytes))) ∧
      (∀ before piece after, pieces = before ++ (piece, true) :: after →
        spacedText (decode key) before ++ decode key piece.bytes ≠ "") ∧
      ∀ before first between second after,
        pieces = before ++ (first, true) :: (between ++ (second, true) :: after) →
        spacedText (decode key) between ++ decode key second.bytes ≠ "") ∧
    joinItems (decode key) (items.filter fun item => item.isString ||
      item.number?.isSome) = joinItems (decode key) items := by
  refine ⟨?_, joinItems_filter (decode key) items⟩
  obtain ⟨lead, pieces, rfl, hlead, hpieces⟩ := exists_pieces items
  obtain ⟨marked, rfl, hmarks, hfold⟩ := exists_spacing (decode key) "" hpieces
  have hstart : lead.foldl (joinItem (decode key)) "" = "" := by
    rw [foldl_joinItem_gap (decode key) "" hlead]
    exact if_neg fun hboth => hboth.2.ne_empty rfl
  have hmarked : ∀ before piece spaced after,
      marked = before ++ (piece, spaced) :: after →
      (spaced = true ↔ (∃ item ∈ piece.gap, item.OpensGap) ∧
        EndsOpen (spacedText (decode key) before ++ decode key piece.bytes)) := by
    simpa only [Spaced, String.empty_append] using hmarks
  refine ⟨lead, marked, by rw [List.flatMap_map], hlead, ?_, ?_, hmarked, ?_, ?_⟩
  · intro piece hpiece
    exact hpieces piece.1 (List.mem_map_of_mem hpiece)
  · rw [joinItems, List.foldl_append, hstart, hfold, String.empty_append]
  · intro before piece after hsplit
    exact ((hmarked before piece true after hsplit).mp rfl).2.ne_empty
  · rintro before first between second after rfl
    exact hmarks.apart

-- an adjustment before the first string, two in one gap, one on each side of an
-- empty string, a narrow one, and one at the end
example : joinItems Text.decodeUtf8Lossy
    [.integer (-900), .string [65], .integer (-250), .real (-300), .string [],
      .integer (-201), .string [66], .integer (-200), .string [67],
      .integer (-9223372036854775808)] = "A BC " := by
  decide +kernel

end Prospectus.Pdf
