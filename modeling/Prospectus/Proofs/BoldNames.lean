import Mathlib
import Prospectus.Bold
import Prospectus.Proofs.ContentsLocation

/-!
# Bold by name

The name of a font is brought to lower case as a whole before it is searched.
That is not done letter by letter: one character may become several, and a
capital sigma looks at its neighbours.  A search for ASCII letters does not see
this.  An ASCII letter changes as it does by itself, and no other character
becomes an ASCII one, two apart: the sign for kelvin becomes a k, and a capital
I with a dot above an i and a dot.  So, as long as neither of the two letters is
searched for (`Steady`), a text in lower case has what is searched for exactly
if the text with its ASCII letters in lower case has it
(`contains_lowercase_iff`).

`Lowered` says what lower case keeps for such a search, character by character;
the tables are read once (`blocks_spec`), and the search goes along it
(`Lowered.isPrefix_iff`, `Lowered.isInfix_iff`).
-/

namespace Prospectus

namespace Text.Lowercase

/-- An ASCII character that no character beyond ASCII has in its lower-case
form. -/
def Steady (c : Char) : Prop := c.toNat < 0x80 ∧ c ≠ 'i' ∧ c ≠ 'k'

theorem not_steady_of_le {c : Char} (h : 0x80 ≤ c.toNat) : ¬ Steady c := by
  intro hsteady
  exact absurd hsteady.1 (Nat.not_lt.mpr h)

/-- What lower case keeps: each character is lowered as in ASCII, or becomes
characters that are not steady and is not lowered to a steady one in ASCII
either. -/
inductive Lowered : List Char → List Char → Prop
  | nil : Lowered [] []
  | ascii {cs out : List Char} (c : Char) : Lowered cs out →
      Lowered (c :: cs) (c.toLower :: out)
  | other {cs out image : List Char} {c : Char} : ¬ Steady c.toLower →
      image ≠ [] → (∀ d ∈ image, ¬ Steady d) →
      Lowered cs out → Lowered (c :: cs) (image ++ out)

/-! ## Characters -/

/-- A block holds ASCII capitals, or it starts beyond ASCII; then it leads to
code points beyond it, or to k. -/
theorem blocks_spec : ∀ b ∈ blocks, 0x41 ≤ b.first ∧ b.last ≤ 0x5A ∨
    0x80 ≤ b.first ∧ (b.last = b.first ∧ b.image = 0x6B ∨ 0x80 ≤ b.image ∧
      (b.image + (b.last - b.first) < 0xD800 ∨ 0xDFFF < b.image ∧
        b.image + (b.last - b.first) < 0x110000)) := by
  decide +kernel

theorem Block.image?_eq_some {b : Block} {n m : Nat} (h : b.image? n = some m) :
    b.first ≤ n ∧ n ≤ b.last ∧ m = b.image + (n - b.first) := by
  unfold Block.image? at h
  split at h
  case isTrue hcovers => exact ⟨hcovers.1, hcovers.2.1, (Option.some.inj h).symm⟩
  case isFalse => cases h

theorem isUpper_iff (c : Char) :
    c.isUpper = true ↔ 0x41 ≤ c.toNat ∧ c.toNat ≤ 0x5A := by
  simp [Char.isUpper, UInt32.le_iff_toNat_le]

/-- ASCII characters are lowered as in ASCII. -/
theorem ofChar_ascii {c : Char} (h : c.toNat < 0x80) : ofChar c = [c.toLower] := by
  have hdotted : c ≠ '\u0130' := by
    rintro rfl
    exact absurd h (by decide)
  rw [ofChar, if_neg hdotted]
  by_cases hupper : c.isUpper = true
  · have hrange := (isUpper_iff c).mp hupper
    have hfind : blocks.findSome? (·.image? c.toNat) = some (c.toNat + 32) := by
      refine List.findSome?_eq_some_iff.mpr
        ⟨[], ⟨0x41, 0x5A, 1, 0x61⟩, blocks.tail, rfl, ?_, by simp⟩
      rw [Block.image?, if_pos ⟨hrange.1, hrange.2, Nat.mod_one _⟩]
      change some (0x61 + (c.toNat - 0x41)) = _
      exact congrArg some (by omega)
    rw [hfind, Char.toLower_eq_of_isUpper hupper]
  · have hrange := mt (isUpper_iff c).mpr hupper
    have hfind : blocks.findSome? (·.image? c.toNat) = none := by
      refine List.findSome?_eq_none_iff.mpr fun b hb =>
        Option.eq_none_iff_forall_ne_some.mpr fun m hm => ?_
      have hcovers := Block.image?_eq_some hm
      have hblock := blocks_spec b hb
      omega
    rw [hfind, Char.toLower_eq_of_not_isUpper hupper]

/-- No other character becomes a steady one. -/
theorem ofChar_other {c : Char} (h : 0x80 ≤ c.toNat) :
    ofChar c ≠ [] ∧ ∀ d ∈ ofChar c, ¬ Steady d := by
  unfold ofChar
  split
  case isTrue hdotted =>
    refine ⟨List.cons_ne_nil _ _,
      List.forall_mem_cons.mpr ⟨?_, List.forall_mem_singleton.mpr ?_⟩⟩
    · exact fun hsteady => hsteady.2.1 rfl
    · exact not_steady_of_le (by decide)
  case isFalse hdotted =>
    cases hfind : blocks.findSome? (·.image? c.toNat) with
    | none =>
      exact ⟨List.cons_ne_nil _ _,
        List.forall_mem_singleton.mpr (not_steady_of_le h)⟩
    | some m =>
        refine ⟨List.cons_ne_nil _ _, List.forall_mem_singleton.mpr ?_⟩
        obtain ⟨b, hb, hm⟩ := List.exists_of_findSome?_eq_some hfind
        have hcovers := Block.image?_eq_some hm
        rintro ⟨hascii, -, hk⟩
        rcases blocks_spec b hb with hletters |
          ⟨hfirst, ⟨hone, himage⟩ | ⟨himage, hvalid⟩⟩
        · omega
        · have hletter : m = 0x6B := by omega
          exact hk (congrArg Char.ofNat hletter)
        · rw [Char.toNat_ofNat, if_pos (by unfold Nat.isValidChar; omega)] at hascii
          omega

/-! ## Texts -/

/-- Bringing a text to lower case keeps what `Lowered` says, whatever stands
before it. -/
theorem lowered_after (before cs : List Char) : Lowered cs (after before cs) := by
  induction cs generalizing before with
  | nil => exact .nil
  | cons c rest ih =>
      by_cases hascii : c.toNat < 0x80
      · have hsigma : c ≠ '\u03a3' := by
          rintro rfl
          exact absurd hascii (by decide)
        rw [after, if_neg hsigma, ofChar_ascii hascii]
        exact .ascii c (ih _)
      · have hbeyond : 0x80 ≤ c.toNat := Nat.le_of_not_lt hascii
        have hlower : c.toLower = c := by
          refine Char.toLower_eq_of_not_isUpper fun hupper => ?_
          have hrange := (isUpper_iff c).mp hupper
          omega
        have hsteady : ¬ Steady c.toLower := by
          rw [hlower]
          exact not_steady_of_le hbeyond
        rw [after]
        split
        case isTrue =>
          -- a sigma becomes one of two characters, and neither is ASCII
          refine .other hsteady ?_ ?_ (ih _)
          · split <;> exact List.cons_ne_nil _ _
          · split <;> exact List.forall_mem_singleton.mpr
              (not_steady_of_le (by decide))
        case isFalse =>
          obtain ⟨hne, himage⟩ := ofChar_other hbeyond
          exact .other hsteady hne himage (ih _)

namespace Lowered

variable {cs out needle : List Char}

/-- A search at one place. -/
theorem isPrefix_iff (h : Lowered cs out) (hneedle : ∀ c ∈ needle, Steady c) :
    needle <+: out ↔ needle <+: cs.map Char.toLower := by
  induction h generalizing needle with
  | nil => simp
  | ascii c _ ih =>
      cases needle with
      | nil => simp
      | cons t rest =>
          rw [List.map_cons, List.cons_prefix_cons, List.cons_prefix_cons,
            ih (List.forall_mem_cons.mp hneedle).2]
  | @other _ _ image c hc hne himage _ ih =>
      cases needle with
      | nil => simp
      | cons t rest =>
          have ht := (List.forall_mem_cons.mp hneedle).1
          obtain ⟨d, image, rfl⟩ := List.exists_cons_of_ne_nil hne
          rw [List.map_cons, List.cons_append, List.cons_prefix_cons,
            List.cons_prefix_cons]
          refine iff_of_false ?_ ?_
          · rintro ⟨rfl, -⟩
            exact himage t List.mem_cons_self ht
          · rintro ⟨rfl, -⟩
            exact hc ht

/-- What starts with a steady character is not found among others. -/
theorem isInfix_append_iff {image : List Char} {t : Char} {rest : List Char}
    (ht : Steady t) (himage : ∀ d ∈ image, ¬ Steady d) :
    t :: rest <:+: image ++ out ↔ t :: rest <:+: out := by
  induction image with
  | nil => rfl
  | cons d image ih =>
      obtain ⟨hd, hrest⟩ := List.forall_mem_cons.mp himage
      rw [List.cons_append, List.infix_cons_iff, ih hrest, List.cons_prefix_cons]
      refine or_iff_right ?_
      rintro ⟨rfl, -⟩
      exact hd ht

/-- **A search for steady characters** finds the same in both. -/
theorem isInfix_iff (h : Lowered cs out) (hneedle : ∀ c ∈ needle, Steady c) :
    needle <:+: out ↔ needle <:+: cs.map Char.toLower := by
  induction h with
  | nil => rfl
  | ascii c hrest ih =>
      rw [List.map_cons, List.infix_cons_iff, List.infix_cons_iff, ih,
        ← List.map_cons, (Lowered.ascii c hrest).isPrefix_iff hneedle]
  | other hc hne himage hrest ih =>
      cases needle with
      | nil => simp
      | cons t rest =>
          have ht := (List.forall_mem_cons.mp hneedle).1
          rw [isInfix_append_iff ht himage, ih, List.map_cons,
            List.infix_cons_iff, List.cons_prefix_cons]
          refine (or_iff_right ?_).symm
          rintro ⟨rfl, -⟩
          exact hc ht

end Lowered

end Text.Lowercase

/-- Searching a text in lower case for steady characters is searching it with
its ASCII letters in lower case. -/
theorem Text.contains_lowercase_iff (text needle : String)
    (h : ∀ c ∈ needle.toList, Text.Lowercase.Steady c) :
    Text.contains (Text.lowercase text) needle = true ↔
    needle.toList <:+: text.toList.map Char.toLower := by
  rw [Text.contains_iff, Text.lowercase, String.toList_ofList]
  exact (Text.Lowercase.lowered_after [] text.toList).isInfix_iff h

namespace Classifier

/-- A name in which the letters of "bold" stand side by side, each in either
case. -/
def NamesBold (font : String) : Prop :=
  ∃ word : List Char, word <:+: font.toList ∧
    word.map Char.toLower = ['b', 'o', 'l', 'd']

theorem contains_bold_iff (font : String) :
    Text.contains (Text.lowercase font) "bold" = true ↔ NamesBold font := by
  have hsteady : ∀ c ∈ "bold".toList, Text.Lowercase.Steady c := by
    have hletters : "bold".toList = ['b', 'o', 'l', 'd'] := rfl
    simp [hletters, Text.Lowercase.Steady]
  rw [Text.contains_lowercase_iff font "bold" hsteady, List.infix_map_iff]
  exact exists_congr fun word => and_congr_right fun _ => eq_comm

/-- More text before and after a name takes no letters away. -/
theorem NamesBold.extend {font : String} (h : NamesBold font)
    (front back : String) :
    NamesBold (front ++ font ++ back) := by
  obtain ⟨word, hword, hletters⟩ := h
  refine ⟨word, ?_, hletters⟩
  rw [String.toList_append, String.toList_append]
  exact hword.trans (List.infix_append _ _ _)

/-- **Bold by name or by weight.**  A font is bold exactly if the letters of
"bold" stand side by side in its name, each in either case of ASCII, or if it
has a weight that reaches the threshold.  So a bold font stays bold when its
name is extended at either end. -/
theorem byStyle_searches_letters (threshold : Float32) (font : String)
    (weight : Option Float32) :
    ((byStyle threshold).isBold font weight = true ↔
      NamesBold font ∨ ∃ w, weight = some w ∧ w ≥ threshold) ∧
      ∀ front back : String, (byStyle threshold).isBold font weight = true →
        (byStyle threshold).isBold (front ++ font ++ back) weight = true := by
  have hiff (name : String) : (byStyle threshold).isBold name weight = true ↔
      NamesBold name ∨ ∃ w, weight = some w ∧ w ≥ threshold := by
    rw [← contains_bold_iff]
    cases weight with
    | none => simp [byStyle]
    | some w => simp [byStyle]
  refine ⟨hiff font, ?_⟩
  intro front back hbold
  rw [hiff] at hbold ⊢
  exact hbold.imp_left fun hname => hname.extend front back

/-- A name with a sigma before the four letters, and after them a dotted capital
and the sign for kelvin, is extended by a tag that ends in a sigma and by
another sigma. -/
theorem greekName_stays_bold :
    (byStyle 600.0).isBold "ΟΔΟΣ-BoLD\u0130\u212a" none = true ∧
      (byStyle 600.0).isBold ("ABCDEF+Σ" ++ "ΟΔΟΣ-BoLD\u0130\u212a" ++ "Σ")
        none = true := by
  have hname : NamesBold "ΟΔΟΣ-BoLD\u0130\u212a" :=
    ⟨"BoLD".toList, ⟨"ΟΔΟΣ-".toList, "\u0130\u212a".toList, by decide⟩, by decide⟩
  have hbold := (byStyle_searches_letters 600.0 _ none).1.mpr (.inl hname)
  exact ⟨hbold, (byStyle_searches_letters 600.0 _ none).2 _ _ hbold⟩

end Classifier

end Prospectus
