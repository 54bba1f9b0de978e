import Prospectus.Json.Reader

/-!
# The grammar of JSON

`Writes` says how values are written, without a reader: a value has one form for
each of its kinds, an element is a value with blanks around it, and arrays and
objects hold elements and fields with commas between them.  A string is spelled
piece by piece (`Spells`), and a number has a sign, digits, a fraction and an
exponent (`WritesNumber`).

The reader accepts exactly what the grammar writes (`read?_eq_some_iff`).  One
half is by induction on the fuel, because each step of the reader gives back
what it has not read.  The other is by induction on the way in which a text is
written, with fuel for each of its characters (`Reads`); there a number needs to
know where it ends (`Closed`), which blanks, commas and closing brackets tell
it.
-/

namespace Prospectus.Json

/-! ## Blanks -/

/-- Blanks between the parts of a text. -/
def Spaces (cs : List Char) : Prop := ∀ c ∈ cs, isSpace c

theorem Spaces.nil : Spaces [] := List.forall_mem_nil _

theorem dropWhile_eq_self {p : Char → Bool} {cs : List Char}
    (hcs : ∀ c ∈ cs.head?, p c = false) :
    cs.dropWhile p = cs := by
  cases cs with
  | nil => rfl
  | cons c cs => exact List.dropWhile_cons_of_neg (by rw [hcs c rfl]; decide)

theorem skipSpace_cons {c : Char} (hc : isSpace c = false) (cs : List Char) :
    skipSpace (c :: cs) = c :: cs :=
  dropWhile_eq_self (by rintro _ ⟨⟩; exact hc)

theorem skipSpace_append {gap : List Char} (hgap : Spaces gap) (cs : List Char) :
    skipSpace (gap ++ cs) = skipSpace cs :=
  List.dropWhile_append_of_pos hgap

/-- Blanks are passed over up to the first other character. -/
theorem skipSpace_gap {gap : List Char} (hgap : Spaces gap) {c : Char}
    (hc : isSpace c = false) (cs : List Char) :
    skipSpace (gap ++ c :: cs) = c :: cs := by
  rw [skipSpace_append hgap, skipSpace_cons hc]

/-- What is passed over are blanks. -/
theorem exists_gap (cs : List Char) :
    ∃ gap, Spaces gap ∧ cs = gap ++ skipSpace cs := by
  refine ⟨cs.takeWhile isSpace, List.all_eq_true.mp List.all_takeWhile, ?_⟩
  exact List.takeWhile_append_dropWhile.symm

/-! ## Strings -/

/-- The ways to write a piece of a string. -/
inductive Spells : List Char → Piece → Prop
  | plain {c : Char} (hquote : c ≠ '"') (hbackslash : c ≠ '\\')
      (hplain : ¬c.toNat < 0x20) : Spells [c] (.inl c)
  | letter {letter c : Char}
      (hc : escapeOf? letter = some c) : Spells ['\\', letter] (.inl c)
  | unit {a b c d : Char} {u : UInt16}
      (hu : hexUnit? a b c d = some u) : Spells ['\\', 'u', a, b, c, d] (.inr u)

/-- Pieces written one after the other. -/
inductive SpellsAll : List Char → List Piece → Prop
  | nil : SpellsAll [] []
  | cons {cs rest : List Char} {piece : Piece} {pieces : List Piece}
      (hfirst : Spells cs piece)
      (tail : SpellsAll rest pieces) : SpellsAll (cs ++ rest) (piece :: pieces)

/-- What is read as pieces is a way to write them, up to the closing quote. -/
theorem spellsAll_of_readPieces {cs rest : List Char} {pieces : List Piece}
    (h : readPieces cs = some (pieces, rest)) :
    ∃ text, cs = text ++ '"' :: rest ∧ SpellsAll text pieces := by
  fun_induction readPieces cs generalizing pieces rest with
  | case1 => cases h
  | case2 tail =>
      cases h
      exact ⟨[], rfl, .nil⟩
  | case3 a b c d tail ih =>
      simp only [Option.bind_eq_bind, Option.bind_eq_some_iff] at h
      obtain ⟨u, hu, ⟨others, left⟩, hothers, hrest⟩ := h
      cases hrest
      obtain ⟨text, rfl, htext⟩ := ih hothers
      exact ⟨_, rfl, .cons (.unit hu) htext⟩
  | case4 c tail hunit ih =>
      simp only [Option.bind_eq_bind, Option.bind_eq_some_iff] at h
      obtain ⟨char, hchar, ⟨others, left⟩, hothers, hrest⟩ := h
      cases hrest
      obtain ⟨text, rfl, htext⟩ := ih hothers
      exact ⟨_, rfl, .cons (.letter hchar) htext⟩
  | case5 => cases h
  | case6 c tail hquote hunit hletter hplain ih =>
      obtain ⟨⟨others, left⟩, hothers, hrest⟩ := Option.map_eq_some_iff.mp h
      cases hrest
      obtain ⟨text, rfl, htext⟩ := ih hothers
      have hbackslash : c ≠ '\\' := by
        intro hc
        obtain ⟨next, others, hnext⟩ :=
          List.exists_cons_of_ne_nil (by simp : text ++ '"' :: rest ≠ [])
        exact hletter next others hc hnext
      exact ⟨_, rfl, .cons (.plain hquote hbackslash hplain) htext⟩

/-- A letter after a backslash is read as what it stands for. -/
theorem readPieces_letter {letter c : Char} (hc : escapeOf? letter = some c)
    (rest : List Char) :
    readPieces ('\\' :: letter :: rest) =
      (readPieces rest).map fun (pieces, rest) => (.inl c :: pieces, rest) := by
  rw [readPieces]
  · rw [hc]
    cases readPieces rest <;> rfl
  · rintro _ _ _ _ _ rfl
    cases hc

/-- A plain character is read as itself. -/
theorem readPieces_plain {c : Char} (hquote : c ≠ '"') (hbackslash : c ≠ '\\')
    (hplain : ¬c.toNat < 0x20) (rest : List Char) :
    readPieces (c :: rest) = (readPieces rest).map fun (pieces, rest) =>
      (.inl c :: pieces, rest) := by
  rw [readPieces]
  · rw [if_neg hplain]
  all_goals simp_all

/-- A written piece is read as it is, whatever follows. -/
theorem Spells.readPieces_eq {cs : List Char} {piece : Piece}
    (h : Spells cs piece) (rest : List Char) :
    readPieces (cs ++ rest) = (readPieces rest).map fun (pieces, rest) =>
      (piece :: pieces, rest) := by
  cases h with
  | plain hquote hbackslash hplain =>
    exact readPieces_plain hquote hbackslash hplain rest
  | letter hc => exact readPieces_letter hc rest
  | unit hu =>
      simp only [List.cons_append, List.nil_append]
      rw [readPieces, hu]
      cases readPieces rest <;> rfl

/-- Written pieces are read up to the closing quote. -/
theorem SpellsAll.readPieces_eq {cs : List Char} {pieces : List Piece}
    (h : SpellsAll cs pieces) (rest : List Char) :
    readPieces (cs ++ '"' :: rest) = some (pieces, rest) := by
  induction h with
  | nil => rw [List.nil_append, readPieces]
  | cons hfirst tail ih =>
      rw [List.append_assoc, hfirst.readPieces_eq, ih]
      rfl

/-- The content of a string with the given pieces. -/
def bodyOf (pieces : List Piece) : StringBody :=
  (joinPieces pieces).map String.ofList

theorem readString_eq_some_iff {cs rest : List Char} {body : StringBody} :
    readString cs = some (body, rest) ↔
      ∃ text pieces, cs = text ++ '"' :: rest ∧ SpellsAll text pieces ∧
        body = bodyOf pieces := by
  constructor
  · intro h
    obtain ⟨⟨pieces, left⟩, hread, heq⟩ := Option.map_eq_some_iff.mp h
    cases heq
    obtain ⟨text, htext, hspells⟩ := spellsAll_of_readPieces hread
    exact ⟨text, pieces, htext, hspells, rfl⟩
  · rintro ⟨text, pieces, rfl, hspells, rfl⟩
    rw [readString, hspells.readPieces_eq]
    rfl

end Prospectus.Json

/-! ## Numbers -/

namespace Prospectus.Number.Numeral

/-- A numeral as a number may be written: digits on the places where digits
stand, and no leading zeros. -/
structure WellFormed (n : Numeral) : Prop where
  whole_ne_nil : n.whole ≠ []
  whole_digits : ∀ c ∈ n.whole, c.isDigit
  no_leading_zero : n.whole.head? = some '0' → n.whole.length = 1
  fraction_digits : ∀ c ∈ n.fraction, c.isDigit
  exponent_digits : ∀ e ∈ n.exponent, e.2 ≠ [] ∧ ∀ c ∈ e.2, c.isDigit

end Prospectus.Number.Numeral

namespace Prospectus.Json

open Number

/-- The ways to write an exponent, if there is one: its mark in either case, and
a sign that may be left out unless it is negative. -/
inductive WritesExponent : List Char → Option (Bool × List Char) → Prop
  | absent : WritesExponent [] none
  | written {mark : Char} {sign digits : List Char} {negative : Bool}
      (hmark : mark ∈ ['e', 'E'])
      (hsign : sign ∈ if negative then [['-']] else [[], ['+']]) :
      WritesExponent (mark :: (sign ++ digits)) (some (negative, digits))

/-- The ways to write a number. -/
inductive WritesNumber : List Char → Numeral → Prop
  | mk {n : Numeral} {exponent : List Char} (hn : n.WellFormed)
      (hexponent : WritesExponent exponent n.exponent) :
      WritesNumber ((if n.negative then ['-'] else []) ++
        (n.whole ++ ((if n.fraction.isEmpty then []
          else '.' :: n.fraction) ++ exponent))) n

/-! ### What is read is written -/

theorem readDigits_sound {cs digits rest : List Char}
    (h : readDigits cs = some (digits, rest)) :
    cs = digits ++ rest ∧ digits ≠ [] ∧ ∀ c ∈ digits, c.isDigit := by
  unfold readDigits at h
  dsimp only at h
  split at h
  · cases h
  · rename_i hne
    cases h
    refine ⟨?_, by simpa using hne, List.all_eq_true.mp List.all_takeWhile⟩
    exact (List.prefix_iff_eq_append.mp (List.takeWhile_prefix _)).symm

theorem readWhole_sound {cs digits rest : List Char}
    (h : readWhole cs = some (digits, rest)) :
    cs = digits ++ rest ∧ digits ≠ [] ∧ (∀ c ∈ digits, c.isDigit) ∧
    (digits.head? = some '0' → digits.length = 1) := by
  obtain ⟨⟨found, left⟩, hread, hif⟩ := Option.bind_eq_some_iff.mp h
  dsimp only at hif
  split at hif
  · cases hif
  · rename_i hlead
    cases hif
    obtain ⟨hcs, hne, hdigits⟩ := readDigits_sound hread
    refine ⟨hcs, hne, hdigits, ?_⟩
    intro hzero
    have hlong : ¬1 < digits.length := by simpa [hzero] using hlead
    have hpos := List.length_pos_iff.mpr hne
    omega

theorem readFraction_sound {cs digits rest : List Char}
    (h : readFraction cs = some (digits, rest)) :
    cs = (if digits.isEmpty then [] else '.' :: digits) ++ rest ∧
    ∀ c ∈ digits, c.isDigit := by
  unfold readFraction at h
  split at h
  · obtain ⟨hcs, hne, hdigits⟩ := readDigits_sound h
    rw [if_neg (by simpa using hne), List.cons_append, ← hcs]
    exact ⟨rfl, hdigits⟩
  · cases h
    exact ⟨rfl, List.forall_mem_nil _⟩

theorem splitMinus_sound (cs : List Char) :
    cs = (if (splitMinus cs).1 then ['-'] else []) ++ (splitMinus cs).2 := by
  unfold splitMinus
  split <;> rfl

theorem splitSign_sound (cs : List Char) :
    ∃ sign ∈ if (splitSign cs).1 then [['-']]
      else [[], ['+']], cs = sign ++ (splitSign cs).2 := by
  unfold splitSign
  split
  · exact ⟨['+'], by simp, rfl⟩
  · refine ⟨_, ?_, splitMinus_sound _⟩
    split <;> simp

theorem exists_exponent {mark : Char} {tail digits rest : List Char}
    (hmark : mark ∈ ['e', 'E'])
    (h : readDigits (splitSign tail).2 = some (digits, rest)) :
    ∃ text, mark :: tail = text ++ rest ∧
      WritesExponent text (some ((splitSign tail).1, digits)) ∧
      ∀ d ∈ some ((splitSign tail).1, digits), d.2 ≠ [] ∧ ∀ c ∈ d.2, c.isDigit := by
  obtain ⟨hcs, hdigits⟩ := readDigits_sound h
  obtain ⟨sign, hsign, htail⟩ := splitSign_sound tail
  refine ⟨mark :: (sign ++ digits), ?_, .written hmark hsign,
    by rintro _ ⟨⟩; exact hdigits⟩
  rw [List.cons_append, List.append_assoc, ← hcs, ← htail]

theorem readExponent_sound {cs rest : List Char} {e : Option (Bool × List Char)}
    (h : readExponent cs = some (e, rest)) :
    ∃ text, cs = text ++ rest ∧ WritesExponent text e ∧ ∀ d ∈ e, d.2 ≠ [] ∧
      ∀ c ∈ d.2, c.isDigit := by
  unfold readExponent at h
  split at h
  -- a small mark, a capital one, and none
  · obtain ⟨⟨digits, left⟩, hread, heq⟩ := Option.map_eq_some_iff.mp h
    cases heq
    exact exists_exponent (by simp) hread
  · obtain ⟨⟨digits, left⟩, hread, heq⟩ := Option.map_eq_some_iff.mp h
    cases heq
    exact exists_exponent (by simp) hread
  · cases h
    exact ⟨[], rfl, .absent, by simp⟩

/-- What is read as a number is a way to write it. -/
theorem readNumber_sound {cs rest : List Char} {n : Numeral}
    (h : readNumber cs = some (n, rest)) :
    ∃ text, cs = text ++ rest ∧ WritesNumber text n := by
  unfold readNumber at h
  simp only [Option.bind_eq_bind, Option.bind_eq_some_iff] at h
  obtain ⟨⟨whole, cs₁⟩, hwhole, ⟨fraction, cs₂⟩, hfraction, ⟨exponent, cs₃⟩,
    hexponent, heq⟩ := h
  cases heq
  obtain ⟨hcs, hne, hdigits, hlead⟩ := readWhole_sound hwhole
  obtain ⟨rfl, hdecimals⟩ := readFraction_sound hfraction
  obtain ⟨text, rfl, htext, hpower⟩ := readExponent_sound hexponent
  refine ⟨_, ?_, .mk ⟨hne, hdigits, hlead, hdecimals, hpower⟩ htext⟩
  refine (splitMinus_sound cs).trans ?_
  rw [hcs]
  simp only [List.append_assoc]

/-! ### What is written is read -/

/-- Whether a number ends before a rest: nothing of it could belong to a number. -/
def Closed (rest : List Char) : Prop :=
  ∀ c ∈ rest.head?, ¬c.isDigit ∧ c ≠ '.' ∧ c ≠ 'e' ∧ c ≠ 'E'

theorem takeWhile_digits {digits rest : List Char}
    (hdigits : ∀ c ∈ digits, c.isDigit) (hrest : ∀ c ∈ rest.head?, ¬c.isDigit) :
    (digits ++ rest).takeWhile Char.isDigit = digits := by
  rw [List.takeWhile_append_of_pos hdigits]
  cases rest with
  | nil => rw [List.takeWhile_nil, List.append_nil]
  | cons c rest => rw [List.takeWhile_cons_of_neg (hrest c rfl), List.append_nil]

theorem isDigit_head {digits : List Char} (hne : digits ≠ [])
    (hdigits : ∀ c ∈ digits, c.isDigit) (rest : List Char) :
    ∀ c ∈ (digits ++ rest).head?, c.isDigit := by
  obtain ⟨first, others, rfl⟩ := List.exists_cons_of_ne_nil hne
  rintro c ⟨⟩
  exact hdigits _ List.mem_cons_self

theorem readDigits_append {digits rest : List Char} (hne : digits ≠ [])
    (hdigits : ∀ c ∈ digits, c.isDigit) (hrest : ∀ c ∈ rest.head?, ¬c.isDigit) :
    readDigits (digits ++ rest) = some (digits, rest) := by
  unfold readDigits
  dsimp only
  rw [takeWhile_digits hdigits hrest, List.drop_left, if_neg (by simpa using hne)]

theorem readWhole_append {digits rest : List Char} (hne : digits ≠ [])
    (hdigits : ∀ c ∈ digits, c.isDigit)
    (hlead : digits.head? = some '0' → digits.length = 1)
    (hrest : ∀ c ∈ rest.head?, ¬c.isDigit) :
    readWhole (digits ++ rest) = some (digits, rest) := by
  unfold readWhole
  rw [readDigits_append hne hdigits hrest]
  refine if_neg fun h => ?_
  simp only [Bool.and_eq_true, decide_eq_true_eq] at h
  exact absurd (hlead h.1) (Nat.ne_of_gt h.2)

theorem splitMinus_append {cs : List Char} (negative : Bool)
    (hcs : ∀ c ∈ cs.head?, c.isDigit) :
    splitMinus ((if negative then ['-'] else []) ++ cs) = (negative, cs) := by
  cases negative with
  | true => rfl
  | false =>
    unfold splitMinus
    split
    · rename_i rest h
      have hdash := hcs '-'
      rw [show cs = '-' :: rest from h] at hdash
      exact absurd (hdash rfl) (by decide)
    · rfl

theorem readFraction_append {digits rest : List Char}
    (hdigits : ∀ c ∈ digits, c.isDigit)
    (hrest : ∀ c ∈ rest.head?, ¬c.isDigit ∧ c ≠ '.') :
    readFraction ((if digits.isEmpty then [] else '.' :: digits) ++ rest) =
      some (digits, rest) := by
  by_cases hempty : digits = []
  · subst digits
    rw [List.isEmpty_nil, if_pos rfl, List.nil_append]
    unfold readFraction
    split
    · exact absurd rfl (hrest '.' rfl).2
    · rfl
  · rw [if_neg (by simpa using hempty), List.cons_append, readFraction]
    exact readDigits_append hempty hdigits fun c hc => (hrest c hc).1

theorem readExponent_mark {mark : Char} (hmark : mark ∈ ['e', 'E'])
    (tail : List Char) :
    readExponent (mark :: tail) =
      (readDigits (splitSign tail).2).map fun (digits, rest) =>
      (some ((splitSign tail).1, digits), rest) := by
  rcases List.mem_cons.mp hmark with rfl | hmark
  · rfl
  · obtain rfl := List.mem_singleton.mp hmark
    rfl

theorem splitSign_append {negative : Bool} {sign cs : List Char}
    (hsign : sign ∈ if negative then [['-']] else [[], ['+']])
    (hcs : ∀ c ∈ cs.head?, c.isDigit) :
    splitSign (sign ++ cs) = (negative, cs) := by
  cases negative with
  | true =>
      obtain rfl : sign = ['-'] := by simpa using hsign
      rfl
  | false =>
      have hsign : sign = [] ∨ sign = ['+'] := by simpa using hsign
      rcases hsign with rfl | rfl
      · -- neither sign is a digit
        unfold splitSign
        split
        · rename_i rest h
          have hplus := hcs '+'
          rw [show cs = '+' :: rest from h] at hplus
          exact absurd (hplus rfl) (by decide)
        · exact splitMinus_append false hcs
      · rfl

/-- Neither a digit nor a point comes first in an exponent, or in the rest after
a number. -/
theorem WritesExponent.head?_append {text rest : List Char}
    {e : Option (Bool × List Char)} (h : WritesExponent text e)
    (hrest : Closed rest) : ∀ c ∈ (text ++ rest).head?, ¬c.isDigit ∧ c ≠ '.' := by
  cases h with
  | absent => exact fun c hc => ⟨(hrest c hc).1, (hrest c hc).2.1⟩
  | written hmark hsign =>
      rintro c ⟨⟩
      rcases List.mem_cons.mp hmark with rfl | hmark
      · decide
      · obtain rfl := List.mem_singleton.mp hmark
        decide

/-- A written exponent is read, if nothing of what follows could belong to it. -/
theorem WritesExponent.readExponent_eq {text rest : List Char}
    {e : Option (Bool × List Char)} (h : WritesExponent text e)
    (he : ∀ d ∈ e, d.2 ≠ [] ∧ ∀ c ∈ d.2, c.isDigit) (hrest : Closed rest) :
    readExponent (text ++ rest) = some (e, rest) := by
  cases h with
  | absent =>
      rw [List.nil_append]
      unfold readExponent
      split
      · exact absurd rfl (hrest 'e' rfl).2.2.1
      · exact absurd rfl (hrest 'E' rfl).2.2.2
      · rfl
  | @written mark sign digits negative hmark hsign =>
      obtain ⟨hne, hdigits⟩ : digits ≠ [] ∧ ∀ c ∈ digits, c.isDigit := he _ rfl
      rw [List.cons_append, List.append_assoc, readExponent_mark hmark,
        splitSign_append hsign (isDigit_head hne hdigits rest),
        readDigits_append hne hdigits fun c hc => (hrest c hc).1]
      rfl

/-- A written number is read, if nothing of what follows could belong to it. -/
theorem WritesNumber.readNumber_eq {text rest : List Char} {n : Numeral}
    (h : WritesNumber text n) (hrest : Closed rest) :
    readNumber (text ++ rest) = some (n, rest) := by
  cases h with
  | @mk _ exponent hn hexponent =>
      have htail := hexponent.head?_append hrest
      have hafter : ∀ c ∈ ((if n.fraction.isEmpty then []
        else '.' :: n.fraction) ++ (exponent ++ rest)).head?,
          ¬c.isDigit := by
        intro c hc
        by_cases hempty : n.fraction.isEmpty
        · rw [if_pos hempty] at hc
          exact (htail c hc).1
        · rw [if_neg hempty, List.cons_append, List.head?_cons,
            Option.mem_some_iff] at hc
          subst c
          decide
      simp only [List.append_assoc]
      unfold readNumber
      rw [splitMinus_append n.negative
        (isDigit_head hn.whole_ne_nil hn.whole_digits _)]
      dsimp only
      rw [readWhole_append hn.whole_ne_nil hn.whole_digits hn.no_leading_zero
        hafter, Option.bind_eq_bind, Option.bind_some,
        readFraction_append hn.fraction_digits htail, Option.bind_eq_bind,
        Option.bind_some, hexponent.readExponent_eq hn.exponent_digits hrest]
      rfl

/-! ## Values -/

/-- What a part of a text can be: a value, a value with blanks around it, one or
more of these separated by commas, and one or more fields separated by commas. -/
inductive Phrase where
  | value (v : Value)
  | element (v : Value)
  | elements (vs : List Value)
  | fields (fs : List (StringBody × Value))

/-- The ways to write the name of a field, with its colon. -/
inductive WritesName : List Char → StringBody → Prop
  | mk {before cs after : List Char} {pieces : List Piece}
      (hbefore : Spaces before) (hname : SpellsAll cs pieces)
      (hafter : Spaces after) :
      WritesName (before ++ '"' :: (cs ++ '"' :: (after ++ [':']))) (bodyOf pieces)

/-- **The grammar.** -/
inductive Writes : List Char → Phrase → Prop
  | null : Writes ['n', 'u', 'l', 'l'] (.value .null)
  | boolTrue : Writes ['t', 'r', 'u', 'e'] (.value (.bool true))
  | boolFalse : Writes ['f', 'a', 'l', 's', 'e'] (.value (.bool false))
  | number {cs : List Char} {n : Numeral}
      (hn : WritesNumber cs n) : Writes cs (.value (.number n))
  | string {cs : List Char} {pieces : List Piece} (hcs : SpellsAll cs pieces) :
      Writes ('"' :: (cs ++ ['"'])) (.value (.string (bodyOf pieces)))
  | emptyArray {gap : List Char}
      (hgap : Spaces gap) : Writes ('[' :: (gap ++ [']'])) (.value (.array []))
  | array {cs : List Char} {vs : List Value} (hvs : Writes cs (.elements vs)) :
      Writes ('[' :: (cs ++ [']'])) (.value (.array vs))
  | emptyObject {gap : List Char} (hgap : Spaces gap) :
      Writes ('\x7b' :: (gap ++ ['\x7d'])) (.value (.object []))
  | object {cs : List Char} {fs : List (StringBody × Value)}
      (hfs : Writes cs (.fields fs)) :
      Writes ('\x7b' :: (cs ++ ['\x7d'])) (.value (.object fs))
  | element {before cs after : List Char} {v : Value} (hbefore : Spaces before)
      (hv : Writes cs (.value v))
      (hafter : Spaces after) : Writes (before ++ (cs ++ after)) (.element v)
  | oneElement {cs : List Char} {v : Value}
      (hv : Writes cs (.element v)) : Writes cs (.elements [v])
  | moreElements {cs rest : List Char} {v : Value} {vs : List Value}
      (hv : Writes cs (.element v))
      (hvs : Writes rest (.elements vs)) :
      Writes (cs ++ ',' :: rest) (.elements (v :: vs))
  | oneField {name cs : List Char} {body : StringBody} {v : Value}
      (hname : WritesName name body)
      (hv : Writes cs (.element v)) : Writes (name ++ cs) (.fields [(body, v)])
  | moreFields {name cs rest : List Char} {body : StringBody} {v : Value}
      {fs : List (StringBody × Value)}
      (hname : WritesName name body) (hv : Writes cs (.element v))
      (hfs : Writes rest (.fields fs)) :
      Writes (name ++ (cs ++ ',' :: rest)) (.fields ((body, v) :: fs))

/-- A text that is a value, with blanks around it. -/
def Written (s : String) (v : Value) : Prop := Writes s.toList (.element v)

/-! ### What is read is written -/

theorem readName_sound {cs rest : List Char} {body : StringBody}
    (h : readName cs = some (body, rest)) :
    ∃ name, cs = name ++ rest ∧ WritesName name body := by
  obtain ⟨before, hbefore, hcs⟩ := exists_gap cs
  unfold readName at h
  split at h
  · rename_i quoted hquote
    obtain ⟨⟨found, left⟩, hread, hcolon⟩ := Option.bind_eq_some_iff.mp h
    obtain ⟨text, pieces, rfl, hspells, rfl⟩ := readString_eq_some_iff.mp hread
    obtain ⟨after, hafter, hleft⟩ := exists_gap left
    dsimp only at hcolon
    split at hcolon
    · rename_i rest' hrest
      cases hcolon
      refine ⟨_, ?_, .mk hbefore hspells hafter⟩
      rw [hcs, hquote, hleft, hrest]
      simp only [List.append_assoc, List.cons_append, List.nil_append]
    · cases hcolon
  · cases h

/-- With this fuel, what is read as a value is a way to write it, after blanks. -/
def SoundValue (fuel : Nat) : Prop :=
  ∀ {cs rest : List Char} {v : Value}, readValue fuel cs = some (v, rest) →
    ∃ gap text, Spaces gap ∧ cs = gap ++ (text ++ rest) ∧ Writes text (.value v)

/-- With this fuel, what is read as items is a way to write them, up to the
closing bracket. -/
def SoundItems (fuel : Nat) : Prop :=
  ∀ {cs rest : List Char} {vs : List Value}, readItems fuel cs = some (vs, rest) →
    ∃ text, cs = text ++ ']' :: rest ∧ Writes text (.elements vs)

/-- With this fuel, what is read as fields is a way to write them, up to the
closing brace. -/
def SoundFields (fuel : Nat) : Prop :=
  ∀ {cs rest : List Char} {fs : List (StringBody × Value)},
    readFields fuel cs = some (fs, rest) →
    ∃ text, cs = text ++ '\x7d' :: rest ∧ Writes text (.fields fs)

theorem soundValue_succ {fuel : Nat} (hitems : SoundItems fuel)
    (hfields : SoundFields fuel) :
    SoundValue (fuel + 1) := by
  intro cs rest v h
  obtain ⟨gap, hgap, hcs⟩ := exists_gap cs
  have hfound : ∀ {text : List Char}, skipSpace cs = text ++ rest →
      Writes text (.value v) →
      ∃ gap text, Spaces gap ∧ cs = gap ++ (text ++ rest) ∧
        Writes text (.value v) := by
    intro text htext hv
    exact ⟨gap, text, hgap, htext ▸ hcs, hv⟩
  rw [readValue] at h
  split at h
  · rename_i left hleft
    cases h
    exact hfound hleft .null
  · rename_i left hleft
    cases h
    exact hfound hleft .boolTrue
  · rename_i left hleft
    cases h
    exact hfound hleft .boolFalse
  · rename_i left hleft
    obtain ⟨⟨body, after⟩, hread, heq⟩ := Option.map_eq_some_iff.mp h
    cases heq
    obtain ⟨text, pieces, rfl, hspells, rfl⟩ := readString_eq_some_iff.mp hread
    refine hfound ?_ (.string hspells)
    simpa using hleft
  · rename_i left hleft
    obtain ⟨inner, hinner, hskip⟩ := exists_gap left
    split at h
    · rename_i after hclose
      cases h
      refine hfound ?_ (.emptyArray hinner)
      rw [hclose] at hskip
      simpa [hskip] using hleft
    · obtain ⟨⟨vs, after⟩, hread, heq⟩ := Option.map_eq_some_iff.mp h
      cases heq
      obtain ⟨text, rfl, hvs⟩ := hitems hread
      refine hfound ?_ (.array hvs)
      simpa using hleft
  · rename_i left hleft
    obtain ⟨inner, hinner, hskip⟩ := exists_gap left
    split at h
    · rename_i after hclose
      cases h
      refine hfound ?_ (.emptyObject hinner)
      rw [hclose] at hskip
      simpa [hskip] using hleft
    · obtain ⟨⟨fs, after⟩, hread, heq⟩ := Option.map_eq_some_iff.mp h
      cases heq
      obtain ⟨text, rfl, hfs⟩ := hfields hread
      refine hfound ?_ (.object hfs)
      simpa using hleft
  · obtain ⟨⟨n, after⟩, hread, heq⟩ := Option.map_eq_some_iff.mp h
    cases heq
    obtain ⟨text, htext, hn⟩ := readNumber_sound hread
    exact hfound htext (.number hn)

/-- A value that is followed by blanks is an element. -/
theorem SoundValue.element {fuel : Nat} (hvalue : SoundValue fuel)
    {cs rest : List Char} {v : Value} (h : readValue fuel cs = some (v, rest)) :
    ∃ text, cs = text ++ skipSpace rest ∧ Writes text (.element v) := by
  obtain ⟨gap, text, hgap, hcs, hv⟩ := hvalue h
  obtain ⟨after, hafter, hrest⟩ := exists_gap rest
  refine ⟨_, ?_, .element hgap hv hafter⟩
  rw [hcs]
  simpa using hrest

theorem soundItems_succ {fuel : Nat} (hvalue : SoundValue fuel)
    (hitems : SoundItems fuel) : SoundItems (fuel + 1) := by
  intro cs rest vs h
  rw [readItems] at h
  obtain ⟨⟨v, left⟩, hread, hnext⟩ := Option.bind_eq_some_iff.mp h
  obtain ⟨text, rfl, hv⟩ := hvalue.element hread
  dsimp only at hnext
  split at hnext
  · rename_i after hcomma
    obtain ⟨⟨others, left⟩, hread, heq⟩ := Option.map_eq_some_iff.mp hnext
    cases heq
    obtain ⟨tail, rfl, hvs⟩ := hitems hread
    refine ⟨_, ?_, .moreElements hv hvs⟩
    rw [hcomma]
    simp
  · rename_i after hclose
    cases hnext
    exact ⟨text, by rw [hclose], .oneElement hv⟩
  · cases hnext

theorem soundFields_succ {fuel : Nat} (hvalue : SoundValue fuel)
    (hfields : SoundFields fuel) :
    SoundFields (fuel + 1) := by
  intro cs rest fs h
  rw [readFields] at h
  obtain ⟨⟨body, value⟩, hcolon, h⟩ := Option.bind_eq_some_iff.mp h
  obtain ⟨⟨v, left⟩, hread, hnext⟩ := Option.bind_eq_some_iff.mp h
  obtain ⟨name, rfl, hname⟩ := readName_sound hcolon
  obtain ⟨text, rfl, hv⟩ := hvalue.element hread
  dsimp only at hnext
  split at hnext
  · rename_i after hcomma
    obtain ⟨⟨others, left⟩, hread, heq⟩ := Option.map_eq_some_iff.mp hnext
    cases heq
    obtain ⟨tail, rfl, hfs⟩ := hfields hread
    refine ⟨_, ?_, .moreFields hname hv hfs⟩
    rw [hcomma]
    simp
  · rename_i after hclose
    cases hnext
    exact ⟨name ++ text, by rw [hclose, List.append_assoc], .oneField hname hv⟩
  · cases hnext

/-- What is read is a way to write it, whatever the fuel. -/
theorem read_sound (fuel : Nat) :
    SoundValue fuel ∧ SoundItems fuel ∧ SoundFields fuel := by
  induction fuel with
  | zero =>
      refine ⟨?_, ?_, ?_⟩
      · intro cs rest v h
        simp [readValue] at h
      · intro cs rest vs h
        simp [readItems] at h
      · intro cs rest fs h
        simp [readFields] at h
  | succ fuel ih =>
      obtain ⟨hvalue, hitems, hfields⟩ := ih
      exact ⟨soundValue_succ hitems hfields, soundItems_succ hvalue hitems,
        soundFields_succ hvalue hfields⟩

/-! ### What is written is read -/

/-- A text that begins, after blanks, with a character that is no blank and
closes nothing. -/
def Opens (cs : List Char) : Prop :=
  ∃ gap c tail, Spaces gap ∧ cs = gap ++ c :: tail ∧ isSpace c = false ∧
    c ≠ ']' ∧ c ≠ '\x7d'

theorem Opens.append {cs : List Char} (h : Opens cs) (rest : List Char) :
    Opens (cs ++ rest) := by
  obtain ⟨gap, c, tail, hgap, rfl, hc⟩ := h
  exact ⟨gap, c, tail ++ rest, hgap, by simp, hc⟩

/-- Whether a character may come first in a number. -/
def opensNumber (c : Char) : Bool := c = '-' || c.isDigit

theorem isSpace_of_opensNumber {c : Char} (hc : opensNumber c) :
    isSpace c = false := by
  refine Bool.eq_false_iff.mpr fun hspace => ?_
  simp only [isSpace, Bool.or_eq_true, decide_eq_true_eq] at hspace
  rcases hspace with ((rfl | rfl) | rfl) | rfl
  all_goals exact absurd hc (by decide)

theorem WritesNumber.exists_first {cs : List Char} {n : Numeral}
    (h : WritesNumber cs n) :
    ∃ c tail, cs = c :: tail ∧ opensNumber c := by
  cases h with
  | @mk _ exponent hn hexponent =>
      cases n.negative with
      | true => exact ⟨'-', _, rfl, rfl⟩
      | false =>
          obtain ⟨first, others, hwhole⟩ :=
            List.exists_cons_of_ne_nil hn.whole_ne_nil
          have hfirst := hn.whole_digits first (hwhole ▸ List.mem_cons_self)
          rw [hwhole]
          exact ⟨first, _, rfl, by rw [opensNumber, hfirst, Bool.or_true]⟩

/-- A value begins at once. -/
theorem Writes.exists_first {cs : List Char} {v : Value}
    (h : Writes cs (.value v)) :
    ∃ c tail, cs = c :: tail ∧ isSpace c = false ∧ c ≠ ']' ∧ c ≠ '\x7d' := by
  cases h with
  | number hn =>
      obtain ⟨c, tail, rfl, hc⟩ := hn.exists_first
      refine ⟨c, tail, rfl, isSpace_of_opensNumber hc, ?_, ?_⟩
      · rintro rfl
        exact absurd hc (by decide)
      · rintro rfl
        exact absurd hc (by decide)
  | null | boolTrue | boolFalse | string | emptyArray | array | emptyObject |
    object => exact ⟨_, _, rfl, by decide⟩

theorem Writes.opens {cs : List Char} {vs : List Value}
    (h : Writes cs (.elements vs)) : Opens cs := by
  have helement : ∀ {cs : List Char} {v : Value}, Writes cs (.element v) →
      Opens cs := by
    intro cs v h
    cases h with
    | element hbefore hv hafter =>
        obtain ⟨c, tail, rfl, hc⟩ := hv.exists_first
        exact ⟨_, c, _, hbefore, by rw [List.cons_append], hc⟩
  cases h with
  | oneElement hv => exact helement hv
  | moreElements hv hvs => exact (helement hv).append _

theorem WritesName.opens {cs : List Char} {body : StringBody}
    (h : WritesName cs body) : Opens cs := by
  cases h with
  | mk hbefore hname hafter => exact ⟨_, '"', _, hbefore, rfl, by decide⟩

/-- After an opening bracket, anything but a closing one begins the items. -/
theorem readValue_items (fuel : Nat) {cs : List Char} (h : Opens cs) :
    readValue (fuel + 1) ('[' :: cs) =
      (readItems fuel cs).map fun (items, rest) => (.array items, rest) := by
  obtain ⟨gap, c, tail, hgap, rfl, hc, hbracket, -⟩ := h
  rw [readValue, skipSpace_cons (by decide)]
  simp only [skipSpace_gap hgap hc]
  split
  · rename_i heq
    exact absurd (List.cons.inj heq).1 hbracket
  · rfl

/-- After an opening brace, anything but a closing one begins the fields. -/
theorem readValue_fields (fuel : Nat) {cs : List Char} (h : Opens cs) :
    readValue (fuel + 1) ('\x7b' :: cs) =
      (readFields fuel cs).map fun (fields, rest) => (.object fields, rest) := by
  obtain ⟨gap, c, tail, hgap, rfl, hc, -, hbrace⟩ := h
  rw [readValue, skipSpace_cons (by decide)]
  simp only [skipSpace_gap hgap hc]
  split
  · rename_i heq
    exact absurd (List.cons.inj heq).1 hbrace
  · rfl

theorem WritesName.readName_eq {cs : List Char} {body : StringBody}
    (h : WritesName cs body) (rest : List Char) :
    readName (cs ++ rest) = some (body, rest) := by
  cases h with
  | @mk before cs after pieces hbefore hname hafter =>
      have hread : readString (cs ++ '"' :: (after ++ ':' :: rest)) =
          some (bodyOf pieces, after ++ ':' :: rest) :=
        readString_eq_some_iff.mpr ⟨cs, pieces, rfl, hname, rfl⟩
      simp only [List.append_assoc, List.cons_append, List.nil_append]
      unfold readName
      rw [skipSpace_gap hbefore (by decide)]
      change (readString (cs ++ '"' :: (after ++ ':' :: rest))).bind _ = _
      rw [hread, Option.bind_some]
      simp only [skipSpace_gap hafter (by decide : isSpace ':' = false)]

/-- The blanks before a value do not count. -/
theorem readValue_gap (fuel : Nat) {gap : List Char} (hgap : Spaces gap)
    (cs : List Char) :
    readValue fuel (gap ++ cs) = readValue fuel cs := by
  cases fuel with
  | zero => rw [readValue, readValue]
  | succ fuel => rw [readValue, readValue, skipSpace_append hgap]

theorem Closed.gap {gap rest : List Char} (hgap : Spaces gap)
    (hrest : Closed rest) : Closed (gap ++ rest) := by
  cases gap with
  | nil => exact hrest
  | cons c gap =>
      rintro _ ⟨⟩
      have hspace := hgap c List.mem_cons_self
      simp only [isSpace, Bool.or_eq_true, decide_eq_true_eq] at hspace
      rcases hspace with ((rfl | rfl) | rfl) | rfl
      all_goals decide

/-- The reader finds a phrase at the beginning of a text, given fuel for each of
its characters: a value up to where it ends, an element up to the blanks after
it, and items and fields with what closes them. -/
def Reads (cs : List Char) : Phrase → Prop
  | .value v =>
    ∀ fuel rest, cs.length < fuel → Closed rest →
      readValue fuel (cs ++ rest) = some (v, rest)
  | .element v => ∀ fuel rest, cs.length < fuel → Closed rest →
      ∃ after, Spaces after ∧ readValue fuel (cs ++ rest) = some (v, after ++ rest)
  | .elements vs =>
    ∀ fuel rest, cs.length + 1 < fuel →
      readItems fuel (cs ++ ']' :: rest) = some (vs, rest)
  | .fields fs =>
    ∀ fuel rest, cs.length + 1 < fuel →
      readFields fuel (cs ++ '\x7d' :: rest) = some (fs, rest)

theorem WritesNumber.reads {cs : List Char} {n : Numeral}
    (hn : WritesNumber cs n) : Reads cs (.value (.number n)) := by
  intro fuel rest hfuel hrest
  obtain ⟨fuel, rfl⟩ := Nat.exists_eq_succ_of_ne_zero (Nat.ne_zero_of_lt hfuel)
  obtain ⟨c, tail, hcs, hc⟩ := hn.exists_first
  have hread := hn.readNumber_eq hrest
  rw [hcs, List.cons_append] at hread ⊢
  rw [readValue, skipSpace_cons (isSpace_of_opensNumber hc)]
  -- every other form begins with a character that does not open a number
  split
  case h_7 => rw [hread]; rfl
  all_goals
    rename_i heq
    rw [(List.cons.inj heq).1] at hc
    exact absurd hc (by decide)

theorem SpellsAll.reads {cs : List Char} {pieces : List Piece}
    (hcs : SpellsAll cs pieces) :
    Reads ('"' :: (cs ++ ['"'])) (.value (.string (bodyOf pieces))) := by
  intro fuel rest hfuel hrest
  obtain ⟨fuel, rfl⟩ := Nat.exists_eq_succ_of_ne_zero (Nat.ne_zero_of_lt hfuel)
  have hread : readString (cs ++ '"' :: rest) = some (bodyOf pieces, rest) :=
    readString_eq_some_iff.mpr ⟨cs, pieces, rfl, hcs, rfl⟩
  simp only [List.cons_append, List.append_assoc, List.nil_append]
  rw [readValue, skipSpace_cons (by decide)]
  change (readString (cs ++ '"' :: rest)).map _ = _
  rw [hread]
  rfl

/-- **What is written is read.** -/
theorem Writes.reads {cs : List Char} {p : Phrase} (h : Writes cs p) :
    Reads cs p := by
  induction h with
  | null | boolTrue | boolFalse =>
      intro fuel rest hfuel hrest
      obtain ⟨fuel, rfl⟩ := Nat.exists_eq_succ_of_ne_zero (Nat.ne_zero_of_lt hfuel)
      rfl
  | number hn => exact hn.reads
  | string hcs => exact hcs.reads
  | @emptyArray gap hgap =>
      intro fuel rest hfuel hrest
      obtain ⟨fuel, rfl⟩ := Nat.exists_eq_succ_of_ne_zero (Nat.ne_zero_of_lt hfuel)
      simp only [List.cons_append, List.append_assoc, List.nil_append]
      rw [readValue, skipSpace_cons (by decide)]
      simp only [skipSpace_gap hgap (by decide : isSpace ']' = false)]
  | @array cs vs hvs ih =>
      intro fuel rest hfuel hrest
      obtain ⟨fuel, rfl⟩ := Nat.exists_eq_succ_of_ne_zero (Nat.ne_zero_of_lt hfuel)
      simp only [List.length_cons, List.length_append, List.length_nil] at hfuel
      simp only [List.cons_append, List.append_assoc, List.nil_append]
      rw [readValue_items fuel (hvs.opens.append _), ih fuel rest (by omega)]
      rfl
  | @emptyObject gap hgap =>
      intro fuel rest hfuel hrest
      obtain ⟨fuel, rfl⟩ := Nat.exists_eq_succ_of_ne_zero (Nat.ne_zero_of_lt hfuel)
      simp only [List.cons_append, List.append_assoc, List.nil_append]
      rw [readValue, skipSpace_cons (by decide)]
      simp only [skipSpace_gap hgap (by decide : isSpace '\x7d' = false)]
  | @object cs fs hfs ih =>
      intro fuel rest hfuel hrest
      obtain ⟨fuel, rfl⟩ := Nat.exists_eq_succ_of_ne_zero (Nat.ne_zero_of_lt hfuel)
      have hopens : Opens cs := by
        cases hfs with
        | oneField hname hv => exact hname.opens.append _
        | moreFields hname hv hfs => exact hname.opens.append _
      simp only [List.length_cons, List.length_append, List.length_nil] at hfuel
      simp only [List.cons_append, List.append_assoc, List.nil_append]
      rw [readValue_fields fuel (hopens.append _), ih fuel rest (by omega)]
      rfl
  | @element before cs after v hbefore hv hafter ih =>
      intro fuel rest hfuel hrest
      simp only [List.length_append] at hfuel
      refine ⟨after, hafter, ?_⟩
      rw [List.append_assoc, List.append_assoc, readValue_gap fuel hbefore,
        ih fuel _ (by omega) (hrest.gap hafter)]
  | @oneElement cs v hv ih =>
      intro fuel rest hfuel
      obtain ⟨fuel, rfl⟩ := Nat.exists_eq_succ_of_ne_zero (Nat.ne_zero_of_lt hfuel)
      obtain ⟨after, hafter, hread⟩ :=
        ih fuel (']' :: rest) (by omega) (by rintro _ ⟨⟩; decide)
      rw [readItems, hread, Option.bind_eq_bind, Option.bind_some]
      simp only [skipSpace_gap hafter (by decide : isSpace ']' = false)]
  | @moreElements cs tail v vs hv hvs ih ihs =>
      intro fuel rest hfuel
      obtain ⟨fuel, rfl⟩ := Nat.exists_eq_succ_of_ne_zero (Nat.ne_zero_of_lt hfuel)
      simp only [List.length_append, List.length_cons] at hfuel
      obtain ⟨after, hafter, hread⟩ := ih fuel (',' :: (tail ++ ']' :: rest))
        (by omega) (by rintro _ ⟨⟩; decide)
      rw [List.append_assoc, List.cons_append, readItems, hread,
        Option.bind_eq_bind, Option.bind_some]
      simp only [skipSpace_gap hafter (by decide : isSpace ',' = false),
        ihs fuel rest (by omega), Option.map_some]
  | @oneField name cs body v hname hv ih =>
      intro fuel rest hfuel
      obtain ⟨fuel, rfl⟩ := Nat.exists_eq_succ_of_ne_zero (Nat.ne_zero_of_lt hfuel)
      simp only [List.length_append] at hfuel
      obtain ⟨after, hafter, hread⟩ :=
        ih fuel ('\x7d' :: rest) (by omega) (by rintro _ ⟨⟩; decide)
      rw [List.append_assoc, readFields, hname.readName_eq, Option.bind_eq_bind,
        Option.bind_some]
      simp only [hread, Option.bind_eq_bind, Option.bind_some,
        skipSpace_gap hafter (by decide : isSpace '\x7d' = false)]
  | @moreFields name cs tail body v fs hname hv hfs ih ihs =>
      intro fuel rest hfuel
      obtain ⟨fuel, rfl⟩ := Nat.exists_eq_succ_of_ne_zero (Nat.ne_zero_of_lt hfuel)
      simp only [List.length_append, List.length_cons] at hfuel
      obtain ⟨after, hafter, hread⟩ := ih fuel (',' :: (tail ++ '\x7d' :: rest))
        (by omega) (by rintro _ ⟨⟩; decide)
      rw [List.append_assoc, List.append_assoc, List.cons_append, readFields,
        hname.readName_eq, Option.bind_eq_bind, Option.bind_some]
      simp only [hread, Option.bind_eq_bind, Option.bind_some,
        skipSpace_gap hafter (by decide : isSpace ',' = false),
          ihs fuel rest (by omega), Option.map_some]

/-! ### Texts -/

/-- **The reader accepts exactly what the grammar writes**, and reads it as what
it writes. -/
theorem read?_eq_some_iff {s : String} {v : Value} :
    Value.read? s = some v ↔ Written s v := by
  unfold Value.read? Written
  dsimp only
  constructor
  · intro h
    split at h
    · rename_i found rest hread
      split at h
      · rename_i hend
        cases h
        obtain ⟨gap, text, hgap, hs, hv⟩ := (read_sound _).1 hread
        obtain ⟨after, hafter, hrest⟩ := exists_gap rest
        rw [List.isEmpty_iff.mp hend, List.append_nil] at hrest
        rw [hs, hrest]
        exact .element hgap hv hafter
      · cases h
    · cases h
  · intro h
    obtain ⟨after, hafter, hread⟩ :=
      h.reads (s.toList.length + 1) [] (Nat.lt_succ_self _) (by rintro _ ⟨⟩)
    have hend : skipSpace (after ++ []) = [] := by
      rw [skipSpace_append hafter]
      rfl
    rw [List.append_nil] at hread
    rw [hread]
    simp only [hend, List.isEmpty_nil, if_true]

end Prospectus.Json
