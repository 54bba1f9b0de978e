import Prospectus.Proofs.EntryReading

/-!
# Numerals that are found but not read

The page number of a line is looked for in two steps.  A search from left to
right finds the first numeral, in digits of any script (`FirstNumeral`), and
then the numeral is read, which works for ASCII digits alone.  Here the first
step is compared with a grammar of numerals: `firstToken?` finds the numeral
that begins first and, of those, the longest (`exists_firstNumeral`).  The
second step succeeds exactly if all digits of that numeral are ASCII
(`isSome_page?_iff`), so a line can hold a numeral, even a second one in ASCII
digits, and still have no page number.
-/

namespace Prospectus.Contents

open Text

/-! ## Numerals -/

/-- One digit or more, of any script. -/
def Digits (cs : List Char) : Prop := cs ≠ [] ∧ ∀ c ∈ cs, isDigit c = true

theorem digits_singleton {c : Char} (h : isDigit c = true) : Digits [c] :=
  ⟨List.cons_ne_nil _ _, List.forall_mem_singleton.mpr h⟩

/-- Digits, perhaps with a decimal fraction after them. -/
inductive Unsigned : List Char → Prop
  | integer {whole : List Char} (h : Digits whole) : Unsigned whole
  | decimal {whole fraction : List Char} (h : Digits whole)
      (h' : Digits fraction) : Unsigned (whole ++ '.' :: fraction)

/-- Digits, perhaps with a minus sign before them and a decimal fraction after
them. -/
inductive Numeral : List Char → Prop
  | plain {cs : List Char} (h : Unsigned cs) : Numeral cs
  | minus {cs : List Char} (h : Unsigned cs) : Numeral ('-' :: cs)

/-- The numeral that a search from left to right finds in a line: none begins
earlier, and none that begins there is longer. -/
structure FirstNumeral (line before numeral after : List Char) : Prop where
  line_eq : line = before ++ (numeral ++ after)
  isNumeral : Numeral numeral
  leftmost : ∀ before' numeral' after', line = before' ++ (numeral' ++ after') →
    Numeral numeral' →
    before.length ≤ before'.length
  longest : ∀ numeral' after', line = before ++ (numeral' ++ after') →
    Numeral numeral' →
    numeral'.length ≤ numeral.length

/-- A line has at most one first numeral. -/
theorem FirstNumeral.unique
    {line before numeral after before' numeral' after' : List Char}
    (h : FirstNumeral line before numeral after)
    (h' : FirstNumeral line before' numeral' after') :
    numeral = numeral' := by
  have hstart : before.length = before'.length :=
    Nat.le_antisymm (h.leftmost _ _ _ h'.line_eq h'.isNumeral)
      (h'.leftmost _ _ _ h.line_eq h.isNumeral)
  obtain ⟨rfl, hrest⟩ := List.append_inj (h.line_eq.symm.trans h'.line_eq) hstart
  have hlength : numeral.length = numeral'.length :=
    Nat.le_antisymm (h'.longest _ _ h.line_eq h.isNumeral)
      (h.longest _ _ h'.line_eq h'.isNumeral)
  exact (List.append_inj hrest hlength).1

theorem Unsigned.exists_digit {cs : List Char} (h : Unsigned cs) :
    ∃ c rest, cs = c :: rest ∧ isDigit c = true := by
  have hdigits : ∀ {whole : List Char}, Digits whole →
      ∃ c rest, whole = c :: rest ∧ isDigit c = true := by
    rintro whole ⟨hne, hall⟩
    obtain ⟨c, rest, rfl⟩ := List.exists_cons_of_ne_nil hne
    exact ⟨c, rest, rfl, hall c List.mem_cons_self⟩
  cases h with
  | integer h => exact hdigits h
  | decimal h h' =>
      obtain ⟨c, rest, rfl, hc⟩ := hdigits h
      exact ⟨c, _, rfl, hc⟩

/-- Every numeral has a digit. -/
theorem Numeral.exists_digit {cs : List Char} (h : Numeral cs) :
    ∃ c ∈ cs, isDigit c = true := by
  cases h with
  | plain h =>
      obtain ⟨c, rest, rfl, hc⟩ := h.exists_digit
      exact ⟨c, List.mem_cons_self, hc⟩
  | minus h =>
      obtain ⟨c, rest, rfl, hc⟩ := h.exists_digit
      exact ⟨c, by simp, hc⟩

/-! ## The longest numeral at a digit -/

namespace NumericToken

/-- The characters of a token, without its sign. -/
def unsigned (t : NumericToken) : List Char :=
  t.whole ++ if t.fraction = [] then [] else '.' :: t.fraction

/-- The characters of a token. -/
def text (t : NumericToken) : List Char :=
  if t.negative then '-' :: t.unsigned else t.unsigned

/-- The digits of a token are those of its two parts. -/
theorem mem_digits_iff {t : NumericToken} {c : Char} (hwhole : Digits t.whole)
    (hfraction : ∀ c ∈ t.fraction, isDigit c = true) :
    c ∈ t.whole ++ t.fraction ↔ c ∈ t.text ∧ isDigit c = true := by
  have hminus : isDigit '-' = false := by decide
  have hpoint : isDigit '.' = false := by decide
  rw [text, unsigned]
  constructor
  · intro hc
    have hdigit : isDigit c = true :=
      (List.mem_append.mp hc).elim (hwhole.2 c) (hfraction c)
    refine ⟨?_, hdigit⟩
    have hmem : c ∈ t.whole ++
        if t.fraction = [] then [] else '.' :: t.fraction := by
      split
      case isTrue hnone => simpa [hnone] using hc
      case isFalse =>
        exact (List.mem_append.mp hc).elim (by simp +contextual)
          (by simp +contextual)
    split
    · exact List.mem_cons_of_mem _ hmem
    · exact hmem
  · rintro ⟨hc, hdigit⟩
    have hmem : c ∈ t.whole ++
        if t.fraction = [] then [] else '.' :: t.fraction := by
      split at hc
      · rcases List.mem_cons.mp hc with rfl | hrest
        · simp [hminus] at hdigit
        · exact hrest
      · exact hc
    rcases List.mem_append.mp hmem with hin | hin
    · exact List.mem_append_left _ hin
    · split at hin
      · cases hin
      · rcases List.mem_cons.mp hin with rfl | hrest
        · simp [hpoint] at hdigit
        · exact List.mem_append_right _ hrest

variable (negative : Bool) {cs : List Char}

/-- The token at a digit has digits only. -/
theorem ofDigits_digits (h : startsWithDigit cs = true) :
    Digits (ofDigits negative cs).whole ∧ ∀ c ∈ (ofDigits negative cs).fraction,
      isDigit c = true := by
  refine ⟨⟨?_, List.all_eq_true.mp List.all_takeWhile⟩, ?_⟩
  · cases cs with
    | nil => cases h
    | cons c rest =>
        have hc : isDigit c = true := h
        change List.takeWhile isDigit (c :: rest) ≠ []
        rw [List.takeWhile_cons_of_pos hc]
        exact List.cons_ne_nil _ _
  · unfold ofDigits
    dsimp only
    split
    · exact List.all_eq_true.mp List.all_takeWhile
    · simp

/-- The token at a digit is an unsigned numeral that stands there. -/
theorem ofDigits_spec (h : startsWithDigit cs = true) :
    Unsigned (ofDigits negative cs).unsigned ∧
    (ofDigits negative cs).unsigned <+: cs := by
  obtain ⟨hwhole, hfraction⟩ := ofDigits_digits negative h
  have hsplit : cs.takeWhile isDigit ++ cs.dropWhile isDigit = cs :=
    List.takeWhile_append_dropWhile
  rw [unsigned]
  split
  case isTrue hnone =>
    rw [List.append_nil]
    exact ⟨.integer hwhole, ⟨_, hsplit⟩⟩
  case isFalse hsome =>
    refine ⟨.decimal hwhole ⟨hsome, hfraction⟩, ?_⟩
    unfold ofDigits at hsome ⊢
    dsimp only at hsome ⊢
    split at hsome
    case h_1 rest hdrop =>
      refine ⟨rest.dropWhile isDigit, ?_⟩
      rw [List.append_assoc, List.cons_append, List.takeWhile_append_dropWhile,
        ← hdrop]
      exact hsplit
    case h_2 => exact absurd rfl hsome

/-- No unsigned numeral that stands at a digit is longer than the token there. -/
theorem length_le_ofDigits {numeral after : List Char} (h : Unsigned numeral) :
    numeral.length ≤ (ofDigits negative (numeral ++ after)).unsigned.length := by
  cases h with
  | integer h =>
      have hwhole : (ofDigits negative (numeral ++ after)).whole =
          numeral ++ after.takeWhile isDigit :=
        List.takeWhile_append_of_pos h.2
      rw [unsigned, hwhole]
      simp only [List.length_append]
      omega
  | @decimal whole fraction h h' =>
      have hpoint : ∀ c ∈ ('.' :: (fraction ++ after)).head?,
          isDigit c = false := by
        rintro c ⟨⟩
        decide
      obtain ⟨htake, hdrop⟩ := takeWhile_block h.2 hpoint
      have htoken : ofDigits negative ((whole ++ '.' :: fraction) ++ after) =
          ⟨negative, whole, fraction ++ after.takeWhile isDigit⟩ := by
        rw [List.append_assoc, List.cons_append, ofDigits, htake, hdrop]
        simp [List.takeWhile_append_of_pos h'.2]
      have hne : fraction ++ after.takeWhile isDigit ≠ [] :=
        List.append_ne_nil_of_left_ne_nil h'.1 _
      rw [htoken, unsigned, if_neg hne]
      simp only [List.length_append, List.length_cons]
      omega

/-- Where the token is no longer than an unsigned numeral, none that stands
there is. -/
theorem longest_of_ofDigits {after : List Char}
    (h : (ofDigits negative (cs ++ after)).unsigned.length ≤ cs.length)
    (cs' after' : List Char) (hsame : cs ++ after = cs' ++ after')
    (h' : Unsigned cs') : cs'.length ≤ cs.length := by
  rw [hsame] at h
  exact (length_le_ofDigits negative h').trans h

end NumericToken

/-! ## The first numeral of a line -/

/-- A digit does not stand before the first one. -/
theorem length_le_of_digit {before rest before' rest' : List Char} {c : Char}
    (hbefore : ∀ c ∈ before, isDigit c = false)
    (h : before ++ rest = before' ++ c :: rest') (hc : isDigit c = true) :
    before.length ≤ before'.length := by
  rcases List.append_eq_append_iff.mp h with ⟨x, rfl, -⟩ | ⟨x, rfl, hx⟩
  · simp
  · cases x with
    | nil => simp
    | cons d x =>
        obtain ⟨rfl, -⟩ := List.cons.inj hx
        simp [hbefore c (by simp)] at hc

/-- A numeral with a minus sign is the first one if no digit stands before it. -/
theorem firstNumeral_minus {before cs after : List Char}
    (hfree : ∀ c ∈ before, isDigit c = false) (h : Unsigned cs)
    (hlongest : ∀ cs' after', cs ++ after = cs' ++ after' → Unsigned cs' →
      cs'.length ≤ cs.length) :
    FirstNumeral (before ++ ('-' :: cs ++ after)) before ('-' :: cs) after := by
  have hfree' : ∀ c ∈ before ++ ['-'], isDigit c = false := by
    intro c hc
    rcases List.mem_append.mp hc with hmem | hlast
    · exact hfree c hmem
    · rw [List.mem_singleton.mp hlast]
      decide
  refine ⟨rfl, .minus h, ?_, ?_⟩
  · intro before' numeral' after' hline hnumeral
    cases hnumeral with
    | plain h' =>
        obtain ⟨c, rest, rfl, hc⟩ := h'.exists_digit
        exact length_le_of_digit hfree hline hc
    | minus h' =>
        obtain ⟨c, rest, rfl, hc⟩ := h'.exists_digit
        have hsame : (before ++ ['-']) ++ (cs ++ after) =
            (before' ++ ['-']) ++ c :: (rest ++ after') := by
          simpa using hline
        simpa using length_le_of_digit hfree' hsame hc
  · intro numeral' after' hline hnumeral
    have hrest := List.append_cancel_left hline
    cases hnumeral with
    | plain h' =>
        obtain ⟨c, rest, rfl, hc⟩ := h'.exists_digit
        obtain ⟨rfl, -⟩ := List.cons.inj hrest
        exact absurd hc (by decide)
    | minus h' => exact Nat.succ_le_succ (hlongest _ _ (List.cons.inj hrest).2 h')

/-- A numeral without a minus sign before it is the first one if no digit stands
before it. -/
theorem firstNumeral_plain {before cs after : List Char}
    (hfree : ∀ c ∈ before, isDigit c = false)
    (hminus : before.getLast? ≠ some '-') (h : Unsigned cs)
    (hlongest : ∀ cs' after', cs ++ after = cs' ++ after' → Unsigned cs' →
      cs'.length ≤ cs.length) :
    FirstNumeral (before ++ (cs ++ after)) before cs after := by
  refine ⟨rfl, .plain h, ?_, ?_⟩
  · intro before' numeral' after' hline hnumeral
    cases hnumeral with
    | plain h' =>
        obtain ⟨c, rest, rfl, hc⟩ := h'.exists_digit
        exact length_le_of_digit hfree hline hc
    | minus h' =>
        -- one character earlier there is no minus sign
        obtain ⟨c, rest, rfl, hc⟩ := h'.exists_digit
        have hsame : before ++ (cs ++ after) =
            (before' ++ ['-']) ++ c :: (rest ++ after') := by simpa using hline
        have hle : before.length ≤ before'.length + 1 := by
          simpa using length_le_of_digit hfree hsame hc
        by_contra hlt
        have hlength : before.length = (before' ++ ['-']).length := by
          rw [List.length_append, List.length_singleton]
          omega
        exact hminus (by simp [(List.append_inj hsame hlength).1])
  · intro numeral' after' hline hnumeral
    have hrest := List.append_cancel_left hline
    cases hnumeral with
    | plain h' => exact hlongest _ _ hrest h'
    | minus h' =>
        obtain ⟨c, rest, rfl, hc⟩ := h.exists_digit
        obtain ⟨rfl, -⟩ := List.cons.inj hrest
        exact absurd hc (by decide)

/-- **The first token is the first numeral.** -/
theorem exists_firstNumeral {line : List Char} (h : ∃ c ∈ line, isDigit c = true) :
    ∃ before token after, firstToken? line = some token ∧
      FirstNumeral line before token.text after ∧
      Digits token.whole ∧ ∀ c ∈ token.fraction, isDigit c = true := by
  obtain ⟨before, block, behind, hblock⟩ := exists_leftmostBlock h
  have hfound := firstToken?_of_leftmostBlock hblock
  have hstart : startsWithDigit (block ++ behind) = true := by
    obtain ⟨c, rest, rfl⟩ := List.exists_cons_of_ne_nil hblock.nonempty
    exact hblock.digits c List.mem_cons_self
  obtain ⟨hwhole, hfraction⟩ :=
    NumericToken.ofDigits_digits (decide (before.getLast? = some '-')) hstart
  obtain ⟨hunsigned, after, hafter⟩ :=
    NumericToken.ofDigits_spec (decide (before.getLast? = some '-')) hstart
  have hsign : (NumericToken.ofDigits (decide (before.getLast? = some '-'))
      (block ++ behind)).negative = decide (before.getLast? = some '-') := rfl
  generalize htoken : NumericToken.ofDigits
      (decide (before.getLast? = some '-')) (block ++ behind) = token at *
  have hlongest : ∀ cs' after', token.unsigned ++ after = cs' ++ after' →
      Unsigned cs' →
      cs'.length ≤ token.unsigned.length :=
    NumericToken.longest_of_ofDigits (decide (before.getLast? = some '-'))
      (by rw [hafter, htoken])
  have hline : line = before ++ (token.unsigned ++ after) := by
    rw [hafter, hblock.line_eq]
  by_cases hminus : before.getLast? = some '-'
  · obtain ⟨init, rfl⟩ := List.getLast?_eq_some_iff.mp hminus
    have hinit := (List.forall_mem_append.mp hblock.before_free).1
    have htext : token.text = '-' :: token.unsigned := by
      simp [NumericToken.text, hsign]
    refine ⟨init, token, after, hfound, ?_, hwhole, hfraction⟩
    rw [htext, hline, List.append_assoc]
    exact firstNumeral_minus hinit hunsigned hlongest
  · have htext : token.text = token.unsigned := by
      simp [NumericToken.text, hsign, hminus]
    refine ⟨before, token, after, hfound, ?_, hwhole, hfraction⟩
    rw [htext, hline]
    exact firstNumeral_plain hblock.before_free hminus hunsigned hlongest

/-! ## Reading -/

theorem digitValue?_eq_none {c : Char} (h : c.isDigit = false) :
    digitValue? c = none := by
  rw [digitValue?, if_neg]
  intro hrange
  have hdigit : c.isDigit = true := Char.isDigit_iff_toNat.mpr hrange
  simp [hdigit] at h

/-- Once a character is no ASCII digit, nothing is read any more. -/
theorem foldl_digitValue?_eq_none {cs : List Char} {total : Option Nat}
    (h : total = none ∨ ∃ c ∈ cs, c.isDigit = false) :
    cs.foldl (fun total c => do pure (10 * (← total) + (← digitValue? c)))
      total = none := by
  induction cs generalizing total with
  | nil => simpa using h
  | cons c rest ih =>
      rw [List.foldl_cons]
      refine ih ?_
      rcases h with rfl | ⟨d, hd, hforeign⟩
      · exact .inl rfl
      · rcases List.mem_cons.mp hd with rfl | hrest
        · rw [digitValue?_eq_none hforeign]
          cases total <;> exact .inl rfl
        · exact .inr ⟨d, hrest, hforeign⟩

/-- A number is not read if one of its characters is no ASCII digit. -/
theorem digitsValue?_eq_none {cs : List Char}
    (h : ∃ c ∈ cs, c.isDigit = false) : digitsValue? cs = none := by
  cases cs with
  | nil => rfl
  | cons d rest => exact foldl_digitValue?_eq_none (.inr h)

/-- **A numeral is read exactly if all its digits are ASCII.** -/
theorem NumericToken.isSome_page?_iff {t : NumericToken} (hwhole : Digits t.whole) :
    t.page?.isSome = true ↔ ∀ c ∈ t.whole ++ t.fraction, c.isDigit = true := by
  obtain ⟨negative, whole, fraction⟩ := t
  constructor
  · intro hsome
    by_contra hall
    have hforeign : ∃ c ∈ whole ++ fraction, c.isDigit = false := by
      simpa using hall
    have htruncated : truncated? ⟨negative, whole, fraction⟩ = none := by
      rw [truncated?, digitsValue?_eq_none hforeign]
      rfl
    have hinteger : integer? ⟨negative, whole, fraction⟩ = none := by
      cases fraction with
      | nil =>
          rw [List.append_nil] at hforeign
          rw [integer?, digitsValue?_eq_none hforeign]
          rfl
      | cons c rest => cases hvalue : digitsValue? whole <;> simp [integer?, hvalue]
    rw [page?, hinteger, htruncated] at hsome
    cases hsome
  · intro hall
    obtain ⟨hascii, hfraction⟩ := List.forall_mem_append.mp hall
    cases fraction with
    | nil =>
        obtain ⟨page, hpage, -⟩ := exists_page?_integer negative hwhole.1 hascii
        rw [hpage]
        rfl
    | cons c rest =>
        rw [page?_decimal negative hwhole.1 hascii (List.cons_ne_nil c rest)
          hfraction]
        rfl

/-! ## Entries -/

/-- A line with a first numeral in ASCII digits has a page number, and a line
with a first numeral in other digits has none. -/
theorem FirstNumeral.entryOn_eq (topic : String) {line : String}
    {before numeral after : List Char}
    (h : FirstNumeral line.toList before numeral after) :
    ((∀ c ∈ numeral, isDigit c = true → c.isDigit = true) →
      ∃ page, entryOn topic line = .ok ⟨line, page⟩) ∧
    ((∃ c ∈ numeral, isDigit c = true ∧ c.isDigit = false) →
      entryOn topic line = .error (.pageNumberMissing (composed topic) line)) := by
  obtain ⟨c, hc, hdigit⟩ := h.isNumeral.exists_digit
  have hsome : ∃ c ∈ line.toList, isDigit c = true :=
    ⟨c, by simp [h.line_eq, hc], hdigit⟩
  obtain ⟨before', token, after', hfound, hfirst, hwhole, hfraction⟩ :=
    exists_firstNumeral hsome
  obtain rfl := h.unique hfirst
  have hnumber : pageNumber? line = token.page? := by
    rw [pageNumber?, hfound, Option.bind_some]
  have hread := NumericToken.isSome_page?_iff (t := token) hwhole
  rw [entryOn, hnumber]
  constructor
  · intro hascii
    obtain ⟨page, hpage⟩ := Option.isSome_iff_exists.mp (hread.mpr fun c hc => by
      obtain ⟨hmem, hdigit⟩ := (NumericToken.mem_digits_iff hwhole hfraction).mp hc
      exact hascii c hmem hdigit)
    exact ⟨page, by rw [hpage]; rfl⟩
  · rintro ⟨c, hmem, hdigit, hforeign⟩
    have hnone : token.page? = none := by
      rw [← Option.not_isSome_iff_eq_none, hread]
      intro hall
      have hascii := hall c ((NumericToken.mem_digits_iff hwhole hfraction).mpr
        ⟨hmem, hdigit⟩)
      simp [hforeign] at hascii
    rw [hnone]
    rfl

/-- A numeral stands in a line exactly if there is a first one. -/
theorem exists_numeral_iff (line : List Char) :
    (∃ numeral, Numeral numeral ∧ numeral <:+: line) ↔
      ∃ before numeral after, FirstNumeral line before numeral after := by
  constructor
  · rintro ⟨numeral, hnumeral, hinside⟩
    obtain ⟨c, hc, hdigit⟩ := hnumeral.exists_digit
    obtain ⟨before, token, after, -, hfirst, -⟩ :=
      exists_firstNumeral ⟨c, hinside.subset hc, hdigit⟩
    exact ⟨before, token.text, after, hfirst⟩
  · rintro ⟨before, numeral, after, h⟩
    exact ⟨numeral, h.isNumeral, before, after,
      by rw [h.line_eq, List.append_assoc]⟩

/-- **Numerals in ASCII digits are read.**  The line of a topic holds a numeral
exactly if it has a first one.  If all digits of the first one are ASCII, there
is an entry with a page; if one is not, the page number is missing, whatever
else the line holds; and without a numeral it is missing, too. -/
theorem findEntry_reads_ascii_numerals {contents topic line : String}
    (hfirst : FirstLine contents topic line) :
    ((∃ numeral, Numeral numeral ∧ numeral <:+: line.toList) ↔
      ∃ before numeral after, FirstNumeral line.toList before numeral after) ∧
    (∀ before numeral after, FirstNumeral line.toList before numeral after →
      ((∀ c ∈ numeral, isDigit c = true → c.isDigit = true) →
        ∃ page, findEntry contents topic = .ok ⟨line, page⟩) ∧
      ((∃ c ∈ numeral, isDigit c = true ∧ c.isDigit = false) →
        findEntry contents topic =
          .error (.pageNumberMissing (composed topic) line))) ∧
    ((¬ ∃ numeral, Numeral numeral ∧ numeral <:+: line.toList) →
      findEntry contents topic =
        .error (.pageNumberMissing (composed topic) line)) := by
  rw [findEntry_of_firstLine hfirst]
  refine ⟨exists_numeral_iff _, fun before numeral after h =>
    h.entryOn_eq topic, ?_⟩
  intro hnone
  refine entryOn_of_no_digit topic fun c hc => ?_
  by_contra hdigit
  have hsingle : Numeral [c] :=
    .plain (.integer (digits_singleton (by simpa using hdigit)))
  exact hnone ⟨[c], hsingle, (List.append_of_mem hc).elim fun before h =>
    h.elim fun after hsplit =>
    ⟨before, after, by simp [hsplit]⟩⟩

/-- A numeral in ASCII digits is read although digits of another script follow
it; a numeral in such digits is not, although ASCII digits are mixed with them. -/
theorem mixedContents_reads_ascii_numeral :
    FirstLine "Law -4.5 \u0663" "Law" "Law -4.5 \u0663" ∧
    (∃ page, findEntry "Law -4.5 \u0663" "Law" = .ok ⟨"Law -4.5 \u0663", page⟩) ∧
    FirstLine "Art 4.\u0663 7" "Art" "Art 4.\u0663 7" ∧
    findEntry "Art 4.\u0663 7" "Art" =
      .error (.pageNumberMissing (composed "Art") "Art 4.\u0663 7") := by
  have hlaw : FirstLine "Law -4.5 \u0663" "Law" "Law -4.5 \u0663" := by
    refine ⟨[], [], lined_iff.mpr (by decide +kernel), ?_, by simp⟩
    exact (by decide +kernel : (composed "Law").toList <:+:
        "Law -4.5 \u0663".toList)
  have hart : FirstLine "Art 4.\u0663 7" "Art" "Art 4.\u0663 7" := by
    refine ⟨[], [], lined_iff.mpr (by decide +kernel), ?_, by simp⟩
    exact (by decide +kernel : (composed "Art").toList <:+: "Art 4.\u0663 7".toList)
  have hfree : ∀ cs : List Char, cs.all (!isDigit ·) = true →
      ∀ c ∈ cs, isDigit c = false := by
    intro cs hall
    simpa using hall
  have hminus : FirstNumeral "Law -4.5 \u0663".toList "Law ".toList
      ['-', '4', '.', '5'] " \u0663".toList := by
    refine firstNumeral_minus (hfree "Law ".toList (by decide +kernel))
      (.decimal (digits_singleton (by decide)) (digits_singleton (by decide))) ?_
    exact NumericToken.longest_of_ofDigits true (by decide +kernel)
  have hplain : FirstNumeral "Art 4.\u0663 7".toList "Art ".toList
      ['4', '.', '\u0663'] " 7".toList := by
    refine firstNumeral_plain (hfree "Art ".toList (by decide +kernel))
      (by decide +kernel)
      (.decimal (digits_singleton (by decide)) (digits_singleton (by decide))) ?_
    exact NumericToken.longest_of_ofDigits false (by decide +kernel)
  refine ⟨hlaw, ((findEntry_reads_ascii_numerals hlaw).2.1 _ _ _ hminus).1 ?_, hart,
    ((findEntry_reads_ascii_numerals hart).2.1 _ _ _ hplain).2
      ⟨'\u0663', by simp, by decide, by decide⟩⟩
  have hall : ['-', '4', '.', '5'].all (fun c => !isDigit c || c.isDigit) =
      true := by decide
  intro c hc hdigit
  simpa [hdigit] using List.all_eq_true.mp hall c hc

/-- The page of this line is given in Arabic digits, which are found as a
numeral and not read, and neither is the number after them. -/
theorem foreignContents_misses_page :
    FirstLine "Law \u0663 7" "Law" "Law \u0663 7" ∧ Numeral "\u0663".toList ∧
    "\u0663".toList <:+: "Law \u0663 7".toList ∧
    findEntry "Law \u0663 7" "Law" =
      .error (.pageNumberMissing "Law" "Law \u0663 7") := by
  refine ⟨⟨[], [], lined_iff.mpr (by decide +kernel), ?_, by simp⟩, ?_, ?_, ?_⟩
  · exact (by decide +kernel : (composed "Law").toList <:+: "Law \u0663 7".toList)
  · exact .plain (.integer (digits_singleton (by decide)))
  · decide +kernel
  · decide +kernel

end Prospectus.Contents
