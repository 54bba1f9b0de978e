import Prospectus.Contents.Entry
import Prospectus.Proofs.ContentsLocation
import Prospectus.Proofs.PageNumbers

/-!
# Entries are read off the first line

The entry of a topic is on the first line of the table of contents that holds
the topic, both in composed form (`FirstLine`).  Nothing else of the table of
contents has a part in the answer (`findEntry_of_firstLine`), so that what is
known of the numeric tokens of a line is known of entries: integers of any
length are clamped to the 64-bit range, and decimals are cut off after they have
been rounded to a float.
-/

namespace Prospectus.Text

/-! ## Lines -/

/-- How a text falls into lines.  A line ends at a line feed and leaves out one
carriage return before it; after the last line feed, what is left is a line
unless it is empty. -/
inductive Lined : List Char → List (List Char) → Prop
  | nil : Lined [] []
  | last {line : List Char} (hne : line ≠ [])
      (hfree : '\n' ∉ line) : Lined line [line]
  | feed {line rest : List Char} {lines : List (List Char)}
      (hfree : '\n' ∉ line) (hend : line.getLast? ≠ some '\r')
      (tail : Lined rest lines) : Lined (line ++ '\n' :: rest) (line :: lines)
  | returnFeed {line rest : List Char} {lines : List (List Char)}
      (hfree : '\n' ∉ line)
      (tail : Lined rest lines) :
      Lined (line ++ '\r' :: '\n' :: rest) (line :: lines)

/-- Characters other than line feeds are put onto the current line. -/
theorem linesFrom_append {cs : List Char} (hfree : '\n' ∉ cs)
    (line rest : List Char) :
    linesFrom line (cs ++ rest) = linesFrom (cs.reverse ++ line) rest := by
  induction cs generalizing line with
  | nil => rfl
  | cons c cs ih =>
      obtain ⟨hc, hcs⟩ := List.ne_and_not_mem_of_not_mem_cons hfree
      rw [List.cons_append, linesFrom, if_neg hc.symm, ih hcs]
      simp

theorem closeLine_of_ne {line : List Char} (h : line.head? ≠ some '\r') :
    closeLine line = line.reverse := by
  unfold closeLine
  split
  · simp at h
  · rfl

/-- The lines that are read are lines of the text, the current one included. -/
theorem lined_linesFrom {line : List Char} (hfree : '\n' ∉ line) (cs : List Char) :
    Lined (line.reverse ++ cs) (linesFrom line cs) := by
  induction cs generalizing line with
  | nil =>
      cases line with
      | nil => exact .nil
      | cons c rest =>
          rw [List.append_nil]
          exact .last (by simp) (by rwa [List.mem_reverse])
  | cons c cs ih =>
      rw [linesFrom]
      split
      case isTrue hc =>
        subst hc
        have tail : Lined cs (linesFrom [] cs) := ih List.not_mem_nil
        by_cases hreturn : line.head? = some '\r'
        · obtain ⟨rest, rfl⟩ := List.head?_eq_some_iff.mp hreturn
          have hrest : '\n' ∉ rest.reverse := by simpa using hfree
          simpa [closeLine] using Lined.returnFeed hrest tail
        · rw [closeLine_of_ne hreturn]
          exact .feed (by simpa using hfree) (by rwa [List.getLast?_reverse]) tail
      case isFalse hc =>
        have hcurrent : '\n' ∉ c :: line :=
          List.not_mem_cons_of_ne_of_not_mem (Ne.symm hc) hfree
        simpa using ih hcurrent

/-- **Lines are what is read.** -/
theorem lined_iff {text : List Char} {lines : List (List Char)} :
    Lined text lines ↔ linesFrom [] text = lines := by
  constructor
  · intro h
    induction h with
    | nil => rfl
    | @last line hne hfree =>
        have hread := linesFrom_append hfree [] []
        rw [List.append_nil, List.append_nil] at hread
        simp [hread, linesFrom, hne]
    | feed hfree hend tail ih =>
        rw [linesFrom_append hfree, List.append_nil, linesFrom, if_pos rfl, ih,
          closeLine_of_ne (by rwa [List.head?_reverse]), List.reverse_reverse]
    | returnFeed hfree tail ih =>
        rw [linesFrom_append hfree, linesFrom, if_neg (by decide), linesFrom,
          if_pos rfl, ih]
        simp [closeLine]
  · rintro rfl
    exact lined_linesFrom List.not_mem_nil text

end Prospectus.Text

namespace Prospectus.Contents

open Number Text

/-! ## The line of a topic -/

/-- A line holds a topic, which is put into composed form. -/
def HoldsTopic (topic : String) (line : List Char) : Prop :=
  (composed topic).toList <:+: line

/-- No line of the table of contents, in composed form, holds the topic. -/
def NoLine (contents topic : String) : Prop :=
  ∀ lines, Lined (composed contents).toList lines →
    ∀ line ∈ lines, ¬ HoldsTopic topic line

/-- The first line of the table of contents, in composed form, that holds the
topic. -/
def FirstLine (contents topic line : String) : Prop :=
  ∃ before after, Lined (composed contents).toList
    (before ++ line.toList :: after) ∧
    HoldsTopic topic line.toList ∧ ∀ earlier ∈ before, ¬ HoldsTopic topic earlier

/-- Unless no line holds a topic, there is a first one that does. -/
theorem exists_firstLine {contents topic : String} (h : ¬ NoLine contents topic) :
    ∃ line, FirstLine contents topic line := by
  classical
  unfold NoLine at h
  push Not at h
  obtain ⟨lines, hlines, line, hline, hholds⟩ := h
  have hsome : (lines.find? (fun l => decide (HoldsTopic topic l))).isSome := by
    rw [List.find?_isSome]
    exact ⟨line, hline, decide_eq_true hholds⟩
  obtain ⟨first, hfirst⟩ := Option.isSome_iff_exists.mp hsome
  obtain ⟨hfound, before, after, rfl, hearlier⟩ :=
    List.find?_eq_some_iff_append.mp hfirst
  refine ⟨String.ofList first, before, after, ?_, ?_, ?_⟩
  · rwa [String.toList_ofList]
  · rw [String.toList_ofList]
    exact of_decide_eq_true hfound
  · intro earlier hmem
    simpa using hearlier earlier hmem

/-- What a line that holds a topic says about it. -/
def entryOn (topic line : String) : Except Error Entry :=
  (pageNumber? line).elim (.error (.pageNumberMissing (composed topic) line))
    fun page => .ok ⟨line, page⟩

/-- A line gives an entry with that line, or its page number is missing. -/
theorem entryOn_cases (topic line : String) :
    entryOn topic line = .error (.pageNumberMissing (composed topic) line) ∨
      ∃ page, entryOn topic line = .ok ⟨line, page⟩ := by
  rw [entryOn]
  cases pageNumber? line with
  | none => exact .inl rfl
  | some page => exact .inr ⟨page, rfl⟩

/-- **The first line is the entry.** -/
theorem findEntry_of_firstLine {contents topic line : String}
    (h : FirstLine contents topic line) :
    findEntry contents topic = entryOn topic line := by
  obtain ⟨before, after, hlined, hholds, hearlier⟩ := h
  have hfind : (lines (composed contents)).find? (contains · (composed topic)) =
      some line := by
    refine List.find?_eq_some_iff_append.mpr ⟨(contains_iff _ _).mpr hholds,
      before.map String.ofList, after.map String.ofList,
      by simp [lines, lined_iff.mp hlined], ?_⟩
    intro earlier hmem
    obtain ⟨cs, hcs, rfl⟩ := List.mem_map.mp hmem
    rw [Bool.not_eq_true', Bool.eq_false_iff, ne_eq, contains_iff,
      String.toList_ofList]
    exact hearlier cs hcs
  simp only [findEntry, hfind, entryOn]
  cases pageNumber? line <;> rfl

/-- Without a line that holds it, a topic is not found. -/
theorem findEntry_of_noLine {contents topic : String} (h : NoLine contents topic) :
    findEntry contents topic = .error (.topicNotFound (composed topic)) := by
  have hfind : (lines (composed contents)).find? (contains · (composed topic)) =
      none := by
    refine List.find?_eq_none.mpr ?_
    intro line hline
    obtain ⟨cs, hcs, rfl⟩ := List.mem_map.mp hline
    rw [contains_iff, String.toList_ofList]
    exact h _ (lined_iff.mpr rfl) cs hcs
  simp only [findEntry, hfind]

/-! ## Integers -/

/-- A line without digits has no page number. -/
theorem entryOn_of_no_digit (topic : String) {line : String}
    (h : ∀ c ∈ line.toList, isDigit c = false) :
    entryOn topic line = .error (.pageNumberMissing (composed topic) line) := by
  rw [entryOn, pageNumber?, firstToken?_eq_none h]
  rfl

/-- A line whose first numeric token is an integer in ASCII digits has the
clamped integer as its page number. -/
theorem exists_entryOn_integer (topic : String) {line : String}
    {before block after : List Char}
    (h : LeftmostBlock line.toList before block after)
    (hblock : ∀ c ∈ block, c.isDigit) (hafter : ¬ DecimalFollows after) :
    ∃ page, entryOn topic line = .ok ⟨line, page⟩ ∧
      page.toInt = clamped (signed (before.getLast? = some '-')
          (Nat.ofDigitChars 10 block 0)) := by
  obtain ⟨page, hpage, hvalue⟩ :=
    exists_page?_integer (before.getLast? = some '-') h.nonempty hblock
  refine ⟨page, ?_, hvalue⟩
  rw [entryOn, pageNumber?, firstToken?_of_integer h hafter,
    Option.bind_some, hpage]
  rfl

/-- **Page resolution.**  A topic is not found exactly if no line of the table
of contents holds it; otherwise the answer depends on the first line that does
and on the composed form of the topic alone, and names that line.  If all digits
of the line are ASCII, its page number is missing if it has no digit, and
otherwise is the value of its leftmost block of digits, negated if a minus sign
stands right before the block, and taken to the nearer end of the 64-bit range,
unless a decimal fraction follows. -/
theorem findEntry_reads_first_line (contents topic : String) :
    (findEntry contents topic = .error (.topicNotFound (composed topic)) ↔
      NoLine contents topic) ∧
    (¬ NoLine contents topic → ∃ line, FirstLine contents topic line) ∧
    ∀ line, FirstLine contents topic line →
      (∀ contents' topic', composed topic' = composed topic →
        FirstLine contents' topic' line →
        findEntry contents' topic' = findEntry contents topic) ∧
      (∀ e, findEntry contents topic = .error e →
        e = .pageNumberMissing (composed topic) line) ∧
      (∀ entry, findEntry contents topic = .ok entry → entry.line = line) ∧
      ((∀ c ∈ line.toList, isDigit c = true → c.isDigit = true) →
        ((∀ c ∈ line.toList, isDigit c = false) →
          findEntry contents topic =
            .error (.pageNumberMissing (composed topic) line)) ∧
        ((∃ c ∈ line.toList, isDigit c = true) →
          ∃ before block after, LeftmostBlock line.toList before block after) ∧
        ∀ before block after, LeftmostBlock line.toList before block after →
          ¬ DecimalFollows after →
          ∃ page, findEntry contents topic = .ok ⟨line, page⟩ ∧
            page.toInt = clamped (signed (before.getLast? = some '-')
                (Nat.ofDigitChars 10 block 0))) := by
  refine ⟨⟨?_, findEntry_of_noLine⟩, exists_firstLine, ?_⟩
  · intro hmissing
    by_contra hsome
    obtain ⟨line, hline⟩ := exists_firstLine hsome
    rw [findEntry_of_firstLine hline] at hmissing
    obtain herror | ⟨page, hok⟩ := entryOn_cases topic line
    · exact absurd (herror.symm.trans hmissing) (by simp)
    · exact absurd (hok.symm.trans hmissing) (by simp)
  · intro line hline
    rw [findEntry_of_firstLine hline]
    refine ⟨?_, ?_, ?_, ?_⟩
    · intro contents' topic' htopic hline'
      rw [findEntry_of_firstLine hline', entryOn, entryOn, htopic]
    · intro e he
      obtain herror | ⟨page, hok⟩ := entryOn_cases topic line
      · exact (Except.error.inj (herror.symm.trans he)).symm
      · exact absurd (hok.symm.trans he) (by simp)
    · intro entry hentry
      obtain herror | ⟨page, hok⟩ := entryOn_cases topic line
      · exact absurd (herror.symm.trans hentry) (by simp)
      · rw [← Except.ok.inj (hok.symm.trans hentry)]
    · intro hascii
      refine ⟨entryOn_of_no_digit topic, exists_leftmostBlock, ?_⟩
      intro before block after hblock hinteger
      refine exists_entryOn_integer topic hblock ?_ hinteger
      intro c hc
      have hmem : c ∈ line.toList := by simp [hblock.line_eq, hc]
      exact hascii c hmem (hblock.digits c hc)

/-- A line that ends in a carriage return and a line feed, with a number below
the 64-bit range. -/
theorem crowdedContents_reads_first_line :
    FirstLine "Arts 1\r\nLaw -99999999999999999999 of 7\r\nLaw 3" "Law"
      "Law -99999999999999999999 of 7" ∧
    (∃ page, findEntry "Arts 1\r\nLaw -99999999999999999999 of 7\r\nLaw 3" "Law" =
      .ok ⟨"Law -99999999999999999999 of 7", page⟩ ∧ page.toInt = -2 ^ 63) ∧
    findEntry "Arts 1\r\nLaw -99999999999999999999 of 7\r\nLaw 3" "1\r" =
      .error (.topicNotFound "1\r") := by
  have hfirst : FirstLine "Arts 1\r\nLaw -99999999999999999999 of 7\r\nLaw 3" "Law"
      "Law -99999999999999999999 of 7" := by
    refine ⟨["Arts 1".toList], ["Law 3".toList],
      lined_iff.mpr (by decide +kernel), ?_, ?_⟩
    · exact (by decide +kernel : (composed "Law").toList <:+:
          "Law -99999999999999999999 of 7".toList)
    · exact (by decide +kernel : ∀ earlier ∈ ["Arts 1".toList],
        ¬ (composed "Law").toList <:+: earlier)
  have hblock : LeftmostBlock "Law -99999999999999999999 of 7".toList
      "Law -".toList "99999999999999999999".toList
      " of 7".toList := by
    decide +kernel
  have hinteger : ¬ DecimalFollows " of 7".toList := by
    rintro ⟨c, rest, hdot, -⟩
    have hhead : " of 7".toList.head? = some '.' := congrArg List.head? hdot
    exact absurd hhead (by decide +kernel)
  have hnone : NoLine "Arts 1\r\nLaw -99999999999999999999 of 7\r\nLaw 3"
      "1\r" := by
    intro lines hlines
    rw [← lined_iff.mp hlines]
    exact (by decide +kernel : ∀ line ∈ linesFrom [] (composed
      "Arts 1\r\nLaw -99999999999999999999 of 7\r\nLaw 3").toList,
      ¬ (composed "1\r").toList <:+: line)
  have hascii : ∀ c ∈ "Law -99999999999999999999 of 7".toList,
      isDigit c = true → c.isDigit = true := by
    have hall : "Law -99999999999999999999 of 7".toList.all
        (fun c => !isDigit c || c.isDigit) = true := by
      decide +kernel
    intro c hc hdigit
    simpa [hdigit] using List.all_eq_true.mp hall c hc
  obtain ⟨-, -, hread⟩ := findEntry_reads_first_line
    "Arts 1\r\nLaw -99999999999999999999 of 7\r\nLaw 3" "Law"
  obtain ⟨-, -, -, hnumbers⟩ := hread _ hfirst
  obtain ⟨page, hpage, hvalue⟩ := (hnumbers hascii).2.2 _ _ _ hblock hinteger
  refine ⟨hfirst, ⟨page, hpage, hvalue.trans (by decide +kernel)⟩, ?_⟩
  rw [(findEntry_reads_first_line _ _).1.mpr hnone]
  exact congrArg (fun topic => Except.error (Error.topicNotFound topic))
    (by decide +kernel)

/-! ## Decimals -/

/-- A line whose first numeric token is a decimal in ASCII digits, with what
stands before and after it. -/
structure DecimalLine (line before whole fraction after : List Char) : Prop where
  block : LeftmostBlock line before whole ('.' :: (fraction ++ after))
  whole_ascii : ∀ c ∈ whole, c.isDigit
  fraction_ne : fraction ≠ []
  fraction_ascii : ∀ c ∈ fraction, c.isDigit
  maximal : ∀ c ∈ after.head?, isDigit c = false

instance (line before whole fraction after : List Char) :
    Decidable (DecimalLine line before whole fraction after) :=
  decidable_of_iff (LeftmostBlock line before whole ('.' ::
    (fraction ++ after)) ∧ whole.all Char.isDigit ∧
      fraction ≠ [] ∧ fraction.all Char.isDigit ∧
      after.head?.all (!isDigit ·)) <| by
    simp only [List.all_eq_true, Option.all_eq_true, Bool.not_eq_true']
    exact ⟨fun ⟨h₁, h₂, h₃, h₄, h₅⟩ => ⟨h₁, h₂, h₃, h₄, h₅⟩,
      fun h => ⟨h.1, h.2, h.3, h.4, h.5⟩⟩

/-- The page number of a line with a decimal. -/
theorem DecimalLine.entryOn_eq (topic : String) {line : String}
    {before whole fraction after : List Char}
    (h : DecimalLine line.toList before whole fraction after) :
    entryOn topic line =
      .ok ⟨line, saturate (signed (before.getLast? = some '-') (integerPart
      (Nat.ofDigitChars 10 whole 0 * 10 ^ fraction.length +
        Nat.ofDigitChars 10 fraction 0)
      (10 ^ fraction.length)))⟩ := by
  have hfraction : ∀ c ∈ fraction, isDigit c = true :=
    fun c hc => isDigit_of_ascii (h.fraction_ascii c hc)
  rw [entryOn, pageNumber?, firstToken?_of_decimal h.block hfraction h.maximal,
    Option.bind_some, page?_decimal _ h.block.nonempty h.whole_ascii
      h.fraction_ne h.fraction_ascii]
  rfl

/-- Below `2 ^ 53`, a decimal that is read as a float has its integer part as
its page, or the next integer. -/
theorem clamped_integerPart_of_lt (negative : Bool) {whole fraction scale : Nat}
    (h : fraction < scale) (hwhole : whole < 2 ^ 53) :
    clamped (signed negative (integerPart (whole * scale + fraction) scale)) =
      signed negative whole ∨
      clamped (signed negative (integerPart (whole * scale + fraction) scale)) =
        signed negative (whole + 1) := by
  have hpos : 0 < scale := by omega
  have hdiv := (decimal_div_mod whole h).1
  obtain ⟨heq, -⟩ | ⟨heq, -⟩ := integerPart_of_lt hpos (hdiv.symm ▸ hwhole)
  · rw [heq, hdiv]
    exact .inl (clamped_signed negative (by omega))
  · rw [heq, hdiv]
    exact .inr (clamped_signed negative (by omega))

/-- A decimal with at most fifteen digits that is read as a float has its
integer part as its page. -/
theorem clamped_integerPart_of_short (negative : Bool)
    {whole fraction places digits : Nat} (h : fraction < 10 ^ places)
    (hwhole : whole < 10 ^ digits) (hshort : digits + places ≤ 15) :
    clamped (signed negative (integerPart (whole * 10 ^ places + fraction)
      (10 ^ places))) = signed negative whole := by
  have hproduct : whole * 10 ^ places < 10 ^ 15 :=
    calc whole * 10 ^ places < 10 ^ digits * 10 ^ places :=
      Nat.mul_lt_mul_of_pos_right hwhole (by omega)
      _ = 10 ^ (digits + places) := (Nat.pow_add ..).symm
      _ ≤ 10 ^ 15 := Nat.pow_le_pow_right (by decide) hshort
  have hplaces : 10 ^ places ≤ 10 ^ 15 :=
    Nat.pow_le_pow_right (by decide) (by omega)
  have hdigits : 10 ^ digits ≤ 10 ^ 15 :=
    Nat.pow_le_pow_right (by decide) (by omega)
  rw [(clamped_integerPart_iff negative h).mpr
    (.inr (keepsWhole_of_short h hproduct hplaces))]
  exact clamped_signed negative (by omega)

/-- **Decimals are rounded to a float and cut off.**  If the first numeric token
of the line of a topic is a decimal, the page is the integer part of the 64-bit
float nearest to the decimal, clamped to the 64-bit range.  This is the clamped
integer part of the decimal exactly if that lies at an end of the range or
beyond, or is kept by rounding.  Below `2 ^ 53` it is the integer part or the
next integer, and for decimals of up to fifteen digits it is the integer part. -/
theorem findEntry_truncates_decimals {contents topic line : String}
    {before whole fraction after : List Char}
    (hfirst : FirstLine contents topic line)
    (hline : DecimalLine line.toList before whole fraction after) :
    ∃ page, findEntry contents topic = .ok ⟨line, page⟩ ∧
      page.toInt = clamped (signed (before.getLast? = some '-')
        ⌊binary64.value (binary64.round
          (Nat.ofDigitChars 10 whole 0 * 10 ^ fraction.length +
            Nat.ofDigitChars 10 fraction 0)
          (10 ^ fraction.length))⌋₊) ∧
      (page.toInt = clamped (signed (before.getLast? = some '-')
          (Nat.ofDigitChars 10 whole 0)) ↔
        Beyond (signed (before.getLast? = some '-') (Nat.ofDigitChars 10 whole 0)) ∨
          KeepsWhole (Nat.ofDigitChars 10 whole 0)
            (Nat.ofDigitChars 10 fraction 0) (10 ^ fraction.length)) ∧
      (Nat.ofDigitChars 10 whole 0 < 2 ^ 53 →
        page.toInt =
            signed (before.getLast? = some '-') (Nat.ofDigitChars 10 whole 0) ∨
          page.toInt =
            signed (before.getLast? = some '-') (Nat.ofDigitChars 10 whole 0 + 1)) ∧
      (whole.length + fraction.length ≤ 15 →
        page.toInt =
          signed (before.getLast? = some '-') (Nat.ofDigitChars 10 whole 0)) := by
  have hfraction := ofDigitChars_lt hline.fraction_ascii
  have hwhole := ofDigitChars_lt hline.whole_ascii
  refine ⟨_, (findEntry_of_firstLine hfirst).trans (hline.entryOn_eq topic), ?_⟩
  rw [toInt_saturate]
  refine ⟨by rw [integerPart_eq_floor], clamped_integerPart_iff _ hfraction, ?_, ?_⟩
  · exact clamped_integerPart_of_lt _ hfraction
  · exact clamped_integerPart_of_short _ hfraction hwhole

/-- Beyond `2 ^ 53`, an even integer part is kept. -/
theorem evenContents_truncates_decimals :
    FirstLine "Law -9007199254740994.25" "Law" "Law -9007199254740994.25" ∧
    DecimalLine "Law -9007199254740994.25".toList "Law -".toList
      "9007199254740994".toList "25".toList [] ∧
    ∃ page, findEntry "Law -9007199254740994.25" "Law" =
      .ok ⟨"Law -9007199254740994.25", page⟩ ∧
      page.toInt = -9007199254740994 := by
  have hfirst : FirstLine "Law -9007199254740994.25" "Law"
      "Law -9007199254740994.25" := by
    refine ⟨[], [], lined_iff.mpr (by decide +kernel), ?_, by simp⟩
    exact (by decide +kernel : (composed "Law").toList <:+:
        "Law -9007199254740994.25".toList)
  have hline : DecimalLine "Law -9007199254740994.25".toList "Law -".toList
      "9007199254740994".toList "25".toList [] := by
    decide +kernel
  have hwhole : Nat.ofDigitChars 10 "9007199254740994".toList 0 =
      9007199254740994 := by decide +kernel
  have hsize : Nat.size 9007199254740994 = 54 :=
    le_antisymm (Nat.size_le.mpr (by decide)) (Nat.lt_size.mpr (by decide))
  obtain ⟨page, hpage, -, hkept, -, -⟩ := findEntry_truncates_decimals hfirst hline
  refine ⟨hfirst, hline, page, hpage,
    (hkept.mpr (.inr ?_)).trans (by decide +kernel)⟩
  rw [hwhole, KeepsWhole, if_neg (by decide), hsize]
  decide

/-- A decimal just below five is read as five, and an odd integer part beyond
`2 ^ 53` as its neighbour. -/
theorem nearContents_misses_integer_part :
    DecimalLine "Law 4.99999999999999999999".toList "Law ".toList "4".toList
      "99999999999999999999".toList [] ∧
    findEntry "Law 4.99999999999999999999" "Law" =
      .ok ⟨"Law 4.99999999999999999999", 5⟩ ∧
    DecimalLine "Law 9007199254740993.0".toList "Law ".toList
      "9007199254740993".toList "0".toList [] ∧
    findEntry "Law 9007199254740993.0" "Law" =
      .ok ⟨"Law 9007199254740993.0", 9007199254740992⟩ := by
  decide +kernel

end Prospectus.Contents
