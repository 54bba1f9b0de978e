import Prospectus.Json.Writer
import Prospectus.Proofs.JsonGrammar

/-!
# Values read back from their text

The text of a value, in one line or over several, is a way to write it
(`Writable.writes_compact`, `Writable.writes_pretty`), and so the value is read
back from it.  Characters are written in three ways, each of which spells one
piece (`pieceOf`), and the two layouts differ only in the blanks that they put
around items and names (`writes_elements`, `writes_fields`).

A value is `Writable` if all its strings are texts and all its numbers are as
numbers may be written: the reader also makes strings that are no texts, and
those are not written as they were read.
-/

namespace Prospectus.Json

/-! ## Strings -/

/-- The piece that stands for a character: control characters without a letter
of their own are named by a unit. -/
def pieceOf (c : Char) : Piece :=
  if c.toNat < 0x20 ∧ c ≠ '\x08' ∧ c ≠ '\t' ∧ c ≠ '\n' ∧ c ≠ '\x0c' ∧ c ≠ '\r'
    then .inr c.toNat.toUInt16
  else .inl c

theorem hexUnit?_control : ∀ n < 0x20,
    hexUnit? '0' '0' (hexDigit (n / 16)) (hexDigit (n % 16)) = some n.toUInt16 := by
  decide

/-- The three ways to write a character: by a letter, by a number, and as it is. -/
theorem escapeChar_cases (c : Char) :
    (∃ letter, letter ≠ 'u' ∧ escapeOf? letter = some c ∧
      escapeChar c = ['\\', letter] ∧ pieceOf c = .inl c) ∨
      c.toNat < 0x20 ∧
        escapeChar c = ['\\', 'u', '0', '0', hexDigit (c.toNat / 16),
          hexDigit (c.toNat % 16)] ∧
        pieceOf c = .inr c.toNat.toUInt16 ∨
      c ≠ '"' ∧ c ≠ '\\' ∧ ¬c.toNat < 0x20 ∧ escapeChar c = [c] ∧
      pieceOf c = .inl c := by
  by_cases hquote : c = '"'
  · subst c
    exact Or.inl ⟨'"', by decide⟩
  by_cases hbackslash : c = '\\'
  · subst c
    exact Or.inl ⟨'\\', by decide⟩
  by_cases hb : c = '\x08'
  · subst c
    exact Or.inl ⟨'b', by decide⟩
  by_cases ht : c = '\t'
  · subst c
    exact Or.inl ⟨'t', by decide⟩
  by_cases hn : c = '\n'
  · subst c
    exact Or.inl ⟨'n', by decide⟩
  by_cases hf : c = '\x0c'
  · subst c
    exact Or.inl ⟨'f', by decide⟩
  by_cases hr : c = '\r'
  · subst c
    exact Or.inl ⟨'r', by decide⟩
  unfold escapeChar pieceOf
  rw [if_neg hquote, if_neg hbackslash, if_neg hb, if_neg ht, if_neg hn,
    if_neg hf, if_neg hr]
  by_cases hcontrol : c.toNat < 0x20
  · rw [if_pos hcontrol, if_pos ⟨hcontrol, hb, ht, hn, hf, hr⟩]
    exact Or.inr (Or.inl ⟨hcontrol, rfl, rfl⟩)
  · rw [if_neg hcontrol, if_neg fun h => hcontrol h.1]
    exact Or.inr (Or.inr ⟨hquote, hbackslash, hcontrol, rfl, rfl⟩)

/-- A written character spells its piece. -/
theorem spells_escapeChar (c : Char) : Spells (escapeChar c) (pieceOf c) := by
  rcases escapeChar_cases c with ⟨letter, -, hc, hchars, hpiece⟩ |
    ⟨hcontrol, hchars, hpiece⟩ |
    ⟨hquote, hbackslash, hplain, hchars, hpiece⟩
  · rw [hchars, hpiece]
    exact .letter hc
  · rw [hchars, hpiece]
    exact .unit (hexUnit?_control c.toNat hcontrol)
  · rw [hchars, hpiece]
    exact .plain hquote hbackslash hplain

theorem spellsAll_escaped (cs : List Char) :
    SpellsAll (cs.flatMap escapeChar) (cs.map pieceOf) := by
  induction cs with
  | nil => exact .nil
  | cons c cs ih => exact .cons (spells_escapeChar c) ih

/-- A control character is no half of a pair. -/
theorem control_not_surrogate :
    ∀ n < 0x20, Text.isHighSurrogate n.toUInt16 = false ∧
    Text.isLowSurrogate n.toUInt16 = false ∧ n.toUInt16.toNat = n := by
  decide

/-- The piece of a character gives back the character, whatever comes after it. -/
theorem joinPieces_pieceOf (c : Char) (pieces : List Piece) :
    joinPieces (pieceOf c :: pieces) = (joinPieces pieces).map (c :: ·) := by
  rcases escapeChar_cases c with ⟨-, -, -, -, hpiece⟩ | ⟨hcontrol, -, hpiece⟩ |
    ⟨-, -, -, -, hpiece⟩
  · rw [hpiece, joinPieces]
  · obtain ⟨hhigh, hlow, hnat⟩ := control_not_surrogate c.toNat hcontrol
    rw [hpiece]
    -- the reader looks for the second half of a pair only where a unit follows
    rcases pieces with _ | ⟨d | v, pieces⟩
    all_goals simp [joinPieces, hhigh, hlow, hnat]
  · rw [hpiece, joinPieces]

theorem joinPieces_map (cs : List Char) :
    joinPieces (cs.map pieceOf) = some cs := by
  induction cs with
  | nil => rfl
  | cons c cs ih =>
    rw [List.map_cons, joinPieces_pieceOf, ih]
    rfl

theorem bodyOf_map (s : String) : bodyOf (s.toList.map pieceOf) = some s := by
  rw [bodyOf, joinPieces_map, Option.map_some, String.ofList_toList]

/-- A text is written between quotes. -/
theorem writes_text (s : String) :
    Writes (stringChars (some s)) (.value (.text s)) := by
  have h := Writes.string (spellsAll_escaped s.toList)
  rw [bodyOf_map] at h
  exact h

/-- A name is written with its colon, after blanks. -/
theorem writesName_text {gap : List Char} (hgap : Spaces gap) (name : String) :
    WritesName (gap ++ (stringChars (some name) ++ [':'])) (some name) := by
  have h := WritesName.mk hgap (spellsAll_escaped name.toList) Spaces.nil
  rw [bodyOf_map] at h
  simpa [stringChars] using h

end Prospectus.Json

/-! ## Numbers -/

namespace Prospectus.Number.Numeral

theorem isDigit_of_mem_toDigits {n : Nat} : ∀ c ∈ Nat.toDigits 10 n, c.isDigit :=
  fun _ => Nat.isDigit_of_mem_toDigits (by decide) (by decide)

theorem isDigit_of_mem_replicate {k : Nat} :
    ∀ c ∈ List.replicate k '0', c.isDigit := by
  intro c hc
  rw [List.eq_of_mem_replicate hc]
  rfl

theorem digitChar_ne_zero : ∀ n < 10, 0 < n → n.digitChar ≠ '0' := by
  decide

/-- A positive number does not begin with a zero. -/
theorem head?_toDigits {n : Nat} (hn : 0 < n) :
    (Nat.toDigits 10 n).head? ≠ some '0' := by
  induction n using Nat.strongRecOn with
  | _ n ih =>
    rw [Nat.toDigits_eq_if (by decide)]
    split
    · rename_i hlt
      exact fun h => digitChar_ne_zero n hlt hn (Option.some.inj h)
    · rename_i hge
      have ih := ih (n / 10) (by omega) (by omega)
      obtain ⟨first, others, hdigits⟩ :=
        List.exists_cons_of_ne_nil (@Nat.toDigits_ne_nil (n / 10) 10)
      rw [hdigits] at ih ⊢
      exact ih

theorem wellFormed_ofInt (i : Int) : (ofInt i).WellFormed where
  whole_ne_nil := Nat.toDigits_ne_nil
  whole_digits := isDigit_of_mem_toDigits
  no_leading_zero := by
    intro hzero
    by_cases hi : i.natAbs = 0
    · rw [ofInt, hi]
      rfl
    · exact absurd hzero (head?_toDigits (Nat.pos_of_ne_zero hi))
  fraction_digits := by simp [ofInt]
  exponent_digits := by simp [ofInt]

end Prospectus.Number.Numeral

namespace Prospectus.Json

open Number

/-- A numeral is written by its characters. -/
theorem writesNumber_chars {n : Numeral} (hn : n.WellFormed) :
    WritesNumber n.chars n := by
  unfold Numeral.chars
  rw [List.append_assoc, List.append_assoc]
  rcases hexponent : n.exponent with _ | ⟨negative, digits⟩
  · refine .mk hn ?_
    rw [hexponent]
    exact .absent
  · have hsign : [if negative then '-' else '+'] ∈ if negative then [['-']]
      else [[], ['+']] := by
      cases negative <;> simp
    refine .mk hn ?_
    rw [hexponent]
    exact .written List.mem_cons_self hsign

/-! ## Values -/

/-- A value that its text gives back: its strings are texts, and its numbers are
as numbers may be written. -/
inductive Writable : Value → Prop
  | null : Writable .null
  | bool (b : Bool) : Writable (.bool b)
  | number {n : Numeral} (hn : n.WellFormed) : Writable (.number n)
  | text (s : String) : Writable (.text s)
  | array {items : List Value}
      (hitems : ∀ v ∈ items, Writable v) : Writable (.array items)
  | record {fields : List (String × Value)}
      (hfields : ∀ field ∈ fields, Writable field.2) :
    Writable (.record fields)

theorem writable_text? (s : Option String) : Writable (.text? s) := by
  cases s with
  | none => exact .null
  | some s => exact .text s

theorem writable_int (i : Int) : Writable (.int i) :=
  .number (Numeral.wellFormed_ofInt i)

/-- A field of a record among the fields of an object. -/
def entry (field : String × Value) : StringBody × Value := (some field.1, field.2)

theorem Value.record_eq (fields : List (String × Value)) :
    Value.record fields = .object (fields.map entry) :=
  rfl

/-- Items with commas between them are elements, each with the blanks that its
own text has, and the last one with those that follow. -/
theorem writes_elements (write : Value → List Char)
    (join : List Value → List Char) (hone : ∀ v, join [v] = write v)
    (hmore : ∀ v w vs, join (v :: w :: vs) = write v ++ ',' :: join (w :: vs))
    {items : List Value} (hne : items ≠ [])
    (hitems : ∀ v ∈ items, ∀ gap, Spaces gap →
      Writes (write v ++ gap) (.element v)) {gap : List Char}
    (hgap : Spaces gap) :
    Writes (join items ++ gap) (.elements items) := by
  induction items with
  | nil => exact absurd rfl hne
  | cons v items ih =>
      obtain ⟨hv, hitems⟩ := List.forall_mem_cons.mp hitems
      cases items with
      | nil =>
          rw [hone]
          exact .oneElement (hv gap hgap)
      | cons w items =>
          have hfirst := hv [] .nil
          rw [List.append_nil] at hfirst
          rw [hmore, List.append_assoc, List.cons_append]
          exact .moreElements hfirst (ih (List.cons_ne_nil w items) hitems)

/-- Fields with commas between them, in the same way. -/
theorem writes_fields (write : String × Value → List Char)
    (join : List (StringBody × Value) → List Char)
    (hone : ∀ f, join [entry f] = write f)
    (hmore : ∀ f g fs, join (entry f :: entry g :: fs) =
      write f ++ ',' :: join (entry g :: fs))
    {fields : List (String × Value)} (hne : fields ≠ [])
    (hfields : ∀ f ∈ fields, ∀ gap, Spaces gap →
      ∃ name text, write f ++ gap = name ++ text ∧ WritesName name (some f.1) ∧
        Writes text (.element f.2))
    {gap : List Char} (hgap : Spaces gap) :
    Writes (join (fields.map entry) ++ gap) (.fields (fields.map entry)) := by
  induction fields with
  | nil => exact absurd rfl hne
  | cons f fields ih =>
      obtain ⟨hf, hfields⟩ := List.forall_mem_cons.mp hfields
      cases fields with
      | nil =>
          obtain ⟨name, text, htext, hname, hv⟩ := hf gap hgap
          rw [List.map_cons, List.map_nil, hone, htext]
          exact .oneField hname hv
      | cons g fields =>
          obtain ⟨name, text, htext, hname, hv⟩ := hf [] .nil
          rw [List.append_nil] at htext
          have htail := ih (List.cons_ne_nil g fields) hfields
          rw [List.map_cons] at htail
          rw [List.map_cons, List.map_cons, hmore, htext, List.append_assoc,
            List.append_assoc, List.cons_append]
          exact .moreFields hname hv htail

/-! ### In one line -/

theorem writes_compactArray {items : List Value}
    (hitems : ∀ v ∈ items, Writes (compactChars v) (.value v)) :
    Writes (compactChars (.array items)) (.value (.array items)) := by
  rw [compactChars]
  cases items with
  | nil => exact .emptyArray .nil
  | cons v items =>
      have hmore : ∀ v w vs, compactItems (v :: w :: vs) =
          compactChars v ++ ',' :: compactItems (w :: vs) := by
        intro v w vs
        rw [compactItems]
        simp
      have h := writes_elements compactChars compactItems
        (fun v => by rw [compactItems]) hmore
        (List.cons_ne_nil v items)
        (fun v hv gap hgap => .element .nil (hitems v hv) hgap) .nil
      rw [List.append_nil] at h
      exact .array h

theorem writes_compactRecord {fields : List (String × Value)}
    (hfields : ∀ field ∈ fields, Writes (compactChars field.2) (.value field.2)) :
    Writes (compactChars (.record fields)) (.value (.record fields)) := by
  rw [Value.record_eq, compactChars]
  cases fields with
  | nil => exact .emptyObject .nil
  | cons field fields =>
      have hmore : ∀ (f g : String × Value) fs,
          compactFields (entry f :: entry g :: fs) =
          stringChars (some f.1) ++ ':' :: compactChars f.2 ++ ',' ::
            compactFields (entry g :: fs) := by
        intro f g fs
        rw [entry, compactFields]
        simp
      have h := writes_fields (fun f => stringChars (some f.1) ++ ':' ::
        compactChars f.2) compactFields
        (fun f => by rw [entry, compactFields]) hmore
          (List.cons_ne_nil field fields) (fun f hf gap hgap =>
          ⟨_, _, by simp, writesName_text .nil f.1,
            .element .nil (hfields f hf) hgap⟩) .nil
      rw [List.append_nil] at h
      exact .object h

/-- **The text of a value in one line is a way to write it.** -/
theorem Writable.writes_compact {v : Value} (hv : Writable v) :
    Writes (compactChars v) (.value v) := by
  induction hv with
  | null => exact .null
  | bool b =>
    cases b with
    | true => exact .boolTrue
    | false => exact .boolFalse
  | number hn => exact .number (writesNumber_chars hn)
  | text s => exact writes_text s
  | array hitems ih => exact writes_compactArray ih
  | record hfields ih => exact writes_compactRecord ih

/-- A value is read back from its text in one line. -/
theorem Writable.read?_compact {v : Value} (hv : Writable v) :
    Value.read? v.compact = some v := by
  refine read?_eq_some_iff.mpr ?_
  have h := Writes.element .nil hv.writes_compact .nil
  rw [List.nil_append, List.append_nil] at h
  rw [Written, Value.compact, String.toList_ofList]
  exact h

/-! ### Over several lines -/

theorem spaces_newLine (level : Nat) : Spaces (newLine level) := by
  refine List.forall_mem_cons.mpr ⟨rfl, ?_⟩
  intro c hc
  rw [List.eq_of_mem_replicate hc]
  rfl

theorem writes_prettyArray {level : Nat} {items : List Value}
    (hitems : ∀ v ∈ items, Writes (prettyChars (level + 1) v) (.value v)) :
    Writes (prettyChars level (.array items)) (.value (.array items)) := by
  cases items with
  | nil => exact .emptyArray .nil
  | cons v items =>
      have hmore : ∀ v w vs, prettyItems (level + 1) (v :: w :: vs) =
          newLine (level + 1) ++ prettyChars (level + 1) v ++ ',' ::
            prettyItems (level + 1) (w :: vs) := by
        intro v w vs
        rw [prettyItems]
        simp
      have helement : ∀ w ∈ v :: items, ∀ gap, Spaces gap →
          Writes (newLine (level + 1) ++ prettyChars (level + 1) w ++ gap)
            (.element w) := by
        intro w hw gap hgap
        rw [List.append_assoc]
        exact .element (spaces_newLine _) (hitems w hw) hgap
      have h := writes_elements _ (prettyItems (level + 1))
        (fun v => by rw [prettyItems]) hmore
        (List.cons_ne_nil v items)
        helement (spaces_newLine level)
      rw [prettyChars]
      · exact .array h
      · simp

theorem writes_prettyRecord {level : Nat} {fields : List (String × Value)}
    (hfields : ∀ field ∈ fields,
      Writes (prettyChars (level + 1) field.2) (.value field.2)) :
    Writes (prettyChars level (.record fields)) (.value (.record fields)) := by
  rw [Value.record_eq]
  cases fields with
  | nil => exact .emptyObject .nil
  | cons field fields =>
      have hmore : ∀ (f g : String × Value) fs,
          prettyFields (level + 1) (entry f :: entry g :: fs) =
          newLine (level + 1) ++ stringChars (some f.1) ++ ':' :: ' ' ::
            prettyChars (level + 1) f.2 ++
            ',' :: prettyFields (level + 1) (entry g :: fs) := by
        intro f g fs
        rw [entry, prettyFields]
        simp
      have hfield : ∀ f ∈ field :: fields, ∀ gap, Spaces gap → ∃ name text,
          newLine (level + 1) ++ stringChars (some f.1) ++ ':' :: ' ' ::
            prettyChars (level + 1) f.2 ++ gap = name ++ text ∧
            WritesName name (some f.1) ∧ Writes text (.element f.2) := by
        intro f hf gap hgap
        have hblank : Spaces [' '] := List.forall_mem_singleton.mpr rfl
        exact ⟨_, _, by simp, writesName_text (spaces_newLine (level + 1)) f.1,
          .element hblank (hfields f hf) hgap⟩
      have h := writes_fields _ (prettyFields (level + 1))
        (fun f => by rw [entry, prettyFields]) hmore
        (List.cons_ne_nil field fields) hfield (spaces_newLine level)
      rw [prettyChars]
      · exact .object h
      · simp

/-- **The text of a value over several lines is a way to write it**, at every
level of indentation. -/
theorem Writable.writes_pretty {v : Value} (hv : Writable v) (level : Nat) :
    Writes (prettyChars level v) (.value v) := by
  induction hv generalizing level with
  | null => exact .null
  | bool b =>
    cases b with
    | true => exact .boolTrue
    | false => exact .boolFalse
  | number hn => exact .number (writesNumber_chars hn)
  | text s => exact writes_text s
  | array hitems ih => exact writes_prettyArray fun v hv => ih v hv (level + 1)
  | record hfields ih =>
    exact writes_prettyRecord fun field hfield => ih field hfield (level + 1)

/-- A value is read back from its text over several lines. -/
theorem Writable.read?_pretty {v : Value} (hv : Writable v) :
    Value.read? v.pretty = some v := by
  refine read?_eq_some_iff.mpr ?_
  have h := Writes.element .nil (hv.writes_pretty 0) .nil
  rw [List.nil_append, List.append_nil] at h
  rw [Written, Value.pretty, String.toList_ofList]
  exact h

end Prospectus.Json
