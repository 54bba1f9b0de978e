import Prospectus.Pdf.TextState

/-!
# Operations on text, one by one and in sequence

An operation does two things: it changes the text state, and it may show a text.
`apply_eq` takes them apart.  The state after an operation (`next`) hangs
neither on the fonts of the page nor on how strings are decoded; and what is
shown is a text that can be read off the operation (`Operation.shownText?`), in
the state after it.

A sequence of operations is then a walk: `after` is the state that it leads to,
and `runs_append` lets a walk be cut at any place.  Operations that are short
for others (`Spells`) can be written out anywhere in a sequence, as many of them
as one likes (`WrittenOut`), without any effect on what is shown.
-/

namespace Prospectus.Pdf

/-- The text of an operand, if it is a string. -/
def stringText? (decode : Bytes → String) : Option Operand → Option String
  | some (.string bytes) => some (decode bytes)
  | _ => none

/-- The text of an operand, if it is an array of strings and adjustments. -/
def arrayText? (decode : Bytes → String) : Option Operand → Option String
  | some (.array items) => some (joinItems decode items)
  | _ => none

/-- The text that an operation shows, if the operand for it is what its operator
asks for. -/
def Operation.shownText? (decode : Bytes → String) (op : Operation) :
    Option String :=
  match op.operator with
  | "Tj" | "'" => stringText? decode op.operands[0]?
  | "\"" => stringText? decode op.operands[2]?
  | "TJ" => arrayText? decode op.operands[0]?
  | _ => none

/-- Operands that do not begin with an array have no text as an array. -/
theorem arrayText?_eq_none {decode : Bytes → String} {operands : List Operand}
    (h : ∀ items rest, operands ≠ .array items :: rest) :
    arrayText? decode operands[0]? = none := by
  cases operands with
  | nil => rfl
  | cons operand rest =>
      cases operand with
      | array items => exact absurd rfl (h items rest)
      | integer i | real x | name key | string bytes | other => rfl

namespace TextState

/-- The state after an operation, in a context without fonts and texts. -/
def next (s : TextState) (op : Operation) : TextState :=
  (s.apply ⟨[], fun _ _ => ""⟩ op).1

/-- The run for an operand is the run for its text. -/
theorem show?_eq (s : TextState) (context : TextContext)
    (operand : Option Operand) :
    s.show? context operand =
      (stringText? (context.decode s.fontKey) operand).bind (s.run? context) := by
  cases operand with
  | none => rfl
  | some operand => cases operand <;> rfl

/-- **One operation** leads to the next state, whatever the context, and shows
its text there. -/
theorem apply_eq (context : TextContext) (s : TextState) (op : Operation) :
    s.apply context op =
      (s.next op, (op.shownText? (context.decode s.fontKey)).bind
        ((s.next op).run? context)) := by
  obtain ⟨operator, operands⟩ := op
  unfold next apply
  dsimp only
  split
  case h_9 | h_11 | h_12 =>
    -- a string is shown
    rw [show?_eq]
    rfl
  case h_13 =>
    -- nothing is shown, since operator or operands are none of the above
    rename_i hshow hquote hdouble _ _ _ _ _ harray
    have hnone : (⟨operator, operands⟩ : Operation).shownText?
        (context.decode s.fontKey) = none := by
      unfold Operation.shownText?
      dsimp only
      split
      · exact absurd rfl hshow
      · exact absurd rfl hquote
      · exact absurd rfl hdouble
      · exact arrayText?_eq_none fun items rest => harray items rest rfl
      · rfl
    rw [hnone]
    rfl
  all_goals rfl

/-- The next state does not hang on the context. -/
theorem fst_apply (context : TextContext) (s : TextState) (op : Operation) :
    (s.apply context op).1 = s.next op := by
  rw [apply_eq]

/-! ## Walks -/

/-- The state after operations. -/
def after (s : TextState) (ops : List Operation) : TextState := ops.foldl next s

/-- Operations after other operations. -/
theorem after_append (s : TextState) (ops more : List Operation) :
    s.after (ops ++ more) = (s.after ops).after more :=
  List.foldl_append

/-- The runs of one operation and of those after it. -/
theorem runs_cons (context : TextContext) (s : TextState) (op : Operation)
    (ops : List Operation) :
    runs context s (op :: ops) =
      (s.apply context op).2.toList ++ runs context (s.next op) ops := by
  rw [← fst_apply context]
  rfl

/-- **A walk can be cut**: the operations behind the cut go on from the state
that those before it lead to. -/
theorem runs_append (context : TextContext) (s : TextState)
    (ops more : List Operation) :
    runs context s (ops ++ more) =
      runs context s ops ++ runs context (s.after ops) more := by
  induction ops generalizing s with
  | nil => rfl
  | cons op ops ih =>
      rw [List.cons_append, runs_cons, runs_cons, ih, List.append_assoc]
      rfl

/-! ## Operations that are short for others -/

/-- In a state, an operation is short for others.  Showing on the next line is
moving there and showing; moving with a new leading is setting the leading and
moving; a string is an array with nothing else in it; and the next line is one
leading below. -/
inductive Spells (s : TextState) : Operation → List Operation → Prop
  | showOnNextLine (operands : List Operand) :
      Spells s ⟨"'", operands⟩ [⟨"T*", []⟩, ⟨"Tj", operands⟩]
  | showSpacedOnNextLine (operands : List Operand) :
      Spells s ⟨"\"", operands⟩ [⟨"T*", []⟩, ⟨"Tj", operands.drop 2⟩]
  | moveSettingLeading (tx : Operand) {ty : Operand} {y : Float32}
      (hy : ty.number? = some y)
      (rest : List Operand) :
      Spells s ⟨"TD", tx :: ty :: rest⟩ [⟨"TL", [.real (-y)]⟩, ⟨"Td", [tx, ty]⟩]
  | showString (bytes : Bytes) (rest : List Operand) :
      Spells s ⟨"Tj", .string bytes :: rest⟩ [⟨"TJ", [.array [.string bytes]]⟩]
  | nextLine (operands : List Operand) {zero : Operand}
      (hzero : zero.number? = some 0.0) :
      Spells s ⟨"T*", operands⟩ [⟨"Td", [zero, .real (-s.leading)]⟩]

/-- The number that a real number is. -/
theorem number?_real (x : Float32) : (Operand.real x).number? = some x := rfl

/-- An array that holds one string has the text of the string. -/
theorem joinItems_singleton (decode : Bytes → String) (bytes : Bytes) :
    joinItems decode [.string bytes] = decode bytes := by
  simp [joinItems, joinItem]

/-- **An operation does what it is short for**: the operations that spell it out
lead to the same state and show the same. -/
theorem Spells.walk_eq {s : TextState} {op : Operation}
    {spelled : List Operation} (h : Spells s op spelled)
    (context : TextContext) :
    s.after spelled = s.next op ∧ runs context s spelled = runs context s [op] := by
  cases h with
  | showOnNextLine operands => exact ⟨rfl, rfl⟩
  | showSpacedOnNextLine operands =>
      have hthird : (operands.drop 2)[0]? = operands[2]? := by
        rw [List.getElem?_drop]
      refine ⟨rfl, ?_⟩
      simp only [runs, apply, hthird]
      rfl
  | moveSettingLeading tx hy rest =>
      refine ⟨?_, rfl⟩
      simp [after, next, apply, number?_real, hy]
  | showString bytes rest =>
      refine ⟨rfl, ?_⟩
      simp [runs, apply, show?, joinItems_singleton]
  | nextLine operands hzero =>
      refine ⟨?_, rfl⟩
      simp [after, next, apply, number?_real, hzero, TextMatrix.nextLine]

/-- From a state on, operations are others with some of them written out. -/
inductive WrittenOut : TextState → List Operation → List Operation → Prop
  | nil (s : TextState) : WrittenOut s [] []
  | keep {s : TextState} {ops written : List Operation} (op : Operation)
      (h : WrittenOut (s.next op) ops written) :
      WrittenOut s (op :: ops) (op :: written)
  | spell {s : TextState} {op : Operation}
      {spelled ops written : List Operation} (hop : Spells s op spelled)
      (h : WrittenOut (s.next op) ops written) :
      WrittenOut s (op :: ops) (spelled ++ written)

/-- **Writing out shows nothing new.**  However many operations of a sequence
are written out, it shows the same runs, in the same fonts, sizes and places,
and leads to the same state. -/
theorem writtenOut_shows_same_runs {s : TextState}
    {ops written : List Operation} (h : WrittenOut s ops written)
    (context : TextContext) :
    runs context s written = runs context s ops ∧
    s.after written = s.after ops := by
  induction h with
  | nil s => exact ⟨rfl, rfl⟩
  | @keep s ops written op _ ih =>
      obtain ⟨hruns, hafter⟩ := ih
      refine ⟨?_, hafter⟩
      rw [runs_cons, runs_cons, hruns]
  | @spell s op spelled ops written hop _ ih =>
      obtain ⟨hruns, hafter⟩ := ih
      obtain ⟨hnext, hshown⟩ := hop.walk_eq context
      constructor
      · calc runs context s (spelled ++ written)
          _ = runs context s spelled ++ runs context (s.after spelled)
            written := runs_append ..
          _ = runs context s [op] ++ runs context (s.next op) ops := by
            rw [hshown, hnext, hruns]
          _ = runs context s (op :: ops) := (runs_append context s [op] ops).symm
      · rw [after_append, hnext, hafter]
        rfl

/-- Three letters on three lines, with every operation that is short for others. -/
def tersePage : List Operation :=
  [⟨"BT", []⟩, ⟨"Tf", [.name [70], .integer 10]⟩,
    ⟨"TD", [.integer 50, .real 20]⟩, ⟨"T*", []⟩, ⟨"Tj", [.string [97]]⟩,
    ⟨"'", [.string [98]]⟩, ⟨"\"", [.integer 1, .integer 2, .string [99]]⟩,
    ⟨"ET", []⟩]

/-- The same page with each of them written out. -/
def spelledPage : List Operation :=
  [⟨"BT", []⟩, ⟨"Tf", [.name [70], .integer 10]⟩, ⟨"TL", [.real (-20)]⟩,
    ⟨"Td", [.integer 50, .real 20]⟩, ⟨"Td", [.integer 0, .real (-(-20))]⟩,
    ⟨"TJ", [.array [.string [97]]]⟩, ⟨"T*", []⟩, ⟨"Tj", [.string [98]]⟩,
    ⟨"T*", []⟩, ⟨"Tj", [.string [99]]⟩, ⟨"ET", []⟩]

/-- A context without fonts, with strings in UTF-8. -/
def plainContext : TextContext := ⟨[], fun _ bytes => Text.decodeUtf8Lossy bytes⟩

/-- The page that is written out shows the three letters just as the terse page
does. -/
theorem spelledPage_shows_tersePage :
    WrittenOut .initial tersePage spelledPage ∧
      runs plainContext .initial spelledPage =
        runs plainContext .initial tersePage ∧
      (runs plainContext .initial spelledPage).map (·.text) = ["a", "b", "c"] := by
  have hzero : (Operand.integer 0).number? = some 0.0 := rfl
  have hwritten : WrittenOut .initial tersePage spelledPage :=
    .keep _ <| .keep _ <| .spell (.moveSettingLeading (.integer 50) rfl []) <|
      .spell (.nextLine [] hzero) <| .spell (.showString [97] []) <|
        .spell (.showOnNextLine [.string [98]]) <|
          .spell (.showSpacedOnNextLine
            [.integer 1, .integer 2, .string [99]]) <| .keep _ (.nil _)
  have hsame := (writtenOut_shows_same_runs hwritten plainContext).1
  refine ⟨hwritten, hsame, ?_⟩
  rw [hsame]
  decide +kernel

end TextState

end Prospectus.Pdf
