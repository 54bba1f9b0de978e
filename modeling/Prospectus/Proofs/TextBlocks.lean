import Prospectus.Proofs.RunProvenance

/-!
# Text blocks stand by themselves

A text block that selects its own font before it shows text, and sets its own
leading before it moves to a next line (`SelfContained`), shows the same runs
wherever it stands.  Beginning the block puts the place of the line back to its
start; font, size and leading are left over from before, but nothing looks at
them until the block has set them itself.

The relation that carries the proof is `AgreeAfter`: two states agree on what
the operations so far have set, and may differ elsewhere.  One operation keeps
it (`AgreeAfter.next`) and shows the same run in both states
(`AgreeAfter.shown_eq`), and so does the rest of the block
(`AgreeAfter.runs_eq`).
-/

namespace Prospectus.Pdf

namespace Operation

/-- The size that an operation selects together with a font. -/
def selectedSize? (op : Operation) : Option Float32 :=
  match op.operator, op.operands with
  | "Tf", _ :: size :: _ => some (size.number?.getD 12.0)
  | _, _ => none

/-- The leading that an operation sets: a number given for it, or how far a move
with two operands goes down. -/
def newLeading? (op : Operation) : Option Float32 :=
  match op.operator, op.operands with
  | "TL", leading :: _ => leading.number?
  | "TD", _ :: ty :: _ => some (-(ty.number?.getD 0.0))
  | _, _ => none

/-- Whether an operation is one of those that show text. -/
def isShowing (op : Operation) : Bool :=
  op.operator = "Tj" || op.operator = "TJ" || op.operator = "'" ||
    op.operator = "\""

/-- Whether an operation moves by the leading. -/
def movesByLeading (op : Operation) : Bool :=
  op.operator = "T*" || op.operator = "'" || op.operator = "\""

/-- Whether an operation selects a font: by a name, with at least one more
operand after it. -/
def selectsFont (op : Operation) : Bool := op.selectedKey?.isSome

def setsLeading (op : Operation) : Bool := op.newLeading?.isSome

/-- An operation that selects a font selects a size with it. -/
theorem isSome_selectedSize? {op : Operation} (h : op.selectsFont = true) :
    op.selectedSize?.isSome = true := by
  obtain ⟨operator, operands⟩ := op
  unfold selectsFont selectedKey? at h
  split at h
  · rename_i key size rest hoperator hoperands
    cases hoperator
    cases hoperands
    rfl
  · cases h

/-- An operation that is not one of those that show text has no text to show. -/
theorem shownText?_eq_none {op : Operation} (h : op.isShowing = false)
    (decode : Bytes → String) :
    op.shownText? decode = none := by
  obtain ⟨operator, operands⟩ := op
  unfold shownText?
  dsimp only
  split
  case h_5 => rfl
  all_goals simp [isShowing] at h

end Operation

/-- In a sequence, every operation that needs something stands after one that
provides it. -/
def ProvidedBefore (needs provides : Operation → Bool) (ops : List Operation) :
    Prop :=
  ∀ i : Fin ops.length, needs ops[i] = true → ∃ p ∈ ops.take i, provides p = true

instance (needs provides : Operation → Bool) (ops : List Operation) :
    Decidable (ProvidedBefore needs provides ops) :=
  inferInstanceAs (Decidable (∀ i : Fin ops.length, needs ops[i] = true →
    ∃ p ∈ ops.take i, provides p = true))

/-- A text block that does not rely on font, size and leading from before it. -/
structure SelfContained (ops : List Operation) : Prop where
  begins : ∃ operands rest, ops = ⟨"BT", operands⟩ :: rest
  font_selected : ProvidedBefore Operation.isShowing Operation.selectsFont ops
  leading_set : ProvidedBefore Operation.movesByLeading Operation.setsLeading ops

/-- What the next operation needs was provided by the operations done. -/
theorem ProvidedBefore.next {needs provides : Operation → Bool}
    {done rest : List Operation} {op : Operation}
    (h : ProvidedBefore needs provides (done ++ op :: rest))
    (hneeds : needs op = true) :
    ∃ p ∈ done, provides p = true := by
  have hlt : done.length < (done ++ op :: rest).length := by simp
  have hdone : (done ++ op :: rest).take done.length = done := by simp
  have hprovided := h ⟨done.length, hlt⟩ (by simpa using hneeds)
  rwa [hdone] at hprovided

namespace TextState

/-! ## One operation -/

/-- Only operations that select a size change it. -/
theorem fontSize_next (s : TextState) (op : Operation) :
    (s.next op).fontSize = op.selectedSize?.getD s.fontSize := by
  obtain ⟨operator, operands⟩ := op
  unfold next apply
  dsimp only
  split
  -- the last case is that of all other operations; they select nothing
  case h_13 =>
    rename_i hselect _ _ _ _ _
    have hnone : (⟨operator, operands⟩ : Operation).selectedSize? = none := by
      unfold Operation.selectedSize?
      split
      · rename_i font size rest hoperator hoperands
        exact (hselect font size rest hoperator hoperands).elim
      · rfl
    rw [hnone]
    rfl
  all_goals rfl

/-- Only operations that set the leading change it. -/
theorem leading_next (s : TextState) (op : Operation) :
    (s.next op).leading = op.newLeading?.getD s.leading := by
  obtain ⟨operator, operands⟩ := op
  unfold next apply
  dsimp only
  split
  case h_13 =>
    rename_i hset _ hmove _ _
    have hnone : (⟨operator, operands⟩ : Operation).newLeading? = none := by
      unfold Operation.newLeading?
      split
      · rename_i leading rest hoperator hoperands
        exact (hset leading rest hoperator hoperands).elim
      · rename_i tx ty rest hoperator hoperands
        exact (hmove tx ty rest hoperator hoperands).elim
      · rfl
    rw [hnone]
    rfl
  all_goals rfl

/-- The next place of the line hangs on the place before, and on the leading
where the operation moves by it. -/
theorem matrix_next_congr {s t : TextState} {op : Operation}
    (hmatrix : s.matrix = t.matrix)
    (hleading : op.movesByLeading = true → s.leading = t.leading) :
    (s.next op).matrix = (t.next op).matrix := by
  obtain ⟨operator, operands⟩ := op
  unfold next apply
  dsimp only
  split
  -- the three operators that move by the leading
  case h_8 | h_11 | h_12 =>
    have hsame : s.leading = t.leading := hleading rfl
    simp only [hmatrix, hsame]
  all_goals simp only [hmatrix]

/-- A run hangs on the text block, the font, its size and the place of the line. -/
theorem run?_congr {s t : TextState} (hblock : s.inText = t.inText)
    (hkey : s.fontKey = t.fontKey) (hsize : s.fontSize = t.fontSize)
    (hmatrix : s.matrix = t.matrix) (context : TextContext) :
    s.run? context = t.run? context := by
  funext text
  simp only [run?, font, hblock, hkey, hsize, hmatrix]

/-! ## Two states side by side -/

/-- Two states agree on the text block and the place of the line, and on font,
size and leading as far as the operations done have set them. -/
structure AgreeAfter (done : List Operation) (s t : TextState) : Prop where
  inText : s.inText = t.inText
  matrix : s.matrix = t.matrix
  font : (∃ p ∈ done, p.selectsFont = true) → s.fontKey = t.fontKey ∧
    s.fontSize = t.fontSize
  leading : (∃ p ∈ done, p.setsLeading = true) → s.leading = t.leading

/-- Beginning a text block brings any two states into agreement. -/
theorem agreeAfter_begin (s t : TextState) (operands : List Operand) :
    AgreeAfter [⟨"BT", operands⟩] (s.next ⟨"BT", operands⟩)
      (t.next ⟨"BT", operands⟩) := by
  refine ⟨rfl, rfl, ?_, ?_⟩
  · rintro ⟨p, hp, hselects⟩
    rw [List.mem_singleton.mp hp] at hselects
    cases hselects
  · rintro ⟨p, hp, hsets⟩
    rw [List.mem_singleton.mp hp] at hsets
    cases hsets

/-- **One operation keeps two states in agreement**, if the leading that it may
move by has been set. -/
theorem AgreeAfter.next {done : List Operation} {s t : TextState}
    (h : AgreeAfter done s t) {op : Operation}
    (hmoves : op.movesByLeading = true → ∃ p ∈ done, p.setsLeading = true) :
    AgreeAfter (done ++ [op]) (s.next op) (t.next op) := by
  constructor
  case inText => rw [inText_next, inText_next, h.inText]
  case matrix =>
    exact matrix_next_congr h.matrix fun hmove => h.leading (hmoves hmove)
  case font =>
    rintro ⟨p, hp, hselects⟩
    rw [fontKey_next, fontKey_next, fontSize_next, fontSize_next]
    rcases List.mem_append.mp hp with hdone | hlast
    · obtain ⟨hkey, hsize⟩ := h.font ⟨p, hdone, hselects⟩
      rw [hkey, hsize]
      exact ⟨rfl, rfl⟩
    · -- the operation itself selects a font, whatever was in force before
      rw [List.mem_singleton.mp hlast] at hselects
      obtain ⟨key, hkey⟩ := Option.isSome_iff_exists.mp hselects
      obtain ⟨size, hsize⟩ :=
        Option.isSome_iff_exists.mp (Operation.isSome_selectedSize? hselects)
      rw [hkey, hsize]
      exact ⟨rfl, rfl⟩
  case leading =>
    rintro ⟨p, hp, hsets⟩
    rw [leading_next, leading_next]
    rcases List.mem_append.mp hp with hdone | hlast
    · rw [h.leading ⟨p, hdone, hsets⟩]
    · rw [List.mem_singleton.mp hlast] at hsets
      obtain ⟨leading, hleading⟩ := Option.isSome_iff_exists.mp hsets
      rw [hleading]
      rfl

/-- **One operation shows the same run** in two states that agree, if what it
needs has been set. -/
theorem AgreeAfter.shown_eq {done : List Operation} {s t : TextState}
    (h : AgreeAfter done s t) {op : Operation}
    (hshows : op.isShowing = true → ∃ p ∈ done, p.selectsFont = true)
    (hmoves : op.movesByLeading = true → ∃ p ∈ done, p.setsLeading = true)
    (context : TextContext) :
    (s.apply context op).2 = (t.apply context op).2 := by
  rw [apply_eq, apply_eq]
  cases hshowing : op.isShowing with
  | false =>
      simp only [Operation.shownText?_eq_none hshowing, Option.bind_none]
  | true =>
      -- the bytes are decoded in the font before the operation, and the run is
      -- made in the state after it
      obtain ⟨p, hp, hselects⟩ := hshows hshowing
      have hnext := h.next hmoves
      obtain ⟨hkey, -⟩ := h.font ⟨p, hp, hselects⟩
      obtain ⟨hkey', hsize'⟩ :=
        hnext.font ⟨p, List.mem_append_left [op] hp, hselects⟩
      rw [run?_congr hnext.inText hkey' hsize' hnext.matrix context, hkey]

/-- **The rest of a block shows the same runs** in two states that agree on what
has been set. -/
theorem AgreeAfter.runs_eq {done rest : List Operation} {s t : TextState}
    (h : AgreeAfter done s t)
    (hfont : ProvidedBefore Operation.isShowing Operation.selectsFont
      (done ++ rest))
    (hleading : ProvidedBefore Operation.movesByLeading Operation.setsLeading
      (done ++ rest))
    (context : TextContext) : runs context s rest = runs context t rest := by
  induction rest generalizing done s t with
  | nil => rfl
  | cons op rest ih =>
      have hsplit : done ++ op :: rest = (done ++ [op]) ++ rest := by simp
      have hnext := h.next hleading.next
      rw [runs_cons, runs_cons, h.shown_eq hfont.next hleading.next context]
      rw [ih hnext (hsplit ▸ hfont) (hsplit ▸ hleading)]

end TextState

/-! ## Whole blocks -/

open TextState

/-- A block that is self-contained shows the same runs from any two states. -/
theorem SelfContained.runs_eq {block : List Operation} (h : SelfContained block)
    (s t : TextState)
    (context : TextContext) : runs context s block = runs context t block := by
  obtain ⟨operands, rest, rfl⟩ := h.begins
  have hagree := agreeAfter_begin s t operands
  rw [runs_cons, runs_cons, hagree.runs_eq h.font_selected h.leading_set context]
  rfl

theorem SelfContained.runs_after {block : List Operation}
    (h : SelfContained block) (before : List Operation)
    (context : TextContext) :
    runs context .initial (before ++ block) =
      runs context .initial before ++ runs context .initial block := by
  rw [runs_append, h.runs_eq (initial.after before) .initial context]

/-- **Text blocks compose.**  A self-contained block shows the same runs from
every state, so what other operations leave behind them has no part in it; put
behind any operations, it adds its runs to theirs; and two such blocks that
change places do no more than let their runs change places. -/
theorem SelfContained.runs_compose {block : List Operation}
    (h : SelfContained block) (context : TextContext) :
    (∀ s, runs context s block = runs context .initial block) ∧
    (∀ before, runs context .initial (before ++ block) =
      runs context .initial before ++ runs context .initial block) ∧
    ∀ other, SelfContained other → ∀ before,
      runs context .initial (before ++ block ++ other) =
        runs context .initial before ++ runs context .initial block ++
          runs context .initial other ∧
      runs context .initial (before ++ other ++ block) =
        runs context .initial before ++ runs context .initial other ++
          runs context .initial block := by
  refine ⟨fun s => h.runs_eq s .initial context,
    fun before => h.runs_after before context, ?_⟩
  intro other hother before
  constructor
  · rw [hother.runs_after, h.runs_after]
  · rw [h.runs_after, hother.runs_after]

/-- Operations that leave a font, a size, a leading and a place behind, and
their block open. -/
def leftovers : List Operation :=
  [⟨"BT", []⟩, ⟨"Tf", [.name [70], .integer 30]⟩, ⟨"TL", [.integer 7]⟩,
    ⟨"Td", [.integer 5, .integer 6]⟩, ⟨"Tj", [.string [97]]⟩]

/-- A block in a font of its own, with operands that are missing or of a wrong
kind before those that count. -/
def headingBlock : List Operation :=
  [⟨"BT", []⟩, ⟨"Tf", [.integer 1, .integer 9]⟩, ⟨"TL", [.other]⟩,
    ⟨"Tf", [.name [71], .other]⟩, ⟨"TL", [.real 14]⟩, ⟨"Tj", [.string [98]]⟩,
    ⟨"'", [.string [99]]⟩, ⟨"ET", []⟩]

/-- A block whose leading is set by a move. -/
def bodyBlock : List Operation :=
  [⟨"BT", []⟩, ⟨"TD", [.integer 0, .integer (-11)]⟩,
    ⟨"Tf", [.name [72], .integer 8]⟩, ⟨"T*", []⟩, ⟨"TJ", [.array [.string [100]]]⟩]

/-- Both blocks are self-contained; behind the leftovers they show their runs in
either order. -/
theorem headingBlock_bodyBlock_compose :
    SelfContained headingBlock ∧ SelfContained bodyBlock ∧
    (runs plainContext .initial (leftovers ++ headingBlock ++ bodyBlock)).map
      (fun run => (run.text, run.font)) =
      [("a", "F"), ("b", "G"), ("c", "G"), ("d", "H")] ∧
    (runs plainContext .initial (leftovers ++ bodyBlock ++ headingBlock)).map
      (fun run => (run.text, run.font)) =
      [("a", "F"), ("d", "H"), ("b", "G"), ("c", "G")] := by
  have hheading : SelfContained headingBlock := ⟨⟨_, _, rfl⟩, by decide, by decide⟩
  have hbody : SelfContained bodyBlock := ⟨⟨_, _, rfl⟩, by decide, by decide⟩
  obtain ⟨hinOrder, hswapped⟩ :=
    (hheading.runs_compose plainContext).2.2 bodyBlock hbody leftovers
  refine ⟨hheading, hbody, ?_, ?_⟩
  · rw [hinOrder]
    decide +kernel
  · rw [hswapped]
    decide +kernel

end Prospectus.Pdf
