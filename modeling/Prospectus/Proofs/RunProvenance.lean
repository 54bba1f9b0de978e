import Mathlib.Data.List.Basic
import Mathlib.Data.List.Induction
import Prospectus.Pdf.Backend
import Prospectus.Proofs.TextOperators

/-!
# Where the runs of a page come from

The operations of a page are walked with a state that changes at every step.
Here the state is done away with: what a run says of its text and its font can
be read off the operations themselves.  An operation shows a run if it stands in
a text block, that is, if the latest of all operations before it that begin or
end a block begins one (`inBlock`); and the font is that of the latest key
selected before it (`keyInForce`), whatever blocks have begun and ended since.

The invariant is `inText_after` and `fontKey_after`: a walk from the beginning
of a page leads to the state that the two definitions give.  The step is what
one operation does to these two parts of the state (`inText_next`,
`fontKey_next`).
-/

namespace Prospectus.Pdf

/-- Whether an operation begins or ends a text block. -/
def Operation.boundsBlock (op : Operation) : Bool :=
  op.operator = "BT" || op.operator = "ET"

/-- The font key that an operation selects: a name, with at least one more
operand after it. -/
def Operation.selectedKey? (op : Operation) : Option Bytes :=
  match op.operator, op.operands with
  | "Tf", .name key :: _ :: _ => some key
  | _, _ => none

/-- Whether operations leave a text block open: the latest of those that begin
or end one begins it. -/
def inBlock (ops : List Operation) : Bool :=
  ((ops.filter (·.boundsBlock)).getLast?).any (·.operator = "BT")

/-- The font key that operations leave in force: the latest that was selected,
and the empty one before that. -/
def keyInForce (ops : List Operation) : Bytes :=
  (ops.filterMap (·.selectedKey?)).getLast?.getD []

/-- The name and the weight of the font of a key: of several fonts with the key,
the last one counts. -/
def fontOfKey (fonts : List FontInfo) (key : Bytes) : String × Option Float32 :=
  match (fonts.filter (·.key = key)).getLast? with
  | some info => (info.base, info.weight)
  | none => (Text.decodeUtf8Lossy key, none)

/-- What the operation at an index shows: a text with the name and the weight of
its font.  It shows nothing outside of a text block, without a proper operand,
or if the text is empty. -/
def shownAt? (context : TextContext) (ops : List Operation) (j : Nat) :
    Option (String × String × Option Float32) := do
  let op ← ops[j]?
  let key := keyInForce (ops.take j)
  let text ← op.shownText? (context.decode key)
  if inBlock (ops.take j) && !text.isEmpty
    then some (text, fontOfKey context.fonts key) else none

namespace TextState

/-! ## One operation -/

/-- Only operations that begin or end a text block change whether text is in
one. -/
theorem inText_next (s : TextState) (op : Operation) :
    (s.next op).inText = if op.boundsBlock then decide (op.operator = "BT")
      else s.inText := by
  obtain ⟨operator, operands⟩ := op
  unfold next apply Operation.boundsBlock
  dsimp only
  split
  case h_13 =>
    rename_i hbegin hend _ _ _ _ _ _ _ _ _ _
    simp [show operator ≠ "BT" from hbegin, show operator ≠ "ET" from hend]
  all_goals rfl

/-- Only operations that select a font key change the one in force. -/
theorem fontKey_next (s : TextState) (op : Operation) :
    (s.next op).fontKey = op.selectedKey?.getD s.fontKey := by
  obtain ⟨operator, operands⟩ := op
  unfold next apply
  dsimp only
  split
  case h_3 font size rest => cases font <;> rfl
  case h_13 =>
    rename_i hselect _ _ _ _ _
    have hnone : (⟨operator, operands⟩ : Operation).selectedKey? = none := by
      unfold Operation.selectedKey?
      split
      · rename_i key size rest hoperator hoperands
        exact (hselect _ size rest hoperator hoperands).elim
      · rfl
    rw [hnone]
    rfl
  all_goals rfl

/-- An operation that shows a text is none of those that change the text block
or the font. -/
theorem keeps_of_shownText? {op : Operation} {decode : Bytes → String}
    {text : String} (h : op.shownText? decode = some text) :
    op.boundsBlock = false ∧ op.selectedKey? = none := by
  obtain ⟨operator, operands⟩ := op
  unfold Operation.shownText? at h
  dsimp only at h
  split at h
  case h_5 => cases h
  all_goals exact ⟨rfl, rfl⟩

/-- The font of a state is that of its key. -/
theorem font_eq (s : TextState) (context : TextContext) :
    s.font context = fontOfKey context.fonts s.fontKey := by
  have hlast : (context.fonts.filter (·.key = s.fontKey)).getLast? =
      context.fonts.reverse.find? (·.key = s.fontKey) := by
    rw [← List.head?_reverse, ← List.filter_reverse, List.head?_filter]
  cases hfound : context.fonts.reverse.find? (·.key = s.fontKey) with
  | none => simp [font, fontOfKey, hlast, hfound]
  | some info => simp [font, fontOfKey, hlast, hfound]

/-- What a run says of its text and its font. -/
def label (run : Run) : String × String × Option Float32 :=
  (run.text, run.font, run.weight)

/-- **What one operation shows**, read off the operation, the key in force and
whether text is in a block. -/
theorem label_apply (context : TextContext) (s : TextState) (op : Operation) :
    (s.apply context op).2.map label =
      (op.shownText? (context.decode s.fontKey)).bind fun text =>
        if s.inText && !text.isEmpty
          then some (text, fontOfKey context.fonts s.fontKey) else none := by
  rw [apply_eq]
  cases hshown : op.shownText? (context.decode s.fontKey) with
  | none => rfl
  | some text =>
      obtain ⟨hbounds, hselected⟩ := keeps_of_shownText? hshown
      have hinText : (s.next op).inText = s.inText := by
        rw [inText_next, hbounds]; rfl
      have hkey : (s.next op).fontKey = s.fontKey := by
        rw [fontKey_next, hselected]; rfl
      simp only [Option.bind_some, run?, hinText, font_eq, hkey]
      cases s.inText <;> cases text.isEmpty <;> rfl

/-! ## From the beginning of a page -/

/-- **The text block**: text is in a block iff the latest operation that begins
or ends one begins it. -/
theorem inText_after (ops : List Operation) :
    (initial.after ops).inText = inBlock ops := by
  induction ops using List.reverseRecOn with
  | nil => rfl
  | append_singleton ops op ih =>
      rw [after_append, inBlock, List.filter_append]
      change ((initial.after ops).next op).inText = _
      rw [inText_next, ih]
      cases hbounds : op.boundsBlock with
      | true => simp [hbounds]
      | false => simp [hbounds, inBlock]

/-- **The font key**: the one in force is the latest that was selected. -/
theorem fontKey_after (ops : List Operation) :
    (initial.after ops).fontKey = keyInForce ops := by
  induction ops using List.reverseRecOn with
  | nil => rfl
  | append_singleton ops op ih =>
      rw [after_append, keyInForce, List.filterMap_append]
      change ((initial.after ops).next op).fontKey = _
      rw [fontKey_next, ih]
      cases hkey : op.selectedKey? with
      | none => simp [hkey, keyInForce]
      | some key => simp [hkey]

/-- The runs of a walk, operation by operation. -/
theorem runs_eq_filterMap (context : TextContext) (s : TextState)
    (ops : List Operation) :
    runs context s ops = (List.range ops.length).filterMap fun j =>
      ops[j]?.bind fun op => ((s.after (ops.take j)).apply context op).2 := by
  induction ops generalizing s with
  | nil => rfl
  | cons op ops ih =>
      rw [runs_cons, ih, List.length_cons, List.range_succ_eq_map,
        List.filterMap_cons, List.filterMap_map]
      have hfirst : ((op :: ops)[0]?.bind fun op' =>
        ((s.after ((op :: ops).take 0)).apply context op').2) =
          (s.apply context op).2 := rfl
      rw [hfirst]
      cases (s.apply context op).2 <;> rfl

/-- **The runs of a page from its beginning**, without the state. -/
theorem label_runs (context : TextContext) (ops : List Operation) :
    (runs context .initial ops).map label =
      (List.range ops.length).filterMap (shownAt? context ops) := by
  rw [runs_eq_filterMap, List.map_filterMap]
  apply List.filterMap_congr
  intro j _
  unfold shownAt?
  cases ops[j]? with
  | none => rfl
  | some op =>
      rw [← inText_after, ← fontKey_after]
      exact label_apply context (initial.after (ops.take j)) op

/-- No run is without a text. -/
theorem text_of_mem_runs {context : TextContext} {s : TextState}
    {ops : List Operation} {run : Run}
    (h : run ∈ runs context s ops) : run.text ≠ "" := by
  rw [runs_eq_filterMap] at h
  obtain ⟨j, -, hj⟩ := List.mem_filterMap.mp h
  obtain ⟨op, -, hrun⟩ := Option.bind_eq_some_iff.mp hj
  rw [apply_eq] at hrun
  obtain ⟨text, -, hshown⟩ := Option.bind_eq_some_iff.mp hrun
  unfold run? at hshown
  split at hshown
  · cases hshown
  · rename_i hsome
    cases hshown
    rintro rfl
    simp at hsome

end TextState

/-- **Where the runs of a page come from.**  If a page can be read, its runs
are, in order, what its operations show, one run for each operation that shows
something: a text that is not empty, decoded under the key in force, with the
name and the weight of the last font of that key.  A page without content has no
operations. -/
theorem Backend.pageRuns_show_operations {b : Backend} {page : ObjectId}
    {runs : List Run} (h : b.pageRuns page = .ok runs) :
    ∃ fonts content ops, b.fonts page = .ok fonts ∧ b.content page = .ok content ∧
      (if content.isEmpty then ops = [] else b.operations content = .ok ops) ∧
      runs.map (fun run => (run.text, run.font, run.weight)) =
        (List.range ops.length).filterMap (shownAt? ⟨fonts, b.text page⟩ ops) ∧
      ∀ run ∈ runs, run.text ≠ "" := by
  simp only [pageRuns, bind, Except.bind] at h
  cases hfonts : b.fonts page with
  | error e => simp [hfonts] at h
  | ok fonts =>
      cases hcontent : b.content page with
      | error e => simp [hfonts, hcontent] at h
      | ok content =>
          simp only [hfonts, hcontent] at h
          cases hempty : content.isEmpty with
          | true =>
              simp only [hempty, if_true] at h
              cases h
              exact ⟨fonts, content, [], rfl, rfl, by simp [hempty], rfl, by simp⟩
          | false =>
              simp only [hempty, Bool.false_eq_true, if_false] at h
              cases hops : b.operations content with
              | error e => simp [hops] at h
              | ok ops =>
                  simp only [hops] at h
                  cases h
                  exact ⟨fonts, content, ops, rfl, rfl, by simp [hempty, hops],
                    TextState.label_runs ⟨fonts, b.text page⟩ ops, fun _ =>
                      TextState.text_of_mem_runs⟩

/-- Letters in and out of text blocks, with a font selected between two of them,
a block that begins twice, and operands that are none. -/
def unevenOperations : List Operation :=
  [⟨"Tj", [.string [97]]⟩, ⟨"BT", []⟩, ⟨"Tj", [.string [98]]⟩, ⟨"ET", []⟩,
    ⟨"Tf", [.name [70], .integer 10]⟩, ⟨"Tj", [.string [99]]⟩, ⟨"BT", []⟩,
    ⟨"Tf", [.integer 1, .integer 9]⟩, ⟨"BT", []⟩, ⟨"TJ", [.string [100]]⟩,
    ⟨"TJ", [.array [.string [101], .integer 5, .string [102]]]⟩,
    ⟨"'", [.string []]⟩, ⟨"\"", [.other, .other, .string [103]]⟩]

/-- A backend in which every page has these operations, and two fonts of one
key. -/
def unevenBackend : Backend where
  pages := .empty
  fonts _ := .ok [⟨[70], "Arial", none⟩, ⟨[70], "Arial-Bold", some 700⟩]
  content _ := .ok [0]
  operations _ := .ok unevenOperations
  text _ _ bytes := Text.decodeUtf8Lossy bytes

/-- Three operations show a run: one before any font is selected, and two in the
second font of the key. -/
theorem unevenBackend_shows_operations :
    ∃ runs, unevenBackend.pageRuns ⟨1, 0⟩ = .ok runs ∧
      runs.map (fun run => (run.text, run.font, run.weight)) =
        [("b", "", none), ("ef", "Arial-Bold", some 700),
          ("g", "Arial-Bold", some 700)] := by
  have hread : ∃ runs, unevenBackend.pageRuns ⟨1, 0⟩ = .ok runs := ⟨_, rfl⟩
  obtain ⟨runs, hread⟩ := hread
  obtain ⟨fonts, content, ops, hfonts, hcontent, hops, hshown, -⟩ :=
    Backend.pageRuns_show_operations hread
  cases hfonts
  cases hcontent
  cases hops
  exact ⟨runs, hread, hshown.trans rfl⟩

end Prospectus.Pdf
