import Prospectus.Proofs.EntryReading

/-!
# Composing a text line by line

Control characters such as line feeds and carriage returns take no part in
canonical composition: they are not taken apart, they compose with nothing
before or after them, and nothing else becomes one (`decompose_control`,
`compose?_of_control`, `le_of_compose?`; each rests on one check of a table).
So a control character cuts the composed form of a text
(`composedPoints_append`), and the lines of the composed form are the composed
forms of the lines (`lined_composedChars`).
-/

namespace Prospectus.Text

/-! ## Tables -/

/-- What is found in a table is one of its entries. -/
theorem mem_of_lastAtMost {α : Type} {entries : Array (Nat × α)}
    {key low high : Nat} {entry : Nat × α}
    (h : lastAtMost entries key low high = some entry) : entry ∈ entries := by
  fun_induction lastAtMost entries key low high with
  | case1 low high hmore middle hnone ih => exact ih h
  | case2 low high hmore middle k a hsome hle ih => exact ih h
  | case3 low high hmore middle k a hsome hgt ih => exact ih h
  | case4 low high hless k a hsome hentry =>
      obtain rfl := Option.some.inj h
      exact Array.mem_of_getElem? hsome
  | case5 => cases h
  | case6 => cases h

theorem mem_of_find? {α : Type} {entries : Array (Nat × α)} {key : Nat} {a : α}
    (h : find? entries key = some a) :
    (key, a) ∈ entries := by
  unfold find? at h
  cases hlast : lastAtMost entries key 0 entries.size with
  | none =>
      rw [hlast] at h
      cases h
  | some entry =>
      obtain ⟨k, b⟩ := entry
      rw [hlast] at h
      by_cases hkey : k = key
      · simp only [hkey, if_true, Option.some.injEq] at h
        subst h hkey
        exact mem_of_lastAtMost hlast
      · simp [hkey] at h

namespace Canonical

/-- A code point of a control character, other than the one with the code point
zero. -/
def Control (n : Nat) : Prop := 0 < n ∧ n < 0x20

/-- No control character takes part in a composition. -/
theorem compositionTable_free {key whole : Nat}
    (h : (key, whole) ∈ compositionTable) :
    0x20 * 0x200000 ≤ key ∧ 0x20 ≤ whole := by
  have hall : compositionTable.toList.all
      (fun e => decide (0x20 * 0x200000 ≤ e.1 ∧ 0x20 ≤ e.2)) = true := by
    decide +kernel
  exact of_decide_eq_true (List.all_eq_true.mp hall (key, whole) h.val)

/-- No control character is part of another character. -/
theorem sequenceTable_free {n : Nat} {parts : List Nat}
    (h : (n, parts) ∈ sequenceTable) :
    parts ≠ [] ∧ ∀ m ∈ parts, 0x20 ≤ m ∧ m < 0x200000 := by
  have hall : sequenceTable.toList.all (fun e => !e.2.isEmpty &&
      e.2.all fun m => decide (0x20 ≤ m ∧ m < 0x200000)) =
      true := by decide +kernel
  have hentry := List.all_eq_true.mp hall (n, parts) h.val
  simpa using hentry

@[inherit_doc sequenceTable_free]
theorem singletonTable_free {n part : Nat} (h : (n, part) ∈ singletonTable) :
    0x20 ≤ part ∧ part < 0x200000 := by
  have hall : singletonTable.toList.all (fun e => decide (0x20 ≤ e.2 ∧
      e.2 < 0x200000)) = true := by decide +kernel
  exact of_decide_eq_true (List.all_eq_true.mp hall (n, part) h.val)

/-! ## Control characters stay apart -/

theorem decompose_control {n : Nat} (h : Control n) : decompose n = [n] := by
  unfold Control at h
  rw [decompose, if_pos (by omega)]

theorem combiningClass_control {n : Nat} (h : Control n) :
    combiningClass n = 0 := by
  unfold Control at h
  rw [combiningClass, if_pos (by omega)]

/-- A code point comes apart into some, and a control character comes only from
itself. -/
theorem decompose_spec (n : Nat) :
    decompose n ≠ [] ∧ ∀ m ∈ decompose n, m = n ∨ 0x20 ≤ m ∧ m < 0x200000 := by
  unfold decompose
  split
  · simp
  · split
    case isTrue hsyllable =>
      have hcount : syllableCount = 11172 := rfl
      have hlead : 0x20 ≤ leadBase + (n - syllableBase) / (vowelCount * tailCount) ∧
          leadBase + (n - syllableBase) / (vowelCount * tailCount) < 0x200000 := by
        have hvalues : leadBase = 0x1100 ∧ vowelCount * tailCount = 588 :=
          ⟨rfl, rfl⟩
        rw [hvalues.2]
        omega
      have hvowel : 0x20 ≤ vowelBase + (n - syllableBase) %
          (vowelCount * tailCount) / tailCount ∧
          vowelBase + (n - syllableBase) % (vowelCount * tailCount) /
            tailCount < 0x200000 := by
        have hvalues : vowelBase = 0x1161 ∧ vowelCount * tailCount = 588 ∧
            tailCount = 28 := ⟨rfl, rfl, rfl⟩
        rw [hvalues.2.1, hvalues.2.2]
        omega
      have htail : 0x20 ≤ tailBase + (n - syllableBase) % tailCount ∧
          tailBase + (n - syllableBase) % tailCount < 0x200000 := by
        have hvalues : tailBase = 0x11A7 ∧ tailCount = 28 := ⟨rfl, rfl⟩
        rw [hvalues.2]
        omega
      dsimp only
      split
      · exact ⟨List.cons_ne_nil _ _, List.forall_mem_cons.mpr
          ⟨.inr hlead, List.forall_mem_singleton.mpr (.inr hvowel)⟩⟩
      · exact ⟨List.cons_ne_nil _ _, List.forall_mem_cons.mpr ⟨.inr hlead,
          List.forall_mem_cons.mpr
            ⟨.inr hvowel, List.forall_mem_singleton.mpr (.inr htail)⟩⟩⟩
    case isFalse =>
      split
      case h_1 parts hparts =>
        obtain ⟨hne, hall⟩ := sequenceTable_free (mem_of_find? hparts)
        exact ⟨hne, fun m hm => .inr (hall m hm)⟩
      case h_2 =>
        split
        case h_1 part hpart =>
          exact ⟨List.cons_ne_nil _ _, List.forall_mem_singleton.mpr
            (.inr (singletonTable_free (mem_of_find? hpart)))⟩
        case h_2 => simp

/-- What two code points compose into is no control character. -/
theorem le_of_compose? {first second whole : Nat}
    (h : compose? first second = some whole) : 0x20 ≤ whole := by
  have hbase : syllableBase = 0xAC00 := rfl
  unfold compose? at h
  split at h
  · obtain rfl := Option.some.inj h
    omega
  · split at h
    · obtain rfl := Option.some.inj h
      omega
    · split at h
      · cases h
      · exact (compositionTable_free (mem_of_find? h)).2

/-- A control character composes with nothing before it. -/
theorem compose?_control {n : Nat} (h : Control n) (base : Nat) :
    compose? base n = none := by
  unfold Control at h
  have hvowel : vowelBase = 0x1161 := rfl
  have htail : tailBase = 0x11A7 := rfl
  rw [compose?, if_neg (by omega), if_neg (by omega), if_pos (by omega)]

/-- A control character composes with nothing after it. -/
theorem compose?_of_control {base : Nat} (h : Control base) {n : Nat}
    (hn : n < 0x200000) :
    compose? base n = none := by
  unfold Control at h
  have hlead : leadBase = 0x1100 := rfl
  have hsyllable : syllableBase = 0xAC00 := rfl
  rw [compose?, if_neg (by omega), if_neg (by omega)]
  split
  · rfl
  · cases hfind : find? compositionTable (pairKey base n) with
    | none => rfl
    | some whole =>
        have hkey := (compositionTable_free (mem_of_find? hfind)).1
        unfold pairKey at hkey
        omega

/-! ## A control character cuts the composed form -/

/-- A base character cuts the order of marks. -/
theorem order_append (pending : List Mark) (xs : List Mark) {m : Mark}
    (hm : m.2 = 0) (ys : List Mark) :
    order pending (xs ++ m :: ys) = order pending xs ++ m :: order [] ys := by
  induction xs generalizing pending with
  | nil => simp [order, hm]
  | cons x xs ih =>
      rw [List.cons_append, order, order]
      split
      · simp [ih]
      · exact ih _

/-- What a code point makes with the starter `base`, if it is not blocked. -/
def joined? (base : Nat) (kept : List Mark) (m : Mark) : Option Nat :=
  if kept.head?.any (m.2 ≤ ·.2) then none else compose? base m.1

theorem composeFrom_cons (base : Nat) (kept : List Mark) (m : Mark)
    (rest : List Mark) :
    composeFrom base kept (m :: rest) =
      match joined? base kept m with
      | some whole => composeFrom whole kept rest
      | none =>
        if m.2 = 0 then base :: kept.reverse.map (·.1) ++ composeFrom m.1 [] rest
        else composeFrom base (m :: kept) rest := by
  cases kept with
  | nil => rfl
  | cons last kept => rfl

theorem joined?_eq_none {base : Nat} (kept : List Mark) {m : Mark}
    (h : compose? base m.1 = none) :
    joined? base kept m = none := by
  rw [joined?, h, ite_self]

theorem compose?_of_joined? {base : Nat} {kept : List Mark} {m : Mark} {whole : Nat}
    (h : joined? base kept m = some whole) : compose? base m.1 = some whole := by
  unfold joined? at h
  split at h
  · cases h
  · exact h

/-- What follows a starter is composed up to a control character. -/
theorem composeFrom_append {n : Nat} (hn : Control n) (base : Nat)
    (kept xs ys : List Mark) :
    composeFrom base kept (xs ++ (n, 0) :: ys) =
      composeFrom base kept xs ++ composeFrom n [] ys := by
  induction xs generalizing base kept with
  | nil =>
      have hnone : joined? base kept (n, 0) = none :=
        joined?_eq_none kept (compose?_control hn base)
      rw [List.nil_append, composeFrom_cons, hnone]
      simp [composeFrom]
  | cons x xs ih =>
      rw [List.cons_append, composeFrom_cons, composeFrom_cons]
      cases joined? base kept x with
      | some whole => exact ih whole kept
      | none =>
          dsimp only
          split
          · simp [ih]
          · exact ih base (x :: kept)

theorem compose_append {n : Nat} (hn : Control n) (xs ys : List Mark) :
    compose (xs ++ (n, 0) :: ys) = compose xs ++ composeFrom n [] ys := by
  induction xs with
  | nil => simp [compose]
  | cons x xs ih =>
      obtain ⟨m, k⟩ := x
      rw [List.cons_append, compose, compose]
      split
      · exact composeFrom_append hn m [] xs ys
      · rw [ih, List.cons_append]

/-- What follows a control character is composed as if nothing were before it. -/
theorem composeFrom_control {n : Nat} (hn : Control n) (kept : List Mark)
    {ys : List Mark} (hys : ∀ m ∈ ys, m.1 < 0x200000) :
    composeFrom n kept ys = n :: kept.reverse.map (·.1) ++ compose ys := by
  induction ys generalizing kept with
  | nil => simp [composeFrom, compose]
  | cons y ys ih =>
      obtain ⟨hy, hrest⟩ := List.forall_mem_cons.mp hys
      obtain ⟨m, k⟩ := y
      rw [composeFrom_cons, joined?_eq_none kept (compose?_of_control hn hy),
        compose]
      dsimp only
      split
      · rfl
      · rw [ih _ hrest]
        simp

/-- The code points of a text, taken apart and with their combining classes. -/
def marksOf (points : List Nat) : List Mark :=
  (points.flatMap decompose).map fun n => (n, combiningClass n)

theorem mem_order {pending ms : List Mark} {m : Mark} :
    m ∈ order pending ms ↔ m ∈ pending ∨ m ∈ ms := by
  induction ms generalizing pending with
  | nil => simp [order, sortMarks]
  | cons x xs ih =>
      rw [order]
      split
      · simp [sortMarks, ih]
      · rw [ih]
        simp only [List.mem_cons]
        tauto

/-- Taking apart keeps to code points. -/
theorem lt_of_mem_marksOf {points : List Nat} (h : ∀ n ∈ points, n < 0x200000) :
    ∀ m ∈ order [] (marksOf points), m.1 < 0x200000 := by
  intro m hm
  obtain ⟨n, hn, rfl⟩ :=
    List.mem_map.mp ((mem_order.mp hm).resolve_left List.not_mem_nil)
  obtain ⟨k, hk, hdecomposed⟩ := List.mem_flatMap.mp hn
  rcases (decompose_spec k).2 n hdecomposed with rfl | ⟨-, hlt⟩
  · exact h n hk
  · exact hlt

/-- **A control character cuts the composed form.** -/
theorem composedPoints_append {n : Nat} (hn : Control n) (xs : List Nat)
    {ys : List Nat} (hys : ∀ m ∈ ys, m < 0x200000) :
    composedPoints (xs ++ n :: ys) =
      composedPoints xs ++ n :: composedPoints ys := by
  have hmarks : marksOf (xs ++ n :: ys) = marksOf xs ++ (n, 0) :: marksOf ys := by
    simp [marksOf, decompose_control hn, combiningClass_control hn]
  change compose (order [] (marksOf (xs ++ n :: ys))) = _
  rw [hmarks, order_append [] (marksOf xs) rfl, compose_append hn,
    composeFrom_control hn [] (lt_of_mem_marksOf hys)]
  rfl

/-- What is composed is a code point that was there, or no control character. -/
theorem mem_composeFrom {base : Nat} {kept ms : List Mark} {n : Nat}
    (h : n ∈ composeFrom base kept ms) :
    n = base ∨ n ∈ kept.map (·.1) ∨ n ∈ ms.map (·.1) ∨ 0x20 ≤ n := by
  induction ms generalizing base kept with
  | nil =>
      simp only [composeFrom, List.mem_cons, List.mem_map, List.mem_reverse] at h
      rcases h with rfl | h
      · exact .inl rfl
      · exact .inr (.inl (List.mem_map.mpr h))
  | cons m ms ih =>
      rw [composeFrom_cons] at h
      cases hjoined : joined? base kept m with
      | some whole =>
          rw [hjoined] at h
          rcases ih h with rfl | hkept | hrest | hlow
          · exact .inr (.inr (.inr (le_of_compose? (compose?_of_joined? hjoined))))
          · exact .inr (.inl hkept)
          · exact .inr (.inr (.inl (List.mem_cons_of_mem _ hrest)))
          · exact .inr (.inr (.inr hlow))
      | none =>
          rw [hjoined] at h
          dsimp only at h
          split at h
          · simp only [List.cons_append, List.mem_cons, List.mem_append,
              List.map_reverse, List.mem_reverse] at h
            rcases h with rfl | hkept | hrest
            · exact .inl rfl
            · exact .inr (.inl hkept)
            · have hcases := ih hrest
              simp only [List.map_nil, List.not_mem_nil, false_or] at hcases
              rcases hcases with rfl | hlater | hlow
              · exact .inr (.inr (.inl List.mem_cons_self))
              · exact .inr (.inr (.inl (List.mem_cons_of_mem _ hlater)))
              · exact .inr (.inr (.inr hlow))
          · have hcases := ih h
            simp only [List.map_cons, List.mem_cons] at hcases ⊢
            tauto

theorem mem_compose {ms : List Mark} {n : Nat} (h : n ∈ compose ms) :
    n ∈ ms.map (·.1) ∨ 0x20 ≤ n := by
  induction ms with
  | nil => cases h
  | cons m ms ih =>
      obtain ⟨m, k⟩ := m
      rw [compose] at h
      split at h
      · have hcases := mem_composeFrom h
        simp only [List.map_nil, List.not_mem_nil, false_or] at hcases
        simp only [List.map_cons, List.mem_cons]
        tauto
      · rcases List.mem_cons.mp h with rfl | hrest
        · exact .inl List.mem_cons_self
        · exact (ih hrest).imp_left (List.mem_cons_of_mem _)

/-- **No control character comes into being.** -/
theorem mem_of_mem_composedPoints {points : List Nat} {n : Nat} (hn : Control n)
    (h : n ∈ composedPoints points) :
    n ∈ points := by
  unfold Control at hn
  rcases mem_compose h with hmem | hlow
  · obtain ⟨m, hm, rfl⟩ := List.mem_map.mp hmem
    obtain ⟨k, hk, rfl⟩ :=
      List.mem_map.mp ((mem_order.mp hm).resolve_left List.not_mem_nil)
    obtain ⟨point, hpoint, hdecomposed⟩ := List.mem_flatMap.mp hk
    dsimp only at hn ⊢
    rcases (decompose_spec point).2 k hdecomposed with rfl | ⟨hlow, -⟩
    · exact hpoint
    · omega
  · omega

theorem composeFrom_ne_nil (base : Nat) (kept ms : List Mark) :
    composeFrom base kept ms ≠ [] := by
  induction ms generalizing base kept with
  | nil => exact List.cons_ne_nil _ _
  | cons m ms ih =>
      rw [composeFrom_cons]
      cases joined? base kept m with
      | some whole => exact ih whole kept
      | none =>
          dsimp only
          split
          · exact List.cons_ne_nil _ _
          · exact ih base (m :: kept)

/-- Something is composed of something. -/
theorem composedPoints_ne_nil {points : List Nat} (h : points ≠ []) :
    composedPoints points ≠ [] := by
  obtain ⟨n, rest, rfl⟩ := List.exists_cons_of_ne_nil h
  obtain ⟨m, hm⟩ := List.exists_mem_of_ne_nil _ (decompose_spec n).1
  have hmark : (m, combiningClass m) ∈ order [] (marksOf (n :: rest)) :=
    mem_order.mpr
      (.inr (List.mem_map_of_mem
        (List.mem_flatMap.mpr ⟨n, List.mem_cons_self, hm⟩)))
  change compose (order [] (marksOf (n :: rest))) ≠ []
  cases horder : order [] (marksOf (n :: rest)) with
  | nil =>
      rw [horder] at hmark
      cases hmark
  | cons x xs =>
      obtain ⟨x, k⟩ := x
      rw [compose]
      split
      · exact composeFrom_ne_nil x [] xs
      · exact List.cons_ne_nil _ _

end Canonical

/-! ## Texts and lines -/

/-- The characters of the composed form of some characters. -/
def composedChars (cs : List Char) : List Char :=
  (Canonical.composedPoints (cs.map Char.toNat)).map Char.ofNat

theorem toList_composed (s : String) :
    (composed s).toList = composedChars s.toList := by
  rw [composed, String.toList_ofList, composedChars]

theorem toNat_lt (c : Char) : c.toNat < 0x200000 := by
  have hvalid := c.valid
  have hnat : c.toNat = c.val.toNat := rfl
  rcases hvalid with h | h <;> omega

/-- A control character cuts the composed form of a text. -/
theorem composedChars_append {c : Char} (hc : Canonical.Control c.toNat)
    (xs ys : List Char) :
    composedChars (xs ++ c :: ys) = composedChars xs ++ c :: composedChars ys := by
  have hys : ∀ n ∈ ys.map Char.toNat, n < 0x200000 := by
    intro n hn
    obtain ⟨d, -, rfl⟩ := List.mem_map.mp hn
    exact toNat_lt d
  rw [composedChars, List.map_append, List.map_cons,
    Canonical.composedPoints_append hc _ hys]
  simp [composedChars]

/-- A control character of the composed form was there before. -/
theorem mem_of_mem_composedChars {c : Char} (hc : Canonical.Control c.toNat)
    {cs : List Char}
    (h : c ∈ composedChars cs) : c ∈ cs := by
  obtain ⟨n, hn, rfl⟩ := List.mem_map.mp h
  by_cases hvalid : n.isValidChar
  · have hvalue : (Char.ofNat n).toNat = n := by
      rw [Char.ofNat, dif_pos hvalid]
      rfl
    rw [hvalue] at hc
    obtain ⟨d, hd, rfl⟩ :=
      List.mem_map.mp (Canonical.mem_of_mem_composedPoints hc hn)
    rwa [Char.ofNat_toNat]
  · have hvalue : (Char.ofNat n).toNat = 0 := by
      rw [Char.ofNat, dif_neg hvalid]
      rfl
    exact absurd (hvalue ▸ hc.1) (Nat.lt_irrefl 0)

theorem composedChars_nil : composedChars [] = [] := by
  simp [composedChars, Canonical.composedPoints, Canonical.order,
    Canonical.sortMarks, Canonical.compose]

theorem composedChars_ne_nil {cs : List Char} (h : cs ≠ []) :
    composedChars cs ≠ [] := by
  rw [composedChars, ne_eq, List.map_eq_nil_iff]
  exact Canonical.composedPoints_ne_nil (by simpa using h)

theorem control_lineFeed : Canonical.Control '\n'.toNat := by
  constructor <;> decide

theorem control_return : Canonical.Control '\r'.toNat := by
  constructor <;> decide

/-- A composed form ends in a carriage return only if the text does. -/
theorem getLast?_composedChars {cs : List Char}
    (h : (composedChars cs).getLast? = some '\r') :
    cs.getLast? = some '\r' := by
  have hmem := mem_of_mem_composedChars control_return (List.mem_of_mem_getLast? h)
  obtain ⟨after, before, hreverse, hafter⟩ :=
    List.eq_append_cons_of_mem (List.mem_reverse.mpr hmem)
  obtain rfl : cs = before.reverse ++ '\r' :: after.reverse := by
    rw [← List.reverse_reverse cs, hreverse]
    simp
  cases after with
  | nil => simp
  | cons c after =>
      -- the composed form would end with what follows the last carriage return
      have hne : composedChars (c :: after).reverse ≠ [] :=
        composedChars_ne_nil (by simp)
      rw [composedChars_append control_return,
        List.getLast?_append_of_ne_nil _ (List.cons_ne_nil _ _),
        ← List.singleton_append, List.getLast?_append_of_ne_nil _ hne] at h
      exact absurd (mem_of_mem_composedChars control_return
        (List.mem_of_mem_getLast? h))
        (mt List.mem_reverse.mp hafter)

/-- **Composing keeps lines apart.**  The lines of the composed form are the
composed forms of the lines. -/
theorem lined_composedChars {text : List Char} {lines : List (List Char)}
    (h : Lined text lines) :
    Lined (composedChars text) (lines.map composedChars) := by
  have hfree : ∀ {line : List Char}, '\n' ∉ line → '\n' ∉ composedChars line :=
    fun hline hmem => hline (mem_of_mem_composedChars control_lineFeed hmem)
  induction h with
  | nil =>
      rw [composedChars_nil]
      exact .nil
  | last hne hline => exact .last (composedChars_ne_nil hne) (hfree hline)
  | feed hline hend tail ih =>
      rw [composedChars_append control_lineFeed]
      exact .feed (hfree hline) (mt getLast?_composedChars hend) ih
  | returnFeed hline tail ih =>
      rw [composedChars_append control_return, ← List.nil_append ('\n' :: _),
        composedChars_append control_lineFeed, composedChars_nil, List.nil_append]
      exact .returnFeed (hfree hline) ih

end Prospectus.Text
