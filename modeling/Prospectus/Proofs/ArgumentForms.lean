import Prospectus.Command.Invocation

/-!
# Values that have their forms

Arguments are read one by one, and a value is taken only if its parameter
accepts it.  So in all that is read from some arguments, each value has the form
of a parameter of that name (`Grammar.fits_of_read`), however the arguments are
spelled and in whichever order they come.  In particular a batch never goes to
an empty path (`output_of_read`).
-/

namespace Prospectus.Command

/-- A step that is followed by another has succeeded. -/
theorem bind_eq_ok_iff {ε α β : Type} {x : Except ε α}
    {f : α → Except ε β} {b : β} :
    x >>= f = .ok b ↔ ∃ a, x = .ok a ∧ f a = .ok b := by
  cases x <;> simp [bind, Except.bind]

/-- Each value belongs to one of the parameters and has its form. -/
def Given.Fits (parameters : List Parameter) (given : Given) : Prop :=
  ∀ entry ∈ given.values, ∃ p ∈ parameters, p.name = entry.1 ∧
    p.form.accepts entry.2 = true

section Reading

variable {parameters : List Parameter} {given later : Given}

/-- A value that is added has its form. -/
theorem Given.Fits.add (h : given.Fits parameters) {p : Parameter}
    (hp : p ∈ parameters) {value : String}
    (hadd : given.add p value = .ok later) : later.Fits parameters := by
  rw [Given.add] at hadd
  split at hadd
  · exact nomatch hadd
  · next haccepts =>
      split at hadd
      · exact nomatch hadd
      · cases hadd
        intro entry hentry
        rcases List.mem_append.mp hentry with hold | hnew
        · exact h entry hold
        · rw [List.mem_singleton.mp hnew]
          exact ⟨p, hp, rfl, by simpa using haccepts⟩

/-- Switches have no values. -/
theorem Given.Fits.turnOn (h : given.Fits parameters) {switch : String}
    (hon : given.turnOn switch = .ok later) : later.Fits parameters := by
  rw [Given.turnOn] at hon
  split at hon
  · exact nomatch hon
  · cases hon
    exact h

/-- Operands that are read have their forms. -/
theorem Given.Fits.readOperands {operands : List Parameter}
    (hoperands : ∀ p ∈ operands, p ∈ parameters)
    (h : given.Fits parameters) {arguments : List String}
    (hread : Grammar.readOperands operands given arguments = .ok later) :
    later.Fits parameters := by
  induction arguments generalizing operands given with
  | nil =>
      rw [Grammar.readOperands] at hread
      cases hread
      exact h
  | cons argument rest ih =>
      cases operands with
      | nil => exact nomatch hread
      | cons p operands =>
          rw [Grammar.readOperands, bind_eq_ok_iff] at hread
          obtain ⟨next, hadd, hrest⟩ := hread
          obtain ⟨hp, hmore⟩ := List.forall_mem_cons.mp hoperands
          exact ih hmore (h.add hp hadd) hrest

/-- A parameter that a spelling names is one of the grammar's. -/
theorem Grammar.mem_of_parameter? {g : Grammar} {spelling : Spelling}
    {p : Parameter} {value : Option String}
    (h : g.parameter? spelling = some (p, value)) : p ∈ g.parameters := by
  cases spelling with
  | name _ _ | letter _ _ =>
      obtain ⟨q, hq, hpair⟩ := Option.map_eq_some_iff.mp h
      cases hpair
      exact List.mem_of_find?_eq_some hq
  | divider | plain => exact nomatch h

/-- **Argument after argument** the values keep their forms.  `operands` are
those still to come. -/
theorem Given.Fits.readFrom {g : Grammar}
    (hparameters : ∀ p ∈ g.parameters, p ∈ parameters)
    {operands : List Parameter} (hoperands : ∀ p ∈ operands, p ∈ parameters)
    (h : given.Fits parameters) {arguments : List String}
    (hread : g.readFrom operands given arguments = .ok later) :
    later.Fits parameters := by
  fun_induction Grammar.readFrom g operands given arguments with
  | case1 =>
      cases hread
      exact h
  | case2 => exact h.readOperands hoperands hread
  | case4 given argument rest hplain p operands ih =>
      obtain ⟨next, hadd, hrest⟩ := bind_eq_ok_iff.mp hread
      obtain ⟨hp, hmore⟩ := List.forall_mem_cons.mp hoperands
      exact ih next hmore (h.add hp hadd) hrest
  | case7 operands given argument rest switch _ _ _ _ _ ih =>
      obtain ⟨next, hon, hrest⟩ := bind_eq_ok_iff.mp hread
      exact ih next hoperands (h.turnOn hon) hrest
  -- the value stands in the same argument, or in the next one
  | case9 operands given argument p value rest _ _ _ _ _ hp ih
  | case11 operands given argument p value rest _ _ _ _ _ _ hp ih =>
      obtain ⟨next, hadd, hrest⟩ := bind_eq_ok_iff.mp hread
      exact ih next hoperands
        (h.add (hparameters p (Grammar.mem_of_parameter? hp)) hadd) hrest
  | case3 | case5 | case6 | case8 | case10 | case12 => exact nomatch hread

end Reading

/-- **What is read has its form.** -/
theorem Grammar.fits_of_read {g : Grammar} {arguments : List String} {given : Given}
    (h : g.read arguments = .ok given) :
    given.Fits (g.operands ++ g.parameters) := by
  obtain ⟨found, hread, hneeded⟩ := bind_eq_ok_iff.mp h
  have hfound : found = given := by
    dsimp only at hneeded
    split at hneeded
    · exact nomatch hneeded
    · exact Except.ok.inj hneeded
  subst hfound
  have hnone : ({} : Given).Fits (g.operands ++ g.parameters) := by
    simp [Given.Fits]
  exact hnone.readFrom (fun _ => List.mem_append_right _)
    (fun _ => List.mem_append_left _) hread

/-- A value that was given for a name stands in the list. -/
theorem Given.mem_of_value? {given : Given} {name value : String}
    (h : given.value? name = some value) :
    (name, value) ∈ given.values := by
  obtain ⟨before, after, hvalues, -⟩ := List.lookup_eq_some_iff.mp h
  rw [hvalues]
  exact List.mem_append_right before List.mem_cons_self

/-- **The path of a batch's output is never empty.** -/
theorem output_of_read {arguments : List String} {given : Given}
    (h : runGrammar.read arguments = .ok given) (environment : Environment) :
    (batchOf environment given).files.output.isEmpty = false := by
  change (given.value "output" "summaries").isEmpty = false
  rw [Given.value]
  cases houtput : given.value? "output" with
  | none => rfl
  | some path =>
      obtain ⟨p, hp, hname, haccepts⟩ :=
        Grammar.fits_of_read h _ (Given.mem_of_value? houtput)
      have hform : ∀ p ∈ runGrammar.operands ++ runGrammar.parameters,
          p.name = "output" → p.form = .path := by
        decide
      rw [hform p hp hname] at haccepts
      simpa [Form.accepts] using haccepts

end Prospectus.Command
