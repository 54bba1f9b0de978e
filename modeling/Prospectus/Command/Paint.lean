/-!
# Colours on a terminal

Text is painted by an escape sequence before it and a reset after it.  A reset
inside the text takes the colour away, so the sequence is repeated after it.
-/

namespace Prospectus.Command

/-- How a text is painted: the numbers of its escape sequence. -/
structure Style where
  codes : List Nat
deriving Repr, DecidableEq

namespace Style

/-- Bold. -/
def bold : Style := ⟨[1]⟩

/-- Dim. -/
def dimmed : Style := ⟨[2]⟩

/-- Green. -/
def green : Style := ⟨[32]⟩

/-- Yellow. -/
def yellow : Style := ⟨[33]⟩

/-- Bold red. -/
def boldRed : Style := ⟨[1, 31]⟩

/-- Bold green. -/
def boldGreen : Style := ⟨[1, 32]⟩

/-- Bold cyan. -/
def boldCyan : Style := ⟨[1, 36]⟩

/-- The escape sequence that starts a style. -/
def start (s : Style) : String :=
  "\x1b[" ++ ";".intercalate (s.codes.map toString) ++ "m"

/-- The escape sequence that ends every style. -/
def reset : String := "\x1b[0m"

/-- Paints a text if colours are wanted. -/
def paint (s : Style) (colored : Bool) (text : String) : String :=
  if colored then s.start ++
    (reset ++ s.start).intercalate (text.splitOn reset) ++ reset else text

end Style

/-- Whether colours are wanted.  They can be forced; else they can be turned
off; else they depend on whether there is a terminal. -/
def wantsColor (environment : List (String × String)) (terminal : Bool) : Bool :=
  let setting (name : String) : Option Bool :=
    (environment.lookup name).map (· ≠ "0")
  if setting "CLICOLOR_FORCE" = some true then true
  else if (setting "NO_COLOR").isSome then false
  else (setting "CLICOLOR").getD true && terminal

end Prospectus.Command
