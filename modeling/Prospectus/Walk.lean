import Prospectus.Document

/-!
# Walking over pages

A visitor is a state machine that is told of each page and each run of a range
of pages, in order, and answers whether to go on, to leave the page, or to stop.
A page is read only after the visitor has agreed to it.
-/

namespace Prospectus

/-- A visitor's answer. -/
inductive Action where
  | proceed
  | skipPage
  | stop
deriving Repr, DecidableEq, Inhabited

/-- A state machine that is walked over pages. -/
structure Visitor (σ : Type) where
  /-- Told of a page before it is read. -/
  pageStart : UInt32 → σ → Action × σ := fun _ s => (.proceed, s)
  /-- Told of a run. -/
  visit : UInt32 → Run → σ → Action × σ
  /-- Told of the end of a page that was read. -/
  pageEnd : UInt32 → σ → Action × σ := fun _ s => (.proceed, s)

/-- The page numbers from `first` to `last`, both included. -/
def pagesBetween (first last : UInt32) : List UInt32 :=
  (List.range' first.toNat (last.toNat + 1 - first.toNat)).map Nat.toUInt32

namespace Visitor

variable {σ : Type}

/-- Shows the runs of a page until the visitor leaves it; whether it stopped,
and its state. -/
def visitRuns (v : Visitor σ) (page : UInt32) : List Run → σ → Bool × σ
  | [], s => (false, s)
  | run :: rest, s =>
    match v.visit page run s with
    | (.proceed, s) => v.visitRuns page rest s
    | (.skipPage, s) => (false, s)
    | (.stop, s) => (true, s)

/-- Walks over the given pages of a source.  The state is the one reached, also
when a page cannot be read. -/
def walkPages (v : Visitor σ) (source : PageSource) :
    List UInt32 → σ → σ × Except Error Unit
  | [], s => (s, .ok ())
  | page :: rest, s =>
    match v.pageStart page s with
    | (.stop, s) => (s, .ok ())
    | (.skipPage, s) => v.walkPages source rest s
    | (.proceed, s) =>
      match source.pageRuns page with
      | .error e => (s, .error e)
      | .ok runs =>
        match v.visitRuns page runs s with
        | (true, s) => (s, .ok ())
        | (false, s) =>
          match v.pageEnd page s with
          | (.stop, s) => (s, .ok ())
          | (_, s) => v.walkPages source rest s

/-- Walks over the pages from `first` to `last` that the source has. -/
def walk (v : Visitor σ) (source : PageSource) (first last : UInt32) (s : σ) :
    σ × Except Error Unit :=
  v.walkPages source (pagesBetween (max first 1) (min last source.pageCount)) s

end Visitor

end Prospectus
