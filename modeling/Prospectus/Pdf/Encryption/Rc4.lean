import Prospectus.Pdf.Object

/-!
# The RC4 cipher

A key is turned into a permutation of the bytes, which then gives one byte after
the other to combine the data with.  Enciphering twice with one key gives the
data back.
-/

namespace Prospectus.Pdf.Rc4

/-- A permutation of the bytes, and two positions in it. -/
structure State where
  table : Array UInt8
  i : Nat
  j : Nat

/-- Exchanges two entries of a table. -/
def exchange (t : Array UInt8) (i j : Nat) : Array UInt8 :=
  (t.setIfInBounds i (t.getD j 0)).setIfInBounds j (t.getD i 0)

/-- The permutation of a key. -/
def schedule (key : Bytes) : State :=
  let keys := key.toArray
  let start : Array UInt8 := ((List.range 256).map Nat.toUInt8).toArray
  let (table, _) := (List.range 256).foldl (fun (t, j) i =>
    let j :=
      (j + (t.getD i 0).toNat + (keys.getD (i % max keys.size 1) 0).toNat) % 256
    (exchange t i j, j)) (start, 0)
  ⟨table, 0, 0⟩

/-- Combines data with the bytes that the state gives. -/
def combine (s : State) : Bytes → Bytes
  | [] => []
  | b :: rest =>
    let i := (s.i + 1) % 256
    let j := (s.j + (s.table.getD i 0).toNat) % 256
    let table := exchange s.table i j
    let k := table.getD (((table.getD i 0).toNat + (table.getD j 0).toNat) % 256) 0
    (b ^^^ k) :: combine ⟨table, i, j⟩ rest

/-- Enciphers, or deciphers, data. -/
def apply (key data : Bytes) : Bytes := combine (schedule key) data

end Prospectus.Pdf.Rc4
