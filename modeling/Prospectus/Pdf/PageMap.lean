import Prospectus.Pdf.Object

/-!
# Page maps

A page map gives the object of each page by the page's number.  Its entries
stand in increasing order of their numbers.
-/

namespace Prospectus.Pdf

/-- Objects of pages by page numbers. -/
structure PageMap where
  entries : List (UInt32 × ObjectId)
  sorted : entries.Pairwise fun p q => p.1 < q.1

namespace PageMap

/-- The map without pages. -/
def empty : PageMap := ⟨[], .nil⟩

/-- Puts an entry at its place among sorted entries; an entry of the same number
is replaced. -/
def insertEntry (n : UInt32) (id : ObjectId) :
    List (UInt32 × ObjectId) → List (UInt32 × ObjectId)
  | [] => [(n, id)]
  | (m, other) :: rest =>
    if n < m then (n, id) :: (m, other) :: rest
    else if n = m then (n, id) :: rest
    else (m, other) :: insertEntry n id rest

/-- An inserted entry is the new one or one of the old. -/
theorem mem_insertEntry {n : UInt32} {id : ObjectId}
    {entries : List (UInt32 × ObjectId)}
    {p : UInt32 × ObjectId} (h : p ∈ insertEntry n id entries) :
    p = (n, id) ∨ p ∈ entries := by
  induction entries with
  | nil => simpa [insertEntry] using h
  | cons q rest ih =>
    obtain ⟨m, other⟩ := q
    unfold insertEntry at h
    split at h
    · simpa using h
    · split at h
      · rcases List.mem_cons.mp h with rfl | hrest
        · exact Or.inl rfl
        · exact Or.inr (List.mem_cons_of_mem _ hrest)
      · rcases List.mem_cons.mp h with rfl | hrest
        · exact Or.inr List.mem_cons_self
        · rcases ih hrest with hnew | hold
          · exact Or.inl hnew
          · exact Or.inr (List.mem_cons_of_mem _ hold)

/-- Inserting keeps entries sorted. -/
theorem insertEntry_sorted (n : UInt32) (id : ObjectId)
    {entries : List (UInt32 × ObjectId)}
    (h : entries.Pairwise fun p q => p.1 < q.1) :
    (insertEntry n id entries).Pairwise fun p q => p.1 < q.1 := by
  induction entries with
  | nil => simp [insertEntry]
  | cons q rest ih =>
    obtain ⟨m, other⟩ := q
    obtain ⟨hhead, htail⟩ := List.pairwise_cons.mp h
    unfold insertEntry
    split
    · rename_i hlt
      refine List.pairwise_cons.mpr ⟨fun p hp => ?_, h⟩
      rcases List.mem_cons.mp hp with rfl | hrest
      · exact hlt
      · exact UInt32.lt_trans hlt (hhead p hrest)
    · split
      · rename_i heq
        subst heq
        exact List.pairwise_cons.mpr ⟨hhead, htail⟩
      · rename_i hnlt hne
        refine List.pairwise_cons.mpr ⟨fun p hp => ?_, ih htail⟩
        rcases mem_insertEntry hp with rfl | hrest
        · exact UInt32.lt_of_le_of_ne (UInt32.not_lt.mp hnlt) (Ne.symm hne)
        · exact hhead p hrest

/-- The map with one more page, or another object for a page. -/
def insert (m : PageMap) (n : UInt32) (id : ObjectId) : PageMap :=
  ⟨insertEntry n id m.entries, insertEntry_sorted n id m.sorted⟩

/-- The map of the given entries; of two with one number, the later. -/
def ofList (entries : List (UInt32 × ObjectId)) : PageMap :=
  entries.foldl (fun m (n, id) => m.insert n id) empty

/-- The map that numbers pages from one. -/
def ofPages (pages : List ObjectId) : PageMap :=
  ofList (pages.zipIdx.map fun (id, i) => ((i + 1).toUInt32, id))

/-- The object of a page. -/
def get? (m : PageMap) (n : UInt32) : Option ObjectId := m.entries.lookup n

/-- The number of pages. -/
def size (m : PageMap) : UInt32 := m.entries.length.toUInt32

end PageMap

end Prospectus.Pdf
