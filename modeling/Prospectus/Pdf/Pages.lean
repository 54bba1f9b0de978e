import Prospectus.Pdf.Filter
import Prospectus.Pdf.File

/-!
# Pages of a PDF file

The pages are the leaves of a tree, in order.  A page has contents, one stream
or several, and resources, its own or those of the nodes above it.
-/

namespace Prospectus.Pdf.File

/-- How deep the tree of pages may be. -/
def maxTreeDepth : Nat := 256

/-- The children of a node of the tree. -/
def kids (f : File) (id : ObjectId) : List Object :=
  match (f.dictionary id).toOption.bind (Dictionary.get? · "Kids") with
  | some object =>
    match f.resolve object with
    | .ok (.array items) => items
    | _ => []
  | none => []

/-- The next child to be visited, with the children after it and those still to
be visited of the nodes above. -/
def nextKid? : List Object → List (List Object) →
    Option (Object × List Object × List (List Object))
  | kid :: rest, pending => some (kid, rest, pending)
  | [], kids :: pending => nextKid? kids pending
  | [], [] => none

/-- The leaves under some children, in order.  `pending` holds the children
still to be visited of the nodes above, and `budget` how many children may still
be looked at. -/
def leaves (f : File) : Nat → List (List Object) → List Object → List ObjectId
  | 0, _, _ => []
  | budget + 1, pending, kids =>
    match nextKid? kids pending with
    | none => []
    | some (.reference id, rest, pending) =>
      match (f.dictionary id).toOption.bind (Dictionary.get? · "Type") with
      | some (.name type) =>
        if type = ascii "Page" then id :: f.leaves budget pending rest
        else if type = ascii "Pages" && pending.length < maxTreeDepth then
          f.leaves budget (if rest.isEmpty then pending
            else rest :: pending) (f.kids id)
        else f.leaves budget pending rest
      | _ => f.leaves budget pending rest
    | some (_, rest, pending) => f.leaves budget pending rest

/-- The ids of the pages, in order. -/
def pages (f : File) : List ObjectId :=
  let root := do
    let id ← (f.trailer.get? "Root").bind (·.asReference?)
    let catalog ← (f.dictionary id).toOption
    (catalog.get? "Pages").bind (·.asReference?)
  match root with
  | some id => f.leaves f.objects.length [] (f.kids id)
  | none => []

/-- The ids of the streams that an object names as contents, following at most
so many references. -/
def contentIdsOf (f : File) : Nat → Object → List ObjectId
  | fuel, .reference id =>
    match f.objects.lookup id with
    | none | some (.stream ..) => [id]
    | some object =>
      match fuel with
      | 0 => []
      | fuel + 1 => f.contentIdsOf fuel object
  | _, .array items => items.filterMap (·.asReference?)
  | _, _ => []
termination_by fuel => fuel

/-- The ids of the streams of a page's contents. -/
def contentIds (f : File) (page : ObjectId) : List ObjectId :=
  match (f.dictionary page).toOption.bind (Dictionary.get? · "Contents") with
  | some object => f.contentIdsOf (maxReferences - 1) object
  | none => []

/-- The contents of a page, a space after each stream. -/
def pageContent (f : File) (page : ObjectId) : Bytes :=
  (f.contentIds page).flatMap fun id =>
    match f.object id with
    | .ok (.stream entries data) => streamContent entries data ++ [32]
    | _ => []

/-- The ids of the resources of a node and of those above it.  `seen` holds the
nodes above that have been visited. -/
def resourceIds (f : File) :
    Nat → List ObjectId → Dictionary → Except Defect (List ObjectId)
  | 0, _, _ => .ok []
  | fuel + 1, seen, node => do
    let own := match node.get? "Resources" with
      | some (.reference id) => [id]
      | _ => []
    match node.get? "Parent" with
    | some (.reference parent) =>
      if seen.contains parent then throw (.cycle parent)
      let above ← f.resourceIds fuel (parent :: seen) (← f.dictionary parent)
      return own ++ above
    | _ => return own

/-- The fonts of some resources. -/
def fontsOf (f : File) (resources : Dictionary) : List (Bytes × Dictionary) :=
  match (resources.get? "Font").bind f.dictionaryOf? with
  | some fonts =>
    fonts.filterMap fun (key, value) => (f.dictionaryOf? value).map fun font =>
      (key, font)
  | none => []

/-- The order of byte strings by their first difference. -/
def bytesLe : Bytes → Bytes → Bool
  | [], _ => true
  | _ :: _, [] => false
  | a :: as, b :: bs => a < b || (a = b && bytesLe as bs)

/-- The fonts of a page by their keys, in the order of the keys; of two with one
key, the one nearer to the page. -/
def pageFonts (f : File) (page : ObjectId) :
    Except Defect (List (Bytes × Dictionary)) :=
  match f.dictionary page with
  | .error _ => .ok []
  | .ok node => do
    let ids ← f.resourceIds (f.objects.length + 1) [] node
    let inline := match node.get? "Resources" with
      | some (.dictionary entries) => [entries]
      | _ => []
    let referred := ids.filterMap fun id => (f.dictionary id).toOption
    let all := (inline ++ referred).flatMap f.fontsOf
    let first := all.foldl (fun kept font => if kept.any (·.1 = font.1)
      then kept else kept ++ [font]) []
    return first.mergeSort fun a b => bytesLe a.1 b.1

end Prospectus.Pdf.File
