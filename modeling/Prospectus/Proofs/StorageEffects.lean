import Prospectus.Proofs.TextEncoding
import Prospectus.Storage.FileSystem

/-!
# What making directories and writing files does

Directories are made only where nothing stands, and a file is written only where
no directory stands.  So whatever was a directory remains one (`Extends`), and
making directories touches no file (`OnlyMakesDirectories`).  `writeText_cases`
says once all that writing a text can do: some directories are made, and then
either a fault is answered or one file is put at the place of the path.

The place of a path is found from the names alone (`place?`): every name but the
dots leads one step down, and nothing that is written changes where a path
leads.
-/

namespace Prospectus.Storage

/-- Entries under other keys have no part in looking a key up. -/
theorem lookup_filter_ne {α β : Type} [DecidableEq α] [BEq α] [LawfulBEq α]
    {k other : α} (h : k ≠ other) (entries : List (α × β)) :
    (entries.filter (·.1 ≠ other)).lookup k = entries.lookup k := by
  induction entries with
  | nil => rfl
  | cons entry rest ih =>
      obtain ⟨key, value⟩ := entry
      by_cases hkey : key = other
      · have hk : (k == key) = false := by simpa [hkey] using h
        rw [List.filter_cons_of_neg (by simpa using hkey), ih, List.lookup_cons, hk]
      · rw [List.filter_cons_of_pos (by simpa using hkey), List.lookup_cons,
          List.lookup_cons, ih]

namespace FileSystem

/-- Putting something at a location changes what stands there, and nothing else. -/
theorem node?_put (fs : FileSystem) {location : Location} (hne : location ≠ [])
    (node : Node) (l : Location) :
    (fs.put location node).node? l = if l = location then some node
      else fs.node? l := by
  by_cases hroot : l = []
  · subst hroot
    rw [if_neg (Ne.symm hne)]
    rfl
  · have hl : l.isEmpty = false := by simpa using hroot
    simp only [node?, put, hl, Bool.false_eq_true, if_false, List.lookup_append]
    by_cases heq : l = location
    · subst heq
      have hnone : (fs.nodes.filter (·.1 ≠ l)).lookup l = none := by
        rw [List.lookup_eq_none_iff]
        intro entry hentry
        have hkey : entry.1 ≠ l := by simpa using (List.mem_filter.mp hentry).2
        exact bne_iff_ne.mpr (Ne.symm hkey)
      rw [hnone, if_pos rfl]
      simp
    · have hlast : (l == location) = false := by simpa using heq
      rw [lookup_filter_ne heq, if_neg heq, List.lookup_cons, hlast]
      simp

/-- The data of the file at a location, if a file stands there. -/
def file? (fs : FileSystem) (l : Location) : Option (List UInt8) :=
  match fs.node? l with
  | some (.file data) => some data
  | _ => none

/-- A later state of the files: relative paths start from the same directory,
and what was a directory is one still. -/
structure Extends (fs later : FileSystem) : Prop where
  workingDirectory : later.workingDirectory = fs.workingDirectory
  directory : ∀ l, fs.node? l = some .directory → later.node? l = some .directory

/-- A state is a later state of itself. -/
theorem Extends.refl (fs : FileSystem) : Extends fs fs := ⟨rfl, fun _ h => h⟩

/-- What is later than a later state is a later state. -/
theorem Extends.trans {fs middle later : FileSystem} (h : Extends fs middle)
    (h' : Extends middle later) :
    Extends fs later :=
  ⟨h'.workingDirectory.trans h.workingDirectory,
    fun l hl => h'.directory l (h.directory l hl)⟩

/-- Putting something where no directory stands leads to a later state. -/
theorem extends_put (fs : FileSystem) {location : Location} (hne : location ≠ [])
    (hfree : fs.node? location ≠ some .directory) (node : Node) :
    Extends fs (fs.put location node) := by
  refine ⟨rfl, ?_⟩
  intro l hl
  rw [node?_put fs hne, if_neg]
  · exact hl
  · rintro rfl
    exact hfree hl

/-- A later state in which no file is new, gone or changed. -/
structure OnlyMakesDirectories (fs later : FileSystem) : Prop where
  laterState : Extends fs later
  file?_eq : ∀ l, later.file? l = fs.file? l

/-- Doing nothing makes no file. -/
theorem OnlyMakesDirectories.refl (fs : FileSystem) : OnlyMakesDirectories fs fs :=
  ⟨.refl fs, fun _ => rfl⟩

/-- Making directories twice makes directories. -/
theorem OnlyMakesDirectories.trans {fs middle later : FileSystem}
    (h : OnlyMakesDirectories fs middle)
    (h' : OnlyMakesDirectories middle later) : OnlyMakesDirectories fs later :=
  ⟨h.laterState.trans h'.laterState, fun l => (h'.file?_eq l).trans (h.file?_eq l)⟩

/-- A name in a directory is never the root. -/
theorem append_name_ne_nil (parent : Location) (name : String) :
    parent ++ [name] ≠ [] := by simp

/-- **One directory.**  A directory is made at the entry that its path names,
where nothing stood. -/
theorem makeDirectory_ok {fs later : FileSystem} {path : String}
    (h : fs.makeDirectory path = .ok later) :
    ∃ parent name slash, fs.resolve path = .ok (.entry parent name slash) ∧
      fs.node? (parent ++ [name]) = none ∧
      later = fs.put (parent ++ [name]) .directory := by
  simp only [makeDirectory, bind, Except.bind] at h
  split at h
  · cases h
  · rename_i target hresolve
    split at h
    · cases h
    · rename_i parent name slash
      split at h
      · cases h
      · rename_i hnode
        cases h
        exact ⟨parent, name, slash, hresolve, hnode, rfl⟩

/-- Making one directory makes a directory only. -/
theorem onlyMakesDirectories_of_makeDirectory {fs later : FileSystem}
    {path : String}
    (h : fs.makeDirectory path = .ok later) : OnlyMakesDirectories fs later := by
  obtain ⟨parent, name, slash, -, hnode, rfl⟩ := makeDirectory_ok h
  have hne := append_name_ne_nil parent name
  refine ⟨extends_put fs hne (by simp [hnode]) _, ?_⟩
  intro l
  by_cases hl : l = parent ++ [name]
  · simp [file?, node?_put fs hne, hl, hnode]
  · simp [file?, node?_put fs hne, hl]

/-- **One name of a path.**  A dot stays, two dots go up, the last name is the
entry, and any other name has to be a directory. -/
theorem follow_cons_ok_iff {fs : FileSystem} {slash : Bool} {here : Location}
    {name : String} {rest : List String} {target : Target} :
    fs.follow slash here (name :: rest) = .ok target ↔
      (name = "." ∧ fs.follow slash here rest = .ok target) ∨
      (name = ".." ∧ fs.follow slash here.dropLast rest = .ok target) ∨
      (name ≠ "." ∧ name ≠ ".." ∧ name.utf8ByteSize ≤ maxName ∧
        ((rest = [] ∧ target = .entry here name slash) ∨
          (rest ≠ [] ∧ fs.node? (here ++ [name]) = some .directory ∧
            fs.follow slash (here ++ [name]) rest = .ok target))) := by
  rw [follow]
  by_cases hdot : name = "."
  · simp [hdot]
  · by_cases hdots : name = ".."
    · simp [hdots]
    · by_cases hlong : maxName < name.utf8ByteSize
      · simp [hdot, hdots, hlong, Nat.not_le.mpr hlong]
      · by_cases hlast : rest = []
        · simp [hdot, hdots, hlong, hlast, Nat.not_lt.mp hlong, eq_comm]
        · cases hnode : fs.node? (here ++ [name]) with
          | none => simp [hdot, hdots, hlong, hlast]
          | some node =>
              cases node with
              | file data => simp [hdot, hdots, hlong, hlast]
              | directory => simp [hdot, hdots, hlong, hlast, Nat.not_lt.mp hlong]

/-- Names that lead somewhere lead to the same target in a later state. -/
theorem Extends.follow_eq {fs later : FileSystem} (h : Extends fs later)
    {slash : Bool} {here : Location} {names : List String} {target : Target}
    (hfollow : fs.follow slash here names = .ok target) :
    later.follow slash here names = .ok target := by
  induction names generalizing here with
  | nil => exact hfollow
  | cons name rest ih =>
      rw [follow_cons_ok_iff] at hfollow ⊢
      rcases hfollow with ⟨hdot, hrest⟩ | ⟨hdots, hrest⟩ |
        ⟨hdot, hdots, hlong, hlast | hdown⟩
      · exact Or.inl ⟨hdot, ih hrest⟩
      · exact Or.inr (Or.inl ⟨hdots, ih hrest⟩)
      · exact Or.inr (Or.inr ⟨hdot, hdots, hlong, Or.inl hlast⟩)
      · obtain ⟨hmore, hnode, hrest⟩ := hdown
        exact Or.inr (Or.inr
          ⟨hdot, hdots, hlong, Or.inr ⟨hmore, h.directory _ hnode, ih hrest⟩⟩)

/-- The directory from which a path starts. -/
def startOf (fs : FileSystem) (path : String) : Location :=
  if isAbsolute path then [] else fs.workingDirectory

/-- A path leads to a target iff it is a proper path and its names lead there. -/
theorem resolve_ok_iff {fs : FileSystem} {path : String} {target : Target} :
    fs.resolve path = .ok target ↔
      path.toList.contains '\x00' = false ∧ path.isEmpty = false ∧
      path.utf8ByteSize ≤ maxPath ∧
        fs.follow (path.toList.getLast? = some '/') (fs.startOf path)
          (namesOf path) = .ok target := by
  rw [resolve, startOf]
  cases path.toList.contains '\x00' with
  | true => simp
  | false =>
      cases path.isEmpty with
      | true => simp
      | false =>
          by_cases hlong : maxPath < path.utf8ByteSize
          · simp [hlong, Nat.not_le.mpr hlong]
          · simp [hlong, Nat.not_lt.mp hlong]

/-- A path that leads somewhere leads to the same target in a later state. -/
theorem Extends.resolve_eq {fs later : FileSystem} (h : Extends fs later)
    {path : String} {target : Target}
    (hresolve : fs.resolve path = .ok target) :
    later.resolve path = .ok target := by
  rw [resolve_ok_iff] at hresolve ⊢
  obtain ⟨hnul, hempty, hlong, hfollow⟩ := hresolve
  refine ⟨hnul, hempty, hlong, ?_⟩
  rw [startOf, h.workingDirectory]
  exact h.follow_eq hfollow

/-- A directory stands at a path iff the path leads to a directory that has no
name there, or to an entry that is a directory. -/
theorem isDirectory_iff {fs : FileSystem} {path : String} :
    fs.isDirectory path = true ↔
      (∃ l, fs.resolve path = .ok (.directory l)) ∨
      ∃ parent name slash, fs.resolve path = .ok (.entry parent name slash) ∧
        fs.node? (parent ++ [name]) = some .directory := by
  simp only [isDirectory, stat, bind, Except.bind]
  cases hresolve : fs.resolve path with
  | error fault => simp
  | ok target =>
      cases target with
      | directory l => simp [pure, Except.pure]
      | entry parent name slash =>
          cases hnode : fs.node? (parent ++ [name]) with
          | none => simp [hnode, throw, throwThe, MonadExceptOf.throw]
          | some node =>
              cases node with
              | directory =>
                  simp only [hnode, pure, Except.pure, true_iff]
                  exact Or.inr ⟨parent, name, slash, rfl, hnode⟩
              | file data =>
                  cases slash <;> simp [hnode, pure, Except.pure, throw,
                    throwThe, MonadExceptOf.throw]

/-- A directory at a path stands there in any later state. -/
theorem Extends.isDirectory {fs later : FileSystem} (h : Extends fs later)
    {path : String}
    (hdir : fs.isDirectory path = true) : later.isDirectory path = true := by
  rw [isDirectory_iff] at hdir ⊢
  rcases hdir with ⟨l, hresolve⟩ | ⟨parent, name, slash, hresolve, hnode⟩
  · exact Or.inl ⟨l, h.resolve_eq hresolve⟩
  · exact Or.inr ⟨parent, name, slash, h.resolve_eq hresolve, h.directory _ hnode⟩

/-- A directory that was made stands at its path. -/
theorem isDirectory_of_makeDirectory {fs later : FileSystem} {path : String}
    (h : fs.makeDirectory path = .ok later) : later.isDirectory path = true := by
  have hlater := (onlyMakesDirectories_of_makeDirectory h).laterState
  obtain ⟨parent, name, slash, hresolve, -, rfl⟩ := makeDirectory_ok h
  rw [isDirectory_iff]
  refine Or.inr ⟨parent, name, slash, hlater.resolve_eq hresolve, ?_⟩
  rw [node?_put fs (append_name_ne_nil parent name), if_pos rfl]

/-- The answer of a check for a directory. -/
theorem isDirectory_of_check {fs : FileSystem} {path : String} {fault : Fault}
    (h : (if fs.isDirectory path = true then Except.ok ()
      else Except.error fault) = .ok ()) :
    fs.isDirectory path = true := by
  by_cases hdir : fs.isDirectory path = true
  · exact hdir
  · simp [hdir] at h

/-- **All directories of a path.**  Making them makes directories only; and if
it succeeds, a directory stands at the path, unless the path is empty. -/
theorem makeDirectoriesFrom_spec (fuel : Nat) (fs : FileSystem) (path : String) :
    OnlyMakesDirectories fs (makeDirectoriesFrom fuel fs path).1 ∧
      ((makeDirectoriesFrom fuel fs path).2 = .ok () →
        path.isEmpty = true ∨
        (makeDirectoriesFrom fuel fs path).1.isDirectory path = true) := by
  induction fuel generalizing path with
  | zero => exact ⟨.refl fs, by simp [makeDirectoriesFrom]⟩
  | succ fuel ih =>
      rw [makeDirectoriesFrom]
      split
      · exact ⟨.refl fs, fun _ => Or.inl ‹_›⟩
      · cases hmake : fs.makeDirectory path with
        | ok made =>
            exact ⟨onlyMakesDirectories_of_makeDirectory hmake,
              fun _ => Or.inr (isDirectory_of_makeDirectory hmake)⟩
        | error fault =>
            by_cases hmissing : fault = .missing
            · -- The directories above come first; a fault there ends the attempt.
              simp only [hmissing, if_true]
              cases parent? path with
              | none => exact ⟨.refl fs, by simp⟩
              | some parent =>
                  obtain ⟨habove, -⟩ := ih parent
                  cases hfrom : makeDirectoriesFrom fuel fs parent with
                  | mk above made =>
                      rw [hfrom] at habove
                      cases made with
                      | error fault' =>
                          simp only [hfrom]
                          exact ⟨habove, by simp⟩
                      | ok u =>
                          simp only [hfrom]
                          cases hagain : above.makeDirectory path with
                          | ok later =>
                              exact ⟨habove.trans
                                (onlyMakesDirectories_of_makeDirectory hagain),
                                fun _ =>
                                  Or.inr (isDirectory_of_makeDirectory hagain)⟩
                          | error fault' =>
                              exact ⟨habove, fun h =>
                                Or.inr (isDirectory_of_check h)⟩
            · simp only [hmissing, if_false]
              exact ⟨.refl fs, fun h => Or.inr (isDirectory_of_check h)⟩

/-- Making the directories of a path makes directories only. -/
theorem onlyMakesDirectories_makeDirectories (fs : FileSystem) (path : String) :
    OnlyMakesDirectories fs (fs.makeDirectories path).1 :=
  (makeDirectoriesFrom_spec _ fs path).1

/-- A directory stands at a path whose directories were made. -/
theorem isDirectory_of_makeDirectories {fs later : FileSystem} {path : String}
    (h : fs.makeDirectories path = (later, .ok ())) (hpath : path.isEmpty = false) :
    later.isDirectory path = true := by
  have hspec := (makeDirectoriesFrom_spec (path.length + 1) fs path).2
  rw [← makeDirectories, h] at hspec
  rcases hspec rfl with hempty | hdir
  · rw [hpath] at hempty
    cases hempty
  · exact hdir

/-- The location to which names lead from a directory, if the last of them names
an entry. -/
def placeFrom (here : Location) : List String → Option Location
  | [] => none
  | name :: rest =>
    if name = "." then placeFrom here rest
    else if name = ".." then placeFrom here.dropLast rest
    else if rest.isEmpty then some (here ++ [name])
    else placeFrom (here ++ [name]) rest

/-- The place of a path: the location to which its names lead, whether or not
anything stands there. -/
def place? (fs : FileSystem) (path : String) : Option Location :=
  placeFrom (fs.startOf path) (namesOf path)

/-- The place of a path stays the same. -/
theorem Extends.place?_eq {fs later : FileSystem} (h : Extends fs later)
    (path : String) :
    later.place? path = fs.place? path := by
  rw [place?, place?, startOf, startOf, h.workingDirectory]

/-- Names that lead to an entry lead to its place. -/
theorem placeFrom_of_follow {fs : FileSystem} {slash after : Bool}
    {here parent : Location} {names : List String} {name : String}
    (h : fs.follow slash here names = .ok (.entry parent name after)) :
    placeFrom here names = some (parent ++ [name]) := by
  induction names generalizing here with
  | nil => simp [follow] at h
  | cons first rest ih =>
      rw [follow_cons_ok_iff] at h
      rw [placeFrom]
      rcases h with ⟨hdot, hrest⟩ | ⟨hdots, hrest⟩ |
        ⟨hdot, hdots, -, ⟨hlast, hentry⟩ | ⟨hmore, -, hrest⟩⟩
      · rw [if_pos hdot]
        exact ih hrest
      · have hdot : first ≠ "." := by simp [hdots]
        rw [if_neg hdot, if_pos hdots]
        exact ih hrest
      · cases hentry
        rw [if_neg hdot, if_neg hdots, if_pos (by simp [hlast])]
      · rw [if_neg hdot, if_neg hdots, if_neg (by simpa using hmore)]
        exact ih hrest

/-- **One file.**  A file is written at the entry that its path names, where no
directory stood. -/
theorem writeBytes_ok {fs later : FileSystem} {path : String} {data : List UInt8}
    (h : fs.writeBytes path data = .ok later) :
    ∃ parent name, fs.resolve path = .ok (.entry parent name false) ∧
      fs.node? (parent ++ [name]) ≠ some .directory ∧
      later = fs.put (parent ++ [name]) (.file data) := by
  simp only [writeBytes, writable, bind, Except.bind] at h
  cases hresolve : fs.resolve path with
  | error fault => simp [hresolve] at h
  | ok target =>
      cases target with
      | directory l => simp [hresolve, throw, throwThe, MonadExceptOf.throw] at h
      | entry parent name slash =>
          cases slash with
          | true =>
              cases hnode : fs.node? (parent ++ [name]) with
              | none =>
                simp [hresolve, hnode, throw, throwThe, MonadExceptOf.throw] at h
              | some node =>
                  cases node <;> simp [hresolve, hnode, throw, throwThe,
                    MonadExceptOf.throw] at h
          | false =>
              refine ⟨parent, name, rfl, ?_⟩
              cases hnode : fs.node? (parent ++ [name]) with
              | none =>
                  simp [hresolve, hnode, pure, Except.pure] at h
                  exact ⟨by simp, h.symm⟩
              | some node =>
                  cases node with
                  | directory =>
                    simp [hresolve, hnode, throw, throwThe, MonadExceptOf.throw]
                      at h
                  | file old =>
                      simp [hresolve, hnode, pure, Except.pure] at h
                      exact ⟨by simp, h.symm⟩

/-- Makes the directories above a file that is to be written. -/
def makeAbove (fs : FileSystem) (path : String) : FileSystem × Except Fault Unit :=
  match parent? path with
  | some parent =>
    if parent.isEmpty then (fs, .ok ()) else fs.makeDirectories parent
  | none => (fs, .ok ())

/-- Writing is making the directories above and then writing the bytes. -/
theorem writeText_eq (fs : FileSystem) (path text : String) :
    fs.writeText path text =
      match (fs.makeAbove path).2 with
      | .error fault => ((fs.makeAbove path).1, .error fault)
      | .ok () =>
        match (fs.makeAbove path).1.writeBytes path (Text.encodeUtf8 text) with
        | .ok later => (later, .ok ())
        | .error fault => ((fs.makeAbove path).1, .error fault) := rfl

/-- What is made above a file is directories. -/
theorem onlyMakesDirectories_makeAbove (fs : FileSystem) (path : String) :
    OnlyMakesDirectories fs (fs.makeAbove path).1 := by
  unfold makeAbove
  split
  · split
    · exact .refl fs
    · exact onlyMakesDirectories_makeDirectories ..
  · exact .refl fs

/-- A path leads to a name in a directory, and the directory above the path is
there. -/
structure SitedAt (fs : FileSystem) (path : String) (parent : Location)
    (name : String) : Prop where
  resolve_eq : fs.resolve path = .ok (.entry parent name false)
  isDirectory_above : ∀ above, parent? path = some above → above.isEmpty = false →
    fs.isDirectory above = true

/-- A path stays where it is. -/
theorem SitedAt.later {fs : FileSystem} {path : String} {parent : Location}
    {name : String} (h : fs.SitedAt path parent name) {later : FileSystem}
    (hlater : Extends fs later) :
    later.SitedAt path parent name :=
  ⟨hlater.resolve_eq h.resolve_eq, fun above habove hempty =>
    hlater.isDirectory (h.isDirectory_above above habove hempty)⟩

/-- The place of a sited path is its location. -/
theorem SitedAt.place?_eq {fs : FileSystem} {path : String} {parent : Location}
    {name : String}
    (h : fs.SitedAt path parent name) : fs.place? path = some (parent ++ [name]) :=
  placeFrom_of_follow (resolve_ok_iff.mp h.resolve_eq).2.2.2

/-- What is made above a file are the directories above it. -/
theorem isDirectory_of_makeAbove {fs : FileSystem} {path : String}
    (h : (fs.makeAbove path).2 = .ok ()) {above : String}
    (habove : parent? path = some above) (hempty : above.isEmpty = false) :
    (fs.makeAbove path).1.isDirectory above = true := by
  unfold makeAbove at h ⊢
  rw [habove] at h ⊢
  simp only [hempty, Bool.false_eq_true, if_false] at h ⊢
  exact isDirectory_of_makeDirectories (Prod.ext rfl h) hempty

/-- **All that writing a text can do.**  Some directories are made; then a fault
is answered, or the path is sited and a file is put there, where no directory
stands. -/
theorem writeText_cases (fs : FileSystem) (path text : String) :
    ∃ made, OnlyMakesDirectories fs made ∧
      ((∃ fault, fs.writeText path text = (made, .error fault)) ∨
        ∃ parent name, made.SitedAt path parent name ∧
          made.node? (parent ++ [name]) ≠ some .directory ∧
          fs.writeText path text =
            (made.put (parent ++ [name]) (.file (Text.encodeUtf8 text)),
              .ok ())) := by
  have honly := onlyMakesDirectories_makeAbove fs path
  have hwrite := writeText_eq fs path text
  have habove : (fs.makeAbove path).2 = .ok () →
      ∀ above, parent? path = some above →
      above.isEmpty = false → (fs.makeAbove path).1.isDirectory above = true :=
    fun hmade _ => isDirectory_of_makeAbove hmade
  generalize fs.makeAbove path = above at honly hwrite habove
  obtain ⟨made, result⟩ := above
  refine ⟨made, honly, ?_⟩
  cases result with
  | error fault => exact Or.inl ⟨fault, hwrite⟩
  | ok u =>
      dsimp only at hwrite habove
      cases hbytes : made.writeBytes path (Text.encodeUtf8 text) with
      | error fault =>
          rw [hbytes] at hwrite
          exact Or.inl ⟨fault, hwrite⟩
      | ok later =>
          rw [hbytes] at hwrite
          obtain ⟨parent, name, hresolve, hfree, rfl⟩ := writeBytes_ok hbytes
          exact Or.inr ⟨parent, name, ⟨hresolve, habove rfl⟩, hfree, hwrite⟩

/-- Writing leads to a later state, whatever the answer. -/
theorem extends_writeText (fs : FileSystem) (path text : String) :
    Extends fs (fs.writeText path text).1 := by
  obtain ⟨made, honly, ⟨fault, hwrite⟩ | ⟨parent, name, -, hfree, hwrite⟩⟩ :=
    writeText_cases fs path text
  · rw [hwrite]
    exact honly.laterState
  · rw [hwrite]
    exact honly.laterState.trans
      (extends_put made (append_name_ne_nil parent name) hfree _)

/-- A write that fails has made directories only. -/
theorem onlyMakesDirectories_of_writeText_error {fs : FileSystem}
    {path text : String} {fault : Fault}
    (h : (fs.writeText path text).2 = .error fault) :
    OnlyMakesDirectories fs (fs.writeText path text).1 := by
  obtain ⟨made, honly, ⟨fault', hwrite⟩ | ⟨parent, name, -, -, hwrite⟩⟩ :=
    writeText_cases fs path text
  · rw [hwrite]
    exact honly
  · rw [hwrite] at h
    cases h

/-- A write that fails leaves every file as it was. -/
theorem file?_of_writeText_error {fs : FileSystem} {path text : String}
    {fault : Fault}
    (h : (fs.writeText path text).2 = .error fault) (l : Location) :
    (fs.writeText path text).1.file? l = fs.file? l :=
  (onlyMakesDirectories_of_writeText_error h).file?_eq l

/-- **A write that succeeds** leaves its path sited with the text there, and
every other file as it was. -/
theorem sitedAt_of_writeText_ok {fs : FileSystem} {path text : String}
    (h : (fs.writeText path text).2 = .ok ()) :
    ∃ parent name, (fs.writeText path text).1.SitedAt path parent name ∧
      ∀ l, (fs.writeText path text).1.file? l =
        if l = parent ++ [name] then some (Text.encodeUtf8 text)
          else fs.file? l := by
  obtain ⟨made, honly, ⟨fault, hwrite⟩ |
    ⟨parent, name, hsited, hfree, hwrite⟩⟩ := writeText_cases fs path text
  · rw [hwrite] at h
    cases h
  · have hne := append_name_ne_nil parent name
    rw [hwrite]
    refine ⟨parent, name, hsited.later (extends_put made hne hfree _), ?_⟩
    intro l
    rw [file?, node?_put made hne]
    by_cases hl : l = parent ++ [name]
    · simp [hl]
    · simp only [hl, if_false]
      exact honly.file?_eq l

/-- A write that succeeds leaves its text at the place of the path, and every
other file as it was. -/
theorem file?_of_writeText_ok {fs : FileSystem} {path text : String}
    (h : (fs.writeText path text).2 = .ok ()) :
    ∃ place, fs.place? path = some place ∧ ∀ l, (fs.writeText path text).1.file? l =
      if l = place then some (Text.encodeUtf8 text) else fs.file? l := by
  obtain ⟨parent, name, hsited, hfile⟩ := sitedAt_of_writeText_ok h
  refine ⟨parent ++ [name], ?_, hfile⟩
  rw [← (extends_writeText fs path text).place?_eq, hsited.place?_eq]

/-- Writing touches a file only if it succeeds and the path leads there. -/
theorem file?_writeText_eq {fs : FileSystem} {path text : String} {l : Location}
    (h : (fs.writeText path text).2 = .ok () → fs.place? path ≠ some l) :
    (fs.writeText path text).1.file? l = fs.file? l := by
  cases hwrite : (fs.writeText path text).2 with
  | error fault => exact file?_of_writeText_error hwrite l
  | ok u =>
      obtain ⟨place, hplace, hfile⟩ := file?_of_writeText_ok hwrite
      rw [hfile, if_neg]
      rintro rfl
      exact h hwrite hplace

/-- Writing touches no file but the one at the place of the path. -/
theorem file?_writeText_of_ne {fs : FileSystem} {path : String} {l : Location}
    (h : fs.place? path ≠ some l) (text : String) :
    (fs.writeText path text).1.file? l = fs.file? l :=
  file?_writeText_eq fun _ => h

/-- A path is the same from outside in two states of the files: something stands
there in both or in neither, and writing there is answered alike. -/
def SameAccess (path : String) (fs other : FileSystem) : Prop :=
  fs.exists? path = other.exists? path ∧
    ∀ text, (fs.writeText path text).2 = (other.writeText path text).2

/-- A path is the same from outside in one state. -/
theorem SameAccess.refl (path : String) (fs : FileSystem) : SameAccess path fs fs :=
  ⟨rfl, fun _ => rfl⟩

/-- Access that is the same one way is the same the other way. -/
theorem SameAccess.symm {path : String} {fs other : FileSystem}
    (h : SameAccess path fs other) :
    SameAccess path other fs :=
  ⟨h.1.symm, fun text => (h.2 text).symm⟩

/-- Access that stays the same twice stays the same. -/
theorem SameAccess.trans {path : String} {fs middle other : FileSystem}
    (h : SameAccess path fs middle)
    (h' : SameAccess path middle other) : SameAccess path fs other :=
  ⟨h.1.trans h'.1, fun text => (h.2 text).trans (h'.2 text)⟩

/-- The states that are reached by writing texts at some paths, any text in any
order. -/
inductive Reached (paths : List String) (fs : FileSystem) : FileSystem → Prop
  | start : Reached paths fs fs
  | write {now : FileSystem} (h : Reached paths fs now) {path : String}
      (hpath : path ∈ paths)
      (text : String) : Reached paths fs (now.writeText path text).1

/-- What is reached by writing is a later state. -/
theorem Reached.extends {paths : List String} {fs now : FileSystem}
    (h : Reached paths fs now) :
    Extends fs now := by
  induction h with
  | start => exact .refl fs
  | write _ _ text ih => exact ih.trans (extends_writeText ..)

/-- Writing can be followed by further writing. -/
theorem Reached.trans {paths : List String} {fs now later : FileSystem}
    (h : Reached paths fs now)
    (h' : Reached paths now later) : Reached paths fs later := by
  induction h' with
  | start => exact h
  | write _ hpath text ih => exact ih.write hpath text

/-! ## Files beside each other

A path may lead to an entry of a directory that is there, so that nothing has to
be made above it.  Writing such a file touches that entry alone.
-/

section Sited

variable {fs : FileSystem} {path : String} {parent : Location} {name : String}

/-- A path is sited if its parent is a directory. -/
theorem SitedAt.of_parent
    (hresolve : fs.resolve path = .ok (.entry parent name false)) {above : String}
    (habove : parent? path = some above) (hdir : fs.isDirectory above = true) :
    fs.SitedAt path parent name := by
  refine ⟨hresolve, ?_⟩
  intro other hother _
  cases habove.symm.trans hother
  exact hdir

/-- Where a directory stands, none is made. -/
theorem makeDirectories_of_isDirectory (h : fs.isDirectory path = true) :
    fs.makeDirectories path = (fs, .ok ()) := by
  have hoccupied : fs.makeDirectory path = .error .occupied := by
    simp only [makeDirectory, bind, Except.bind]
    rcases isDirectory_iff.mp h with ⟨l, hresolve⟩ |
      ⟨parent, name, slash, hresolve, hnode⟩
    · rw [hresolve]
      rfl
    · rw [hresolve]
      simp only [hnode]
      rfl
  have hfault : Fault.occupied ≠ Fault.missing := by decide
  rw [makeDirectories, makeDirectoriesFrom, hoccupied]
  simp [h, hfault]

/-- Nothing is made above a sited path. -/
theorem SitedAt.makeAbove_eq (h : fs.SitedAt path parent name) :
    fs.makeAbove path = (fs, .ok ()) := by
  unfold makeAbove
  cases habove : parent? path with
  | none => rfl
  | some above =>
      cases hempty : above.isEmpty with
      | true => simp [hempty]
      | false =>
          simp only [hempty, Bool.false_eq_true, if_false]
          exact makeDirectories_of_isDirectory
            (h.isDirectory_above above habove hempty)

/-- **Writing a sited file** puts it at its location, unless a directory stands
there. -/
theorem SitedAt.writeText_eq (h : fs.SitedAt path parent name) (text : String) :
    fs.writeText path text =
      if fs.node? (parent ++ [name]) = some .directory
        then (fs, .error .isDirectory)
      else (fs.put (parent ++ [name]) (.file (Text.encodeUtf8 text)), .ok ()) := by
  rw [FileSystem.writeText_eq, h.makeAbove_eq]
  simp only [writeBytes, writable, h.resolve_eq, bind, Except.bind]
  cases fs.node? (parent ++ [name]) with
  | none => rfl
  | some node => cases node <;> rfl

/-- A sited file exists if something stands at its location. -/
theorem SitedAt.exists?_eq (h : fs.SitedAt path parent name) :
    fs.exists? path = (fs.node? (parent ++ [name])).isSome := by
  simp only [exists?, stat, h.resolve_eq, bind, Except.bind]
  cases fs.node? (parent ++ [name]) with
  | none => rfl
  | some node => cases node <;> rfl

/-- Writing a sited file changes nothing elsewhere. -/
theorem SitedAt.node?_writeText_of_ne (h : fs.SitedAt path parent name)
    {l : Location} (hl : l ≠ parent ++ [name]) (text : String) :
    (fs.writeText path text).1.node? l = fs.node? l := by
  rw [h.writeText_eq]
  by_cases hdir : fs.node? (parent ++ [name]) = some .directory
  · rw [if_pos hdir]
  · rw [if_neg hdir, node?_put fs (append_name_ne_nil parent name), if_neg hl]

/-- A file that stands at a location is what stands there. -/
theorem node?_of_file? {l : Location} {data : List UInt8}
    (h : fs.file? l = some data) :
    fs.node? l = some (.file data) := by
  unfold file? at h
  split at h
  · rename_i other hnode
    rw [hnode, Option.some.inj h]
  · cases h

/-- The text of a sited file can be read. -/
theorem SitedAt.readText_eq (h : fs.SitedAt path parent name) {text : String}
    (hfile : fs.file? (parent ++ [name]) = some (Text.encodeUtf8 text)) :
    fs.readText path = .ok text := by
  have hbytes : fs.readBytes path = .ok (Text.encodeUtf8 text) := by
    simp only [readBytes, stat, h.resolve_eq, node?_of_file? hfile, bind,
      Except.bind]
    rfl
  simp only [readText, hbytes, bind, Except.bind, Text.decodeUtf8?_encodeUtf8]
  rfl

/-- A sited file can be written again. -/
theorem SitedAt.writeText_ok (h : fs.SitedAt path parent name) {data : List UInt8}
    (hfile : fs.file? (parent ++ [name]) = some data) (text : String) :
    (fs.writeText path text).2 = .ok () := by
  rw [h.writeText_eq, node?_of_file? hfile, if_neg (by simp)]

/-- Access to a sited path hangs on what stands at its location. -/
theorem SitedAt.sameAccess (h : fs.SitedAt path parent name) {other : FileSystem}
    (h' : other.SitedAt path parent name)
    (hnode : fs.node? (parent ++ [name]) = other.node? (parent ++ [name])) :
    SameAccess path fs other := by
  refine ⟨by rw [h.exists?_eq, h'.exists?_eq, hnode], ?_⟩
  intro text
  rw [h.writeText_eq, h'.writeText_eq, hnode]
  by_cases hdir : other.node? (parent ++ [name]) = some .directory
  · rw [if_pos hdir, if_pos hdir]
  · rw [if_neg hdir, if_neg hdir]

/-- Writing a sited file does not touch another. -/
theorem SitedAt.sameAccess_writeText (h : fs.SitedAt path parent name)
    {other : String} {parent' : Location}
    {name' : String} (h' : fs.SitedAt other parent' name')
    (hne : parent ++ [name] ≠ parent' ++ [name'])
    (text : String) : SameAccess path fs (fs.writeText other text).1 :=
  h.sameAccess (h.later (extends_writeText ..))
    (h'.node?_writeText_of_ne hne text).symm

/-- A sited file that cannot be written leaves nothing behind. -/
theorem SitedAt.writeText_error (h : fs.SitedAt path parent name)
    {text : String} {fault : Fault}
    (hfault : (fs.writeText path text).2 = .error fault) :
    (fs.writeText path text).1 = fs := by
  rw [h.writeText_eq] at hfault ⊢
  by_cases hdir : fs.node? (parent ++ [name]) = some .directory
  · rw [if_pos hdir]
  · rw [if_neg hdir] at hfault
    cases hfault

end Sited

end FileSystem

end Prospectus.Storage
