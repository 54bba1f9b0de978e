import Prospectus.Batch.Job
import Prospectus.Proofs.StorageEffects

/-!
# Catalogs that are read from files

A batch opens its catalog anew for every topic, while it writes summaries.  Two
things make this harmless.  Nothing that can be wrong with a catalog is fatal,
however broken it is (`kind_ne_fatal_of_openFile`, `kind_ne_fatal_of_extract`),
so that it costs one topic and not the batch.  And a catalog that can be opened
is found the same later on, as long as no summary is written in its place
(`openFile_of_reached`).
-/

namespace Prospectus

open Storage

/-! ## Errors about a catalog -/

/-- The error of a walk is the error of one of its pages. -/
theorem Visitor.error_of_walkPages {σ : Type} (v : Visitor σ)
    {source : PageSource} {pages : List UInt32} {s : σ}
    {e : Error} (h : (v.walkPages source pages s).2 = .error e) :
    ∃ page ∈ pages, source.pageRuns page = .error e := by
  induction pages generalizing s with
  | nil => exact nomatch h
  | cons page rest ih =>
      have hrest : ∀ {t : σ}, (v.walkPages source rest t).2 = .error e →
          ∃ p ∈ page :: rest, source.pageRuns p = .error e := by
        intro t ht
        obtain ⟨p, hp, hread⟩ := ih ht
        exact ⟨p, List.mem_cons_of_mem page hp, hread⟩
      rw [walkPages] at h
      split at h
      · exact nomatch h
      · exact hrest h
      · split at h
        · next hread =>
            cases h
            exact ⟨page, List.mem_cons_self, hread⟩
        · split at h
          · exact nomatch h
          · split at h
            · exact nomatch h
            · exact hrest h

/-- Reading a page of the source never ends in a fatal error. -/
def PageSource.NeverFatal (source : PageSource) : Prop :=
  ∀ page e, source.pageRuns page = .error e → e.kind ≠ .fatal

/-- Then neither does the search for the table of contents. -/
theorem PageSource.NeverFatal.locate {source : PageSource}
    (hsource : source.NeverFatal) {locator : Contents.Locator} {e : Error}
    (h : locator.locate source = .error e) : e.kind ≠ .fatal := by
  rw [Contents.Locator.locate] at h
  split at h
  · next hwalk =>
      cases h
      obtain ⟨page, -, hpage⟩ :=
        Visitor.error_of_walkPages _ (congrArg Prod.snd hwalk)
      exact hsource page _ hpage
  · split at h
    · exact nomatch h
    · cases h
      simp [Error.kind]

/-- Nor does the collecting of bold text. -/
theorem PageSource.NeverFatal.boldText {source : PageSource}
    (hsource : source.NeverFatal) {c : Classifier} {window : Option Window}
    {e : Error} (h : Prospectus.boldText c source window = .error e) :
    e.kind ≠ .fatal := by
  rw [Prospectus.boldText.eq_def] at h
  split at h
  · exact nomatch h
  · split at h
    · exact nomatch h
    · next hwalk =>
        cases h
        obtain ⟨page, -, hpage⟩ :=
          Visitor.error_of_walkPages _ (congrArg Prod.snd hwalk)
        exact hsource page _ hpage

/-- A topic without an entry is an error that is not fatal. -/
theorem Contents.kind_ne_fatal_of_findPage {contents topic : String} {e : Error}
    (h : Contents.findPage contents topic = .error e) : e.kind ≠ .fatal := by
  simp only [findPage, findEntry] at h
  split at h
  · cases h
    simp [Error.kind]
  · split at h
    · cases h
      simp [Error.kind]
    · exact nomatch h

/-- **No excerpt fails fatally**, if no page does. -/
theorem PageSource.NeverFatal.extract {source : PageSource}
    (hsource : source.NeverFatal) {x : Extractor}
    {topic : String} {e : Error} (h : x.extract source topic = .error e) :
    e.kind ≠ .fatal := by
  simp only [Extractor.extract, bind, Except.bind, pure, Except.pure] at h
  split at h
  · next hlocate =>
      cases h
      exact hsource.locate hlocate
  · split at h
    · next hpage =>
        cases h
        exact Contents.kind_ne_fatal_of_findPage hpage
    · split at h
      · next htext =>
          cases h
          exact hsource.boldText htext
      · exact nomatch h

namespace Pdf

/-- Defects are not fatal. -/
theorem Defect.kind_error (d : Defect) : d.error.kind = .collaborator := rfl

namespace File

/-- A file that cannot be unlocked is not fatal. -/
theorem kind_ne_fatal_of_unlock {f : File} {e : Error}
    (h : f.unlock = .error e) : e.kind ≠ .fatal := by
  unfold unlock at h
  split at h
  · exact nomatch h
  · split at h
    · exact nomatch h
    · split at h
      · exact nomatch h
      · split at h
        · cases h
          simp [Defect.kind_error]
        · dsimp only at h
          split at h
          · exact nomatch h
          · cases h
            simp [Error.kind]

/-- Bytes that are no PDF file are not fatal. -/
theorem kind_ne_fatal_of_read {bytes : Bytes} {e : Error}
    (h : File.read bytes = .error e) :
    e.kind ≠ .fatal := by
  unfold File.read at h
  split at h
  · cases h
    simp [Defect.kind_error]
  · exact kind_ne_fatal_of_unlock h

/-- A page of a file that cannot be read is not fatal. -/
theorem kind_ne_fatal_of_backend {f : File} {page : ObjectId} {e : Error}
    (h : f.backend.pageRuns page = .error e) : e.kind ≠ .fatal := by
  simp only [Backend.pageRuns, backend, bind, Except.bind, pure, Except.pure] at h
  cases hfonts : f.pageFonts page with
  | error d =>
      simp only [hfonts, Except.error.injEq] at h
      simp [← h, Defect.kind_error]
  | ok fonts =>
      simp only [hfonts] at h
      split at h
      · exact nomatch h
      · cases hoperations : Content.operations (f.pageContent page) with
        | error d =>
            simp only [hoperations, Except.error.injEq] at h
            simp [← h, Defect.kind_error]
        | ok operations =>
            simp only [hoperations] at h
            exact nomatch h

/-- **A file gives no fatal error**, whichever page is read. -/
theorem neverFatal_source (f : File) (tolerance : Tolerance) :
    (f.reader tolerance).source.NeverFatal := by
  intro page e h
  change (f.reader tolerance).pageRuns page = .error e at h
  rw [Reader.pageRuns] at h
  split at h
  · cases h
    simp [Error.kind]
  · split at h
    · exact nomatch h
    · exact kind_ne_fatal_of_backend h

end File

end Pdf

/-- **A file that cannot be opened** is no fatal error. -/
theorem Source.kind_ne_fatal_of_openFile {fs : FileSystem} {path : String}
    {e : Error}
    (h : Source.openFile fs path = .error e) : e.kind ≠ .fatal := by
  unfold openFile at h
  split at h
  · cases h
    simp [Error.kind]
  · exact Pdf.File.kind_ne_fatal_of_read h

/-! ## A catalog among summaries -/

namespace Storage.FileSystem

/-- Writing at other places leaves a file as it is. -/
theorem Reached.file?_eq {paths : List String} {fs now : FileSystem}
    (h : Reached paths fs now) {l : Location}
    (hl : ∀ path ∈ paths, fs.place? path ≠ some l) : now.file? l = fs.file? l := by
  induction h with
  | start => rfl
  | @write now hreached path hpath text ih =>
      have hplace : now.place? path ≠ some l := by
        rw [hreached.extends.place?_eq]
        exact hl path hpath
      rw [file?_writeText_of_ne hplace, ih]

/-- A file can be read iff its path leads to it. -/
theorem readBytes_eq_ok_iff {fs : FileSystem} {path : String} {data : List UInt8} :
    fs.readBytes path = .ok data ↔
      ∃ parent name, fs.resolve path = .ok (.entry parent name false) ∧
        fs.file? (parent ++ [name]) = some data := by
  simp only [readBytes, stat, bind, Except.bind]
  constructor
  · intro h
    cases hresolve : fs.resolve path with
    | error fault => simp [hresolve] at h
    | ok target =>
        cases target with
        | directory l =>
          simp [hresolve, pure, Except.pure, throw, throwThe,
            MonadExceptOf.throw] at h
        | entry parent name slash =>
            refine ⟨parent, name, ?_⟩
            cases hnode : fs.node? (parent ++ [name]) with
            | none =>
              simp [hresolve, hnode, throw, throwThe, MonadExceptOf.throw] at h
            | some node =>
                cases node <;> cases slash <;>
                  simp_all [file?, pure, Except.pure, throw, throwThe,
                    MonadExceptOf.throw]
  · rintro ⟨parent, name, hresolve, hfile⟩
    simp [hresolve, node?_of_file? hfile, pure, Except.pure]

/-- **A file stays readable** while its place keeps it. -/
theorem readBytes_later {fs later : FileSystem} (hlater : Extends fs later)
    {path : String} {data : List UInt8} (h : fs.readBytes path = .ok data)
    (hkeep : ∀ l, fs.place? path = some l → later.file? l = fs.file? l) :
    later.readBytes path = .ok data := by
  obtain ⟨parent, name, hresolve, hfile⟩ := readBytes_eq_ok_iff.mp h
  have hplace : fs.place? path = some (parent ++ [name]) :=
    placeFrom_of_follow (resolve_ok_iff.mp hresolve).2.2.2
  refine readBytes_eq_ok_iff.mpr ⟨parent, name, hlater.resolve_eq hresolve, ?_⟩
  rw [hkeep _ hplace, hfile]

end Storage.FileSystem

/-- **A catalog is found the same** after directories have been made and files
written, unless one of these files has its place. -/
theorem Source.openFile_of_reached {fs made now : FileSystem} {paths : List String}
    (hmade : fs.OnlyMakesDirectories made)
    (hnow : FileSystem.Reached paths made now) {path : String}
    {file : Pdf.File} (h : Source.openFile fs path = .ok file)
    (hapart : ∀ other ∈ paths, fs.place? other ≠ fs.place? path) :
    Source.openFile now path = .ok file := by
  unfold openFile at h ⊢
  cases hread : fs.readBytes path with
  | error fault => simp [hread] at h
  | ok data =>
      rw [hread] at h
      have hlater : now.readBytes path = .ok data := by
        refine FileSystem.readBytes_later (hmade.laterState.trans hnow.extends)
          hread ?_
        intro l hl
        rw [hnow.file?_eq, hmade.file?_eq]
        intro other hother
        rw [hmade.laterState.place?_eq, ← hl]
        exact hapart other hother
      rw [hlater]
      exact h

end Prospectus
