import Prospectus.Document.Json
import Prospectus.Proofs.JsonRecords
import Prospectus.Proofs.MomentReading
import Prospectus.Proofs.ShortestNumerals

/-!
# Documents read back

The text of a document whose floats are numbers is read back
(`Document.write_reads_back`), as the same document if its creation is a moment
that a clock shows.  Fields of a record are found by their names, which are all
different, so that a weight left out is read as none; each part is then read
back on its own.
-/

namespace Prospectus

open Json Number

namespace Json

/-! ## Records -/

/-- Of fields with names of their own, one at most has a given name. -/
theorem filter_entry {fields : List (String × Value)}
    (hnames : (fields.map Prod.fst).Nodup) (name : String) :
    (fields.map entry).filter (fun field => field.1 = some name) =
      ((fields.lookup name).map fun v => (some name, v)).toList := by
  induction fields with
  | nil => rfl
  | cons field fields ih =>
    obtain ⟨hfirst, hnames⟩ := List.nodup_cons.mp hnames
    rw [List.map_cons, List.lookup_cons]
    by_cases hname : name = field.1
    · have hnone : fields.lookup name = none := by
        rw [List.lookup_eq_none_iff]
        intro other hother
        have hne : name ≠ other.1 :=
          fun h => hfirst (hname ▸ h ▸ List.mem_map_of_mem hother)
        exact bne_iff_ne.mpr hne
      rw [List.filter_cons_of_pos (by simp [entry, hname]), ih hnames, hnone,
        hname, beq_self_eq_true]
      rfl
    · rw [List.filter_cons_of_neg (by simp [entry, Ne.symm hname]), ih hnames,
        beq_false_of_ne hname]

theorem onlyField?_entry {fields : List (String × Value)}
    (hnames : (fields.map Prod.fst).Nodup) (name : String) :
    onlyField? (fields.map entry) name = some (fields.lookup name) := by
  unfold onlyField?
  rw [filter_entry hnames]
  cases fields.lookup name <;> rfl

/-- A list whose members are all read is read. -/
theorem mapM_map_eq {α β γ : Type} {read : β → Option γ} {write : α → β}
    {view : α → γ} {as : List α}
    (has : ∀ a ∈ as, read (write a) = some (view a)) :
    (as.map write).mapM read = some (as.map view) := by
  rw [mapM_eq_some_iff, List.forall₂_map_left_iff, List.forall₂_map_right_iff]
  exact List.forall₂_same.mpr has

/-- The fields of a record are found by their names. -/
theorem recordFields?_record {spec : List (String × Need)}
    {fields : List (String × Value)} (hnames : (fields.map Prod.fst).Nodup)
    (hspec : ∀ field ∈ spec, field.2 = .required → (fields.lookup field.1).isSome) :
    recordFields? spec (.record fields) =
      some (spec.map fun field => fields.lookup field.1) := by
  have hany : ¬(fields.map entry).any (·.1.isNone) := by
    simp [entry]
  rw [Value.record_eq, recordFields?, if_neg hany, ← List.map_id spec,
    mapM_map_eq, List.map_id]
  intro field hfield
  dsimp only [id]
  rw [onlyField?_entry hnames]
  cases hfound : fields.lookup field.1 with
  | some v => rfl
  | none =>
    -- what is not found is not required
    refine if_neg fun hneed => ?_
    have hsome := hspec field hfield hneed
    rw [hfound] at hsome
    exact Bool.false_ne_true hsome

end Json

/-! ## Parts of a document -/

/-- A number of 32 bits is read back. -/
theorem uint32Of?_int (n : UInt32) : uint32Of? (.int n.toNat) = some n := by
  have hlt := n.toNat_lt
  have hdigits : Numeral.digitsNat (Nat.toDigits 10 n.toNat) = n.toNat :=
    Nat.ofDigitChars_ten_toDigits
  have hint : (Numeral.ofInt (n.toNat : Int)).toInt? = some (n.toNat : Int) := by
    have hmax : Numeral.maxSignificand = 0xFFFFFFFFFFFFFFFF := rfl
    unfold Numeral.toInt? Numeral.ofInt
    dsimp only
    rw [Int.natAbs_natCast, hdigits, if_neg (by simp [Numeral.isInteger]),
      if_neg (by simp), if_pos (by omega)]
  unfold uint32Of? Value.int Value.asNat?
  dsimp only
  rw [hint]
  change (if n.toNat < 0x100000000 then some n.toNat
    else none).map Nat.toUInt32 = some n
  rw [if_pos hlt, Option.map_some, Nat.toUInt32, UInt32.ofNat_toNat]

theorem asText?_text (s : String) : (Value.text s).asText? = some s := rfl

/-- A float that is a number is written as a number, and read back. -/
theorem exists_float32Value {x : Float32} (hx : x.isFinite) :
    ∃ n : Numeral, float32Value x = .number n ∧ n.WellFormed ∧
      n.toFloat32? = some x := by
  obtain ⟨n, hn, hwritten, hread⟩ :=
    Numeral.exists_ofFloat32? (toBits_lt_infinity hx)
  refine ⟨n, ?_, hwritten, hread⟩
  rw [float32Value, hn]

theorem asFloat32?_float32Value {x : Float32} (hx : x.isFinite) :
    (float32Value x).asFloat32? = some x := by
  obtain ⟨n, hn, -, hread⟩ := exists_float32Value hx
  rw [hn]
  exact hread

/-- What is read back from a value that is not null is read back where it may be
absent. -/
theorem nullable?_map {α : Type} {read : Value → Option α} {write : α → Value}
    {a : Option α} (ha : ∀ b ∈ a, read (write b) = some b ∧ write b ≠ .null) :
    Value.nullable? read (a.map write) = some a := by
  cases a with
  | none => rfl
  | some b =>
    obtain ⟨hread, hnull⟩ := ha b rfl
    rw [Option.map_some, Value.nullable?]
    · rw [hread]
      rfl
    · exact hnull

/-- Whether every float of a run is a number. -/
structure Run.Finite (r : Run) : Prop where
  weight : ∀ w ∈ r.weight, w.isFinite
  size : r.size.isFinite
  x : r.x.isFinite
  y : r.y.isFinite

instance (r : Run) : Decidable r.Finite :=
  decidable_of_iff ((∀ w ∈ r.weight, w.isFinite) ∧ r.size.isFinite ∧
    r.x.isFinite ∧ r.y.isFinite)
    ⟨fun ⟨hweight, hsize, hx, hy⟩ => ⟨hweight, hsize, hx, hy⟩,
      fun h => ⟨h.weight, h.size, h.x, h.y⟩⟩

theorem Run.ofJson?_toJson {r : Run} (hr : r.Finite) :
    Run.ofJson? r.toJson = some r := by
  have hfields : recordFields? Run.spec r.toJson =
      some [some (.text r.text), some (.text r.font), r.weight.map float32Value,
        some (float32Value r.size), some (float32Value r.x),
        some (float32Value r.y)] := by
    unfold Run.toJson
    -- without a weight there is no field of that name, and none is found
    cases r.weight with
    | none =>
      rw [recordFields?_record (by simp) (by simp [Run.spec, List.lookup_cons])]
      simp [Run.spec, List.lookup_cons]
    | some w =>
      rw [recordFields?_record (by simp) (by simp [Run.spec, List.lookup_cons])]
      simp [Run.spec, List.lookup_cons]
  have hweight : Value.nullable? (·.asFloat32?) (r.weight.map float32Value) =
      some r.weight := by
    refine nullable?_map fun w hw => ⟨asFloat32?_float32Value (hr.weight w hw), ?_⟩
    -- a null in its place would be read as no weight
    obtain ⟨n, hn, -⟩ := exists_float32Value (hr.weight w hw)
    rw [hn]
    exact Value.noConfusion
  simp only [Run.ofJson?, hfields, hweight, asFloat32?_float32Value hr.size,
    asFloat32?_float32Value hr.x, asFloat32?_float32Value hr.y, asText?_text,
    Option.bind_eq_bind, Option.bind_some]
  rfl

theorem Page.ofJson?_toJson {p : Page} (hp : ∀ r ∈ p.runs, r.Finite) :
    Page.ofJson? p.toJson = some p := by
  have hfields : recordFields? Page.spec p.toJson =
      some [some (.int p.number.toNat), some (.array (p.runs.map Run.toJson))] := by
    unfold Page.toJson
    rw [recordFields?_record (by simp) (by simp [Page.spec, List.lookup_cons])]
    simp [Page.spec, List.lookup_cons]
  have hruns : (p.runs.map Run.toJson).mapM Run.ofJson? = some p.runs := by
    rw [mapM_map_eq fun r hr => Run.ofJson?_toJson (hp r hr), List.map_id']
  simp only [Page.ofJson?, hfields, uint32Of?_int, Value.asArray?, hruns,
    Option.bind_eq_bind, Option.bind_some]
  rfl

theorem nullable?_text? (s : Option String) :
    Value.nullable? (·.asText?) (some (.text? s)) = some s := by
  cases s <;> rfl

theorem nullable?_created (created : Option Time.Moment) :
    Value.nullable? (fun v => v.asText?.bind Time.Moment.read?)
      (some (.text? (created.map (·.text)))) =
      some (created.map (·.carried)) := by
  cases created with
  | none => rfl
  | some m =>
    rw [Option.map_some, Value.text?, Value.text, Value.nullable?]
    · rw [Value.asText?, Option.bind_some, Time.Moment.read?_text_eq_carried,
        Option.map_some, Option.map_some]
    · exact Value.noConfusion

/-- The document with its creation as its text names it. -/
def Document.carried (d : Document) : Document :=
  { d with metadata.created := d.metadata.created.map (·.carried) }

/-- A document is changed only where no clock shows its creation. -/
theorem Document.carried_eq_self_iff (d : Document) :
    d.carried = d ↔ ∀ m ∈ d.metadata.created, m.Regular := by
  obtain ⟨⟨title, author, creator, producer, created, version, count,
    encrypted⟩, pages⟩ := d
  cases created with
  | none => simp [carried]
  | some m => simp [carried, m.carried_eq_self_iff]

theorem Metadata.ofJson?_toJson (m : Metadata) :
    Metadata.ofJson? m.toJson =
      some { m with created := m.created.map (·.carried) } := by
  have hfields : recordFields? Metadata.spec m.toJson =
      some [some (.text? m.title), some (.text? m.author),
        some (.text? m.creator), some (.text? m.producer),
        some (.text? (m.created.map (·.text))), some (.text m.formatVersion),
        some (.int m.pageCount.toNat), some (.bool m.encrypted)] := by
    unfold Metadata.toJson
    rw [recordFields?_record (by simp) (by simp [Metadata.spec, List.lookup_cons])]
    simp [Metadata.spec, List.lookup_cons]
  simp only [Metadata.ofJson?, hfields, nullable?_text?, nullable?_created,
    asText?_text, uint32Of?_int, Value.asBool?, Option.bind_eq_bind,
    Option.bind_some]
  rfl

theorem Document.ofJson?_toJson {d : Document}
    (hfinite : ∀ p ∈ d.pages, ∀ r ∈ p.runs, r.Finite) :
    Document.ofJson? d.toJson = some d.carried := by
  have hfields : recordFields? Document.spec d.toJson =
      some [some d.metadata.toJson, some (.array (d.pages.map Page.toJson))] := by
    unfold Document.toJson
    rw [recordFields?_record (by simp) (by simp [Document.spec, List.lookup_cons])]
    simp [Document.spec, List.lookup_cons]
  have hpages : (d.pages.map Page.toJson).mapM Page.ofJson? = some d.pages := by
    rw [mapM_map_eq fun p hp => Page.ofJson?_toJson (hfinite p hp), List.map_id']
  simp only [Document.ofJson?, hfields, Metadata.ofJson?_toJson, Value.asArray?,
    hpages, Option.bind_eq_bind, Option.bind_some]
  rfl

/-! ## Documents -/

theorem writable_float32Value {x : Float32} (hx : x.isFinite) :
    Writable (float32Value x) := by
  obtain ⟨n, hn, hwritten, -⟩ := exists_float32Value hx
  rw [hn]
  exact .number hwritten

theorem Run.writable {r : Run} (hr : r.Finite) : Writable r.toJson := by
  have hsize := writable_float32Value hr.size
  have hx := writable_float32Value hr.x
  have hy := writable_float32Value hr.y
  unfold Run.toJson
  rcases hweight : r.weight with _ | w
  · refine .record ?_
    simp only [List.cons_append, List.nil_append, List.forall_mem_cons]
    exact ⟨.text _, .text _, hsize, hx, hy, List.forall_mem_nil _⟩
  · have hw := writable_float32Value (hr.weight w hweight)
    refine .record ?_
    simp only [List.cons_append, List.nil_append, List.forall_mem_cons]
    exact ⟨.text _, .text _, hw, hsize, hx, hy, List.forall_mem_nil _⟩

theorem Page.writable {p : Page} (hp : ∀ r ∈ p.runs, r.Finite) :
    Writable p.toJson := by
  refine .record ?_
  simp only [List.forall_mem_cons]
  refine ⟨writable_int _, .array ?_, List.forall_mem_nil _⟩
  exact List.forall_mem_map.mpr fun r hr => Run.writable (hp r hr)

theorem Metadata.writable (m : Metadata) : Writable m.toJson := by
  refine .record ?_
  simp only [List.forall_mem_cons]
  exact ⟨writable_text? _, writable_text? _, writable_text? _, writable_text? _,
    writable_text? _, .text _, writable_int _, .bool _, List.forall_mem_nil _⟩

theorem Document.writable {d : Document}
    (hfinite : ∀ p ∈ d.pages, ∀ r ∈ p.runs, r.Finite) :
    Writable d.toJson := by
  refine .record ?_
  simp only [List.forall_mem_cons]
  refine ⟨d.metadata.writable, .array ?_, List.forall_mem_nil _⟩
  exact List.forall_mem_map.mpr fun p hp => Page.writable (hfinite p hp)

theorem Document.read?_write {d : Document}
    (hfinite : ∀ p ∈ d.pages, ∀ r ∈ p.runs, r.Finite) :
    Document.read? d.write = some d.carried := by
  unfold Document.read? Document.write
  rw [(Document.writable hfinite).read?_compact, Option.bind_some,
    Document.ofJson?_toJson hfinite]

/-- **A document is read back from its text**: every text and every absent
field, its floats bit for bit and its creation to the nanosecond.  A creation
that no clock shows, with a second or more of nanoseconds within a minute, comes
back as the moment that it is carried into, so that the document is the same
exactly if its creation is one that a clock shows. -/
theorem Document.write_reads_back {d : Document}
    (hfinite : ∀ p ∈ d.pages, ∀ r ∈ p.runs, r.Finite) :
    Document.read? d.write = some d.carried ∧
      (Document.read? d.write = some d ↔ ∀ m ∈ d.metadata.created, m.Regular) := by
  refine ⟨Document.read?_write hfinite, ?_⟩
  rw [Document.read?_write hfinite, Option.some.injEq, Document.carried_eq_self_iff]

/-- A document made in a leap second, with a run at a negative zero in the least
of sizes. -/
def leapDocument : Document where
  metadata := {
    title := some "\"\\\n\x01é",
    created := some
      { date := ⟨-4, 2, 29⟩, hour := 23, minute := 59, second := 59,
        nanos := 1500000000 },
    formatVersion := "1.7",
    pageCount := 2 }
  pages := [
    ⟨7, [⟨"a", "F", none, Float32.ofBits 1, Float32.ofBits 0x80000000,
      Float32.ofBits 0x7F7FFFFF⟩,
      ⟨"", "", some (Float32.ofBits 0x42F6E979), Float32.ofBits 0,
        Float32.ofBits 0x3DCCCCCD, Float32.ofBits 0xC1480000⟩]⟩,
    ⟨0, []⟩]

theorem leapDocument_reads_back :
    (∀ p ∈ leapDocument.pages, ∀ r ∈ p.runs, r.Finite) ∧
      Document.read? leapDocument.write = some leapDocument := by
  have hfinite : ∀ p ∈ leapDocument.pages, ∀ r ∈ p.runs, r.Finite := by
    decide +kernel
  have hregular : ∀ m ∈ leapDocument.metadata.created, m.Regular := by
    rintro _ ⟨⟩
    decide
  exact ⟨hfinite, (Document.write_reads_back hfinite).2.mpr hregular⟩

/-- A document made at 23:56:04 with 1333333333 nanoseconds. -/
def strayDocument : Document where
  metadata := {
    created := some
      { date := ⟨2024, 12, 31⟩, hour := 23, minute := 56, second := 4,
        nanos := 1333333333 },
    formatVersion := "1.7",
    pageCount := 0 }
  pages := []

/-- Such a creation is written as the next second, which is read. -/
theorem strayDocument_reads_otherwise :
    Document.read? strayDocument.write ≠ some strayDocument ∧
      (Document.read? strayDocument.write).bind (·.metadata.created) = some
        { date := ⟨2024, 12, 31⟩, hour := 23, minute := 56, second := 5,
          nanos := 333333333 } := by
  rw [Document.read?_write (List.forall_mem_nil _)]
  refine ⟨?_, by decide⟩
  rw [ne_eq, Option.some.injEq, Document.carried_eq_self_iff]
  exact fun h => absurd (h _ rfl) (by decide)

end Prospectus
