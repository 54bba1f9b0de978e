import Mathlib.Data.List.Forall2
import Prospectus.Json.Decode

/-!
# Where the fields of a record stand

`Fields` says what the values of a record's fields are, without a search: an
object has each field under its name (`Under`), whatever else it holds, and an
array has it at its position.  Reading the fields finds exactly these
(`recordFields?_eq_some_iff`).  `Maybe` and `ListOf` say the same of values that
may be null or left out and of arrays that may be left out, so a record inside a
record is described level by level.
-/

namespace Prospectus.Json

/-! ## Lists -/

/-- A list is read if its members are, one by one. -/
theorem mapM_eq_some_iff {α β : Type} {read : α → Option β} {as : List α}
    {bs : List β} :
    as.mapM read = some bs ↔ List.Forall₂ (fun a b => read a = some b) as bs := by
  induction as generalizing bs with
  | nil =>
      rw [List.mapM_nil, List.forall₂_nil_left_iff]
      exact ⟨fun h => (Option.some.inj h).symm, fun h => congrArg some h.symm⟩
  | cons a as ih =>
      rw [List.mapM_cons, Option.bind_eq_bind, Option.bind_eq_some_iff]
      constructor
      · rintro ⟨b, ha, h⟩
        obtain ⟨rest, hrest, heq⟩ := Option.bind_eq_some_iff.mp h
        cases heq
        exact .cons ha (ih.mp hrest)
      · intro h
        cases h with
        | cons ha tail =>
          exact ⟨_, ha, Option.bind_eq_some_iff.mpr ⟨_, ih.mpr tail, rfl⟩⟩

/-! ## Fields of an object -/

/-- What stands under a name among fields, of which one at most has that name. -/
inductive Under (name : String) : List (StringBody × Value) → Option Value → Prop
  | absent {fields : List (StringBody × Value)}
      (hfields : ∀ field ∈ fields, field.1 ≠ some name) :
      Under name fields none
  | present {before after : List (StringBody × Value)} {v : Value}
      (hbefore : ∀ field ∈ before, field.1 ≠ some name)
      (hafter : ∀ field ∈ after, field.1 ≠ some name) :
      Under name (before ++ (some name, v) :: after) (some v)

theorem onlyField?_eq_some_iff {fields : List (StringBody × Value)}
    {name : String} {found : Option Value} :
    onlyField? fields name = some found ↔ Under name fields found := by
  have hnone : ∀ {fields : List (StringBody × Value)},
      fields.filter (·.1 = some name) = [] ↔
      ∀ field ∈ fields, field.1 ≠ some name := by
    intro fields
    simp [List.filter_eq_nil_iff]
  constructor
  · intro h
    unfold onlyField? at h
    split at h
    · rename_i hempty
      cases h
      exact .absent (hnone.mp hempty)
    · rename_i other v hone
      cases h
      obtain ⟨before, after, rfl, hbefore, hv, hafter⟩ :=
        List.filter_eq_cons_iff.mp hone
      obtain rfl : other = some name := by simpa using hv
      exact .present (by simpa using hbefore) (hnone.mp hafter)
    · cases h
  · intro h
    unfold onlyField?
    cases h with
    | absent hfields => rw [hnone.mpr hfields]
    | present hbefore hafter =>
        rw [List.filter_append, hnone.mpr hbefore,
          List.filter_cons_of_pos (by simp), hnone.mpr hafter]
        rfl

/-- All names are texts. -/
def Named (fields : List (StringBody × Value)) : Prop :=
  ∀ field ∈ fields, field.1 ≠ none

/-! ## Records -/

/-- The values of a record's fields.  An object has them under their names, in
any order and among any other fields, and only a required field may not be left
out.  An array has them at their positions and nothing else, and only a field
with a default may be left out. -/
inductive Fields (spec : List (String × Need)) : Value → List (Option Value) → Prop
  | object {fields : List (StringBody × Value)} {values : List (Option Value)}
      (hnames : Named fields)
      (hvalues : List.Forall₂ (fun field found => Under field.1 fields found ∧
        (found = none → field.2 ≠ .required))
        spec values) : Fields spec (.object fields) values
  | array {items : List Value} {values : List (Option Value)}
      (hlength : items.length ≤ spec.length)
      (hvalues : List.Forall₂ (fun field found => items[field.2]? = found ∧
        (found = none → field.1.2 = .defaulted))
        spec.zipIdx values) : Fields spec (.array items) values

theorem recordFields?_object_iff {spec : List (String × Need)}
    {fields : List (StringBody × Value)} {values : List (Option Value)} :
    recordFields? spec (.object fields) = some values ↔
    Fields spec (.object fields) values := by
  have hnames : fields.any (·.1.isNone) = false ↔ Named fields := by
    simp [Named, List.any_eq_false, Option.ne_none_iff_isSome]
  rw [recordFields?]
  constructor
  · intro h
    split at h
    · cases h
    · rename_i hany
      refine .object (hnames.mp (Bool.eq_false_iff.mpr hany))
        ((mapM_eq_some_iff.mp h).imp fun field found hfound => ?_)
      dsimp only at hfound
      split at hfound
      · rename_i honly
        split at hfound
        · cases hfound
        · rename_i hneed
          cases hfound
          exact ⟨onlyField?_eq_some_iff.mp honly, fun _ => hneed⟩
      · rename_i hpresent
        refine ⟨onlyField?_eq_some_iff.mp hfound, ?_⟩
        rintro rfl
        exact absurd hfound hpresent
  · intro h
    cases h with
    | object hnamed hvalues =>
        rw [hnames.mpr hnamed, if_neg Bool.false_ne_true]
        refine mapM_eq_some_iff.mpr (hvalues.imp fun field found hfound => ?_)
        obtain ⟨hunder, hneed⟩ := hfound
        dsimp only
        rw [onlyField?_eq_some_iff.mpr hunder]
        cases found with
        | none => exact if_neg (hneed rfl)
        | some v => rfl

theorem recordFields?_array_iff {spec : List (String × Need)}
    {items : List Value} {values : List (Option Value)} :
    recordFields? spec (.array items) = some values ↔
    Fields spec (.array items) values := by
  rw [recordFields?]
  constructor
  · intro h
    split at h
    · cases h
    · rename_i hlength
      refine .array (Nat.le_of_not_lt hlength)
        ((mapM_eq_some_iff.mp h).imp fun field found hfound => ?_)
      dsimp only at hfound
      split at hfound
      · rename_i v hitem
        cases hfound
        exact ⟨hitem, fun hnone => absurd hnone (Option.some_ne_none v)⟩
      · rename_i hitem
        split at hfound
        · rename_i hneed
          cases hfound
          exact ⟨hitem, fun _ => hneed⟩
        · cases hfound
  · intro h
    cases h with
    | array hlength hvalues =>
        rw [if_neg (Nat.not_lt.mpr hlength)]
        refine mapM_eq_some_iff.mpr (hvalues.imp fun field found hfound => ?_)
        obtain ⟨hitem, hneed⟩ := hfound
        dsimp only
        rw [hitem]
        cases found with
        | none => exact if_pos (hneed rfl)
        | some v => rfl

/-- **The fields of a record are read exactly where they stand.** -/
theorem recordFields?_eq_some_iff {spec : List (String × Need)} {v : Value}
    {values : List (Option Value)} :
    recordFields? spec v = some values ↔ Fields spec v values := by
  cases v with
  | object fields => exact recordFields?_object_iff
  | array items => exact recordFields?_array_iff
  | null | bool b | number n | string s =>
      refine ⟨fun h => ?_, fun h => ?_⟩
      · cases h
      · cases h

theorem Fields.length_eq {spec : List (String × Need)} {v : Value}
    {values : List (Option Value)} (h : Fields spec v values) :
    spec.length = values.length := by
  cases h with
  | object hnames hvalues => exact hvalues.length_eq
  | array hlength hvalues => exact List.length_zipIdx.symm.trans hvalues.length_eq

theorem Fields.unique {spec : List (String × Need)} {v : Value}
    {values others : List (Option Value)}
    (h : Fields spec v values) (h' : Fields spec v others) : values = others :=
  Option.some.inj ((recordFields?_eq_some_iff.mpr h).symm.trans
    (recordFields?_eq_some_iff.mpr h'))

section Records

variable {α : Type} {v : Value} {next : List (Option Value) → Option α} {a : α}

/-- A record of one field is read from the value of that field. -/
theorem recordFields?_bind_one {field : String × Need} :
    (recordFields? [field] v).bind next = some a ↔ ∃ x, Fields [field] v [x] ∧
    next [x] = some a := by
  rw [Option.bind_eq_some_iff]
  constructor
  · intro ⟨values, hvalues, h⟩
    have hfields := recordFields?_eq_some_iff.mp hvalues
    obtain ⟨x, rfl⟩ := List.length_eq_one_iff.mp hfields.length_eq.symm
    exact ⟨x, hfields, h⟩
  · intro ⟨x, hfields, h⟩
    exact ⟨[x], recordFields?_eq_some_iff.mpr hfields, h⟩

/-- A record of two fields is read from the values of those fields. -/
theorem recordFields?_bind_two {first second : String × Need} :
    (recordFields? [first, second] v).bind next = some a ↔
      ∃ x y, Fields [first, second] v [x, y] ∧ next [x, y] = some a := by
  rw [Option.bind_eq_some_iff]
  constructor
  · intro ⟨values, hvalues, h⟩
    have hfields := recordFields?_eq_some_iff.mp hvalues
    obtain ⟨x, y, rfl⟩ := List.length_eq_two.mp hfields.length_eq.symm
    exact ⟨x, y, hfields, h⟩
  · intro ⟨x, y, hfields, h⟩
    exact ⟨[x, y], recordFields?_eq_some_iff.mpr hfields, h⟩

end Records

/-! ## Values that may be absent -/

/-- A value that may be null or left out. -/
inductive Maybe {α : Type} (Holds : Value → α → Prop) :
    Option Value → Option α → Prop
  | absent : Maybe Holds none none
  | null : Maybe Holds (some .null) none
  | present {v : Value} {a : α} (hv : Holds v a) : Maybe Holds (some v) (some a)

theorem Maybe.unique {α : Type} {Holds : Value → α → Prop} {v : Option Value}
    {a b : Option α} (h : Maybe Holds v a) (hnull : ∀ a, ¬Holds .null a)
    (hunique : ∀ v a b, Holds v a → Holds v b → a = b) (h' : Maybe Holds v b) :
    a = b := by
  cases h with
  | absent =>
      cases h'
      rfl
  | null =>
      cases h' with
      | null => rfl
      | present hv => exact absurd hv (hnull _)
  | present hv =>
      cases h' with
      | null => exact absurd hv (hnull _)
      | present hv' => rw [hunique _ _ _ hv hv']

theorem nullable?_eq_some_iff {α : Type} {read : Value → Option α}
    {Holds : Value → α → Prop} (hread : ∀ v a, read v = some a ↔ Holds v a)
    (hnull : read .null = none) {v : Option Value} {a : Option α} :
    Value.nullable? read v = some a ↔ Maybe Holds v a := by
  unfold Value.nullable?
  constructor
  · intro h
    split at h
    · cases h
      exact .absent
    · cases h
      exact .null
    · obtain ⟨b, hb, rfl⟩ := Option.map_eq_some_iff.mp h
      exact .present ((hread _ b).mp hb)
  · intro h
    cases h with
    | absent => rfl
    | null => rfl
    | @present v a hv =>
        have hsome := (hread v a).mpr hv
        split
        · rename_i heq
          cases heq
        · rename_i heq
          cases heq
          rw [hnull] at hsome
          cases hsome
        · rename_i heq
          cases heq
          rw [hsome]
          rfl

/-- An array that may be left out if it has no items. -/
inductive ListOf {α : Type} (Holds : Value → α → Prop) :
    Option Value → List α → Prop
  | absent : ListOf Holds none []
  | present {items : List Value} {as : List α}
      (hitems : List.Forall₂ Holds items as) :
      ListOf Holds (some (.array items)) as

theorem listOf_none_iff {α : Type} {Holds : Value → α → Prop} {as : List α} :
    ListOf Holds none as ↔ as = [] := by
  constructor
  · intro h
    cases h
    rfl
  · rintro rfl
    exact .absent

theorem listOf_some_iff {α : Type} {read : Value → Option α}
    {Holds : Value → α → Prop}
    (hread : ∀ v a, read v = some a ↔ Holds v a) {v : Value} {as : List α} :
    ListOf Holds (some v) as ↔ ∃ items, v.asArray? = some items ∧
    items.mapM read = some as := by
  constructor
  · intro h
    cases h with
    | present hitems =>
      exact ⟨_, rfl, mapM_eq_some_iff.mpr (hitems.imp fun item a =>
        (hread item a).mpr)⟩
  · intro ⟨items, hv, h⟩
    cases v with
    | array =>
        cases hv
        exact .present ((mapM_eq_some_iff.mp h).imp fun item a => (hread item a).mp)
    | null | bool | number | string | object => cases hv

end Prospectus.Json
