import Mathlib.Algebra.Order.Ring.Rat

/-!
# Values of a JSON text

What a JSON text denotes, the properties of its objects, and comparison with
primitive values and flat records. A missing property is `undefined`, that is
`none`. Nothing here depends on what the texts describe.
-/

set_option autoImplicit false

namespace MotorCove

inductive Json where
  | null
  | bool (value : Bool)
  | num (value : ℚ)
  | str (value : String)
  | arr (items : List Json)
  | obj (fields : List (String × Json))

/-- A value that `===` compares by content. -/
inductive Primitive where
  | undefined
  | null
  | bool (value : Bool)
  | num (value : ℚ)
  | str (value : String)
  deriving DecidableEq, Repr

namespace Json

/-- An own property, `undefined` where there is none. -/
def get (v : Json) (name : String) : Option Json :=
  match v with
  | .obj fields => (fields.find? fun field => field.1 = name).map Prod.snd
  | _ => none

def ofPrimitive : Primitive → Option Json
  | .undefined => none
  | .null => some .null
  | .bool b => some (.bool b)
  | .num n => some (.num n)
  | .str s => some (.str s)

/-- An object with this property, in its place if the object has it and else at the end. -/
def set (v : Json) (name : String) (value : Json) : Json :=
  match v with
  | .obj fields =>
    if fields.any fun field => field.1 = name then
      .obj (fields.map fun field => if field.1 = name then (name, value) else field)
    else .obj (fields ++ [(name, value)])
  | v => v

/-- `null` or a text. -/
def nullable (s : Option String) : Json := (s.map Json.str).getD .null

/-- `typeof v === 'object' && v !== null`. -/
def isObject : Json → Bool
  | .arr _ => true
  | .obj _ => true
  | _ => false

/-- `Object.values`. -/
def values : Json → List Json
  | .arr items => items
  | .obj fields => fields.map Prod.snd
  | _ => []

def str? : Json → Option String
  | .str s => some s
  | _ => none

def primitive? : Json → Option Primitive
  | .null => some .null
  | .bool b => some (.bool b)
  | .num n => some (.num n)
  | .str s => some (.str s)
  | _ => none

theorem get_set_of_ne {v : Json} {name name' : String} {value : Json} (h : name' ≠ name) :
    (v.set name value).get name' = v.get name' := by
  cases v with
  | obj fields =>
    have hreplaced : ∀ fields : List (String × Json),
        (fields.map fun field => if field.1 = name then (name, value) else field).find?
          (fun field => field.1 = name') = fields.find? fun field => field.1 = name' := by
      intro fields
      induction fields with
      | nil => rfl
      | cons field rest ih =>
        simp only [List.map_cons, List.find?_cons, ih]
        by_cases hname : field.1 = name
        · simp [hname, h.symm]
        · simp [hname]
    simp only [set]
    split
    · simp only [get, hreplaced]
    · simp [get, List.find?_append, h.symm]
  | _ => rfl

theorem get_set_self {v : Json} {name : String} {value : Json} (h : ∃ fields, v = .obj fields) :
    (v.set name value).get name = some value := by
  obtain ⟨fields, rfl⟩ := h
  simp only [set]
  split
  · rename_i hany
    simp only [List.any_eq_true, decide_eq_true_eq] at hany
    simp only [get]
    induction fields with
    | nil => simp at hany
    | cons field rest ih =>
      by_cases hname : field.1 = name
      · simp [hname]
      · simp only [List.mem_cons, exists_eq_or_imp, hname, false_or] at hany
        simpa only [List.map_cons, hname, if_false, List.find?_cons, decide_false] using ih hany
  · rename_i hany
    simp only [List.any_eq_true, decide_eq_true_eq, not_exists, not_and] at hany
    have hnone : fields.find? (fun field => field.1 = name) = none := by
      simpa using hany
    simp [get, List.find?_append, hnone]

theorem obj_of_get {v value : Json} {name : String} (h : v.get name = some value) :
    ∃ fields, v = .obj fields := by
  cases v with
  | obj fields => exact ⟨fields, rfl⟩
  | _ => cases h

end Json

/-- A property of a value that may be missing, as `?.` reads it. -/
def getOptional (v : Option Json) (name : String) : Option Json := v.bind fun j => j.get name

/-- `v === p`. -/
def strictEq (v : Option Json) (p : Primitive) : Bool :=
  match v with
  | none => p = .undefined
  | some j => j.primitive? = some p

/-- `isDeepStrictEqual` with a record of primitive values. -/
def equalsRecord (v : Option Json) (record : List (String × Primitive)) : Bool :=
  match v with
  | some (.obj fields) => fields.length == record.length &&
      record.all fun field => strictEq ((Json.obj fields).get field.1) field.2
  | _ => false

/-- `isDeepStrictEqual` with `null` or such a record. -/
def isDeepStrictEqual (v : Option Json) (expected : Option (List (String × Primitive))) : Bool :=
  match expected with
  | none => strictEq v .null
  | some record => equalsRecord v record

theorem strictEq_iff {v : Option Json} {p : Primitive} :
    strictEq v p = true ↔ v = Json.ofPrimitive p := by
  cases v with
  | none => cases p <;> simp [strictEq, Json.ofPrimitive]
  | some j => cases j <;> cases p <;> simp [strictEq, Json.primitive?, Json.ofPrimitive]

def Json.ofRecord (record : List (String × Primitive)) : Json :=
  .obj (record.filterMap fun field => (Json.ofPrimitive field.2).map fun v => (field.1, v))

/-- A record as `JSON.stringify` keeps it: its names differ and no value is undefined. -/
structure IsRecord (record : List (String × Primitive)) : Prop where
  names : (record.map Prod.fst).Nodup
  defined : ∀ field ∈ record, field.2 ≠ .undefined

theorem IsRecord.tail {field : String × Primitive} {rest : List (String × Primitive)}
    (h : IsRecord (field :: rest)) : IsRecord rest :=
  ⟨(List.nodup_cons.mp h.names).2, fun f hf => h.defined f (List.mem_cons_of_mem _ hf)⟩

theorem ofPrimitive_isSome {p : Primitive} (h : p ≠ .undefined) :
    ∃ v, Json.ofPrimitive p = some v := by
  cases p with
  | undefined => exact absurd rfl h
  | null => exact ⟨_, rfl⟩
  | bool b => exact ⟨_, rfl⟩
  | num n => exact ⟨_, rfl⟩
  | str s => exact ⟨_, rfl⟩

theorem IsRecord.length {record : List (String × Primitive)} (h : IsRecord record) :
    (record.filterMap fun field => (Json.ofPrimitive field.2).map fun v =>
      (field.1, v)).length = record.length := by
  induction record with
  | nil => rfl
  | cons field rest ih =>
    obtain ⟨v, hv⟩ := ofPrimitive_isSome (h.defined field List.mem_cons_self)
    simp only [List.filterMap_cons, hv, Option.map_some, List.length_cons, ih h.tail]

theorem IsRecord.get {record : List (String × Primitive)} (h : IsRecord record)
    {field : String × Primitive} (hfield : field ∈ record) :
    (Json.ofRecord record).get field.1 = Json.ofPrimitive field.2 := by
  induction record with
  | nil => exact absurd hfield List.not_mem_nil
  | cons first rest ih =>
    obtain ⟨v, hv⟩ := ofPrimitive_isSome (h.defined first List.mem_cons_self)
    rcases List.mem_cons.mp hfield with rfl | hrest
    · simp [Json.ofRecord, Json.get, hv]
    · have hne : first.1 ≠ field.1 := by
        intro heq
        have hnotin := (List.nodup_cons.mp h.names).1
        rw [heq] at hnotin
        exact hnotin (List.mem_map_of_mem hrest)
      have hih := ih h.tail hrest
      simp only [Json.ofRecord, Json.get] at hih ⊢
      rw [← hih]
      simp [hv, hne]

theorem IsRecord.equals {record : List (String × Primitive)} (h : IsRecord record) :
    isDeepStrictEqual (some (Json.ofRecord record)) (some record) = true := by
  have hlength := h.length
  have hget := fun field hfield => strictEq_iff.mpr (@IsRecord.get record h field hfield)
  simp only [Json.ofRecord] at hget
  simp only [isDeepStrictEqual, equalsRecord, Json.ofRecord, Bool.and_eq_true, beq_iff_eq,
    List.all_eq_true]
  exact ⟨hlength, hget⟩

end MotorCove
