/-!
# JSON values

The dynamic values that declarations, bodies and answers are made of. A number is an integer or a
double: which of the two is part of the value, since `1` and `1.0` are written differently. Objects
are seen through `Object.get?`; `Object.get?_insert` says what setting a field changes.
-/

namespace BrokerControl

/-- A number as JSON distinguishes it: an exact integer or a double. -/
inductive Number where
  | int (n : Int)
  | float (x : Float)

/-- A JSON value. The fields of an object stand in a list; `Object.insert` keeps them in the order
of their keys. -/
inductive Json where
  | null
  | bool (b : Bool)
  | number (n : Number)
  | string (s : String)
  | array (items : List Json)
  | object (fields : List (String × Json))
  deriving Inhabited

/-- The fields of an object. -/
abbrev Object := List (String × Json)

namespace Object

variable {α : Type}

/-- The value of the first field called `key`. -/
def get? (o : List (String × α)) (key : String) : Option α :=
  (o.find? fun f ↦ f.1 == key).map (·.2)

/-- Whether some field is called `key`. -/
def contains (o : List (String × α)) (key : String) : Bool := o.any fun f ↦ f.1 == key

/-- Gives the first field called `key` a new value, where it stands. -/
def replace (key : String) (value : α) : List (String × α) → List (String × α)
  | [] => []
  | f :: rest => if f.1 == key then (key, value) :: rest else f :: replace key value rest

/-- Puts a new field before the first one with a greater key. -/
def place (key : String) (value : α) : List (String × α) → List (String × α)
  | [] => [(key, value)]
  | f :: rest => if key < f.1 then (key, value) :: f :: rest else f :: place key value rest

/-- Sets the field called `key`: a present one keeps its place, a new one goes where the order of
keys wants it. -/
def insert (o : List (String × α)) (key : String) (value : α) : List (String × α) :=
  if contains o key then replace key value o else place key value o

/-- Drops every field called `key`. -/
def erase (o : List (String × α)) (key : String) : List (String × α) := o.filter fun f ↦ f.1 != key

/-- The keys, in the order of the fields. -/
def keys (o : List (String × α)) : List String := o.map (·.1)

/-- Sets the fields one after another, so that the last value of a repeated key stays. -/
def insertAll (o fields : List (String × α)) : List (String × α) :=
  fields.foldl (fun acc f ↦ insert acc f.1 f.2) o

/-- The object with these fields, sorted by key. -/
def ofList (fields : List (String × α)) : List (String × α) := insertAll [] fields

/-- The fields by which look-ups go, sorted by key: of several with one key the first. -/
def ordered (o : List (String × α)) : List (String × α) := ofList o.reverse

/-! ### What operations do to look-ups -/

/-- Looking a key up goes through the fields in their order. -/
theorem get?_cons (f : String × α) (o : List (String × α)) (key : String) :
    get? (f :: o) key = if f.1 = key then some f.2 else get? o key := by
  by_cases h : f.1 = key <;> simp [get?, h]

/-- A key is present exactly when it has a value. -/
theorem contains_eq_isSome (o : List (String × α)) (key : String) :
    contains o key = (get? o key).isSome := by
  induction o with
  | nil => rfl
  | cons f o ih =>
    rw [get?_cons, contains, List.any_cons, ← contains, ih]
    by_cases h : f.1 = key <;> simp [h]

/-- Replacing changes the value of one key only. -/
theorem get?_replace (o : List (String × α)) (key k : String) (value : α) (h : contains o key) :
    get? (replace key value o) k = if k = key then some value else get? o k := by
  induction o with
  | nil => simp [contains] at h
  | cons f o ih =>
    by_cases hf : f.1 = key
    · by_cases hk : k = key
      · simp [replace, get?_cons, hf, hk]
      · simp [replace, get?_cons, hf, hk, Ne.symm hk]
    · have ho : contains o key := by simpa [contains, hf] using h
      by_cases hk : f.1 = k
      · have hne : k ≠ key := fun e ↦ hf (hk.trans e)
        rw [replace, get?_cons, if_neg (by simpa using hf), get?_cons]
        simp [hk, hne]
      · simp [replace, get?_cons, hf, hk, ih ho]

/-- Placing a new key changes the value of no other key. -/
theorem get?_place (o : List (String × α)) (key k : String) (value : α)
    (h : contains o key = false) :
    get? (place key value o) k = if k = key then some value else get? o k := by
  induction o with
  | nil =>
    by_cases hk : key = k
    · simp [place, get?, hk]
    · simp [place, get?, hk, Ne.symm hk]
  | cons f o ih =>
    have hf : f.1 ≠ key := by rintro rfl; simp [contains] at h
    have ho : contains o key = false := by simpa [contains, hf] using h
    by_cases hlt : key < f.1
    · simp [place, hlt, get?_cons, eq_comm]
    · rw [place, if_neg hlt, get?_cons, get?_cons, ih ho]
      by_cases hk : f.1 = k
      · have hne : k ≠ key := fun e ↦ hf (hk.trans e)
        simp [hk, hne]
      · simp [hk]

/-- Setting a key changes its value and no other. -/
theorem get?_insert (o : List (String × α)) (key k : String) (value : α) :
    get? (insert o key value) k = if k = key then some value else get? o k := by
  unfold insert
  split
  · next h => exact get?_replace o key k value h
  · next h => exact get?_place o key k value (by simpa using h)

/-- A key that was set has the value it was set to. -/
@[simp] theorem get?_insert_self (o : List (String × α)) (key : String) (value : α) :
    get? (insert o key value) key = some value := by simp [get?_insert]

/-- Setting a key leaves the others. -/
theorem get?_insert_of_ne (o : List (String × α)) {key k : String} (value : α) (h : k ≠ key) :
    get? (insert o key value) k = get? o k := by simp [get?_insert, h]

/-- Setting a key to the value that it has changes nothing. -/
theorem insert_of_get? {o : List (String × α)} {key : String} {value : α}
    (h : get? o key = some value) : insert o key value = o := by
  have hc : contains o key := by simp [contains_eq_isSome, h]
  simp only [insert, hc, if_true]
  induction o with
  | nil => rfl
  | cons f o ih =>
    rw [get?_cons] at h
    by_cases hf : f.1 = key
    · simp only [hf, if_true, Option.some.injEq] at h
      subst hf h
      simp [replace]
    · have ho : contains o key := by simpa [contains, hf] using hc
      simp only [hf, if_false] at h
      simp [replace, hf, ih h ho]

/-- Dropping a key leaves the values of the others. -/
theorem get?_erase (o : List (String × α)) (key k : String) :
    get? (erase o key) k = if k = key then none else get? o k := by
  induction o with
  | nil => simp [erase, get?]
  | cons f o ih =>
    by_cases hf : f.1 = key
    · have : erase (f :: o) key = erase o key := by simp [erase, hf]
      rw [this, ih, get?_cons]
      by_cases hk : k = key
      · simp [hk]
      · simp [hk, hf, Ne.symm hk]
    · have : erase (f :: o) key = f :: erase o key := by simp [erase, hf]
      rw [this, get?_cons, get?_cons, ih]
      by_cases hk : f.1 = k
      · simp [hk, show k ≠ key from fun e ↦ hf (hk.trans e)]
      · simp [hk]

end Object

namespace Json

/-- The text of a string. -/
def string? : Json → Option String
  | string s => some s
  | _ => none

/-- The items of an array. -/
def array? : Json → Option (List Json)
  | array items => some items
  | _ => none

/-- The fields of an object. -/
def object? : Json → Option Object
  | object fields => some fields
  | _ => none

/-- Only a string has a text. -/
theorem string?_eq_some_iff {v : Json} {text : String} :
    v.string? = some text ↔ v = string text := by
  cases v <;> simp [string?]

/-- Only an array has items. -/
theorem array?_eq_some_iff {v : Json} {items : List Json} :
    v.array? = some items ↔ v = array items := by
  cases v <;> simp [array?]

/-- Only an object has fields. -/
theorem object?_eq_some_iff {v : Json} {fields : Object} :
    v.object? = some fields ↔ v = object fields := by
  cases v <;> simp [object?]

/-- Whether the value is `null`. -/
def isNull : Json → Bool
  | null => true
  | _ => false

/-- The field called `key` of an object; nothing for any other value. -/
def field? (v : Json) (key : String) : Option Json :=
  v.object?.bind (Object.get? · key)

/-- The text that the field called `key` holds, if it holds one. -/
def fieldString? (v : Json) (key : String) : Option String := (v.field? key).bind string?

/-- A field holds a text if its value is that string. -/
theorem fieldString?_eq_some_iff {v : Json} {key text : String} :
    v.fieldString? key = some text ↔ v.field? key = some (string text) := by
  rw [fieldString?, Option.bind_eq_some_iff]
  simp only [string?_eq_some_iff, exists_eq_right]

/-- A text, or `null` for none. -/
def ofOption : Option String → Json
  | some s => string s
  | none => null

/-- The object with these fields, sorted by key. -/
def record (fields : List (String × Json)) : Json := object (Object.ofList fields)

end Json

end BrokerControl
