/-
**Values and properties.**

A value of the runtime, and the own properties of an object. Reading a property also finds what
every object inherits.
-/

import OpenEstate.Runtime.Text

namespace Runtime

inductive Value
  | null
  | boolean (value : Bool)
  | number (value : Number)
  | text (content : String)
  | array (elements : List Value)
  | object (properties : List (String × Value))
  | function

def Value.typeName : Value → String
  | null => "null"
  | boolean _ => "boolean"
  | number .nan => "nan"
  | number _ => "number"
  | text _ => "string"
  | array _ => "array"
  | object _ => "object"
  | function => "function"

abbrev Properties : Type := List (String × Value)

def inheritedNames : List String :=
  ["constructor", "hasOwnProperty", "isPrototypeOf", "propertyIsEnumerable", "toLocaleString",
    "toString", "valueOf", "__defineGetter__", "__defineSetter__", "__lookupGetter__",
    "__lookupSetter__"]

namespace Properties

def get (properties : Properties) (name : String) : Option Value :=
  (properties.lookup name).or (if name ∈ inheritedNames then some .function else none)

variable {properties : Properties}

theorem get_of_lookup {name : String} {value : Value}
    (own : properties.lookup name = some value) : properties.get name = some value := by
  rw [get, own, Option.some_or]

theorem get_of_notMem {name : String} (plain : name ∉ inheritedNames) :
    properties.get name = properties.lookup name := by
  rw [get, if_neg plain, Option.or_none]

theorem get_of_mem {name : String} (missing : properties.lookup name = none)
    (inherited : name ∈ inheritedNames) : properties.get name = some .function := by
  rw [get, missing, if_pos inherited, Option.none_or]

end Properties

/-! ### Lists of properties -/

section Lists

variable {α β κ : Type} [DecidableEq κ]

theorem lookup_filter (entries : List (κ × α)) (keep : κ → Bool) (key : κ) :
    (entries.filter fun entry => keep entry.1).lookup key =
      if keep key then entries.lookup key else none := by
  induction entries with
  | nil => simp
  | cons entry rest ih =>
    obtain ⟨name, value⟩ := entry
    by_cases kept : keep name
    · by_cases same : key = name
      · simp [kept, same]
      · simp [kept, List.lookup_cons, beq_false_of_ne same, ih]
    · have dropped : ((name, value) :: rest).filter (fun entry => keep entry.1) =
          rest.filter fun entry => keep entry.1 := List.filter_cons_of_neg kept
      rw [dropped, ih]
      by_cases same : key = name
      · simp [kept, same]
      · simp [List.lookup_cons, beq_false_of_ne same]

theorem lookup_filterMap_of_notMem {elements : List β} {key : β → κ} (value : β → Option α)
    {name : κ} (missing : name ∉ elements.map key) :
    (elements.filterMap fun element => (value element).map fun value => (key element, value)).lookup
      name = none := by
  rw [List.lookup_eq_none_iff]
  rintro ⟨named, _⟩ listed
  obtain ⟨other, there, is⟩ := List.mem_filterMap.mp listed
  obtain ⟨_, _, same⟩ := Option.map_eq_some_iff.mp is
  rw [bne_iff_ne]
  rintro rfl
  exact missing (List.mem_map.mpr ⟨other, there, congrArg Prod.fst same⟩)

theorem lookup_filterMap {elements : List β} {key : β → κ} (value : β → Option α)
    (distinct : (elements.map key).Nodup) {element : β} (member : element ∈ elements) :
    (elements.filterMap fun element => (value element).map fun value => (key element, value)).lookup
      (key element) = value element := by
  induction elements with
  | nil => cases member
  | cons first rest ih =>
    obtain ⟨new, distinct⟩ := List.nodup_cons.mp distinct
    rcases List.mem_cons.mp member with rfl | later
    · cases is : value element with
      | none => simp [is, lookup_filterMap_of_notMem value new]
      | some found => simp [is]
    · have different : (key element == key first) = false :=
        beq_false_of_ne fun same => new (same ▸ List.mem_map_of_mem later)
      have rest_ := ih distinct later
      cases is : value first with
      | none => simpa [is] using rest_
      | some found => simpa [is, List.lookup_cons, different] using rest_

end Lists

end Runtime
