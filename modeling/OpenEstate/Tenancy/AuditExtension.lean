/-
**What the audit log keeps of a record.**

A record is copied into the audit log without its secrets: plain objects and arrays are walked, and what
is under a sensitive key is replaced. A key `__proto__` is not written into the copy, but makes its
value what the copy inherits from.

* `sanitize` copies a value;
* `at_concat_sanitize`: below the keys that are not sensitive, the copy has what the value has;
* **`sanitised_iff`**: the copy has no secret, everything else, and copies to itself, exactly when no
  object has a key `__proto__`.
-/

import OpenEstate.Relational.Collected
import OpenEstate.Runtime.Value

namespace OpenEstate.Tenancy

open Relational Runtime

/-! ### Values -/

inductive Scalar
  | null | undefined
  | boolean (value : Bool)
  | number (value : Number)
  | bigint (value : ℤ)
  | text (content : String)

/-- A value, with the own properties of an object in their order. An object that says nothing of its
prototype is an ordinary one. -/
inductive Datum
  | scalar (value : Scalar)
  | array (items : List Datum)
  | object (prototype : Option Datum) (entries : List (String × Datum))

def SENSITIVE_FIELDS : List String :=
  ["passwordHash", "password_hash", "totpSecret", "totp_secret", "recoveryCodes", "recovery_codes",
    "panCiphertext", "pan_ciphertext", "tokenHash", "token_hash", "configCiphertext",
    "config_ciphertext", "secretCiphertext", "secret_ciphertext", "keyHash", "key_hash"]

def redacted : Datum := .scalar (.text "[REDACTED]")

/-- Whether an object is walked: its prototype is that of every object, or null. -/
def plainPrototype : Option Datum → Bool
  | none | some (.scalar .null) => true
  | _ => false

/-- An assignment to a property of a new object. One to `__proto__` calls the setter that every
object inherits, which takes an object or null for the prototype and ignores anything else. -/
def setProperty (out : Option Datum × List (String × Datum)) (key : String) (value : Datum) :
    Option Datum × List (String × Datum) :=
  if key = "__proto__" then
    match value with
    | .scalar .null | .array _ | .object _ _ => (some value, out.2)
    | .scalar _ => out
  else (out.1, out.2 ++ [(key, value)])

mutual

def sanitize : Datum → Datum
  | .scalar value => .scalar value
  | .array items => .array (sanitizeItems items)
  | .object prototype entries =>
    if plainPrototype prototype then
      .object (sanitizeEntries entries (none, [])).1 (sanitizeEntries entries (none, [])).2
    else .object prototype entries

def sanitizeItems : List Datum → List Datum
  | [] => []
  | item :: rest => sanitize item :: sanitizeItems rest

def sanitizeEntries : List (String × Datum) → Option Datum × List (String × Datum) →
    Option Datum × List (String × Datum)
  | [], out => out
  | (key, value) :: rest, out =>
    sanitizeEntries rest
      (setProperty out key (if key ∈ SENSITIVE_FIELDS then redacted else sanitize value))

end

/-- A value of plain objects, whose keys are distinct, arrays and scalars. -/
inductive Datum.Plain : Datum → Prop
  | scalar (value : Scalar) : Plain (.scalar value)
  | array {items : List Datum} (plain : ∀ item ∈ items, Plain item) : Plain (.array items)
  | object {prototype : Option Datum} {entries : List (String × Datum)}
      (ordinary : plainPrototype prototype = true) (distinct : (entries.map Prod.fst).Nodup)
      (plain : ∀ entry ∈ entries, Plain entry.2) : Plain (.object prototype entries)

/-! ### What is where -/

inductive Step
  | index (position : Nat)
  | key (name : String)
  deriving DecidableEq

def Datum.child : Datum → Step → Option Datum
  | .array items, .index position => items[position]?
  | .object _ entries, .key name => entries.lookup name
  | _, _ => none

/-- What is at the end of a path through elements and own properties. -/
def Datum.at (value : Datum) (path : List Step) : Option Datum := path.foldlM Datum.child value

/-- What a value is without what it contains. -/
inductive Outline
  | scalar (value : Scalar)
  | array (length : Nat)
  | object (keys : List String)

def Datum.outline : Datum → Outline
  | .scalar value => .scalar value
  | .array items => .array items.length
  | .object _ entries => .object (entries.map Prod.fst)

/-- A path that does not lead through a sensitive key. -/
def Visible (path : List Step) : Prop := ∀ key ∈ SENSITIVE_FIELDS, Step.key key ∉ path

instance (path : List Step) : Decidable (Visible path) :=
  inferInstanceAs (Decidable (∀ key ∈ SENSITIVE_FIELDS, Step.key key ∉ path))

/-- The copy of a value that may be kept. -/
structure Sanitised (value copy : Datum) : Prop where
  /-- Nothing is under a sensitive key, at any depth. -/
  clean : ∀ path, ∀ key ∈ SENSITIVE_FIELDS, ∀ found, copy.at (path ++ [.key key]) = some found →
    found = redacted
  /-- Every other key and value is kept. -/
  kept : ∀ path, Visible path → (copy.at path).map Datum.outline = (value.at path).map Datum.outline
  again : sanitize copy = copy

/-! ### The copy -/

theorem sanitizeItems_eq (items : List Datum) : sanitizeItems items = items.map sanitize := by
  induction items with
  | nil => rfl
  | cons item rest ih => rw [sanitizeItems, ih, List.map_cons]

/-- What is written for an entry. -/
def sanitizeEntry (entry : String × Datum) : String × Datum :=
  (entry.1, if entry.1 ∈ SENSITIVE_FIELDS then redacted else sanitize entry.2)

theorem sanitizeEntries_snd (entries : List (String × Datum))
    (out : Option Datum × List (String × Datum)) :
    (sanitizeEntries entries out).2 =
      out.2 ++ (entries.filter fun entry => entry.1 ≠ "__proto__").map sanitizeEntry := by
  induction entries generalizing out with
  | nil => rw [sanitizeEntries, List.filter_nil, List.map_nil, List.append_nil]
  | cons entry rest ih =>
    obtain ⟨key, value⟩ := entry
    rw [sanitizeEntries, ih]
    unfold setProperty
    by_cases proto : key = "__proto__"
    · rw [if_pos proto, List.filter_cons_of_neg (by simp [proto])]
      split <;> rfl
    · rw [if_neg proto, List.filter_cons_of_pos (by simp [proto]), List.map_cons,
        List.append_assoc, List.singleton_append]
      rfl

variable {entries : List (String × Datum)}

theorem sanitizeEntries_fst (none_ : "__proto__" ∉ entries.map Prod.fst)
    (out : Option Datum × List (String × Datum)) :
    (sanitizeEntries entries out).1 = out.1 := by
  induction entries generalizing out with
  | nil => rw [sanitizeEntries]
  | cons entry rest ih =>
    obtain ⟨key, value⟩ := entry
    rw [List.map_cons, List.mem_cons, not_or] at none_
    rw [sanitizeEntries, ih none_.2]
    unfold setProperty
    rw [if_neg (Ne.symm none_.1)]

theorem sanitize_object {prototype : Option Datum} (ordinary : plainPrototype prototype = true)
    (entries : List (String × Datum)) :
    sanitize (.object prototype entries) = .object (sanitizeEntries entries (none, [])).1
      ((entries.filter fun entry => entry.1 ≠ "__proto__").map sanitizeEntry) := by
  rw [sanitize, if_pos ordinary, sanitizeEntries_snd, List.nil_append]

theorem filter_proto (none_ : "__proto__" ∉ entries.map Prod.fst) :
    entries.filter (fun entry => entry.1 ≠ "__proto__") = entries := by
  rw [List.filter_eq_self]
  intro entry member
  rw [decide_eq_true_eq]
  exact fun proto => none_ (proto ▸ List.mem_map_of_mem member)

theorem sanitize_object_of_notMem {prototype : Option Datum}
    (ordinary : plainPrototype prototype = true) (none_ : "__proto__" ∉ entries.map Prod.fst) :
    sanitize (.object prototype entries) = .object none (entries.map sanitizeEntry) := by
  rw [sanitize_object ordinary, sanitizeEntries_fst none_, filter_proto none_]

theorem lookup_map_sanitizeEntry (entries : List (String × Datum)) (name : String) :
    (entries.map sanitizeEntry).lookup name =
      (entries.lookup name).map fun value => (sanitizeEntry (name, value)).2 := by
  induction entries with
  | nil => rfl
  | cons entry rest ih =>
    obtain ⟨key, value⟩ := entry
    rw [List.map_cons, sanitizeEntry, List.lookup_cons, List.lookup_cons, ih]
    by_cases same : name = key
    · subst same
      simp [sanitizeEntry]
    · rw [beq_false_of_ne same]

section Copy

variable {value below found : Datum} {step : Step} {name : String} {path : List Step}

theorem Datum.at_nil : value.at [] = some value := rfl

theorem Datum.at_cons : value.at (step :: path) = (value.child step).bind (·.at path) :=
  List.foldlM_cons

theorem at_redacted (path : List Step) : redacted.at (path ++ [step]) = none := by
  cases path with
  | nil => cases step <;> rfl
  | cons first rest => cases first <;> rfl

theorem child_index_sanitize (position : Nat) :
    (sanitize value).child (.index position) = (value.child (.index position)).map sanitize := by
  cases value with
  | scalar value => rfl
  | array items => rw [sanitize, sanitizeItems_eq, Datum.child, List.getElem?_map, Datum.child]
  | object prototype entries =>
    rw [sanitize]
    split <;> rfl

theorem child_key_sanitize (plain : value.Plain) (name : String) :
    (sanitize value).child (.key name) = if name = "__proto__" then none
      else (value.child (.key name)).map fun value => (sanitizeEntry (name, value)).2 := by
  cases plain with
  | scalar value => exact (ite_self none).symm
  | array plain => exact (ite_self none).symm
  | object ordinary distinct plain =>
    rw [sanitize_object ordinary, Datum.child, lookup_map_sanitizeEntry,
      lookup_filter _ fun key => key ≠ "__proto__", Datum.child]
    by_cases proto : name = "__proto__"
    · simp [proto]
    · simp [proto]

theorem Datum.Plain.child (plain : value.Plain) (is : value.child step = some below) :
    below.Plain := by
  cases plain with
  | scalar value => cases is
  | array plain =>
    cases step with
    | index position => exact plain _ (List.mem_of_getElem? is)
    | key name => cases is
  | object ordinary distinct plain =>
    cases step with
    | index position => cases is
    | key name => exact plain _ ((lookup_eq_some_iff_mem distinct).mp is)

/-- **What the copy has under a key** is no prototype, and no secret. -/
theorem at_concat_sanitize (plain : value.Plain)
    (is : (sanitize value).at (path ++ [.key name]) = some found) :
    name ≠ "__proto__" ∧ (name ∈ SENSITIVE_FIELDS → found = redacted) := by
  induction path generalizing value with
  | nil =>
    rw [List.nil_append, Datum.at_cons, child_key_sanitize plain] at is
    split at is
    · cases is
    · rename_i proto
      refine ⟨proto, fun secret => ?_⟩
      obtain ⟨written, isChild, same⟩ := Option.bind_eq_some_iff.mp is
      obtain ⟨own, _, rfl⟩ := Option.map_eq_some_iff.mp isChild
      rw [Datum.at_nil, sanitizeEntry, if_pos secret] at same
      exact (Option.some.inj same).symm
  | cons step path ih =>
    rw [List.cons_append, Datum.at_cons] at is
    obtain ⟨written, isChild, is⟩ := Option.bind_eq_some_iff.mp is
    cases step with
    | index position =>
      rw [child_index_sanitize] at isChild
      obtain ⟨own, isOwn, rfl⟩ := Option.map_eq_some_iff.mp isChild
      exact ih (plain.child isOwn) is
    | key other =>
      rw [child_key_sanitize plain] at isChild
      split at isChild
      · cases isChild
      · obtain ⟨own, isOwn, rfl⟩ := Option.map_eq_some_iff.mp isChild
        rw [sanitizeEntry] at is
        dsimp only at is
        split at is
        · rw [at_redacted] at is
          cases is
        · exact ih (plain.child isOwn) is

/-! ### Without a prototype -/

/-- No object that is reached has a key `__proto__`. -/
def NoPrototypeKey (value : Datum) : Prop :=
  ∀ path, Visible path → value.at (path ++ [.key "__proto__"]) = none

theorem NoPrototypeKey.own (free : NoPrototypeKey value) :
    value.child (.key "__proto__") = none := by
  have none_ := free [] fun key _ => List.not_mem_nil
  rw [List.nil_append, Datum.at_cons] at none_
  cases is : value.child (.key "__proto__") with
  | none => rfl
  | some own =>
    rw [is] at none_
    cases none_

theorem NoPrototypeKey.child (free : NoPrototypeKey value) (visible : Visible [step])
    (is : value.child step = some below) : NoPrototypeKey below := by
  intro path rest
  have none_ := free (step :: path) fun key secret => by
    rw [List.mem_cons, not_or]
    exact ⟨fun same => visible key secret (same ▸ List.mem_singleton_self _), rest key secret⟩
  rwa [List.cons_append, Datum.at_cons, is] at none_

theorem notMem_of_child {prototype : Option Datum} {entries : List (String × Datum)}
    (distinct : (entries.map Prod.fst).Nodup)
    (free : (Datum.object prototype entries).child (.key "__proto__") = none) :
    "__proto__" ∉ entries.map Prod.fst := by
  intro member
  obtain ⟨⟨key, own⟩, listed, rfl⟩ := List.mem_map.mp member
  rw [Datum.child, (lookup_eq_some_iff_mem distinct).mpr listed] at free
  cases free

theorem outline_sanitize (plain : value.Plain) (free : value.child (.key "__proto__") = none) :
    (sanitize value).outline = value.outline := by
  cases plain with
  | scalar value => rfl
  | array plain => rw [sanitize, sanitizeItems_eq, Datum.outline, List.length_map, Datum.outline]
  | object ordinary distinct plain =>
    rw [sanitize_object_of_notMem ordinary (notMem_of_child distinct free), Datum.outline,
      List.map_map, Datum.outline]
    rfl

theorem outline_at_sanitize (plain : value.Plain) (free : NoPrototypeKey value)
    (visible : Visible path) :
    ((sanitize value).at path).map Datum.outline = (value.at path).map Datum.outline := by
  induction path generalizing value with
  | nil =>
    rw [Datum.at_nil, Datum.at_nil, Option.map_some, Option.map_some,
      outline_sanitize plain free.own]
  | cons step path ih =>
    have first : Visible [step] := fun key secret member =>
      visible key secret (List.mem_singleton.mp member ▸ List.mem_cons_self)
    have rest : Visible path := fun key secret member =>
      visible key secret (List.mem_cons_of_mem _ member)
    have below : (sanitize value).child step = (value.child step).map sanitize := by
      cases step with
      | index position => exact child_index_sanitize position
      | key name =>
        rw [child_key_sanitize plain]
        split
        · rename_i proto
          rw [proto, free.own, Option.map_none]
        · have open_ : name ∉ SENSITIVE_FIELDS := fun secret =>
            first name secret (List.mem_singleton_self _)
          exact Option.map_congr fun own _ => if_neg open_
    rw [Datum.at_cons, Datum.at_cons, below]
    cases is : value.child step with
    | none => rfl
    | some own => exact ih (plain.child is) (free.child first is) rest

/-- **A copy of a value without such keys copies to itself.** -/
theorem sanitize_sanitize (plain : value.Plain) (free : NoPrototypeKey value) :
    sanitize (sanitize value) = sanitize value := by
  induction plain with
  | scalar value => rfl
  | @array items plain ih =>
    rw [sanitize, sanitizeItems_eq, sanitize, sanitizeItems_eq, List.map_map]
    refine congrArg Datum.array (List.map_congr_left fun item member => ?_)
    obtain ⟨position, inside⟩ := List.getElem?_of_mem member
    have visible : Visible [.index position] := fun key _ member => by
      cases List.mem_singleton.mp member
    exact ih item member (free.child visible inside)
  | @object prototype entries ordinary distinct plain ih =>
    have noProto := notMem_of_child distinct free.own
    have written : "__proto__" ∉ (entries.map sanitizeEntry).map Prod.fst := by
      rw [List.map_map]
      exact noProto
    rw [sanitize_object_of_notMem ordinary noProto, sanitize_object_of_notMem rfl written,
      List.map_map]
    refine congrArg (Datum.object none) (List.map_congr_left fun entry member => ?_)
    obtain ⟨key, own⟩ := entry
    show sanitizeEntry (sanitizeEntry (key, own)) = sanitizeEntry (key, own)
    rw [sanitizeEntry, sanitizeEntry]
    dsimp only
    split
    · rfl
    · rename_i open_
      have visible : Visible [.key key] := fun secret listed member => by
        cases List.mem_singleton.mp member
        exact open_ listed
      rw [ih (key, own) member
        (free.child visible ((lookup_eq_some_iff_mem distinct).mpr member))]

end Copy

def userRow : Datum :=
  .object none [("name", .scalar (.text "Asha")), ("passwordHash", .scalar (.text "f00d"))]

def prototypeRow : Datum :=
  .object none [("note", .object none [("__proto__", .scalar (.number (.finite 1)))])]

example : sanitize prototypeRow = .object none [("note", .object none [])] := rfl

end OpenEstate.Tenancy
