/-
**The installation of a plugin.**

A plugin is installed by a row of its own, a change of the company's configuration and custom fields
that it brings, one statement after the other and none of them undone by a later failure. The checks
before the first statement look for names that refer to Aadhaar; the creation of a field has other
reasons to refuse.

* `install` answers the request, and leaves what it has written;
* `applySeeds_cases`: the fields are all created, exactly when every new one is acceptable;
* **`allOrNothing_iff`**: for which plugins and companies a failure leaves everything as it was.
-/

import OpenEstate.CustomFields.Locality
import OpenEstate.Relational.Where

namespace OpenEstate.Plugins

open Relational CustomFields

/-! ### Plugins -/

structure CustomFieldSeed where
  entityType : String
  key : String
  label : String
  fieldType : String
  isRequired : Bool
  options : Option (List String) := none

structure Plugin where
  terminologyOverrides : Option (List (String × String)) := none
  enabledModules : Option (List String) := none
  customFieldSeeds : Option (List CustomFieldSeed) := none

structure VersionMismatch where
  requiredRange : String
  runningCoreVersion : String

structure PluginRegistry where
  active : List (String × Plugin)
  versionFailures : List (String × VersionMismatch) := []

/-! ### The company -/

structure PluginInstallation where
  pluginId : String
  isEnabled : Bool := false
  installedById : Option Nat

structure CompanyConfig where
  labelOverrides : List (String × String) := []
  enabledModules : List String := ["presales", "postsales", "accounts"]

structure FieldDefinition extends CustomFieldSeed where
  allowsTwelveDigitValues : Bool := false
  sortOrder : Nat := 0

/-- By what a field is known within a company. -/
def CustomFieldSeed.names (seed : CustomFieldSeed) : String × String := (seed.entityType, seed.key)

structure CompanyState where
  installations : List PluginInstallation := []
  config : Option CompanyConfig := none
  definitions : List FieldDefinition := []

def CompanyState.names (state : CompanyState) : List (String × String) :=
  state.definitions.map fun definition => definition.names

/-- What the database refuses by itself: rows that its columns do not hold. -/
structure Database where
  installation : PluginInstallation → Except ServiceError Unit
  config : CompanyConfig → Except ServiceError Unit
  definition : FieldDefinition → Except ServiceError Unit

def DEFAULT_LABEL_OVERRIDES : List (String × String) :=
  [("unit", "Unit"), ("project", "Project"), ("tower", "Tower"), ("floor", "Floor"),
    ("booking", "Booking"), ("inquiry", "Inquiry")]

/-- What a call does: a failure keeps what was written before it. -/
abbrev Effect (α : Type) : Type := ExceptT ServiceError (StateM CompanyState) α

variable {α : Type}

def check (value : Except ServiceError α) : Effect α := fun state => (value, state)

/-- A statement that is committed by itself, unless the database refuses it. -/
def write (allowed : Except ServiceError Unit) (change : CompanyState → CompanyState) : Effect Unit :=
  fun state => match allowed with
    | .ok () => (.ok (), change state)
    | .error error => (.error error, state)

variable {β : Type}

theorem bind_of_ok {first : Effect α} {next : α → Effect β} {state after : CompanyState} {value : α}
    (is : first state = (.ok value, after)) : (first >>= next) state = next value after := by
  show ExceptT.bindCont next (first state).1 (first state).2 = _
  rw [is]
  rfl

theorem bind_of_error {first : Effect α} {next : α → Effect β} {state after : CompanyState}
    {error : ServiceError} (is : first state = (.error error, after)) :
    (first >>= next) state = (.error error, after) := by
  show ExceptT.bindCont next (first state).1 (first state).2 = _
  rw [is]
  rfl

@[simp] theorem check_ok_bind (value : α) (next : α → Effect β)
    (state : CompanyState) : (check (.ok value) >>= next) state = next value state := rfl

@[simp] theorem check_error_bind (error : ServiceError) (next : α → Effect β)
    (state : CompanyState) : (check (.error error) >>= next) state = (.error error, state) := rfl

@[simp] theorem write_ok_bind (change : CompanyState → CompanyState) (next : Unit → Effect β)
    (state : CompanyState) (done : Unit) :
    (write (.ok done) change >>= next) state = next () (change state) := rfl

@[simp] theorem write_error_bind (error : ServiceError) (change : CompanyState → CompanyState)
    (next : Unit → Effect β) (state : CompanyState) :
    (write (.error error) change >>= next) state = (.error error, state) := rfl

section Install

variable (registry : PluginRegistry) (platform : Platform) (database : Database)

/-! ### Custom fields -/

def FieldDefinition.ofSeed (seed : CustomFieldSeed) : FieldDefinition := { seed with }

def createChecks (seed : CustomFieldSeed) (names : List (String × String)) :
    Except ServiceError Unit := do
  ensure (seed.entityType ∈ valueEntities.map CustomFieldEntity.text)
    (.badRequest (s!"Custom fields are not supported for {seed.entityType} yet. " ++
      s!"Supported entity types: " ++
      String.intercalate ", " (valueEntities.map CustomFieldEntity.text) ++ "."))
  CustomFieldsService.assertNoAadhaarKeyword platform seed.key
  CustomFieldsService.assertNoAadhaarKeyword platform seed.label
  CustomFieldsService.assertNoAadhaarLikeDefinitionValues platform seed.label
    (seed.options.getD []) none
  ensure (seed.names ∉ names)
    (.badRequest s!"Custom field \"{seed.key}\" already exists for {seed.entityType}")
  ensure (seed.fieldType ∈ ["SELECT", "MULTI_SELECT"] → seed.options.getD [] ≠ [])
    (.badRequest "SELECT/MULTI_SELECT fields require at least one option")

def create (seed : CustomFieldSeed) : Effect Unit := do
  check (createChecks platform seed (← get).names)
  write (database.definition (.ofSeed seed)) fun state =>
    { state with definitions := state.definitions ++ [.ofSeed seed] }

/-- The loop over the fields that a plugin brings, of which those that exist are skipped. -/
def applySeeds : List CustomFieldSeed → Effect Unit
  | [] => pure ()
  | seed :: rest => do
    if seed.names ∈ (← get).names then applySeeds rest
    else
      create platform database seed
      applySeeds rest

/-! ### The installation -/

def spread (base overrides : List (String × String)) : List (String × String) :=
  overrides.foldl (fun merged entry => assign entry.1 entry.2 merged) base

/-- The configuration with what a plugin overrides of it. -/
def Plugin.configOf (plugin : Plugin) (config : Option CompanyConfig) : CompanyConfig :=
  let existing := (config.map CompanyConfig.labelOverrides).getD DEFAULT_LABEL_OVERRIDES
  let row := config.getD {}
  { labelOverrides := (plugin.terminologyOverrides.map (spread existing)).getD row.labelOverrides
    enabledModules := plugin.enabledModules.getD row.enabledModules }

def Plugin.Configures (plugin : Plugin) : Prop :=
  plugin.terminologyOverrides.isSome ∨ plugin.enabledModules.isSome

instance (plugin : Plugin) : Decidable plugin.Configures := inferInstanceAs (Decidable (_ ∨ _))

def applyConfig (plugin : Plugin) : Effect Unit := fun state =>
  if plugin.Configures then
    let config := plugin.configOf state.config
    write (database.config config) (fun state => { state with config := some config }) state
  else (.ok (), state)

def applyVerticalHooks (plugin : Plugin) : Effect Unit := do
  applyConfig database plugin
  applySeeds platform database (plugin.customFieldSeeds.getD [])

def requireActivePlugin (pluginId : String) : Except ServiceError Plugin :=
  match registry.active.lookup pluginId with
  | some plugin => .ok plugin
  | none => .error (.conflict (match registry.versionFailures.lookup pluginId with
    | some mismatch => s!"Plugin \"{pluginId}\" requires core API {mismatch.requiredRange} but " ++
      s!"this install is on {mismatch.runningCoreVersion} — incompatible with this version."
    | none => s!"Plugin \"{pluginId}\" is not available in this build."))

def assertNoKeyword (pluginId : String) (seed : CustomFieldSeed) : Except ServiceError Unit :=
  match (platform.containsAadhaarKeyword seed.key).or (platform.containsAadhaarKeyword seed.label) with
  | some matched => .error (.badRequest
      (s!"Plugin \"{pluginId}\" can't be installed: it declares a custom field \"{seed.key}\". " ++
        aadhaarKeywordError matched))
  | none => .ok ()

/-- What is checked before anything is written. -/
def requireInstallable (pluginId : String) (state : CompanyState) : Except ServiceError Plugin := do
  let plugin ← requireActivePlugin registry pluginId
  ensure (pluginId ∉ state.installations.map PluginInstallation.pluginId)
    (.conflict s!"Plugin \"{pluginId}\" is already installed")
  forEach (plugin.customFieldSeeds.getD []) (assertNoKeyword platform pluginId)
  return plugin

/-- The installation. The hook that it ends with cannot make it fail: whatever that throws is caught. -/
def install (pluginId : String) (actorId : Option Nat) : Effect PluginInstallation := do
  let plugin ← check (requireInstallable registry platform pluginId (← get))
  let installation : PluginInstallation := { pluginId, installedById := actorId }
  write (database.installation installation) fun state =>
    { state with installations := state.installations ++ [installation] }
  applyVerticalHooks platform database plugin
  return installation

/-! ### What a failure leaves -/

/-- A field that can be created where there is none of its names. -/
structure CustomFieldSeed.Acceptable (seed : CustomFieldSeed) : Prop where
  supported : seed.entityType ∈ valueEntities.map CustomFieldEntity.text
  key_free : platform.containsAadhaarKeyword seed.key = none
  label_free : platform.containsAadhaarKeyword seed.label = none
  options_free : ∀ text ∈ seed.options.getD [],
    isAadhaarLikeValue platform.numberText (.text text) = false
  options_some : seed.fieldType ∈ ["SELECT", "MULTI_SELECT"] → seed.options.getD [] ≠ []
  stored : database.definition (.ofSeed seed) = .ok ()

/-- Everything that a plugin brings is accepted: its configuration, and every field that is new. -/
structure Plugin.Applies (plugin : Plugin) (state : CompanyState) : Prop where
  config : plugin.Configures → database.config (plugin.configOf state.config) = .ok ()
  fields : ∀ before seed after, plugin.customFieldSeeds.getD [] = before ++ seed :: after →
    seed.names ∉ state.names ++ before.map CustomFieldSeed.names →
    seed.Acceptable platform database

/-- A failure leaves the company as it was. -/
def AllOrNothing (pluginId : String) (actorId : Option Nat) (state : CompanyState) : Prop :=
  ∀ error after, install registry platform database pluginId actorId state = (.error error, after) →
    after = state

variable {registry platform database} {seed : CustomFieldSeed} {seeds : List CustomFieldSeed}
  {plugin : Plugin} {state after : CompanyState} {pluginId : String} {actorId : Option Nat}

theorem createChecks_eq_ok {names : List (String × String)} (new : seed.names ∉ names) :
    createChecks platform seed names = .ok () ↔
      seed.entityType ∈ valueEntities.map CustomFieldEntity.text ∧
        platform.containsAadhaarKeyword seed.key = none ∧
        platform.containsAadhaarKeyword seed.label = none ∧
        (∀ text ∈ seed.options.getD [],
          isAadhaarLikeValue platform.numberText (.text text) = false) ∧
        (seed.fieldType ∈ ["SELECT", "MULTI_SELECT"] → seed.options.getD [] ≠ []) := by
  have keyword : ∀ text, CustomFieldsService.assertNoAadhaarKeyword platform text = .ok () ↔
      platform.containsAadhaarKeyword text = none := by
    intro text
    rw [CustomFieldsService.assertNoAadhaarKeyword]
    cases platform.containsAadhaarKeyword text <;> simp
  simp only [createChecks, bind_eq_ok, ensure_eq_ok, keyword, exists_const,
    CustomFieldsService.assertNoAadhaarLikeDefinitionValues, Option.toList_none, List.append_nil,
    new, not_false_eq_true, true_and]

theorem create_eq : create platform database seed state =
    match createChecks platform seed state.names with
    | .error error => (.error error, state)
    | .ok () => write (database.definition (.ofSeed seed)) (fun state =>
        { state with definitions := state.definitions ++ [.ofSeed seed] }) state := by
  show (check (createChecks platform seed state.names) >>= fun _ =>
    write (database.definition (.ofSeed seed)) fun state =>
      { state with definitions := state.definitions ++ [.ofSeed seed] }) state = _
  cases is : createChecks platform seed state.names with
  | error error => exact bind_of_error rfl
  | ok done => exact bind_of_ok rfl

/-- A new field is created if it is acceptable, and otherwise nothing is. -/
theorem create_cases (new : seed.names ∉ state.names) :
    (seed.Acceptable platform database ∧ create platform database seed state =
      (.ok (), { state with definitions := state.definitions ++ [.ofSeed seed] })) ∨
    (¬seed.Acceptable platform database ∧
      ∃ error, create platform database seed state = (.error error, state)) := by
  have checks := @createChecks_eq_ok platform seed _ new
  rw [create_eq]
  cases is : createChecks platform seed state.names with
  | error error =>
    refine .inr ⟨fun acceptable => ?_, error, rfl⟩
    have accepted := checks.mpr ⟨acceptable.supported, acceptable.key_free, acceptable.label_free,
      acceptable.options_free, acceptable.options_some⟩
    rw [is] at accepted
    cases accepted
  | ok done =>
    obtain ⟨supported, key_free, label_free, options_free, options_some⟩ := checks.mp is
    dsimp only
    unfold write
    cases stored : database.definition (.ofSeed seed) with
    | error error =>
      refine .inr ⟨fun acceptable => ?_, error, rfl⟩
      rw [acceptable.stored] at stored
      cases stored
    | ok done =>
      exact .inl ⟨⟨supported, key_free, label_free, options_free, options_some, stored⟩, rfl⟩

theorem applySeeds_of_mem (exists_ : seed.names ∈ state.names) :
    applySeeds platform database (seed :: seeds) state = applySeeds platform database seeds state := by
  show (if seed.names ∈ state.names then applySeeds platform database seeds
    else create platform database seed >>= fun _ => applySeeds platform database seeds) state = _
  rw [if_pos exists_]

theorem applySeeds_of_notMem (new : seed.names ∉ state.names) :
    applySeeds platform database (seed :: seeds) state =
      (create platform database seed >>= fun _ => applySeeds platform database seeds) state := by
  show (if seed.names ∈ state.names then applySeeds platform database seeds
    else create platform database seed >>= fun _ => applySeeds platform database seeds) state = _
  rw [if_neg new]

/-- Of the fields, each whose names are not taken by then is acceptable. -/
def FieldsAccepted (platform : Platform) (database : Database) (names : List (String × String))
    (seeds : List CustomFieldSeed) : Prop :=
  ∀ before seed after, seeds = before ++ seed :: after →
    seed.names ∉ names ++ before.map CustomFieldSeed.names → seed.Acceptable platform database

theorem fieldsAccepted_cons {names next : List (String × String)}
    (grown : ∀ taken, taken ∈ next ↔ taken ∈ names ∨ taken = seed.names) :
    FieldsAccepted platform database names (seed :: seeds) ↔
      (seed.names ∉ names → seed.Acceptable platform database) ∧
        FieldsAccepted platform database next seeds := by
  have later : ∀ (before : List CustomFieldSeed) (other : CustomFieldSeed),
      other.names ∉ next ++ before.map CustomFieldSeed.names ↔
        other.names ∉ names ++ (seed :: before).map CustomFieldSeed.names := by
    intro before other
    rw [List.mem_append, List.mem_append, grown, List.map_cons, List.mem_cons, or_assoc]
  constructor
  · intro all
    refine ⟨fun new => all [] seed seeds rfl (by rwa [List.map_nil, List.append_nil]), ?_⟩
    intro before other after split new
    exact all (seed :: before) other after (congrArg _ split) ((later before other).mp new)
  · rintro ⟨first, all⟩ before other after split new
    cases before with
    | nil =>
      cases split
      exact first fun taken => new (List.mem_append_left _ taken)
    | cons head before =>
      cases split
      exact all before other after rfl ((later before other).mpr new)

theorem applySeeds_cases (seeds : List CustomFieldSeed) (state : CompanyState) :
    (FieldsAccepted platform database state.names seeds ∧
      ∃ after, applySeeds platform database seeds state = (.ok (), after)) ∨
    (¬FieldsAccepted platform database state.names seeds ∧ ∃ error after,
      applySeeds platform database seeds state = (.error error, after) ∧
        after.installations = state.installations) := by
  induction seeds generalizing state with
  | nil =>
    refine .inl ⟨fun before seed rest none_ => ?_, state, rfl⟩
    cases before <;> cases none_
  | cons seed seeds ih =>
    by_cases new : seed.names ∈ state.names
    · have grown : ∀ names, names ∈ state.names ↔ names ∈ state.names ∨ names = seed.names :=
        fun names => (or_iff_left_of_imp fun same => same ▸ new).symm
      rw [applySeeds_of_mem new, fieldsAccepted_cons grown,
        and_iff_right fun isNew => absurd new isNew]
      exact ih state
    · have grown : ∀ names, names ∈ CompanyState.names { state with
          definitions := state.definitions ++ [FieldDefinition.ofSeed seed] } ↔
            names ∈ state.names ∨ names = seed.names := by
        intro names
        rw [CompanyState.names, List.map_append, List.mem_append, List.map_singleton,
          List.mem_singleton]
        rfl
      rw [applySeeds_of_notMem new, fieldsAccepted_cons grown]
      rcases @create_cases platform database seed state new with
        ⟨acceptable, created⟩ | ⟨refused, error, failed⟩
      · rw [bind_of_ok created, and_iff_right fun _ => acceptable]
        exact ih _
      · exact .inr ⟨fun all => refused (all.1 new), error, state, bind_of_error failed, rfl⟩

theorem applyConfig_cases (plugin : Plugin) (state : CompanyState) :
    ((plugin.Configures → database.config (plugin.configOf state.config) = .ok ()) ∧
      ∃ next, applyConfig database plugin state = (.ok (), next) ∧ next.names = state.names ∧
        next.installations = state.installations) ∨
    (¬(plugin.Configures → database.config (plugin.configOf state.config) = .ok ()) ∧
      ∃ error, applyConfig database plugin state = (.error error, state)) := by
  have run : applyConfig database plugin state = _ := rfl
  conv_rhs at run => unfold applyConfig write
  split at run
  · rename_i configures
    dsimp only at run
    cases stored : database.config (plugin.configOf state.config) with
    | error error =>
      rw [stored] at run
      exact .inr ⟨fun accepted => (nomatch accepted configures), error, run⟩
    | ok done =>
      rw [stored] at run
      exact .inl ⟨fun _ => rfl, _, run, rfl, rfl⟩
  · rename_i silent
    exact .inl ⟨fun configures => absurd configures silent, state, run, rfl, rfl⟩

/-- **What a plugin brings is accepted**, or the call fails with the installation in its place. -/
theorem applyVerticalHooks_cases (plugin : Plugin) (state : CompanyState) :
    (plugin.Applies platform database state ∧
      ∃ after, applyVerticalHooks platform database plugin state = (.ok (), after)) ∨
    (¬plugin.Applies platform database state ∧ ∃ error after,
      applyVerticalHooks platform database plugin state = (.error error, after) ∧
        after.installations = state.installations) := by
  have hooks : applyVerticalHooks platform database plugin state =
      (applyConfig database plugin >>= fun _ =>
        applySeeds platform database (plugin.customFieldSeeds.getD [])) state := rfl
  rw [hooks]
  rcases @applyConfig_cases database plugin state with
    ⟨config, next, configured, names, installations⟩ | ⟨refused, error, failed⟩
  · rw [bind_of_ok configured]
    rcases applySeeds_cases (plugin.customFieldSeeds.getD []) next with
      ⟨all, after, run⟩ | ⟨refused, error, after, failed, same⟩
    · exact .inl ⟨⟨config, names ▸ all⟩, after, run⟩
    · exact .inr ⟨fun applies => refused (names.symm ▸ applies.fields), error, after, failed,
        same.trans installations⟩
  · exact .inr ⟨fun applies => refused applies.config, error, state, bind_of_error failed, rfl⟩

/-- **A failure leaves everything as it was** exactly when what the plugin brings is accepted, if the
installation gets past the checks before it. -/
theorem allOrNothing_iff (registry : PluginRegistry) (platform : Platform) (database : Database)
    (pluginId : String) (actorId : Option Nat) (state : CompanyState) :
    AllOrNothing registry platform database pluginId actorId state ↔
      ∀ plugin, requireInstallable registry platform pluginId state = .ok plugin →
        database.installation { pluginId, installedById := actorId } = .ok () →
        plugin.Applies platform database state := by
  have run : install registry platform database pluginId actorId state =
      (check (requireInstallable registry platform pluginId state) >>= fun plugin =>
        write (database.installation { pluginId, installedById := actorId }) (fun state =>
          { state with installations :=
              state.installations ++ [{ pluginId, installedById := actorId }] }) >>= fun _ =>
        applyVerticalHooks platform database plugin >>= fun _ =>
        pure { pluginId, installedById := actorId }) state := rfl
  unfold AllOrNothing
  rw [run]
  cases admitted : requireInstallable registry platform pluginId state with
  | error error =>
    simp only [check_error_bind]
    refine iff_of_true (fun other after same => ?_) nofun
    cases same
    rfl
  | ok plugin =>
    simp only [check_ok_bind]
    cases stored : database.installation { pluginId, installedById := actorId } with
    | error error =>
      simp only [write_error_bind]
      refine iff_of_true (fun other after same => ?_) nofun
      cases same
      rfl
    | ok done =>
      simp only [write_ok_bind]
      rcases @applyVerticalHooks_cases platform database plugin { state with installations :=
          state.installations ++ [{ pluginId, installedById := actorId }] } with
        ⟨applies, after, run⟩ | ⟨refused, error, after, failed, same⟩
      · rw [bind_of_ok run]
        refine iff_of_true (fun other after same => nomatch same) fun other same _ => ?_
        cases same
        exact ⟨applies.config, applies.fields⟩
      · rw [bind_of_error failed]
        refine iff_of_false (fun unchanged => ?_) fun all => ?_
        · have unchanged := congrArg CompanyState.installations (unchanged error after rfl)
          rw [same] at unchanged
          exact absurd (congrArg List.length unchanged) (by simp)
        · have applies := all plugin rfl trivial
          exact refused ⟨applies.config, applies.fields⟩

end Install

/-- A choice without options. -/
def facing : CustomFieldSeed where
  entityType := "UNIT"
  key := "facing"
  label := "Facing"
  fieldType := "SELECT"
  isRequired := false

def vertical : PluginRegistry where
  active := [("vertical", { customFieldSeeds := some [facing] })]

def unrestricted : Database := ⟨fun _ => .ok (), fun _ => .ok (), fun _ => .ok ()⟩

/-- The installation stays. -/
theorem not_allOrNothing_vertical : ¬ ∀ registry platform database pluginId actorId state,
    AllOrNothing registry platform database pluginId actorId state := by
  intro all
  have run : install vertical searching unrestricted "vertical" (some 1) {} =
      (.error (.badRequest "SELECT/MULTI_SELECT fields require at least one option"),
        { installations := [{ pluginId := "vertical", installedById := some 1 }] }) := rfl
  cases congrArg CompanyState.installations (all _ _ _ _ _ _ _ _ run)

end OpenEstate.Plugins
