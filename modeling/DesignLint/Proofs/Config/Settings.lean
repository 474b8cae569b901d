import DesignLint.Config.OfMapping
import DesignLint.Proofs.Value

/-! # What settings take

Which values a setting takes, and what is wrong with those it refuses, said without reading them. A
value of the right shape has slots, each of which has to be written out:

* `Config.Setting.slots?`: the slots of a value, if it has the right shape for a setting;
* `Slot.Fits`: the value in a slot can be written out, and is no null where there has to be a text;
* `Config.Setting.Takes`: all slots of a value fit;
* `Config.Setting.Overflows`: the first slot that does not fit holds an integer that is too long;
* `Config.failure?_ofMapping`: a mapping fails by its unknown keys, or else by the first value that
  its setting refuses. -/

namespace DesignLint

/-! ## Slots -/

/-- A value that a setting writes out. -/
structure Slot where
  /-- The value. -/
  value : Value
  /-- Whether the value may be null. -/
  optional : Bool

namespace Slot

/-- The value in a slot has a text, and is no null unless it may be. -/
def Fits (slot : Slot) : Prop :=
  (slot.value = .null → slot.optional = true) ∧ ¬ slot.value.Overlong

/-- What is wrong with a slot in the value of a key. -/
def failure? (key : Text) : Slot → Option ConfigError
  | ⟨.null, optional⟩ => if optional then none else some (.emptyEntry key)
  | ⟨value, _⟩ => (DesignLint.failure? value.toText).map .unwritable

/-- What is wrong with a value of a key that should be of some kind, given its slots. -/
def refusal? (key kind : Text) (value : Value) : Option (List Slot) → Option ConfigError
  | some slots => slots.findSome? (failure? key)
  | none => some (.wrongType key kind value.typeName)

variable {key : Text} {value : Value} {optional : Bool} {slot : Slot}

/-- A value that is not null only has to be written. -/
theorem failure?_of_ne_null (h : value ≠ .null) :
    failure? key ⟨value, optional⟩ = (DesignLint.failure? value.toText).map .unwritable := by
  cases value with
  | null => exact absurd rfl h
  | _ => rfl

/-- **A slot has no failure** just when it fits. -/
theorem failure?_eq_none_iff : slot.failure? key = none ↔ slot.Fits := by
  obtain ⟨value, optional⟩ := slot
  by_cases hnull : value = .null
  · subst hnull
    cases optional with
    | false => simp [failure?, Fits]
    | true => simp [failure?, Fits, Value.not_overlong_null]
  · rw [failure?_of_ne_null hnull, Option.map_eq_none_iff, Value.failure?_toText_eq_none_iff]
    exact ⟨fun hshort => ⟨fun h => absurd h hnull, hshort⟩, fun hfits => hfits.2⟩

/-- **A slot is not written** just when its value is overlong. -/
theorem failure?_eq_unwritable_iff :
    slot.failure? key = some (.unwritable .tooLong) ↔ slot.value.Overlong := by
  obtain ⟨value, optional⟩ := slot
  by_cases hnull : value = .null
  · subst hnull
    cases optional with
    | false => simp [failure?, Value.not_overlong_null]
    | true => simp [failure?, Value.not_overlong_null]
  · rw [failure?_of_ne_null hnull, ← Value.failure?_toText_eq_some_iff, Option.map_eq_some_iff]
    constructor
    · rintro ⟨⟨⟩, htext, -⟩
      exact htext
    · intro htext
      exact ⟨.tooLong, htext, rfl⟩

/-- **What is wrong with a slot**: it is empty and must not be, or its value cannot be written. -/
theorem eq_of_failure? {e : ConfigError} (h : slot.failure? key = some e) :
    slot = ⟨.null, false⟩ ∧ e = .emptyEntry key ∨ e = .unwritable .tooLong := by
  obtain ⟨value, optional⟩ := slot
  by_cases hnull : value = .null
  · subst hnull
    cases optional with
    | false => exact .inl ⟨rfl, (Option.some_inj.1 h).symm⟩
    | true => exact absurd h.symm (Option.some_ne_none e)
  · rw [failure?_of_ne_null hnull, Option.map_eq_some_iff] at h
    obtain ⟨⟨⟩, -, rfl⟩ := h
    exact .inr rfl

/-- The slot of a text that has to be there. -/
theorem failure?_entryText (key : Text) (value : Value) :
    DesignLint.failure? (Config.entryText key value) = failure? key ⟨value, false⟩ := by
  unfold Config.entryText
  split
  · rfl
  · rename_i hnull
    rw [failure?_of_ne_null hnull, Config.textOf, failure?_mapError]

/-- The slot of a reason or a message. -/
theorem failure?_reasonText (key : Text) (value : Value) :
    DesignLint.failure? (Config.reasonText value) = failure? key ⟨value, true⟩ := by
  unfold Config.reasonText
  split
  · rfl
  · rename_i hnull
    rw [failure?_of_ne_null hnull, Config.textOf, failure?_mapError]

/-- The slot of a text for which null has a word. -/
theorem failure?_textOf (key : Text) (value : Value) :
    DesignLint.failure? (Config.textOf value) = failure? key ⟨value, true⟩ := by
  rw [Config.textOf, failure?_mapError]
  by_cases hnull : value = .null
  · subst hnull
    rfl
  · rw [failure?_of_ne_null hnull]

end Slot

/-! ## Shapes of values -/

namespace Value

/-- A text has nothing that is still to be written. -/
def textSlots? : Value → Option (List Slot)
  | text _ => some []
  | _ => none

/-- The items of a list. -/
def itemSlots? : Value → Option (List Slot)
  | list items => some (items.map (⟨·, false⟩))
  | _ => none

/-- The names and reasons of a mapping; a name may be null, too. -/
def reasonSlots? : Value → Option (List Slot)
  | mapping entries => some (entries.flatMap fun entry => [⟨entry.1, true⟩, ⟨entry.2, true⟩])
  | _ => none

/-- The items of a list, or the names and messages of a mapping. -/
def sheetSlots? : Value → Option (List Slot)
  | mapping entries => some (entries.flatMap fun entry => [⟨entry.1, false⟩, ⟨entry.2, true⟩])
  | value => value.itemSlots?

end Value

namespace Config

open Slot (refusal?)

theorem failure?_expectText (key : Text) (value : Value) :
    failure? (expectText key value) = refusal? key "str".toList value value.textSlots? := by
  cases value with
  | _ => rfl

/-- A list of texts is refused for its type or for its first item that does not fit. -/
theorem failure?_textList (key : Text) (value : Value) :
    failure? (textList key value) = refusal? key "list".toList value value.itemSlots? := by
  cases value with
  | list items =>
    show failure? (items.mapM (entryText key)) = _
    rw [failure?_mapM]
    simp only [Slot.failure?_entryText, refusal?, Value.itemSlots?, List.findSome?_map]
    rfl
  | _ => rfl

/-- The name and the reason that an entry gives. -/
def reasonEntry (entry : Value × Value) : Except ConfigError (Text × Text) := do
  let name ← textOf entry.1
  return (name, ← reasonText entry.2)

/-- Names with reasons are read entry by entry, and then those with the same text become one. -/
theorem reasonMap_mapping (key : Text) (entries : List (Value × Value)) :
    reasonMap key (.mapping entries)
      = Association.ofList (· == ·) <$> entries.mapM reasonEntry := rfl

/-- An entry fails by its name or else by its reason. -/
theorem failure?_reasonEntry (key : Text) (entry : Value × Value) :
    failure? (reasonEntry entry)
      = [⟨entry.1, true⟩, ⟨entry.2, true⟩].findSome? (Slot.failure? key) := by
  rw [findSome?_pair, ← Slot.failure?_textOf, ← Slot.failure?_reasonText]
  exact failure?_bind_or fun name => by rw [bind_pure_comp, failure?_map]

/-- Names with reasons are refused for their type or for the first name or reason that does not
fit. -/
theorem failure?_reasonMap (key : Text) (value : Value) :
    failure? (reasonMap key value) = refusal? key "dict".toList value value.reasonSlots? := by
  cases value with
  | mapping entries =>
    -- Joining keys with the same text does not fail, so only the entries matter.
    rw [reasonMap_mapping, failure?_map, failure?_mapM]
    simp only [failure?_reasonEntry key, refusal?, Value.reasonSlots?, findSome?_flatMap]
  | _ => rfl

/-- A required stylesheet fails by its name or else by its message. -/
theorem failure?_sheet (key : Text) (name message : Value) :
    failure? (sheet key name message)
      = [⟨name, false⟩, ⟨message, true⟩].findSome? (Slot.failure? key) := by
  rw [findSome?_pair, ← Slot.failure?_entryText, ← Slot.failure?_reasonText]
  refine failure?_bind_or fun text => ?_
  unfold reasonText
  split
  · rfl
  · rw [bind_pure_comp, failure?_map]

/-- Required stylesheets are refused for their type or for the first name or message that does not
fit. -/
theorem failure?_sheets (key : Text) (value : Value) :
    failure? (sheets key value) = refusal? key "list".toList value value.sheetSlots? := by
  cases value with
  | mapping entries =>
    show failure? (entries.mapM fun entry => sheet key entry.1 entry.2) = _
    rw [failure?_mapM]
    simp only [failure?_sheet, refusal?, Value.sheetSlots?, findSome?_flatMap]
  | list items =>
    -- A name alone has a null for its message, and a message may be null.
    have hitem (name : Value) :
        failure? (sheet key name .null) = Slot.failure? key ⟨name, false⟩ := by
      rw [failure?_sheet, findSome?_pair]
      exact Option.or_none
    show failure? (items.mapM fun name => sheet key name .null) = _
    rw [failure?_mapM]
    simp only [hitem, refusal?, Value.sheetSlots?, Value.itemSlots?, List.findSome?_map]
    rfl
  | _ => rfl

/-! ## Settings -/

namespace Setting

/-- **A key names a setting** if it is the text of the setting's key. -/
theorem ofKey?_eq_some_iff {key : Value} {setting : Setting} :
    ofKey? key = some setting ↔ key = .text setting.key := by
  constructor
  · intro h
    cases key with
    | text s =>
      have hkey := List.find?_some h
      rw [eq_of_beq hkey]
    | _ => cases h
  · rintro rfl
    exact ofKey?_key setting

/-- The type that a setting asks for. -/
def kind : Setting → Text
  | tokenSource | extension | requiredFont => "str".toList
  | alwaysAllowed | requiredSheets | fontSpellings => "list".toList
  | exemptFiles | exemptPrefixes => "dict".toList

/-- The slots of a value in their order; none if the value has the wrong shape for the setting. -/
def slots? (setting : Setting) (value : Value) : Option (List Slot) :=
  match setting with
  | tokenSource | extension | requiredFont => value.textSlots?
  | alwaysAllowed | fontSpellings => value.itemSlots?
  | exemptFiles | exemptPrefixes => value.reasonSlots?
  | requiredSheets => value.sheetSlots?

/-- A setting takes a value of the right shape, all of whose slots fit. -/
def Takes (setting : Setting) (value : Value) : Prop :=
  ∃ slots, setting.slots? value = some slots ∧ ∀ slot ∈ slots, slot.Fits

/-- The first slot of a value that does not fit holds an integer that is too long. -/
def Overflows (setting : Setting) (value : Value) : Prop :=
  ∃ front slot back, setting.slots? value = some (front ++ slot :: back) ∧
    (∀ slot ∈ front, slot.Fits) ∧ slot.value.Overlong

/-- What is wrong with the value of a setting. -/
def failure? (setting : Setting) (value : Value) : Option ConfigError :=
  Slot.refusal? setting.key setting.kind value (setting.slots? value)

variable {setting : Setting} {value : Value}

/-- **A setting refuses no value that it takes**, and every other one. -/
theorem failure?_eq_none_iff : setting.failure? value = none ↔ setting.Takes value := by
  rw [failure?, Takes]
  cases setting.slots? value with
  | none => simp [Slot.refusal?]
  | some slots =>
    rw [Slot.refusal?, List.findSome?_eq_none_iff]
    simp [Slot.failure?_eq_none_iff]

/-- **A value cannot be written** just when the first slot that does not fit is overlong. -/
theorem failure?_eq_unwritable_iff :
    setting.failure? value = some (.unwritable .tooLong) ↔ setting.Overflows value := by
  rw [failure?, Overflows]
  cases setting.slots? value with
  | none => simp [Slot.refusal?]
  | some slots =>
    rw [Slot.refusal?, List.findSome?_eq_some_iff]
    simp only [Slot.failure?_eq_unwritable_iff, Slot.failure?_eq_none_iff, Option.some_inj]
    constructor
    · rintro ⟨front, slot, back, hslots, hlong, hfront⟩
      exact ⟨front, slot, back, hslots, hfront, hlong⟩
    · rintro ⟨front, slot, back, hslots, hfront, hlong⟩
      exact ⟨front, slot, back, hslots, hlong, hfront⟩

end Setting

/-- **A setting is read** just when it takes its value, and whatever the configuration was. -/
theorem failure?_set (config : Config) (setting : Setting) (value : Value) :
    failure? (config.set setting value) = setting.failure? value := by
  -- Once the value is read, storing it under its setting does not fail.
  unfold set Setting.failure?
  cases setting with
  | tokenSource | extension | requiredFont =>
    simp only [bind_pure_comp, failure?_map, failure?_expectText]
    rfl
  | alwaysAllowed | fontSpellings =>
    simp only [bind_pure_comp, failure?_map, failure?_textList]
    rfl
  | exemptFiles | exemptPrefixes =>
    simp only [bind_pure_comp, failure?_map, failure?_reasonMap]
    rfl
  | requiredSheets =>
    simp only [bind_pure_comp, failure?_map, failure?_sheets]
    rfl

/-! ## Mappings -/

/-- A key is known if it is the key of a setting. -/
def Known (key : Value) : Prop := ∃ setting : Setting, key = .text setting.key

/-- **There are unknown keys** unless every key is known. -/
theorem unknownKeys?_eq_none_iff {keys : List Value} :
    unknownKeys? keys = none ↔ ∀ key ∈ keys, Known key := by
  have hknown (key : Value) : (Setting.ofKey? key).isNone = false ↔ Known key := by
    simp only [Known, ← Setting.ofKey?_eq_some_iff, Option.isNone_eq_false_iff,
      Option.isSome_iff_exists]
  rw [unknownKeys?]
  simp only [← hknown, ← Bool.not_eq_true]
  rw [← List.filter_eq_nil_iff]
  cases keys.filter fun key => (Setting.ofKey? key).isNone with
  | nil => simp
  | cons first rest =>
    dsimp only
    split
    · simp
    · simp

/-- **Unknown keys cannot be listed** just when some key is no text. -/
theorem exists_unknownKeys?_not_isComplaint_iff {keys : List Value} :
    (∃ e, unknownKeys? keys = some e ∧ e.isComplaint = false) ↔
      ∃ key ∈ keys, ∀ s, key ≠ .text s := by
  have hunknown {key : Value} (hkey : ∀ s, key ≠ .text s) :
      (Setting.ofKey? key).isNone = true := by
    rw [Option.isNone_iff_eq_none, Option.eq_none_iff_forall_ne_some]
    intro setting hsetting
    exact hkey _ (Setting.ofKey?_eq_some_iff.1 hsetting)
  have hname {key : Value} : (match key with | .text s => some s | _ => none) = none
      ↔ ∀ s, key ≠ .text s := by
    cases key with
    | text s => simp
    | _ => simp
  rw [unknownKeys?]
  -- A key that is no text is among the unknown ones, and keeps them from being listed.
  cases hfilter : keys.filter fun key => (Setting.ofKey? key).isNone with
  | nil =>
    simp only [reduceCtorEq, false_and, exists_false, false_iff]
    rintro ⟨key, hkey, htext⟩
    exact List.filter_eq_nil_iff.1 hfilter key hkey (hunknown htext)
  | cons first rest =>
    have hlist : ((first :: rest).mapM fun | .text s => some s | _ => none) = none
        ↔ ∃ key ∈ keys, ∀ s, key ≠ .text s := by
      rw [mapM_eq_none_iff, ← hfilter]
      simp only [hname, List.mem_filter]
      constructor
      · rintro ⟨key, ⟨hkey, -⟩, htext⟩
        exact ⟨key, hkey, htext⟩
      · rintro ⟨key, hkey, htext⟩
        exact ⟨key, ⟨hkey, hunknown htext⟩, htext⟩
    rw [← hlist]
    dsimp only
    split
    · rename_i names hnames
      refine iff_of_false ?_ fun hnone => absurd (hnames.symm.trans hnone) (Option.some_ne_none _)
      rintro ⟨_, ⟨⟩, hcomplaint⟩
      exact Bool.noConfusion hcomplaint
    · rename_i hnames
      exact iff_of_true ⟨_, rfl, rfl⟩ hnames

/-- Settings are read in their order, and the first value that is refused counts. -/
theorem failure?_setAll (config : Config) (entries : List (Value × Value)) :
    failure? (setAll config entries) = entries.findSome? fun entry =>
      (Setting.ofKey? entry.1).bind (·.failure? entry.2) := by
  induction entries generalizing config with
  | nil => rfl
  | cons entry rest ih =>
    obtain ⟨key, value⟩ := entry
    rw [setAll, findSome?_cons_or]
    cases Setting.ofKey? key with
    | none => exact ih config
    | some setting =>
      -- How the rest fails does not depend on the configuration that the entry gives.
      show failure? (config.set setting value >>= fun config => setAll config rest) = _
      rw [failure?_bind_or ih, failure?_set]
      rfl

/-- **A mapping fails** by its unknown keys, or else by the first value that its setting refuses. -/
theorem failure?_ofMapping (entries : List (Value × Value)) :
    failure? (ofMapping entries) = (unknownKeys? (entries.map (·.1))).or
      (entries.findSome? fun entry => (Setting.ofKey? entry.1).bind (·.failure? entry.2)) := by
  rw [ofMapping, ← failure?_setAll {}]
  cases unknownKeys? (entries.map (·.1)) with
  | none => rfl
  | some e => rfl

end Config

end DesignLint
