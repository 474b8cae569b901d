import DesignLint.Proofs.Config.Outcome

/-! # Nulls among the entries of a setting

Settings that hold several texts take them from the items of a list or from the keys of a mapping,
and a null may stand among these. Colours, spellings and stylesheets have none of it, and lists are
refused where a mapping has to be; but a null that is a key of an exemption map becomes a name:

* `Value.HasNull`: a null among the items or keys of a value;
* `Config.Setting.not_takes_of_hasNull`: who refuses it;
* `Config.set_named`: who does not;
* `Config.null_entry_outcome`: what the mapping gives in either case. -/

namespace DesignLint

namespace Value

/-- A null is an item of a list, or a key of a mapping. -/
inductive HasNull : Value → Prop
  /-- An item. -/
  | item {items : List Value} (h : .null ∈ items) : HasNull (.list items)
  /-- A key. -/
  | key {entries : List (Value × Value)} (h : .null ∈ entries.map (·.1)) :
      HasNull (.mapping entries)

/-- A value, with the text of null in the place of null. -/
def named : Value → Value
  | null => .text "None".toList
  | value => value

/-- A null is written like its text. -/
theorem toText_named (value : Value) : value.named.toText = value.toText := by
  cases value with
  | _ => rfl

end Value

namespace Config

namespace Setting

/-- The settings that hold several texts. -/
def collections : List Setting :=
  [alwaysAllowed, fontSpellings, requiredSheets, exemptFiles, exemptPrefixes]

/-- The settings that hold exemptions. -/
def exemptions : List Setting := [exemptFiles, exemptPrefixes]

/-- An empty slot does not fit where there has to be a text. -/
theorem not_takes_of_mem {setting : Setting} {value : Value} {slots : List Slot}
    (hslots : setting.slots? value = some slots) (hnull : ⟨.null, false⟩ ∈ slots) :
    ¬ setting.Takes value := by
  rintro ⟨slots', hslots', hfits⟩
  obtain rfl := Option.some_inj.1 (hslots.symm.trans hslots')
  exact Bool.noConfusion ((hfits _ hnull).1 rfl)

/-- A value of the wrong shape is not taken. -/
theorem not_takes_of_shape {setting : Setting} {value : Value} (h : setting.slots? value = none) :
    ¬ setting.Takes value := by
  rintro ⟨slots, hslots, -⟩
  exact nomatch h.symm.trans hslots

/-- **A null among several texts is refused**, unless it is a key of an exemption map. -/
theorem not_takes_of_hasNull {setting : Setting} {value : Value} (hmem : setting ∈ collections)
    (hnull : value.HasNull) (h : ¬ (setting ∈ exemptions ∧ ∃ entries, value = .mapping entries)) :
    ¬ setting.Takes value := by
  have hitem {items : List Value} (hmem : .null ∈ items) :
      (⟨.null, false⟩ : Slot) ∈ items.map (⟨·, false⟩) := List.mem_map_of_mem hmem
  cases setting with
  | tokenSource | extension | requiredFont => exact absurd hmem (by decide)
  | alwaysAllowed | fontSpellings =>
    cases hnull with
    | item hmem => exact not_takes_of_mem rfl (hitem hmem)
    | key _ => exact not_takes_of_shape rfl
  | exemptFiles | exemptPrefixes =>
    cases hnull with
    | item _ => exact not_takes_of_shape rfl
    | key _ => exact absurd ⟨by decide, _, rfl⟩ h
  | requiredSheets =>
    cases hnull with
    | item hmem => exact not_takes_of_mem rfl (hitem hmem)
    | key hmem =>
      obtain ⟨entry, hentry, hkey⟩ := List.mem_map.1 hmem
      refine not_takes_of_mem rfl (List.mem_flatMap.2 ⟨entry, hentry, ?_⟩)
      rw [hkey]
      exact List.mem_cons_self

end Setting

/-! ## Names for null -/

/-- The names that a configuration exempts under a setting. -/
def exemptNames (config : Config) : Setting → List Text
  | .exemptFiles => config.exemptFiles.map (·.1)
  | .exemptPrefixes => config.exemptPrefixes.map (·.1)
  | _ => []

/-- A null in the place of a name is read like its text. -/
theorem reasonMap_named (key : Text) (entries : List (Value × Value)) :
    reasonMap key (.mapping (entries.map fun entry => (entry.1.named, entry.2)))
      = reasonMap key (.mapping entries) := by
  have hentry : (reasonEntry ∘ fun entry => (entry.1.named, entry.2)) = reasonEntry := by
    funext entry
    rw [Function.comp_apply, reasonEntry, reasonEntry, textOf, Value.toText_named, textOf]
  rw [reasonMap_mapping, reasonMap_mapping, List.mapM_map, hentry]

/-- **An exemption map takes a null for its text.** -/
theorem set_named {setting : Setting} (h : setting ∈ Setting.exemptions) (config : Config)
    (entries : List (Value × Value)) :
    config.set setting (.mapping (entries.map fun entry => (entry.1.named, entry.2)))
      = config.set setting (.mapping entries) := by
  unfold set
  cases setting with
  | exemptFiles | exemptPrefixes =>
    dsimp only
    rw [reasonMap_named]
  | _ => exact absurd h (by decide)

/-- A value that is read alike may stand in the place of another one. -/
theorem ofMapping_congr {setting : Setting} {value other : Value}
    (h : ∀ config : Config, config.set setting value = config.set setting other)
    (front back : List (Value × Value)) :
    ofMapping (front ++ (.text setting.key, value) :: back)
      = ofMapping (front ++ (.text setting.key, other) :: back) := by
  have hset (config : Config) : setAll config (front ++ (.text setting.key, value) :: back)
      = setAll config (front ++ (.text setting.key, other) :: back) := by
    induction front generalizing config with
    | nil => simp only [List.nil_append, setAll, Setting.ofKey?_key, h]
    | cons entry front ih =>
      rw [List.cons_append, List.cons_append, setAll, setAll]
      cases Setting.ofKey? entry.1 with
      | none => exact ih config
      | some _ => exact bind_congr fun next => ih next
  simp only [ofMapping, hset, List.map_append, List.map_cons]

/-- The exemptions of a value are named after all its keys. -/
theorem mem_exemptNames {config : Config} {setting : Setting} {entries : List (Value × Value)}
    (h : setting ∈ Setting.exemptions)
    (hcontent : setting.Says (.mapping entries) (setting.content config)) {key : Value}
    (hkey : key ∈ entries.map (·.1)) {s : Text} (hs : key.toText = .ok s) :
    s ∈ config.exemptNames setting := by
  have hnames {reasons : List (Text × Text)} (hexempts : (Value.mapping entries).Exempts reasons) :
      s ∈ reasons.map (·.1) := by
    obtain ⟨_, pairs, ⟨⟩, hpairs, hmerges⟩ := hexempts
    rw [hmerges.keys, List.mem_eraseDups]
    obtain ⟨entry, hentry, rfl⟩ := List.mem_map.1 hkey
    obtain ⟨i, hi, rfl⟩ := List.mem_iff_getElem.1 hentry
    have hi' : i < pairs.length := hpairs.length_eq ▸ hi
    obtain ⟨hname, -⟩ := hpairs.get hi hi'
    obtain rfl := Except.ok.inj (hname.symm.trans hs)
    exact List.mem_map_of_mem (List.getElem_mem hi')
  cases setting with
  | exemptFiles | exemptPrefixes => exact hnames hcontent
  | _ => exact absurd h (by decide)

/-! ## Mappings with a null -/

/-- The first value that is refused cannot be written. -/
def FailsToWrite (entries : List (Value × Value)) : Prop :=
  ∃ front, ∃ setting : Setting, ∃ value back,
    entries = front ++ (.text setting.key, value) :: back ∧ (∀ entry ∈ front, Taken entry) ∧
      setting.Overflows value

/-- An error is no complaint just when the first value that is refused cannot be written. -/
theorem Outcome.isComplaint_eq_false_iff_failsToWrite {entries : List (Value × Value)}
    {e : ConfigError} (h : TextKeyed entries) (hknown : ∀ entry ∈ entries, Known entry.1)
    (houtcome : Outcome entries (.error e)) : e.isComplaint = false ↔ FailsToWrite entries := by
  rw [houtcome.isComplaint_eq_false_iff]
  constructor
  · rintro rfl
    cases houtcome with
    | refused hentries _ hfront hvalue =>
      cases hvalue with
      | overlong hoverflows => exact ⟨_, _, _, _, hentries, hfront, hoverflows⟩
  · rintro ⟨front, setting, value, back, hentries, hfront, hoverflows⟩
    have hother := h.ofMapping_eq_iff.2 (.refused hentries hknown hfront (.overlong hoverflows))
    exact Except.error.inj ((h.ofMapping_eq_iff.2 houtcome).symm.trans hother)

/-- **What a mapping with a null among the entries of a setting gives.** If the null is an item of a
list, or a key that is no name of an exemption, there is an error, which is a complaint unless the
first value that is refused cannot be written. If it is a name of an exemption, the mapping gives
what it gives with the text `None` in the place of the null, and this text is exempt. -/
theorem null_entry_outcome {front back : List (Value × Value)} {setting : Setting} {value : Value}
    (h : TextKeyed (front ++ (.text setting.key, value) :: back))
    (hknown : ∀ entry ∈ front ++ (.text setting.key, value) :: back, Known entry.1)
    (hcollection : setting ∈ Setting.collections) (hnull : value.HasNull) :
    let entries := front ++ (.text setting.key, value) :: back
    (¬ (setting ∈ Setting.exemptions ∧ ∃ inner, value = .mapping inner) →
      ∃ e, ofMapping entries = .error e ∧ (e.isComplaint = false ↔ FailsToWrite entries)) ∧
    ∀ inner, value = .mapping inner → setting ∈ Setting.exemptions →
      (.null ∈ inner.map (·.1) ∧
        ofMapping entries = ofMapping (front ++
          (.text setting.key, .mapping (inner.map fun entry => (entry.1.named, entry.2))) :: back) ∧
        ∀ config, ofMapping entries = .ok config →
          "None".toList ∈ config.exemptNames setting) := by
  intro entries
  have hentry : (.text setting.key, value) ∈ entries := List.mem_append_right _ List.mem_cons_self
  constructor
  · intro hexempt
    have houtcome := h.outcome
    cases hresult : ofMapping entries with
    | error e =>
      rw [hresult] at houtcome
      exact ⟨e, rfl, houtcome.isComplaint_eq_false_iff_failsToWrite h hknown⟩
    | ok config =>
      rw [hresult] at houtcome
      cases houtcome with
      | settled htaken _ _ =>
        exact absurd (taken_key_iff.1 (htaken _ hentry))
          (Setting.not_takes_of_hasNull hcollection hnull hexempt)
  · rintro inner rfl hexempt
    have hkey : .null ∈ inner.map (·.1) := by
      cases hnull with
      | key hkey => exact hkey
    refine ⟨hkey, ofMapping_congr (fun config => (set_named hexempt config inner).symm) front back,
      fun config hconfig => ?_⟩
    cases h.ofMapping_eq_iff.1 hconfig with
    | settled _ hpresent _ => exact mem_exemptNames hexempt (hpresent setting _ hentry) hkey rfl

/-- A null among the exempt files, behind a name. -/
theorem null_entry_outcome_second_name :
    let value : Value := .mapping [(.text ['a'], .text ['b']), (.null, .null)]
    (Value.HasNull value ∧ Setting.exemptFiles ∈ Setting.collections) ∧
      TextKeyed [(.text Setting.exemptFiles.key, value)] ∧
      ofMapping [(.text Setting.exemptFiles.key, value)]
        = ofMapping [(.text Setting.exemptFiles.key,
          .mapping [(.text ['a'], .text ['b']), (.text "None".toList, .null)])] := by
  intro value
  have hnull : value.HasNull := .key (List.mem_cons_of_mem _ List.mem_cons_self)
  have hcollection : Setting.exemptFiles ∈ Setting.collections := by decide
  have hkeys : TextKeyed ([] ++ (.text Setting.exemptFiles.key, value) :: []) :=
    textKeyed_singleton Setting.exemptFiles.key value
  have hknown : ∀ entry ∈ [] ++ (.text Setting.exemptFiles.key, value) :: [], Known entry.1 :=
    List.forall_mem_singleton.2 ⟨.exemptFiles, rfl⟩
  obtain ⟨-, hnamed⟩ := null_entry_outcome hkeys hknown hcollection hnull
  exact ⟨⟨hnull, hcollection⟩, hkeys, (hnamed _ rfl (by decide)).2.1⟩

/-- **A null may become a name**: here it exempts pages of the name `None`. -/
theorem ofMapping_null_name :
    let value : Value := .mapping [(.null, .text ['b'])]
    Value.HasNull value ∧ ofMapping [(.text Setting.exemptFiles.key, value)]
      = .ok { exemptFiles := [("None".toList, ['b'])] } := by
  exact ⟨.key List.mem_cons_self, rfl⟩

end Config

end DesignLint
