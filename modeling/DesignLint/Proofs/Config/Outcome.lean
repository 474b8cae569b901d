import DesignLint.Proofs.Association
import DesignLint.Proofs.Config.Load
import DesignLint.Proofs.Text.Order
import Mathlib.Data.Set.List

/-! # What a mapping of settings gives

A mapping with texts for keys gives one of three things, told here without reading it:

* `Config.Setting.Says`: what a value says about a setting;
* `Config.Setting.Refuses`: what is wrong with a value;
* `Config.Outcome`: unknown keys, or the first value that is refused, or what the values say;
* `Config.ofMapping_outcome`: the outcome of a mapping, and what of it depends on the order. -/

namespace DesignLint

/-! ## What values say -/

namespace Value

/-- A value gives a reason; null gives an empty one. -/
inductive Explains : Value → Text → Prop
  /-- No reason. -/
  | null : Explains .null []
  /-- The text of a value. -/
  | text {value : Value} {s : Text} (hvalue : value ≠ .null) (hs : value.toText = .ok s) :
      Explains value s

/-- A value gives a text that has to be there. -/
def Names (value : Value) (s : Text) : Prop := value ≠ .null ∧ value.toText = .ok s

/-- A value gives the message about a stylesheet; null gives the usual advice. -/
inductive Advises (name : Text) : Value → Text → Prop
  /-- The usual advice. -/
  | null : Advises name .null (RequiredSheet.advice name)
  /-- The text of a value. -/
  | text {value : Value} {s : Text} (hvalue : value ≠ .null) (hs : value.toText = .ok s) :
      Advises name value s

/-- A list gives texts, item by item. -/
def Lists (value : Value) (texts : List Text) : Prop :=
  ∃ items, value = .list items ∧ List.Forall₂ Names items texts

/-- A mapping gives names with reasons, entry by entry; names with the same text are merged. -/
def Exempts (value : Value) (reasons : List (Text × Text)) : Prop :=
  ∃ entries pairs, value = .mapping entries ∧
    List.Forall₂ (fun entry pair => entry.1.toText = .ok pair.1 ∧ Explains entry.2 pair.2)
      entries pairs ∧
    Association.Merges pairs reasons

/-- A list of names or a mapping of names to messages gives stylesheets, one for each. -/
inductive Requires : Value → List RequiredSheet → Prop
  /-- Names with the usual advice. -/
  | names {items : List Value} {sheets : List RequiredSheet}
      (h : List.Forall₂ (fun item sheet => Names item sheet.name ∧
        sheet.message = RequiredSheet.advice sheet.name) items sheets) :
      Requires (.list items) sheets
  /-- Names with messages. -/
  | messages {entries : List (Value × Value)} {sheets : List RequiredSheet}
      (h : List.Forall₂ (fun entry sheet => Names entry.1 sheet.name ∧
        Advises sheet.name entry.2 sheet.message) entries sheets) :
      Requires (.mapping entries) sheets

end Value

namespace Config

variable {key : Text} {value : Value}

/-! ## Reading values -/

theorem textOf_eq_ok_iff {s : Text} : textOf value = .ok s ↔ value.toText = .ok s :=
  mapError_eq_ok_iff

/-- A text that has to be there is read off what is no null. -/
theorem entryText_eq_ok_iff {s : Text} : entryText key value = .ok s ↔ value.Names s := by
  unfold entryText Value.Names
  split
  · simp
  · rename_i hnull
    rw [textOf_eq_ok_iff]
    exact ⟨fun h => ⟨hnull, h⟩, And.right⟩

/-- A reason is read off any value. -/
theorem reasonText_eq_ok_iff {s : Text} : reasonText value = .ok s ↔ value.Explains s := by
  unfold reasonText
  split
  · rw [Except.ok.injEq]
    constructor
    · rintro rfl
      exact .null
    · rintro (_ | ⟨hnull, -⟩)
      · rfl
      · exact absurd rfl hnull
  · rename_i hnull
    rw [textOf_eq_ok_iff]
    constructor
    · exact .text hnull
    · rintro (_ | ⟨-, h⟩)
      · exact absurd rfl hnull
      · exact h

theorem expectText_eq_ok_iff {s : Text} : expectText key value = .ok s ↔ value = .text s := by
  cases value with
  | text t => simp [expectText]
  | _ => simp [expectText]

/-- Texts are read off the items of a list. -/
theorem textList_eq_ok_iff {texts : List Text} :
    textList key value = .ok texts ↔ value.Lists texts := by
  cases value with
  | list items =>
    show items.mapM (entryText key) = .ok texts ↔ _
    simp only [mapM_eq_ok_iff, entryText_eq_ok_iff, Value.Lists, Value.list.injEq,
      exists_eq_left']
  | _ => simp [textList, expectList, Value.Lists, error_bind]

/-- An entry gives a name and a reason. -/
theorem reasonEntry_eq_ok_iff {entry : Value × Value} {pair : Text × Text} :
    reasonEntry entry = .ok pair ↔ entry.1.toText = .ok pair.1 ∧ entry.2.Explains pair.2 := by
  obtain ⟨name, reason⟩ := pair
  simp only [reasonEntry, bind_eq_ok_iff, textOf_eq_ok_iff, reasonText_eq_ok_iff]
  constructor
  · rintro ⟨_, hname, _, hreason, ⟨⟩⟩
    exact ⟨hname, hreason⟩
  · rintro ⟨hname, hreason⟩
    exact ⟨_, hname, _, hreason, rfl⟩

/-- Names with reasons are read off the entries of a mapping, and merged. -/
theorem reasonMap_eq_ok_iff {reasons : List (Text × Text)} :
    reasonMap key value = .ok reasons ↔ value.Exempts reasons := by
  cases value with
  | mapping entries =>
    rw [reasonMap_mapping, map_eq_ok_iff]
    simp only [mapM_eq_ok_iff, reasonEntry_eq_ok_iff]
    constructor
    · rintro ⟨pairs, hpairs, rfl⟩
      exact ⟨entries, pairs, rfl, hpairs, Association.merges_ofList pairs⟩
    · rintro ⟨_, pairs, ⟨⟩, hpairs, hmerges⟩
      exact ⟨pairs, hpairs, (Association.merges_ofList pairs).unique hmerges⟩
  | _ => simp [reasonMap, expectMapping, Value.Exempts, error_bind]

/-- A stylesheet is read off its name and its message. -/
theorem sheet_eq_ok_iff {name message : Value} {required : RequiredSheet} :
    sheet key name message = .ok required ↔
      name.Names required.name ∧ message.Advises required.name required.message := by
  obtain ⟨text, words⟩ := required
  rw [sheet, bind_eq_ok_iff]
  simp only [entryText_eq_ok_iff]
  split
  · constructor
    · rintro ⟨_, hname, ⟨⟩⟩
      exact ⟨hname, .null⟩
    · rintro ⟨hname, _ | ⟨hnull, -⟩⟩
      · exact ⟨text, hname, rfl⟩
      · exact absurd rfl hnull
  · rename_i hnull
    simp only [bind_eq_ok_iff, textOf_eq_ok_iff]
    constructor
    · rintro ⟨_, hname, _, hmessage, ⟨⟩⟩
      exact ⟨hname, .text hnull hmessage⟩
    · rintro ⟨hname, _ | ⟨-, hmessage⟩⟩
      · exact absurd rfl hnull
      · exact ⟨text, hname, words, hmessage, rfl⟩

/-- Stylesheets are read off the items of a list or the entries of a mapping. -/
theorem sheets_eq_ok_iff {required : List RequiredSheet} :
    sheets key value = .ok required ↔ value.Requires required := by
  cases value with
  | mapping entries =>
    show entries.mapM (fun entry => sheet key entry.1 entry.2) = .ok required ↔ _
    simp only [mapM_eq_ok_iff, sheet_eq_ok_iff]
    constructor
    · exact .messages
    · rintro (_ | h)
      exact h
  | list items =>
    have hmessage (name words : Text) :
        Value.Advises name .null words ↔ words = RequiredSheet.advice name := by
      constructor
      · rintro (_ | ⟨hnull, -⟩)
        · rfl
        · exact absurd rfl hnull
      · rintro rfl
        exact .null
    show items.mapM (fun name => sheet key name .null) = .ok required ↔ _
    simp only [mapM_eq_ok_iff, sheet_eq_ok_iff, hmessage]
    constructor
    · exact .names
    · rintro (h | _)
      exact h
  | _ =>
    refine iff_of_false (by simp [sheets, expectList, error_bind]) ?_
    rintro ⟨⟩

/-! ## Settings -/

namespace Setting

/-- The form in which a setting is kept. -/
def Content : Setting → Type
  | tokenSource | extension | requiredFont => Text
  | alwaysAllowed | fontSpellings => List Text
  | exemptFiles | exemptPrefixes => List (Text × Text)
  | requiredSheets => List RequiredSheet

/-- What a configuration holds under a setting. -/
def content (config : Config) : (setting : Setting) → setting.Content
  | tokenSource => config.tokenSource
  | extension => config.extension
  | alwaysAllowed => config.alwaysAllowed
  | exemptFiles => config.exemptFiles
  | exemptPrefixes => config.exemptPrefixes
  | requiredSheets => config.requiredSheets
  | requiredFont => config.requiredFont
  | fontSpellings => config.fontSpellings

/-- What a value says about a setting. -/
def Says (value : Value) : (setting : Setting) → setting.Content → Prop
  | tokenSource, s => value = .text s
  | extension, s => value = .text s
  | alwaysAllowed, colors => ∃ texts, value.Lists texts ∧ colors = texts.map Text.upper
  | exemptFiles, reasons => value.Exempts reasons
  | exemptPrefixes, reasons => value.Exempts reasons
  | requiredSheets, sheets => value.Requires sheets
  | requiredFont, s => value = .text s
  | fontSpellings, texts => value.Lists texts

end Setting

/-- What a configuration holds under its settings decides it. -/
theorem eq_of_content {config other : Config}
    (h : ∀ setting : Setting, setting.content config = setting.content other) :
    config = other := by
  obtain ⟨source, ext, colors, files, prefixes, sheets, font, spellings⟩ := config
  obtain ⟨source', ext', colors', files', prefixes', sheets', font', spellings'⟩ := other
  obtain rfl : source = source' := h .tokenSource
  obtain rfl : ext = ext' := h .extension
  obtain rfl : colors = colors' := h .alwaysAllowed
  obtain rfl : files = files' := h .exemptFiles
  obtain rfl : prefixes = prefixes' := h .exemptPrefixes
  obtain rfl : sheets = sheets' := h .requiredSheets
  obtain rfl : font = font' := h .requiredFont
  obtain rfl : spellings = spellings' := h .fontSpellings
  rfl

/-- **Setting one setting**: the configuration holds what the value says, and under the other
settings what it held before. -/
theorem content_of_set {config next : Config} {setting : Setting}
    (h : config.set setting value = .ok next) :
    setting.Says value (setting.content next) ∧
      ∀ other, other ≠ setting → other.content next = other.content config := by
  unfold set at h
  -- Another setting is another field, which the new configuration takes over.
  cases setting with
  | tokenSource | extension | requiredFont =>
    obtain ⟨s, hs, ⟨⟩⟩ := bind_eq_ok_iff.1 h
    refine ⟨expectText_eq_ok_iff.1 hs, fun other hne => ?_⟩
    cases other <;> first | contradiction | rfl
  | alwaysAllowed =>
    obtain ⟨texts, htexts, ⟨⟩⟩ := bind_eq_ok_iff.1 h
    refine ⟨⟨texts, textList_eq_ok_iff.1 htexts, rfl⟩, fun other hne => ?_⟩
    cases other <;> first | contradiction | rfl
  | fontSpellings =>
    obtain ⟨texts, htexts, ⟨⟩⟩ := bind_eq_ok_iff.1 h
    refine ⟨textList_eq_ok_iff.1 htexts, fun other hne => ?_⟩
    cases other <;> first | contradiction | rfl
  | exemptFiles | exemptPrefixes =>
    obtain ⟨reasons, hreasons, ⟨⟩⟩ := bind_eq_ok_iff.1 h
    refine ⟨reasonMap_eq_ok_iff.1 hreasons, fun other hne => ?_⟩
    cases other <;> first | contradiction | rfl
  | requiredSheets =>
    obtain ⟨required, hrequired, ⟨⟩⟩ := bind_eq_ok_iff.1 h
    refine ⟨sheets_eq_ok_iff.1 hrequired, fun other hne => ?_⟩
    cases other <;> first | contradiction | rfl

/-- A value says one thing about a setting. -/
theorem Setting.Says.unique {setting : Setting} {a b : setting.Content}
    (ha : setting.Says value a) (hb : setting.Says value b) : a = b := by
  cases setting with
  | tokenSource | extension | requiredFont => exact Value.text.inj (ha.symm.trans hb)
  | alwaysAllowed =>
    obtain ⟨texts, htexts, rfl⟩ := ha
    obtain ⟨texts', htexts', rfl⟩ := hb
    have hread : textList [] value = .ok texts := textList_eq_ok_iff.2 htexts
    rw [Except.ok.inj (hread.symm.trans (textList_eq_ok_iff.2 htexts'))]
  | fontSpellings =>
    have hread : textList [] value = .ok a := textList_eq_ok_iff.2 ha
    exact Except.ok.inj (hread.symm.trans (textList_eq_ok_iff.2 hb))
  | exemptFiles | exemptPrefixes =>
    have hread : reasonMap [] value = .ok a := reasonMap_eq_ok_iff.2 ha
    exact Except.ok.inj (hread.symm.trans (reasonMap_eq_ok_iff.2 hb))
  | requiredSheets =>
    have hread : sheets [] value = .ok a := sheets_eq_ok_iff.2 ha
    exact Except.ok.inj (hread.symm.trans (sheets_eq_ok_iff.2 hb))

/-! ## Mappings -/

/-- A setting whose key is not there stays as it was. -/
theorem content_of_setAll_of_absent {config next : Config} {entries : List (Value × Value)}
    {setting : Setting} (h : setAll config entries = .ok next)
    (habsent : .text setting.key ∉ entries.map (·.1)) :
    setting.content next = setting.content config := by
  induction entries generalizing config with
  | nil => rw [Except.ok.inj h]
  | cons entry rest ih =>
    obtain ⟨key, value⟩ := entry
    rw [List.map_cons, List.mem_cons, not_or] at habsent
    rw [setAll] at h
    cases hkey : Setting.ofKey? key with
    | none =>
      rw [hkey] at h
      exact ih h habsent.2
    | some other =>
      rw [hkey] at h
      obtain ⟨mid, hset, hrest⟩ := bind_eq_ok_iff.1 h
      have hother : setting ≠ other := by
        rintro rfl
        exact habsent.1 (Setting.ofKey?_eq_some_iff.1 hkey).symm
      rw [ih hrest habsent.2, (content_of_set hset).2 setting hother]

/-- **A setting whose key is there** is what the value says, if no key is there twice. -/
theorem says_of_setAll {config next : Config} {entries : List (Value × Value)} {setting : Setting}
    (h : setAll config entries = .ok next) (hnodup : (entries.map (·.1)).Nodup)
    (hentry : (.text setting.key, value) ∈ entries) :
    setting.Says value (setting.content next) := by
  induction entries generalizing config with
  | nil => exact absurd hentry List.not_mem_nil
  | cons entry rest ih =>
    obtain ⟨habsent, hrest⟩ := List.nodup_cons.1 hnodup
    rw [setAll] at h
    rcases List.mem_cons.1 hentry with rfl | hentry
    · rw [Setting.ofKey?_key] at h
      obtain ⟨mid, hset, hafter⟩ := bind_eq_ok_iff.1 h
      -- The rest does not name the setting again.
      rw [content_of_setAll_of_absent hafter habsent]
      exact (content_of_set hset).1
    · cases hkey : Setting.ofKey? entry.1 with
      | none =>
        rw [hkey] at h
        exact ih h hrest hentry
      | some other =>
        rw [hkey] at h
        obtain ⟨mid, -, hafter⟩ := bind_eq_ok_iff.1 h
        exact ih hafter hrest hentry

/-! ## Refusals -/

/-- What is wrong with the value of a setting. -/
inductive Setting.Refuses (setting : Setting) (value : Value) : ConfigError → Prop
  /-- The value has the wrong shape. -/
  | shape (h : setting.slots? value = none) :
      Refuses setting value (.wrongType setting.key setting.kind value.typeName)
  /-- A null stands where there has to be a text, behind slots that fit. -/
  | empty {front back : List Slot}
      (h : setting.slots? value = some (front ++ ⟨.null, false⟩ :: back))
      (hfront : ∀ slot ∈ front, slot.Fits) : Refuses setting value (.emptyEntry setting.key)
  /-- An integer that is too long stands behind slots that fit. -/
  | overlong (h : setting.Overflows value) : Refuses setting value (.unwritable .tooLong)

/-- **The refusal of a value** is what is wrong with it. -/
theorem Setting.failure?_eq_some_iff {setting : Setting} {e : ConfigError} :
    setting.failure? value = some e ↔ setting.Refuses value e := by
  constructor
  · intro h
    cases hslots : setting.slots? value with
    | none =>
      rw [failure?, hslots] at h
      exact Option.some_inj.1 h ▸ .shape hslots
    | some slots =>
      have hfailure := h
      rw [failure?, hslots, Slot.refusal?, List.findSome?_eq_some_iff] at hfailure
      obtain ⟨front, slot, back, rfl, hslot, hfront⟩ := hfailure
      rcases Slot.eq_of_failure? hslot with ⟨rfl, rfl⟩ | rfl
      · exact .empty hslots fun slot hmem => Slot.failure?_eq_none_iff.1 (hfront slot hmem)
      · exact .overlong (failure?_eq_unwritable_iff.1 h)
  · rintro (hslots | ⟨hslots, hfront⟩ | hvalue)
    · rw [failure?, hslots, Slot.refusal?]
    · rw [failure?, hslots, Slot.refusal?, List.findSome?_eq_some_iff]
      exact ⟨_, _, _, rfl, rfl, fun slot hmem => Slot.failure?_eq_none_iff.2 (hfront slot hmem)⟩
    · exact failure?_eq_unwritable_iff.2 hvalue

/-! ## Unknown keys -/

/-- The entries of a mapping whose keys are texts. -/
structure TextKeyed (entries : List (Value × Value)) : Prop where
  /-- Every key is a text. -/
  text : ∀ entry ∈ entries, ∃ s, entry.1 = .text s
  /-- No key is there twice. -/
  nodup : (entries.map (·.1)).Nodup

/-- A mapping with one entry is such a mapping if the key is a text. -/
theorem textKeyed_singleton (s : Text) (value : Value) : TextKeyed [(.text s, value)] where
  text _ hentry := ⟨s, congrArg Prod.fst (List.mem_singleton.1 hentry)⟩
  nodup := List.nodup_singleton _

/-- The texts that the keys are. -/
theorem TextKeyed.exists_texts {entries : List (Value × Value)} (h : TextKeyed entries) :
    ∃ texts : List Text, entries.map (·.1) = texts.map .text ∧ texts.Nodup := by
  have hkeys : entries.map (·.1) ∈ Set.range (List.map Value.text) := by
    rw [Set.range_list_map]
    intro key hkey
    obtain ⟨entry, hentry, rfl⟩ := List.mem_map.1 hkey
    obtain ⟨s, hs⟩ := h.text entry hentry
    exact ⟨s, hs.symm⟩
  obtain ⟨texts, htexts⟩ := hkeys
  exact ⟨texts, htexts.symm, .of_map Value.text (htexts ▸ h.nodup)⟩

/-- The texts among some that name no setting. -/
def unknownTexts (texts : List Text) : List Text :=
  texts.filter fun s => (Setting.ofKey? (.text s)).isNone

/-- Texts that name no setting are listed in increasing order. -/
theorem unknownKeys?_map_text (texts : List Text) :
    unknownKeys? (texts.map .text) = if unknownTexts texts = [] then none
      else some (.unknownKeys (Text.sorted (unknownTexts texts))) := by
  have hnames {f : Value → Option Text} (hf : ∀ s, f (.text s) = some s) (names : List Text) :
      (names.map Value.text).mapM f = some names := by
    induction names with
    | nil => rfl
    | cons s names ih =>
      rw [List.map_cons, List.mapM_cons, hf, ih]
      rfl
  have hfilter : (texts.map Value.text).filter (fun key => (Setting.ofKey? key).isNone)
      = (unknownTexts texts).map .text := List.filter_map
  rw [unknownKeys?, hfilter]
  cases unknownTexts texts with
  | nil => rfl
  | cons first rest =>
    rw [if_neg (List.cons_ne_nil first rest), List.map_cons]
    dsimp only
    rw [← List.map_cons, hnames fun _ => rfl]

/-- The keys of a mapping that name no setting, in increasing order. -/
structure Unknown (entries : List (Value × Value)) (names : List Text) : Prop where
  /-- There are such keys. -/
  ne_nil : names ≠ []
  /-- They are in strictly increasing order. -/
  order : names.Pairwise (· < ·)
  /-- They are those that are there and not known. -/
  mem_iff : ∀ s, s ∈ names ↔ .text s ∈ entries.map (·.1) ∧ ¬ Known (.text s)

/-- The unknown keys of a mapping are one list. -/
theorem Unknown.unique {entries : List (Value × Value)} {names others : List Text}
    (h : Unknown entries names) (h' : Unknown entries others) : names = others := by
  have horder : (names.map id).Pairwise (· < ·) := by
    rw [List.map_id]
    exact h.order
  have horder' : (others.map id).Pairwise (· < ·) := by
    rw [List.map_id]
    exact h'.order
  exact Text.eq_of_pairwise_lt horder horder' fun s => (h.mem_iff s).trans (h'.mem_iff s).symm

/-- **The error about unknown keys** lists them. -/
theorem TextKeyed.unknownKeys?_eq_some_iff {entries : List (Value × Value)} (h : TextKeyed entries)
    {e : ConfigError} : unknownKeys? (entries.map (·.1)) = some e ↔
      ∃ names, Unknown entries names ∧ e = .unknownKeys names := by
  obtain ⟨texts, htexts, hnodup⟩ := h.exists_texts
  have hknown (s : Text) : (Setting.ofKey? (.text s)).isNone = true ↔ ¬ Known (.text s) := by
    rw [Option.isNone_iff_eq_none, Option.eq_none_iff_forall_ne_some]
    simp only [ne_eq, Setting.ofKey?_eq_some_iff, Known, not_exists]
  have hmem (s : Text) :
      s ∈ unknownTexts texts ↔ .text s ∈ entries.map (·.1) ∧ ¬ Known (.text s) := by
    rw [unknownTexts, List.mem_filter, hknown, htexts,
      List.mem_map_of_injective fun _ _ => Value.text.inj]
  rw [htexts, unknownKeys?_map_text]
  by_cases hnone : unknownTexts texts = []
  · rw [if_pos hnone]
    refine iff_of_false (Option.some_ne_none e).symm ?_
    rintro ⟨names, hunknown, -⟩
    obtain ⟨s, hs⟩ := List.exists_mem_of_ne_nil names hunknown.ne_nil
    have hs' := (hmem s).2 ((hunknown.mem_iff s).1 hs)
    rw [hnone] at hs'
    exact List.not_mem_nil hs'
  · rw [if_neg hnone]
    have hunknown : Unknown entries (Text.sorted (unknownTexts texts)) := by
      refine ⟨?_, Text.sorted_pairwise_lt (hnodup.filter _), fun s => ?_⟩
      · rw [← List.length_pos_iff, (Text.sorted_perm _).length_eq]
        exact List.length_pos_iff.2 hnone
      · rw [(Text.sorted_perm _).mem_iff, hmem]
    constructor
    · rintro ⟨⟩
      exact ⟨_, hunknown, rfl⟩
    · rintro ⟨names, hnames, rfl⟩
      rw [hnames.unique hunknown]

/-! ## Outcomes -/

/-- What a mapping of settings gives. -/
inductive Outcome (entries : List (Value × Value)) : Except ConfigError Config → Prop
  /-- Keys that name no setting, whatever the values. -/
  | unknown {names : List Text} (h : Unknown entries names) :
      Outcome entries (.error (.unknownKeys names))
  /-- The refusal of the first value that is not taken. -/
  | refused {front back : List (Value × Value)} {setting : Setting} {value : Value}
      {e : ConfigError} (hentries : entries = front ++ (.text setting.key, value) :: back)
      (hknown : ∀ entry ∈ entries, Known entry.1) (hfront : ∀ entry ∈ front, Taken entry)
      (hvalue : setting.Refuses value e) : Outcome entries (.error e)
  /-- What the values say, and the defaults for the settings that are not there. -/
  | settled {config : Config} (htaken : ∀ entry ∈ entries, Taken entry)
      (hpresent : ∀ (setting : Setting) value, (.text setting.key, value) ∈ entries →
        setting.Says value (setting.content config))
      (habsent : ∀ setting : Setting, .text setting.key ∉ entries.map (·.1) →
        setting.content config = setting.content {}) : Outcome entries (.ok config)

section Mapping

variable {entries : List (Value × Value)}

/-- A mapping has an outcome. -/
theorem TextKeyed.outcome (h : TextKeyed entries) : Outcome entries (ofMapping entries) := by
  have hfailure := failure?_ofMapping entries
  cases hresult : ofMapping entries with
  | error e =>
    rw [hresult, failure?_error] at hfailure
    rcases Option.or_eq_some_iff.1 hfailure.symm with hunknown | ⟨hunknown, hrefused⟩
    · obtain ⟨names, hnames, rfl⟩ := h.unknownKeys?_eq_some_iff.1 hunknown
      exact .unknown hnames
    · have hknown := unknownKeys?_eq_none_iff_known.1 hunknown
      obtain ⟨front, setting, value, back, hentries, hfront, hvalue⟩ :=
        (findSome?_failure?_eq_some_iff hknown).1 hrefused
      exact .refused hentries hknown hfront (Setting.failure?_eq_some_iff.1 hvalue)
  | ok config =>
    rw [hresult, failure?_ok] at hfailure
    obtain ⟨hunknown, hrefused⟩ := Option.or_eq_none_iff.1 hfailure.symm
    have hset : setAll {} entries = .ok config := by
      rw [← hresult, ofMapping, hunknown]
    refine .settled ?_ ?_ ?_
    · exact (findSome?_failure?_eq_none_iff (unknownKeys?_eq_none_iff_known.1 hunknown)).1 hrefused
    · exact fun setting value hentry => says_of_setAll hset h.nodup hentry
    · exact fun setting habsent => content_of_setAll_of_absent hset habsent

/-- **A mapping has no other outcome.** -/
theorem TextKeyed.ofMapping_eq_iff (h : TextKeyed entries) {result : Except ConfigError Config} :
    ofMapping entries = result ↔ Outcome entries result := by
  constructor
  · rintro rfl
    exact h.outcome
  · intro houtcome
    have hfailure := failure?_ofMapping entries
    cases houtcome with
    | unknown hnames =>
      rw [h.unknownKeys?_eq_some_iff.2 ⟨_, hnames, rfl⟩] at hfailure
      exact failure?_eq_some_iff.1 hfailure
    | refused hentries hknown hfront hvalue =>
      rw [unknownKeys?_eq_none_iff_known.2 hknown, (findSome?_failure?_eq_some_iff hknown).2
        ⟨_, _, _, _, hentries, hfront, Setting.failure?_eq_some_iff.2 hvalue⟩] at hfailure
      exact failure?_eq_some_iff.1 hfailure
    | settled htaken hpresent habsent =>
      have hknown : ∀ entry ∈ entries, Known entry.1 := fun entry hmem => (htaken entry hmem).known
      rw [unknownKeys?_eq_none_iff_known.2 hknown,
        (findSome?_failure?_eq_none_iff hknown).2 htaken] at hfailure
      obtain ⟨config', hresult⟩ := failure?_eq_none_iff.1 hfailure
      have hother := h.outcome
      rw [hresult] at hother ⊢
      -- Both configurations hold what the values say, or else the defaults.
      cases hother with
      | settled _ hpresent' habsent' =>
        refine congrArg Except.ok (eq_of_content fun setting => ?_)
        by_cases hkey : .text setting.key ∈ entries.map (·.1)
        · obtain ⟨⟨_, value⟩, hentry, rfl⟩ := List.mem_map.1 hkey
          exact (hpresent' setting value hentry).unique (hpresent setting value hentry)
        · rw [habsent' setting hkey, habsent setting hkey]

/-- The outcome that lists unknown keys. -/
theorem outcome_unknownKeys_iff {names : List Text} :
    Outcome entries (.error (.unknownKeys names)) ↔ Unknown entries names := by
  constructor
  · intro h
    cases h with
    | unknown hnames => exact hnames
    | refused _ _ _ hvalue => cases hvalue
  · exact .unknown

/-- Only a value that cannot be written is refused without a complaint. -/
theorem Outcome.isComplaint_eq_false_iff {e : ConfigError} (h : Outcome entries (.error e)) :
    e.isComplaint = false ↔ e = .unwritable .tooLong := by
  cases h with
  | unknown hnames => simp [ConfigError.isComplaint]
  | refused hentries hknown hfront hvalue =>
    cases hvalue <;> simp [ConfigError.isComplaint]

/-- The order of the entries does not matter for which keys are texts. -/
theorem TextKeyed.of_perm {others : List (Value × Value)} (h : TextKeyed entries)
    (hperm : others.Perm entries) : TextKeyed others :=
  ⟨fun entry hentry => h.text entry (hperm.mem_iff.1 hentry),
    (hperm.map _).nodup_iff.2 h.nodup⟩

/-- Nor does it matter for the unknown keys. -/
theorem Unknown.of_perm {others : List (Value × Value)} {names : List Text}
    (h : Unknown entries names) (hperm : others.Perm entries) : Unknown others names :=
  ⟨h.ne_nil, h.order, fun s => (h.mem_iff s).trans (and_congr_left' (hperm.map _).mem_iff.symm)⟩

/-- Nor for the configuration. -/
theorem Outcome.of_perm {others : List (Value × Value)} {config : Config}
    (h : Outcome entries (.ok config)) (hperm : others.Perm entries) :
    Outcome others (.ok config) := by
  cases h with
  | settled htaken hpresent habsent =>
    refine .settled ?_ ?_ ?_
    · exact fun entry hentry => htaken entry (hperm.mem_iff.1 hentry)
    · exact fun setting value hentry => hpresent setting value (hperm.mem_iff.1 hentry)
    · exact fun setting hkey => habsent setting fun hmem => hkey ((hperm.map _).mem_iff.2 hmem)

/-- **What a mapping of settings gives**: a complaint that lists the unknown keys, or else the
refusal of the first value that is not taken, or else the configuration that holds what the values
say and keeps the defaults of the other settings. Refusals are complaints, except those of values
that cannot be written. The order of the entries matters neither for the configuration nor for the
unknown keys, and so not for whether there is one. -/
theorem ofMapping_outcome (h : TextKeyed entries) :
    (∀ result, ofMapping entries = result ↔ Outcome entries result) ∧
    (∀ e, ofMapping entries = .error e → (e.isComplaint = false ↔ e = .unwritable .tooLong)) ∧
    ∀ others : List (Value × Value), others.Perm entries →
      (∀ config, ofMapping others = .ok config ↔ ofMapping entries = .ok config) ∧
      ∀ names, ofMapping others = .error (.unknownKeys names) ↔
        ofMapping entries = .error (.unknownKeys names) := by
  refine ⟨fun result => h.ofMapping_eq_iff, fun e he =>
    (h.ofMapping_eq_iff.1 he).isComplaint_eq_false_iff, fun others hperm => ?_⟩
  have hothers := h.of_perm hperm
  constructor
  · intro config
    rw [h.ofMapping_eq_iff, hothers.ofMapping_eq_iff]
    exact ⟨fun houtcome => houtcome.of_perm hperm.symm, fun houtcome => houtcome.of_perm hperm⟩
  · intro names
    rw [h.ofMapping_eq_iff, hothers.ofMapping_eq_iff, outcome_unknownKeys_iff,
      outcome_unknownKeys_iff]
    exact ⟨fun hnames => hnames.of_perm hperm.symm, fun hnames => hnames.of_perm hperm⟩

end Mapping

/-- Two names with the same text are one, and what has no reason gets an empty one. -/
theorem ofMapping_outcome_merged_names :
    let entries : List (Value × Value) :=
      [(.text "exempt_files".toList, .mapping [(.bool true, .text ['a']), (.text ['x'], .null),
        (.text "True".toList, .text ['b'])])]
    TextKeyed entries ∧
      Outcome entries (.ok { exemptFiles := [("True".toList, ['b']), (['x'], [])] }) := by
  intro entries
  have hentries : TextKeyed entries := textKeyed_singleton _ _
  exact ⟨hentries, ((ofMapping_outcome hentries).1 _).1 rfl⟩

/-- **A mapping may give neither a configuration nor a complaint**, although its keys are known and
no null stands where there has to be a text: here a reason is the least integer that is too long. -/
theorem ofMapping_overlong_reason :
    let reason : Value := .int (tenTo Numeral.maxDigits)
    let entries : List (Value × Value) :=
      [(.text Setting.exemptFiles.key, .mapping [(.text ['a'], reason)])]
    TextKeyed entries ∧
      (∀ entry ∈ entries, ∃ setting : Setting, entry.1 = .text setting.key ∧
        ∃ slots, setting.slots? entry.2 = some slots ∧
          ∀ slot ∈ slots, slot.value = .null → slot.optional = true) ∧
      ∃ e, ofMapping entries = .error e ∧ e.isComplaint = false := by
  intro reason entries
  have hentries : TextKeyed entries := textKeyed_singleton _ _
  have hreason : reason.Overlong := by
    rw [Value.overlong_int_iff, Int.natAbs_natCast]
  -- The integer has thousands of digits and is not to be computed.
  clear_value reason
  have hname : Slot.Fits ⟨.text ['a'], true⟩ :=
    ⟨fun _ => rfl, Value.not_overlong (by rintro n ⟨⟩)⟩
  have hoverflows : Setting.exemptFiles.Overflows (.mapping [(.text ['a'], reason)]) :=
    ⟨[⟨.text ['a'], true⟩], ⟨reason, true⟩, [], rfl, List.forall_mem_singleton.2 hname, hreason⟩
  refine ⟨hentries, List.forall_mem_singleton.2 ⟨.exemptFiles, rfl, _, rfl, ?_⟩,
    ofMapping_escapes_iff.2 (.inr ⟨[], .exemptFiles, _, [], rfl, List.forall_mem_nil _,
      List.forall_mem_nil _, hoverflows⟩)⟩
  exact List.forall_mem_cons.2 ⟨fun _ => rfl, List.forall_mem_singleton.2 fun _ => rfl⟩

end Config

end DesignLint
