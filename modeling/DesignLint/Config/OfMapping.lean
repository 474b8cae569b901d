import DesignLint.Association
import DesignLint.Config.Basic
import DesignLint.Text.Case
import DesignLint.Value.Text

/-! # Configurations from mappings

`Config.ofMapping entries` reads a configuration off a mapping of keys to values. Keys that name
no setting are refused first, all together; then every value is read in the order of the mapping,
and the first one that does not fit is refused. Settings without a key keep their default. -/

namespace DesignLint

/-- Why keys that name no setting cannot be listed. -/
inductive KeyFault where
  /-- Keys of types that have no common order. -/
  | unordered
  /-- A date beside a moment. -/
  | dateAndMoment
  /-- A moment with an offset beside one without. -/
  | offsetAndNoOffset
  /-- Keys with an order that are no texts; the type of the least one. -/
  | notText (typeName : Text)
  deriving Repr, DecidableEq

/-- Why a mapping is no configuration. -/
inductive ConfigError where
  /-- Keys that name no setting, in increasing order. -/
  | unknownKeys (names : List Text)
  /-- A value of the wrong type. -/
  | wrongType (key expected found : Text)
  /-- A null where a text has to be. -/
  | emptyEntry (key : Text)
  /-- Keys that name no setting and cannot be listed. -/
  | unlistable (fault : KeyFault)
  /-- A value that has no text. -/
  | unwritable (cause : Numeral.Unwritable)
  deriving Repr, DecidableEq

/-- The text of a key fault; none if the fault has no fixed words. -/
def KeyFault.message? : KeyFault → Option Text
  | unordered => none
  | dateAndMoment => some "can't compare datetime.datetime to datetime.date".toList
  | offsetAndNoOffset => some "can't compare offset-naive and offset-aware datetimes".toList
  | notText typeName =>
    some ("sequence item 0: expected str instance, ".toList ++ typeName ++ " found".toList)

/-- The text of an error; none if the error has no fixed words. -/
def ConfigError.message? : ConfigError → Option Text
  | unknownKeys names =>
    some ("Unknown configuration keys: ".toList ++ Text.joined ", ".toList names)
  | wrongType key expected found =>
    some ('\'' :: key ++ "' must be a ".toList ++ expected ++ ", got ".toList ++ found)
  | emptyEntry key => some ('\'' :: key ++ "' contains an empty entry".toList)
  | unlistable fault => fault.message?
  | unwritable cause => some cause.message

/-- Whether an error is a complaint about the configuration, and not a failure to make one. -/
def ConfigError.isComplaint : ConfigError → Bool
  | unknownKeys _ | wrongType .. | emptyEntry _ => true
  | unlistable _ | unwritable _ => false

namespace Config

/-- The text of a value that has to be one. -/
def expectText (key : Text) : Value → Except ConfigError Text
  | .text s => .ok s
  | value => .error (.wrongType key "str".toList value.typeName)

/-- The items of a value that has to be a list. -/
def expectList (key : Text) : Value → Except ConfigError (List Value)
  | .list items => .ok items
  | value => .error (.wrongType key "list".toList value.typeName)

/-- The entries of a value that has to be a mapping. -/
def expectMapping (key : Text) : Value → Except ConfigError (List (Value × Value))
  | .mapping entries => .ok entries
  | value => .error (.wrongType key "dict".toList value.typeName)

/-- The text of a value. -/
def textOf (value : Value) : Except ConfigError Text := value.toText.mapError .unwritable

/-- The text of a value that must not be null. -/
def entryText (key : Text) : Value → Except ConfigError Text
  | .null => .error (.emptyEntry key)
  | value => textOf value

/-- A list of texts. -/
def textList (key : Text) (value : Value) : Except ConfigError (List Text) := do
  (← expectList key value).mapM (entryText key)

/-- The reason that a value gives; null gives an empty one. -/
def reasonText : Value → Except ConfigError Text
  | .null => .ok []
  | value => textOf value

/-- Names with reasons. Keys with the same text are one name, and the last reason stays. -/
def reasonMap (key : Text) (value : Value) : Except ConfigError (List (Text × Text)) := do
  let pairs ← (← expectMapping key value).mapM fun (name, reason) => do
    let name ← textOf name
    return (name, ← reasonText reason)
  return Association.ofList (· == ·) pairs

/-- A required stylesheet with its message; null stands for the usual advice. -/
def sheet (key : Text) (name message : Value) : Except ConfigError RequiredSheet := do
  let name ← entryText key name
  match message with
  | .null => return ⟨name, RequiredSheet.advice name⟩
  | message => return ⟨name, ← textOf message⟩

/-- Required stylesheets, as a list of names or as a mapping of names to messages. -/
def sheets (key : Text) : Value → Except ConfigError (List RequiredSheet)
  | .mapping entries => entries.mapM fun (name, message) => sheet key name message
  | value => do (← expectList key value).mapM fun name => sheet key name .null

/-- The settings. -/
inductive Setting where
  /-- The stylesheet that declares the palette. -/
  | tokenSource
  /-- How the name of a page ends. -/
  | extension
  /-- Colours that belong to every palette. -/
  | alwaysAllowed
  /-- Names of exempt pages. -/
  | exemptFiles
  /-- Beginnings of names of exempt pages. -/
  | exemptPrefixes
  /-- Stylesheets that every page has to mention. -/
  | requiredSheets
  /-- The brand font. -/
  | requiredFont
  /-- The spellings of the brand font. -/
  | fontSpellings
  deriving Repr, DecidableEq

/-- The key of a setting. -/
def Setting.key : Setting → Text
  | tokenSource => "token_source".toList
  | extension => "extension".toList
  | alwaysAllowed => "always_allowed_colors".toList
  | exemptFiles => "exempt_files".toList
  | exemptPrefixes => "exempt_prefixes".toList
  | requiredSheets => "required_stylesheets".toList
  | requiredFont => "required_font".toList
  | fontSpellings => "font_spellings".toList

/-- All settings. -/
def Setting.all : List Setting :=
  [tokenSource, extension, alwaysAllowed, exemptFiles, exemptPrefixes, requiredSheets,
   requiredFont, fontSpellings]

/-- The setting that a key names. -/
def Setting.ofKey? : Value → Option Setting
  | .text s => all.find? fun setting => setting.key == s
  | _ => none

/-- A setting is found by its key. -/
theorem Setting.ofKey?_key (setting : Setting) : ofKey? (.text setting.key) = some setting := by
  cases setting <;> decide

/-- A configuration with one setting read off a value. -/
def set (config : Config) (setting : Setting) (value : Value) : Except ConfigError Config :=
  let key := setting.key
  match setting with
  | .tokenSource => return { config with tokenSource := ← expectText key value }
  | .extension => return { config with extension := ← expectText key value }
  | .alwaysAllowed => do
    return { config with alwaysAllowed := (← textList key value).map Text.upper }
  | .exemptFiles => return { config with exemptFiles := ← reasonMap key value }
  | .exemptPrefixes => return { config with exemptPrefixes := ← reasonMap key value }
  | .requiredSheets => return { config with requiredSheets := ← sheets key value }
  | .requiredFont => return { config with requiredFont := ← expectText key value }
  | .fontSpellings => return { config with fontSpellings := ← textList key value }

/-- The kinds of keys within which there is an order. -/
inductive KeyOrder where
  /-- Truth values and numbers. -/
  | number
  /-- Texts. -/
  | text
  /-- Bytes. -/
  | bytes
  /-- Days. -/
  | date
  /-- Moments without an offset. -/
  | localMoment
  /-- Moments with an offset. -/
  | moment
  /-- Values without an order. -/
  | none
  deriving Repr, DecidableEq

/-- The kind of a key. -/
def keyOrder : Value → KeyOrder
  | .bool _ | .int _ | .float _ => .number
  | .text _ => .text
  | .bytes _ => .bytes
  | .date _ => .date
  | .moment t => if t.offset.isSome then .moment else .localMoment
  | _ => .none

/-- The word for the type of a key that is no text. -/
def keyTypeName : Value → Text
  | .date _ => "datetime.date".toList
  | .moment _ => "datetime.datetime".toList
  | value => value.typeName

/-- The least of some numbers. -/
def leastNumber (first : Value) (rest : List Value) : Value :=
  rest.foldl (fun least value =>
    match value.magnitude?, least.magnitude? with
    | some m, some n => if m.compare n == .lt then value else least
    | _, _ => least) first

/-- What is wrong with keys that name no setting, the first of which is no text or has another kind
of order than a later one. -/
def keyFault (first : Value) (rest : List Value) : KeyFault :=
  let orders := (first :: rest).map keyOrder
  let isTime (order : KeyOrder) := order == .date || order == .localMoment || order == .moment
  if rest.isEmpty then .notText (keyTypeName first)
  else if orders.contains .none then .unordered
  -- Keys of one kind have a least one, which is the first to be listed.
  else if orders.all (· == keyOrder first) then .notText (keyTypeName (leastNumber first rest))
  else if orders.all isTime then
    if orders.contains .date then .dateAndMoment else .offsetAndNoOffset
  else .unordered

/-- The error about keys that name no setting, if there are any. -/
def unknownKeys? (keys : List Value) : Option ConfigError :=
  match keys.filter fun key => (Setting.ofKey? key).isNone with
  | [] => none
  | first :: rest =>
    match (first :: rest).mapM fun | .text s => some s | _ => none with
    | some names => some (.unknownKeys (Text.sorted names))
    | none => some (.unlistable (keyFault first rest))

/-- A configuration with the settings that entries give, in their order. -/
def setAll : Config → List (Value × Value) → Except ConfigError Config
  | config, [] => .ok config
  | config, (key, value) :: rest =>
    match Setting.ofKey? key with
    | some setting => do setAll (← config.set setting value) rest
    | none => setAll config rest

/-- The configuration that a mapping gives. -/
def ofMapping (entries : List (Value × Value)) : Except ConfigError Config :=
  match unknownKeys? (entries.map (·.1)) with
  | some e => .error e
  | none => setAll {} entries

end Config

end DesignLint
