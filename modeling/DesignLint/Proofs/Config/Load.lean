import DesignLint.CommandLine.Run
import DesignLint.Proofs.Config.Settings
import DesignLint.Proofs.Yaml.Undecodable

/-! # Configuration files that escape

Loading a configuration may end with an error that is no complaint, and the program has no answer
to it. `Config.Escaping` lists the files with which this happens:

* `Config.ofMapping_escapes_iff`: the mappings that give neither a configuration nor a complaint;
* `Config.failure?_load`: how loading fails, whatever the file;
* `CommandLine.lint_of_load_error`: what the program makes of a failure;
* `Config.load_escapes_iff`: the files that escape. -/

namespace DesignLint

open Yaml (Document Fault Reader)

namespace Config

/-! ## Mappings -/

/-- A setting refuses a value with a complaint, unless the value cannot be written. -/
theorem Setting.eq_unwritable_of_failure? {setting : Setting} {value : Value} {e : ConfigError}
    (h : setting.failure? value = some e) (he : e.isComplaint = false) :
    e = .unwritable .tooLong := by
  rw [Setting.failure?] at h
  cases hslots : setting.slots? value with
  | none =>
    rw [hslots] at h
    obtain rfl := Option.some_inj.1 h
    exact Bool.noConfusion he
  | some slots =>
    rw [hslots, Slot.refusal?] at h
    obtain ⟨slot, -, hslot⟩ := List.exists_of_findSome?_eq_some h
    rcases Slot.eq_of_failure? hslot with ⟨-, rfl⟩ | rfl
    · exact Bool.noConfusion he
    · rfl

/-- An entry is taken if its key names a setting that takes its value. -/
def Taken (entry : Value × Value) : Prop :=
  ∃ setting : Setting, entry.1 = .text setting.key ∧ setting.Takes entry.2

/-- The key of an entry that is taken is known. -/
theorem Taken.known {entry : Value × Value} (h : Taken entry) : Known entry.1 := by
  obtain ⟨setting, hkey, -⟩ := h
  exact ⟨setting, hkey⟩

/-- The entry of a setting is taken if the setting takes its value. -/
theorem taken_key_iff {setting : Setting} {value : Value} :
    Taken (.text setting.key, value) ↔ setting.Takes value := by
  constructor
  · rintro ⟨other, hother, htakes⟩
    have hsame := Setting.ofKey?_eq_some_iff.2 hother
    rw [Setting.ofKey?_key, Option.some_inj] at hsame
    exact hsame ▸ htakes
  · intro htakes
    exact ⟨setting, rfl, htakes⟩

/-- An entry with a known key is taken just when its value is not refused. -/
theorem taken_iff {entry : Value × Value} (hkey : Known entry.1) :
    Taken entry ↔ ((Setting.ofKey? entry.1).bind (·.failure? entry.2)) = none := by
  obtain ⟨key, value⟩ := entry
  obtain ⟨setting, rfl⟩ := hkey
  rw [taken_key_iff, Setting.ofKey?_key, Option.bind_some, Setting.failure?_eq_none_iff]

section Entries

variable {entries : List (Value × Value)} (hknown : ∀ entry ∈ entries, Known entry.1)
include hknown

/-- **No value is refused** just when all entries are taken. -/
theorem findSome?_failure?_eq_none_iff :
    (entries.findSome? fun entry => (Setting.ofKey? entry.1).bind (·.failure? entry.2)) = none
      ↔ ∀ entry ∈ entries, Taken entry := by
  rw [List.findSome?_eq_none_iff]
  exact forall₂_congr fun entry hentry => (taken_iff (hknown entry hentry)).symm

/-- **The first value that is refused** stands behind entries that are taken. -/
theorem findSome?_failure?_eq_some_iff {e : ConfigError} :
    (entries.findSome? fun entry => (Setting.ofKey? entry.1).bind (·.failure? entry.2)) = some e
      ↔ ∃ front, ∃ setting : Setting, ∃ value back,
        entries = front ++ (.text setting.key, value) :: back ∧
        (∀ entry ∈ front, Taken entry) ∧ setting.failure? value = some e := by
  rw [List.findSome?_eq_some_iff]
  constructor
  · rintro ⟨front, ⟨key, value⟩, back, rfl, hentry, hfront⟩
    obtain ⟨setting, rfl⟩ : Known key :=
      hknown (key, value) (List.mem_append_right _ List.mem_cons_self)
    rw [Setting.ofKey?_key, Option.bind_some] at hentry
    refine ⟨front, setting, value, back, rfl, fun entry hmem => ?_, hentry⟩
    exact (taken_iff (hknown entry (List.mem_append_left _ hmem))).2 (hfront entry hmem)
  · rintro ⟨front, setting, value, back, rfl, hfront, hvalue⟩
    refine ⟨front, _, back, rfl, ?_, fun entry hmem => ?_⟩
    · rw [Setting.ofKey?_key, Option.bind_some, hvalue]
    · exact (taken_iff (hfront entry hmem).known).1 (hfront entry hmem)

end Entries

/-- All keys are known just when none is unknown. -/
theorem unknownKeys?_eq_none_iff_known {entries : List (Value × Value)} :
    unknownKeys? (entries.map (·.1)) = none ↔ ∀ entry ∈ entries, Known entry.1 := by
  rw [unknownKeys?_eq_none_iff, List.forall_mem_map]

/-- **Mappings that give neither a configuration nor a complaint**: those with a key that is no
text, and those where all keys are known and the first value that is refused cannot be written. -/
theorem ofMapping_escapes_iff {entries : List (Value × Value)} :
    (∃ e, ofMapping entries = .error e ∧ e.isComplaint = false) ↔
      (∃ entry ∈ entries, ∀ s, entry.1 ≠ .text s) ∨
        ∃ front, ∃ setting : Setting, ∃ value back,
          entries = front ++ (.text setting.key, value) :: back ∧
          (∀ entry ∈ front, Taken entry) ∧ (∀ entry ∈ back, Known entry.1) ∧
          setting.Overflows value := by
  have hkeys : (∃ e, unknownKeys? (entries.map (·.1)) = some e ∧ e.isComplaint = false)
      ↔ ∃ entry ∈ entries, ∀ s, entry.1 ≠ .text s := by
    rw [exists_unknownKeys?_not_isComplaint_iff]
    constructor
    · rintro ⟨key, hkey, htext⟩
      obtain ⟨entry, hentry, rfl⟩ := List.mem_map.1 hkey
      exact ⟨entry, hentry, htext⟩
    · rintro ⟨entry, hentry, htext⟩
      exact ⟨entry.1, List.mem_map_of_mem hentry, htext⟩
  simp only [← failure?_eq_some_iff, failure?_ofMapping, Option.or_eq_some_iff, or_and_right,
    exists_or, hkeys, unknownKeys?_eq_none_iff_known]
  refine or_congr_right ?_
  constructor
  · -- The first value that is refused is not refused with a complaint, so it is overlong.
    rintro ⟨e, ⟨hknown, hfind⟩, he⟩
    obtain ⟨front, setting, value, back, rfl, hfront, hvalue⟩ :=
      (findSome?_failure?_eq_some_iff hknown).1 hfind
    obtain rfl := Setting.eq_unwritable_of_failure? hvalue he
    exact ⟨front, setting, value, back, rfl, hfront,
      fun entry hmem => hknown entry (List.mem_append_right _ (List.mem_cons_of_mem _ hmem)),
      Setting.failure?_eq_unwritable_iff.1 hvalue⟩
  · rintro ⟨front, setting, value, back, rfl, hfront, hback, hvalue⟩
    have hknown : ∀ entry ∈ front ++ (.text setting.key, value) :: back, Known entry.1 := by
      rw [List.forall_mem_append, List.forall_mem_cons]
      exact ⟨fun entry hmem => (hfront entry hmem).known, ⟨setting, rfl⟩, hback⟩
    exact ⟨.unwritable .tooLong, ⟨hknown, (findSome?_failure?_eq_some_iff hknown).2
      ⟨front, setting, value, back, rfl, hfront, Setting.failure?_eq_unwritable_iff.2 hvalue⟩⟩, rfl⟩

/-! ## Files -/

/-- The path of the file that a configuration is loaded from. -/
def configFile (root : Path) (path? : Option Path) : Path :=
  path?.getD (root.join (.ofText fileName))

/-- Loading finds the file, or it does not need one, or it fails. -/
theorem locate_eq (tree : FileTree) (root : Path) (path? : Option Path) :
    locate tree root path? = match tree.lookup (configFile root path?) with
      | .ok (.file _) | .ok (.unreadable _) => .ok (some (configFile root path?))
      | .error (.lookup .nameTooLong shown) => .error (.access (.lookup .nameTooLong shown))
      | _ => match path? with
        | none => .ok none
        | some path => .error (.notFound path.text) := by
  unfold locate FileTree.isFile configFile
  cases path? with
  | none =>
    dsimp only [Option.getD_none]
    cases tree.lookup (root.join (.ofText fileName)) with
    | ok entry => cases entry <;> rfl
    | error e =>
      cases e with
      | lookup failure shown => cases failure <;> rfl
      | reading failure shown => rfl
      | nullByte => rfl
  | some path =>
    dsimp only [Option.getD_some]
    cases tree.lookup path with
    | ok entry => cases entry <;> rfl
    | error e =>
      cases e with
      | lookup failure shown => cases failure <;> rfl
      | reading failure shown => rfl
      | nullByte => rfl

/-- How loading from a file fails, given what the file holds. -/
def documentFailure? (name : Text) : Except Fault Document → Option LoadError
  | .error fault => some (.unreadable name fault)
  | .ok .empty => none
  | .ok (.mapping entries) => (failure? (ofMapping entries)).map .config
  | .ok .other => some (.notMapping name)

/-- **How loading fails**: by what the file holds, since it cannot be read, for want of a file at a
given path, or by a path that is too long. -/
theorem failure?_load (reader : Reader) (tree : FileTree) (root : Path) (path? : Option Path) :
    failure? (load reader tree root path?) = match tree.lookup (configFile root path?) with
      | .ok (.file bytes) => documentFailure? (configFile root path?).name (reader bytes)
      | .ok (.unreadable failure) =>
        some (.access (.reading failure (configFile root path?).text))
      | .error (.lookup .nameTooLong shown) => some (.access (.lookup .nameTooLong shown))
      | _ => path?.map fun path => .notFound path.text := by
  rw [load, settings, locate_eq]
  cases hlookup : tree.lookup (configFile root path?) with
  | ok entry =>
    cases entry with
    | file bytes =>
      have hread : tree.read (configFile root path?) = .ok bytes := by rw [FileTree.read, hlookup]
      have hdocument : documentAt reader tree (configFile root path?)
          = (reader bytes).mapError (.unreadable (configFile root path?).name) := by
        rw [documentAt, hread]
        rfl
      dsimp only
      rw [ok_bind]
      dsimp only
      rw [hdocument]
      cases reader bytes with
      | error fault => rfl
      | ok document =>
        cases document with
        | empty => rfl
        | mapping entries => exact failure?_mapError LoadError.config (ofMapping entries)
        | other => rfl
    | unreadable failure =>
      have hread : tree.read (configFile root path?)
          = .error (.reading failure (configFile root path?).text) := by
        rw [FileTree.read, hlookup]
      dsimp only
      rw [ok_bind]
      dsimp only
      rw [documentAt, hread]
      rfl
    | directory entries =>
      cases path? with
      | none => rfl
      | some path => rfl
  | error e =>
    cases e with
    | lookup failure shown =>
      cases failure <;> cases path? <;> rfl
    | reading failure shown =>
      cases path? <;> rfl
    | nullByte =>
      cases path? <;> rfl

/-! ## Escaping -/

/-- The files that loading escapes from, by what a reader makes of their bytes. -/
inductive Escaping (reader : Reader) (bytes : List UInt8) : Prop
  /-- The file is no document, and not since it breaks a rule of the language. -/
  | fault {fault : Fault} (hread : reader bytes = .error fault)
      (hfault : ∀ explanation, fault ≠ .malformed explanation)
  /-- The file is a mapping with a key that is no text. -/
  | key {entries : List (Value × Value)} {entry : Value × Value}
      (hread : reader bytes = .ok (.mapping entries)) (hentry : entry ∈ entries)
      (hkey : ∀ s, entry.1 ≠ .text s)
  /-- The file is a mapping of settings, and the first value that is refused cannot be written. -/
  | overlong {front back : List (Value × Value)} {setting : Setting} {value : Value}
      (hread : reader bytes = .ok (.mapping (front ++ (.text setting.key, value) :: back)))
      (hfront : ∀ entry ∈ front, Taken entry) (hback : ∀ entry ∈ back, Known entry.1)
      (hvalue : setting.Overflows value)

/-- A fault is answered with a complaint just when it breaks a rule of the language. -/
theorem isComplaint_unreadable_iff {name : Text} {fault : Fault} :
    (LoadError.unreadable name fault).isComplaint = false ↔
      ∀ explanation, fault ≠ .malformed explanation := by
  cases fault with
  | malformed explanation =>
    exact iff_of_false (fun h => Bool.noConfusion h) fun h => h explanation rfl
  | _ => exact iff_of_true rfl nofun

/-- A file fails without a complaint just when it is one of these. -/
theorem documentFailure?_escapes_iff {name : Text} {reader : Reader} {bytes : List UInt8} :
    (∃ e, documentFailure? name (reader bytes) = some e ∧ e.isComplaint = false)
      ↔ Escaping reader bytes := by
  constructor
  · rintro ⟨e, hfailure, he⟩
    generalize hread : reader bytes = document at hfailure
    match document with
    | .error fault =>
      obtain rfl := Option.some_inj.1 hfailure
      exact .fault hread (isComplaint_unreadable_iff.1 he)
    | .ok .empty => exact absurd hfailure.symm (Option.some_ne_none e)
    | .ok (.mapping entries) =>
      obtain ⟨cause, hcause, rfl⟩ := Option.map_eq_some_iff.1 hfailure
      have hescapes := ofMapping_escapes_iff.1 ⟨cause, failure?_eq_some_iff.1 hcause, he⟩
      obtain ⟨entry, hentry, hkey⟩ | ⟨front, setting, value, back, rfl, hfront, hback, hvalue⟩ :=
        hescapes
      · exact .key hread hentry hkey
      · exact .overlong hread hfront hback hvalue
    | .ok .other =>
      obtain rfl := Option.some_inj.1 hfailure
      exact Bool.noConfusion he
  · have hmapping {entries : List (Value × Value)} (hread : reader bytes = .ok (.mapping entries))
        (hescapes : ∃ e, ofMapping entries = .error e ∧ e.isComplaint = false) :
        ∃ e, documentFailure? name (reader bytes) = some e ∧ e.isComplaint = false := by
      obtain ⟨cause, hcause, he⟩ := hescapes
      refine ⟨.config cause, ?_, he⟩
      rw [hread]
      exact congrArg (Option.map LoadError.config) (failure?_eq_some_iff.2 hcause)
    rintro (⟨hread, hfault⟩ | ⟨hread, hentry, hkey⟩ | ⟨hread, hfront, hback, hvalue⟩)
    · rw [hread]
      exact ⟨_, rfl, isComplaint_unreadable_iff.2 hfault⟩
    · exact hmapping hread (ofMapping_escapes_iff.2 (.inl ⟨_, hentry, hkey⟩))
    · exact hmapping hread
        (ofMapping_escapes_iff.2 (.inr ⟨_, _, _, _, rfl, hfront, hback, hvalue⟩))

/-- **Loading escapes** from a path that is too long, from a file that cannot be read, and from the
files that are escaping. -/
theorem exists_load_error_iff (reader : Reader) (tree : FileTree) (root : Path)
    (path? : Option Path) :
    (∃ e, load reader tree root path? = .error e ∧ e.isComplaint = false) ↔
      (∃ shown, tree.lookup (configFile root path?) = .error (.lookup .nameTooLong shown)) ∨
      (∃ failure, tree.lookup (configFile root path?) = .ok (.unreadable failure)) ∨
      ∃ bytes, tree.lookup (configFile root path?) = .ok (.file bytes) ∧
        Escaping reader bytes := by
  have hfailure : (∃ e, load reader tree root path? = .error e ∧ e.isComplaint = false)
      ↔ ∃ e, failure? (load reader tree root path?) = some e ∧ e.isComplaint = false := by
    simp only [failure?_eq_some_iff]
  have hnotFound : ¬ ∃ e, (path?.map fun path => LoadError.notFound path.text) = some e ∧
      e.isComplaint = false := by
    rintro ⟨e, he, hcomplaint⟩
    obtain ⟨path, -, rfl⟩ := Option.map_eq_some_iff.1 he
    exact Bool.noConfusion hcomplaint
  rw [hfailure, failure?_load]
  cases tree.lookup (configFile root path?) with
  | ok entry =>
    cases entry with
    | file bytes =>
      dsimp only
      rw [documentFailure?_escapes_iff]
      constructor
      · intro hescaping
        exact .inr (.inr ⟨bytes, rfl, hescaping⟩)
      · rintro (⟨shown, ⟨⟩⟩ | ⟨failure, ⟨⟩⟩ | ⟨_, ⟨⟩, hescaping⟩)
        exact hescaping
    | unreadable failure => exact iff_of_true ⟨_, rfl, rfl⟩ (.inr (.inl ⟨failure, rfl⟩))
    | directory entries =>
      refine iff_of_false hnotFound ?_
      rintro (⟨shown, ⟨⟩⟩ | ⟨failure, ⟨⟩⟩ | ⟨bytes, ⟨⟩, -⟩)
  | error e =>
    -- Only a path that is too long is an error; what leads nowhere is no file.
    cases e with
    | lookup failure shown =>
      cases failure with
      | nameTooLong => exact iff_of_true ⟨_, rfl, rfl⟩ (.inl ⟨shown, rfl⟩)
      | _ =>
        refine iff_of_false hnotFound ?_
        rintro (⟨shown, ⟨⟩⟩ | ⟨failure, ⟨⟩⟩ | ⟨bytes, ⟨⟩, -⟩)
    | _ =>
      refine iff_of_false hnotFound ?_
      rintro (⟨shown, ⟨⟩⟩ | ⟨failure, ⟨⟩⟩ | ⟨bytes, ⟨⟩, -⟩)

/-- **A short file that is no UTF-8** is escaping, whatever stands in front of the flaw and however
faults are explained. -/
theorem Escaping.of_not_utf8 (explain : List UInt8 → Text) {bytes : List UInt8}
    (hshort : bytes.length ≤ Yaml.Blocks.minChunk) (hflaw : Utf8.decode? bytes = none) :
    Escaping (Document.reader explain) bytes := by
  obtain ⟨flaw, byte, start, stop, hread⟩ := Document.ofBytes_of_not_utf8 hshort hflaw
  have hexplained : Document.reader explain bytes = .error (.undecodable flaw byte start stop) := by
    rw [Document.reader, hread]
    rfl
  exact .fault hexplained nofun

end Config

/-! ## The program -/

/-- A complaint has words. -/
theorem LoadError.exists_message?_of_isComplaint {e : LoadError} (h : e.isComplaint = true) :
    ∃ words, e.message? = some words := by
  cases e with
  | notFound path => exact ⟨_, rfl⟩
  | access cause => exact Bool.noConfusion h
  | unreadable name fault =>
    cases fault with
    | malformed explanation => exact ⟨_, rfl⟩
    | _ => exact Bool.noConfusion h
  | notMapping name => exact ⟨_, rfl⟩
  | config cause =>
    cases cause with
    | unknownKeys names => exact ⟨_, rfl⟩
    | wrongType key expected found => exact ⟨_, rfl⟩
    | emptyEntry key => exact ⟨_, rfl⟩
    | unlistable fault => exact Bool.noConfusion h
    | unwritable cause => exact Bool.noConfusion h

namespace CommandLine

variable {libraries : Libraries} {tree : FileTree} {options : Options} {root : Path}
  {path? : Option Path} {e : LoadError}

/-- **A complaint becomes one line** and the exit code 1; no other failure is answered. -/
theorem lint_of_load_error (hroot : rootPath libraries tree options = .ok root)
    (hpath : configPath libraries options = .ok path?)
    (hload : Config.load libraries.yaml tree root path? = .error e) (color : Bool) :
    (e.isComplaint = true → ∃ words, e.message? = some words ∧ lint libraries tree color options
      = .ok ⟨1, log libraries tree options ++
          (Message.error words).output (color && !options.noColor)⟩) ∧
    (e.isComplaint = false → lint libraries tree color options = .error (.load e)) := by
  have hreply : reply libraries tree (color && !options.noColor) options = .error (.load e) := by
    rw [reply, result, hroot, ok_bind, hpath, ok_bind, hload]
    rfl
  simp only [lint, hreply, RunError.complaint?]
  constructor
  · intro hcomplaint
    obtain ⟨words, hwords⟩ := LoadError.exists_message?_of_isComplaint hcomplaint
    refine ⟨words, hwords, ?_⟩
    rw [if_pos hcomplaint, hwords]
  · intro hescape
    rw [hescape]
    rfl

end CommandLine

namespace Config

/-- **Loading escapes from just these files.** It ends with an error that is no complaint if the
path of the file is too long, the file cannot be read, or it is escaping, and with a configuration
or a complaint otherwise; a short file is escaping whenever it is no UTF-8. The program answers
every complaint with one line and the exit code 1, and no other failure. -/
theorem load_escapes_iff (libraries : CommandLine.Libraries) (tree : FileTree) (root : Path)
    (path? : Option Path) :
    ((∃ e, load libraries.yaml tree root path? = .error e ∧ e.isComplaint = false) ↔
      (∃ shown, tree.lookup (configFile root path?) = .error (.lookup .nameTooLong shown)) ∨
      (∃ failure, tree.lookup (configFile root path?) = .ok (.unreadable failure)) ∨
      ∃ bytes, tree.lookup (configFile root path?) = .ok (.file bytes) ∧
        Escaping libraries.yaml bytes) ∧
    (∀ (explain : List UInt8 → Text) (bytes : List UInt8), bytes.length ≤ Yaml.Blocks.minChunk →
      Utf8.decode? bytes = none → Escaping (Document.reader explain) bytes) ∧
    ∀ options color e, CommandLine.rootPath libraries tree options = .ok root →
      CommandLine.configPath libraries options = .ok path? →
      load libraries.yaml tree root path? = .error e →
      (e.isComplaint = true → ∃ words, e.message? = some words ∧
        CommandLine.lint libraries tree color options
          = .ok ⟨1, CommandLine.log libraries tree options
              ++ (Message.error words).output (color && !options.noColor)⟩) ∧
      (e.isComplaint = false →
        CommandLine.lint libraries tree color options = .error (.load e)) := by
  exact ⟨exists_load_error_iff libraries.yaml tree root path?,
    fun explain bytes => Escaping.of_not_utf8 explain,
    fun options color e hroot hpath hload =>
      CommandLine.lint_of_load_error hroot hpath hload color⟩

/-- Loading escapes from a file whose only key is a number. -/
theorem exists_load_escapes :
    ∃ e, load (Document.reader fun _ => [])
        ⟨.directory [(fileName, .file (Utf8.encode "1: a\n".toList))], []⟩ ⟨.top, []⟩ none
      = .error e ∧ e.isComplaint = false := by
  refine ⟨.config (.unlistable (.notText "int".toList)), failure?_eq_some_iff.1 ?_, rfl⟩
  decide +kernel

end Config

end DesignLint
