import DesignLint.Check.StyleBlock
import DesignLint.Lint
import DesignLint.Proofs.Failure
import DesignLint.Proofs.Files
import DesignLint.Proofs.Text.Order
import Mathlib.Algebra.GroupWithZero.Nat
import Mathlib.Data.Finset.Card

/-! # What a run comes to

A run on a static directory, in words that neither sort nor search. `StaticRoot` says what the run
may rely on, `PageOutcome` what it says about one page, and `Outcome` what it says about them all:

* `paletteAt_eq_ok`, `paletteAt_eq_error`: a run needs a regular file as its token source;
* `candidates_eq_ok_iff`: the pages of a directory, if its entries can be looked up;
* `StaticRoot.mem_candidates_iff`: they are the regular files whose names end with the extension;
* `StaticRoot.exists_pageResult`: every page has an outcome;
* `run_outcome`: the outcome of a run. -/

namespace DesignLint

open Text

/-! ## Palettes -/

/-- The size of the palette of a stylesheet is the number of different colours in it. -/
theorem Palette.size_ofStylesheet (css : Text) (always : List Text) :
    (ofStylesheet css always).size = (always.map upper ++ declared css).toFinset.card := by
  have hmembers : (ofStylesheet css always).colors.toFinset
      = (always.map upper ++ declared css).toFinset := by
    ext color
    rw [List.mem_toFinset, List.mem_toFinset, mem_ofStylesheet, List.mem_append]
  rw [← hmembers, List.toFinset_card_of_nodup (ofStylesheet css always).nodup, size]

/-! ## Scans -/

/-- Checks that always give a result. -/
def Total (checks : List Check) : Prop :=
  ∀ check ∈ checks, ∀ page, ∃ found, check.inspect page = .ok found

/-- A scan with such checks gives a result. -/
theorem Total.exists_scan {checks : List Check} (h : Total checks) (page : Page) :
    ∃ found, scan page checks = .ok found := by
  induction checks with
  | nil => exact ⟨[], rfl⟩
  | cons check rest ih =>
    obtain ⟨first, hfirst⟩ := h check List.mem_cons_self page
    obtain ⟨more, hmore⟩ := ih fun later hlater => h later (List.mem_cons_of_mem _ hlater)
    exact ⟨first ++ more, by rw [scan, hfirst, hmore]; rfl⟩

/-! ## Results -/

namespace RunResult

/-- The findings are counted page by page. -/
theorem totalFindings_eq_sum (result : RunResult) :
    result.totalFindings = (result.pages.map (·.findings.length)).sum := by
  rw [totalFindings, List.length_flatMap]

/-- The exit code is 0 just when no page has findings. -/
theorem exitCode_eq_zero_iff (result : RunResult) :
    result.exitCode = 0 ↔ ∀ page ∈ result.pages, page.findings = [] := by
  have hpassed : result.passed = true ↔ ∀ page ∈ result.pages, page.findings = [] := by
    rw [passed, failing, List.isEmpty_iff, List.filter_eq_nil_iff]
    simp only [PageResult.passed, Bool.not_eq_true', Bool.not_eq_false, List.isEmpty_iff]
  rw [← hpassed, exitCode]
  by_cases h : result.passed = true
  · rw [if_pos h]
    exact ⟨fun _ => h, fun _ => rfl⟩
  · rw [if_neg h]
    exact ⟨nofun, fun hpassed => absurd hpassed h⟩

end RunResult

namespace Lint

/-! ## What is to be said -/

/-- A static directory with some entries, in which a run on `root` looks up nothing that exceeds
the limits of the file system and meets no regular file that cannot be read. -/
structure StaticRoot (tree : FileTree) (root : Path) (config : Config)
    (entries : List (Text × Entry)) : Prop where
  /-- The root is a directory with these entries. -/
  lookup_root : tree.lookup root = .ok (.directory entries)
  /-- The entries can be those of a directory. -/
  listing : FileTree.Listing entries
  /-- The token source can be looked up. -/
  tokenSource : tree.WithinLimits (tokenSourcePath root config)
  /-- So can the entries. -/
  entry : ∀ name ∈ entries.map (·.1), tree.WithinLimits (entryPath root name)
  /-- A token source that is a regular file can be read. -/
  readableSource : ∀ failure, tree.lookup (tokenSourcePath root config) ≠ .ok (.unreadable failure)
  /-- So can the entries that are regular files. -/
  readable : ∀ name failure, (name, .unreadable failure) ∉ entries

/-- The palette that a run reads off the bytes of the token source. -/
def paletteOf (config : Config) (css : List UInt8) : Palette :=
  .ofStylesheet (Utf8.readPage css) config.alwaysAllowed

/-- The findings of a scan of the file `name` with the bytes `content`. -/
def scanOf (css : List UInt8) (config : Config) (checks : List Check) (name : Text)
    (content : List UInt8) : Except CheckFailure (List Finding) :=
  scan ⟨name, Utf8.readPage content, paletteOf config css, config⟩ checks

/-- What is said about the page `name` with the bytes `content`. -/
inductive PageOutcome (css : List UInt8) (config : Config) (checks : List Check) (name : Text)
    (content : List UInt8) : PageResult → Prop
  /-- An exempt page has its reason and no findings. -/
  | exempt {reason : Text} (h : Exemption.reason? (Exemption.ofConfig config) name = some reason) :
      PageOutcome css config checks name content ⟨name, [], some reason⟩
  /-- Any other page has the findings of its scan and no reason. -/
  | scanned {findings : List Finding}
      (h : Exemption.reason? (Exemption.ofConfig config) name = none)
      (hscan : scanOf css config checks name content = .ok findings) :
      PageOutcome css config checks name content ⟨name, findings, none⟩

/-- What is said about a directory with some entries, whatever their order, when the token source
has the bytes `css`. -/
structure Outcome (entries : List (Text × Entry)) (css : List UInt8) (config : Config)
    (checks : List Check) (result : RunResult) : Prop where
  /-- The names of the pages increase strictly, so no page is there twice. -/
  increasing : (result.pages.map (·.name)).Pairwise (· < ·)
  /-- The pages are the regular files whose names end with the extension. -/
  mem_names_iff : ∀ name, name ∈ result.pages.map (·.name) ↔
    ∃ content, (name, .file content) ∈ entries ∧ config.extension <:+ name
  /-- Each page has its outcome. -/
  page : ∀ page ∈ result.pages, ∃ content,
    (page.name, .file content) ∈ entries ∧ PageOutcome css config checks page.name content page
  /-- The colours are counted once each. -/
  paletteSize : result.paletteSize =
    (config.alwaysAllowed.map upper ++ Palette.declared (Utf8.readPage css)).toFinset.card

variable {tree : FileTree} {root : Path} {config : Config} {entries : List (Text × Entry)}
  {checks : List Check} {css content : List UInt8} {name : Text} {result other : RunResult}

/-! ## The token source -/

/-- A regular file as token source gives the palette. -/
theorem paletteAt_eq_ok {path : Path} (always : List Text)
    (h : tree.lookup path = .ok (.file css)) :
    paletteAt tree path always = .ok (.ofStylesheet (Utf8.readPage css) always) := by
  have hfile : tree.isFile path = .ok true := FileTree.isFile_of_lookup h
  have hread : tree.read path = .ok css := by rw [FileTree.read, h]
  rw [paletteAt, tokenSourceAt, hfile, readAt, hread]
  rfl

/-- Nothing else does. -/
theorem paletteAt_eq_error {path : Path} (always : List Text) (hlimits : tree.WithinLimits path)
    (h : ∀ entry, tree.lookup path = .ok entry → entry.isFile = false) :
    paletteAt tree path always = .error (.tokenSourceMissing path.name) := by
  have hfile : tree.isFile path = .ok false := by
    rw [FileTree.isFile]
    split
    · rename_i entry hlookup
      rw [h entry hlookup]
    · rename_i shown hlookup
      exact absurd hlookup (hlimits shown)
    · rfl
  rw [paletteAt, tokenSourceAt, hfile]
  rfl

/-! ## The pages -/

/-- Whether an entry of a directory is a page. One that cannot be looked up counts as none. -/
def isPage (tree : FileTree) (root : Path) (extension name : Text) : Bool :=
  extension.isSuffixOf name && (tree.isFile (entryPath root name)).toOption.getD false

/-- An entry is looked up if its name ends with the extension, and then kept if it is a file. -/
theorem page?_eq (tree : FileTree) (root : Path) (extension name : Text) :
    page? tree root extension name = if extension.isSuffixOf name then
        (fun isFile : Bool => if isFile then some name else none) <$>
          (tree.isFile (entryPath root name)).mapError .access
      else .ok none := by
  rw [page?]
  split
  · cases tree.isFile (entryPath root name) with
    | error e => rfl
    | ok isFile => cases isFile <;> rfl
  · rfl

/-- An entry that can be looked up is kept just when it is a page. -/
theorem page?_eq_ok {extension name : Text} {kept : Option Text}
    (h : page? tree root extension name = .ok kept) :
    kept = if isPage tree root extension name then some name else none := by
  rw [page?_eq] at h
  rw [isPage]
  split at h
  · rename_i hsuffix
    obtain ⟨isFile, hisFile, rfl⟩ := map_eq_ok_iff.1 h
    rw [hsuffix, mapError_eq_ok_iff.1 hisFile]
    rfl
  · rename_i hsuffix
    rw [Bool.eq_false_of_not_eq_true hsuffix]
    exact (Except.ok.inj h).symm

/-- It is a page just when it is kept. -/
theorem isPage_eq_isSome {extension name : Text} {kept : Option Text}
    (h : page? tree root extension name = .ok kept) :
    isPage tree root extension name = kept.isSome := by
  rw [page?_eq_ok h]
  cases isPage tree root extension name with
  | true => rfl
  | false => rfl

/-- **The pages of a directory**, where each of its entries can be looked up. -/
theorem candidates_eq_ok_iff {extension : Text} {names : List Text} :
    candidates tree root extension = .ok names ↔ ∃ listed, tree.names root = .ok listed ∧
      (∀ name ∈ listed, ∃ kept, page? tree root extension name = .ok kept) ∧
      names = sorted (listed.filter (isPage tree root extension)) := by
  rw [candidates, bind_eq_ok_iff]
  refine exists_congr fun listed => ?_
  rw [mapError_eq_ok_iff]
  refine and_congr_right fun _ => ?_
  show (sorted <$> listed.filterMapM (page? tree root extension)) = .ok names ↔ _
  rw [map_eq_ok_iff]
  simp only [filterMapM_eq_ok_iff fun _ _ => page?_eq_ok]
  constructor
  · rintro ⟨pages, ⟨hall, rfl⟩, rfl⟩
    exact ⟨hall, rfl⟩
  · rintro ⟨hall, rfl⟩
    exact ⟨_, ⟨hall, rfl⟩, rfl⟩

/-- The path of an entry of a static directory leads to it. -/
theorem StaticRoot.lookup_entryPath (h : StaticRoot tree root config entries) {entry : Entry}
    (hentry : (name, entry) ∈ entries) : tree.lookup (entryPath root name) = .ok entry :=
  FileTree.lookup_append h.lookup_root h.listing hentry (h.entry name (List.mem_map_of_mem hentry))

/-- Each entry of a static directory can be looked up. -/
theorem StaticRoot.exists_page?_eq_ok (h : StaticRoot tree root config entries) (extension : Text) :
    ∀ name ∈ entries.map (·.1), ∃ kept, page? tree root extension name = .ok kept := by
  intro name hname
  obtain ⟨⟨name, entry⟩, hentry, rfl⟩ := List.mem_map.1 hname
  rw [page?_eq, FileTree.isFile_of_lookup (h.lookup_entryPath hentry)]
  split
  · exact ⟨_, rfl⟩
  · exact ⟨_, rfl⟩

/-- The pages of a static directory. -/
theorem StaticRoot.candidates_eq_ok (h : StaticRoot tree root config entries) (extension : Text) :
    candidates tree root extension
      = .ok (sorted ((entries.map (·.1)).filter (isPage tree root extension))) :=
  candidates_eq_ok_iff.2 ⟨_, FileTree.names_eq_ok_iff.2 ⟨entries, h.lookup_root, rfl⟩,
    h.exists_page?_eq_ok extension, rfl⟩

/-- They are the regular files whose names end with the extension. -/
theorem StaticRoot.mem_candidates_iff (h : StaticRoot tree root config entries) {extension : Text} :
    name ∈ sorted ((entries.map (·.1)).filter (isPage tree root extension)) ↔
      ∃ content, (name, .file content) ∈ entries ∧ extension <:+ name := by
  have hpage {entry : Entry} (hentry : (name, entry) ∈ entries) :
      isPage tree root extension name = (extension.isSuffixOf name && entry.isFile) := by
    rw [isPage, FileTree.isFile_of_lookup (h.lookup_entryPath hentry)]
    rfl
  rw [(sorted_perm _).mem_iff, List.mem_filter, List.mem_map]
  constructor
  · rintro ⟨⟨⟨name, entry⟩, hentry, rfl⟩, hisPage⟩
    obtain ⟨hsuffix, hfile⟩ := Bool.and_eq_true_iff.1 ((hpage hentry).symm.trans hisPage)
    cases entry with
    | file content => exact ⟨content, hentry, List.isSuffixOf_iff_suffix.1 hsuffix⟩
    | unreadable failure => exact absurd hentry (h.readable name failure)
    | directory entries => exact nomatch hfile
  · rintro ⟨content, hentry, hsuffix⟩
    refine ⟨⟨_, hentry, rfl⟩, (hpage hentry).trans ?_⟩
    exact Bool.and_eq_true_iff.2 ⟨List.isSuffixOf_iff_suffix.2 hsuffix, rfl⟩

/-- The names of the pages increase strictly. -/
theorem candidates_pairwise_lt (h : FileTree.Listing entries) (extension : Text) :
    (sorted ((entries.map (·.1)).filter (isPage tree root extension))).Pairwise (· < ·) :=
  sorted_pairwise_lt (h.nodup.sublist List.filter_sublist)

/-- The findings about a file are those of a scan of its text. -/
theorem scanAt_eq {path : Path} (h : tree.read path = .ok content) (palette : Palette) :
    scanAt tree path palette config checks
      = (scan ⟨path.name, Utf8.readPage content, palette, config⟩ checks).mapError .check := by
  rw [scanAt, readAt, h]
  rfl

/-- A file that can be scanned has these findings. -/
theorem scanAt_eq_ok {path : Path} {palette : Palette} {found : List Finding}
    (h : tree.lookup path = .ok (.file content))
    (hscan : scan ⟨path.name, Utf8.readPage content, palette, config⟩ checks = .ok found) :
    scanAt tree path palette config checks = .ok found := by
  rw [scanAt_eq (FileTree.read_eq_ok_iff.2 h), hscan]
  rfl

/-- **Every page has an outcome.** -/
theorem StaticRoot.exists_pageResult (h : StaticRoot tree root config entries)
    (hchecks : Total checks) (hentry : (name, .file content) ∈ entries) :
    ∃ page, pageResult tree root (paletteOf config css) config checks name = .ok page ∧
      page.name = name ∧ PageOutcome css config checks name content page := by
  rw [pageResult]
  cases hreason : Exemption.reason? (Exemption.ofConfig config) name with
  | some reason => exact ⟨_, rfl, rfl, .exempt hreason⟩
  | none =>
    obtain ⟨found, hscan⟩ := hchecks.exists_scan
      ⟨name, Utf8.readPage content, paletteOf config css, config⟩
    refine ⟨⟨name, found, none⟩, ?_, rfl, .scanned hreason hscan⟩
    have hname : (entryPath root name).name = name := by
      rw [entryPath, Path.name, List.getLast?_concat, Option.getD_some]
    have hlookup := h.lookup_entryPath hentry
    rw [← hname] at hscan
    show (scanAt tree (entryPath root name) _ config checks >>= fun found => .ok _) = _
    rw [scanAt_eq_ok hlookup hscan]
    rfl

/-- A page has one outcome. -/
theorem PageOutcome.unique {page other : PageResult}
    (h : PageOutcome css config checks name content page)
    (hother : PageOutcome css config checks name content other) : page = other := by
  cases h with
  | exempt hreason =>
    cases hother with
    | exempt hreason' =>
      rw [hreason, Option.some_inj] at hreason'
      rw [hreason']
    | scanned hreason' _ =>
      rw [hreason] at hreason'
      exact nomatch hreason'
  | scanned hreason hscan =>
    cases hother with
    | exempt hreason' =>
      rw [hreason] at hreason'
      exact nomatch hreason'
    | scanned _ hscan' =>
      rw [hscan, Except.ok.injEq] at hscan'
      rw [hscan']

/-- If each key of a list gives a result that has this key, so does the list. -/
theorem exists_mapM_eq_ok {ε α β : Type} {f : α → Except ε β} {key : β → α} {good : β → Prop}
    {as : List α} (h : ∀ a ∈ as, ∃ b, f a = .ok b ∧ key b = a ∧ good b) :
    ∃ bs, as.mapM f = .ok bs ∧ bs.map key = as ∧ ∀ b ∈ bs, good b := by
  induction as with
  | nil => exact ⟨[], rfl, rfl, nofun⟩
  | cons a as ih =>
    obtain ⟨b, hb, hkey, hgood⟩ := h a List.mem_cons_self
    obtain ⟨bs, hbs, hkeys, hgoods⟩ := ih fun a' ha' => h a' (List.mem_cons_of_mem _ ha')
    refine ⟨b :: bs, ?_, ?_, List.forall_mem_cons.2 ⟨hgood, hgoods⟩⟩
    · rw [List.mapM_cons, hb, hbs]
      rfl
    · rw [List.map_cons, hkey, hkeys]

/-! ## The run -/

/-- A run on a static directory has an outcome. -/
theorem StaticRoot.exists_run (h : StaticRoot tree root config entries) (hchecks : Total checks)
    (hcss : tree.lookup (tokenSourcePath root config) = .ok (.file css)) :
    ∃ result, run tree root config checks = .ok result ∧
      Outcome entries css config checks result := by
  have hpage : ∀ name ∈ sorted ((entries.map (·.1)).filter (isPage tree root config.extension)),
      ∃ page, pageResult tree root (paletteOf config css) config checks name = .ok page ∧
        page.name = name ∧ ∃ content, (page.name, .file content) ∈ entries ∧
          PageOutcome css config checks page.name content page := by
    intro name hname
    obtain ⟨content, hentry, -⟩ := h.mem_candidates_iff.1 hname
    obtain ⟨page, hpage, rfl, houtcome⟩ := h.exists_pageResult hchecks hentry
    exact ⟨page, hpage, rfl, content, hentry, houtcome⟩
  -- Each page has the name it was made for, so the pages stand in the order of the names.
  obtain ⟨pages, hpages, hnames, houtcomes⟩ := exists_mapM_eq_ok hpage
  refine ⟨⟨(paletteOf config css).size, pages⟩, ?_, ?_, ?_, houtcomes, ?_⟩
  · rw [run, paletteAt_eq_ok _ hcss, h.candidates_eq_ok]
    show (List.mapM (pageResult tree root (paletteOf config css) config checks) _
      >>= fun pages => pure _) = _
    rw [hpages]
    rfl
  · show (pages.map (·.name)).Pairwise (· < ·)
    rw [hnames]
    exact candidates_pairwise_lt h.listing config.extension
  · intro name
    show name ∈ pages.map (·.name) ↔ _
    rw [hnames]
    exact h.mem_candidates_iff
  · rw [← Palette.size_ofStylesheet]
    rfl

/-- Every regular file with the extension is among the pages, with its outcome. -/
theorem Outcome.exists_page (h : Outcome entries css config checks result)
    (hlisting : FileTree.Listing entries) (hentry : (name, .file content) ∈ entries)
    (hextension : config.extension <:+ name) :
    ∃ page ∈ result.pages, PageOutcome css config checks name content page := by
  have hname := (h.mem_names_iff name).2 ⟨content, hentry, hextension⟩
  obtain ⟨page, hpage, rfl⟩ := List.mem_map.1 hname
  obtain ⟨content', hentry', houtcome⟩ := h.page page hpage
  rw [← hlisting.content_unique hentry hentry'] at houtcome
  exact ⟨page, hpage, houtcome⟩

/-- Every page of an outcome is a regular file with the extension. -/
theorem Outcome.exists_content {page : PageResult}
    (h : Outcome entries css config checks result) (hpage : page ∈ result.pages) :
    ∃ content, (page.name, .file content) ∈ entries ∧ config.extension <:+ page.name ∧
      PageOutcome css config checks page.name content page := by
  obtain ⟨content, hentry, houtcome⟩ := h.page page hpage
  obtain ⟨-, -, hextension⟩ := (h.mem_names_iff page.name).1 (List.mem_map_of_mem hpage)
  exact ⟨content, hentry, hextension, houtcome⟩

/-- A directory has one outcome. -/
theorem Outcome.unique (hlisting : FileTree.Listing entries)
    (h : Outcome entries css config checks result)
    (hother : Outcome entries css config checks other) : other = result := by
  -- A page of one outcome is a file with the extension, so it is in the other one, and the same.
  have hsub {a b : RunResult} (ha : Outcome entries css config checks a)
      (hb : Outcome entries css config checks b) (page : PageResult) (hpage : page ∈ a.pages) :
      page ∈ b.pages := by
    obtain ⟨content, hentry, hextension, houtcome⟩ := ha.exists_content hpage
    obtain ⟨page', hpage', houtcome'⟩ := hb.exists_page hlisting hentry hextension
    rw [houtcome.unique houtcome']
    exact hpage'
  have hpages : other.pages = result.pages :=
    eq_of_pairwise_lt hother.increasing h.increasing fun page =>
      ⟨hsub hother h page, hsub h hother page⟩
  have hsize : other.paletteSize = result.paletteSize := hother.paletteSize.trans h.paletteSize.symm
  cases other
  cases result
  rw [RunResult.mk.injEq]
  exact ⟨hsize, hpages⟩

/-- The exit code is 0 just when the scan of every page that is not exempt finds nothing. -/
theorem Outcome.exitCode_eq_zero_iff (hlisting : FileTree.Listing entries)
    (h : Outcome entries css config checks result) :
    result.exitCode = 0 ↔ ∀ name content, (name, .file content) ∈ entries →
      config.extension <:+ name → Exemption.reason? (Exemption.ofConfig config) name = none →
      scanOf css config checks name content = .ok [] := by
  rw [RunResult.exitCode_eq_zero_iff]
  constructor
  · intro hclean name content hentry hextension hreason
    obtain ⟨page, hpage, houtcome⟩ := h.exists_page hlisting hentry hextension
    have hnone := hclean page hpage
    cases houtcome with
    | exempt hsome =>
      rw [hreason] at hsome
      exact nomatch hsome
    | scanned _ hscan =>
      rw [hscan]
      exact congrArg Except.ok hnone
  · intro hclean page hpage
    obtain ⟨content, hentry, hextension, houtcome⟩ := h.exists_content hpage
    have hscanned := hclean page.name content hentry hextension
    -- The name is a part of the page, which the cases below take apart.
    generalize page.name = name at hscanned houtcome
    cases houtcome with
    | exempt _ => rfl
    | scanned hreason hscan =>
      have hempty := hscanned hreason
      rw [hscan, Except.ok.injEq] at hempty
      exact hempty

/-- **The outcome of a run on a static directory**, with checks that always give a result. The run
misses its token source just when that is no regular file. Otherwise it gives the one outcome of the
directory, which counts the findings of all pages, and whose exit code is 0 just when the scan of
every page that is not exempt finds nothing. -/
theorem run_outcome (hroot : StaticRoot tree root config entries) (hchecks : Total checks) :
    ((∃ name, run tree root config checks = .error (.tokenSourceMissing name)) ↔
      ¬ ∃ css, tree.lookup (tokenSourcePath root config) = .ok (.file css)) ∧
    ∀ css, tree.lookup (tokenSourcePath root config) = .ok (.file css) →
      ∃ result, run tree root config checks = .ok result ∧
        Outcome entries css config checks result ∧
        (∀ other, Outcome entries css config checks other → other = result) ∧
        result.totalFindings = (result.pages.map (·.findings.length)).sum ∧
        (result.exitCode = 0 ↔ ∀ name content, (name, .file content) ∈ entries →
          config.extension <:+ name → Exemption.reason? (Exemption.ofConfig config) name = none →
          scanOf css config checks name content = .ok []) := by
  refine ⟨⟨?_, ?_⟩, ?_⟩
  · rintro ⟨name, herror⟩ ⟨css, hcss⟩
    obtain ⟨result, hresult, -⟩ := hroot.exists_run hchecks hcss
    rw [hresult] at herror
    exact nomatch herror
  · intro hmissing
    refine ⟨(tokenSourcePath root config).name, ?_⟩
    have hother : ∀ entry, tree.lookup (tokenSourcePath root config) = .ok entry →
        entry.isFile = false := by
      intro entry hentry
      cases entry with
      | file css => exact absurd ⟨css, hentry⟩ hmissing
      | unreadable failure => exact absurd hentry (hroot.readableSource failure)
      | directory entries => rfl
    rw [run, paletteAt_eq_error _ hroot.tokenSource hother]
    rfl
  · intro css hcss
    obtain ⟨result, hresult, houtcome⟩ := hroot.exists_run hchecks hcss
    exact ⟨result, hresult, houtcome, fun other => houtcome.unique hroot.listing,
      result.totalFindings_eq_sum, houtcome.exitCode_eq_zero_iff hroot.listing⟩

/-- A run on a directory with a page that is scanned, one that is exempt, a stylesheet, and a
directory that is named like a page. -/
theorem run_outcome_four_entries :
    let entries : List (Text × Entry) :=
      [("wireframe-b.html".toList, .file [35]), ("styles.css".toList, .file []),
       ("c.html".toList, .directory []), ("a.html".toList, .file [])]
    let tree : FileTree := ⟨.directory entries, []⟩
    ∃ result, run tree ⟨.top, []⟩ {} [StyleBlock.check] = .ok result ∧
      Outcome entries [] {} [StyleBlock.check] result ∧ result.exitCode = 0 := by
  intro entries tree
  have hroot : StaticRoot tree ⟨.top, []⟩ {} entries := by
    refine ⟨rfl, ⟨by decide, by decide, by decide⟩, FileTree.withinLimits_of_lookup rfl, ?_,
      nofun, by simp [entries]⟩
    intro name hname
    obtain ⟨entry, hentry⟩ : ∃ entry, tree.lookup (entryPath ⟨.top, []⟩ name) = .ok entry := by
      simp only [entries, List.map_cons, List.map_nil, List.mem_cons, List.not_mem_nil,
        or_false] at hname
      rcases hname with rfl | rfl | rfl | rfl <;> exact ⟨_, rfl⟩
    exact FileTree.withinLimits_of_lookup hentry
  have hchecks : Total [StyleBlock.check] := by
    intro check hcheck page
    rw [List.mem_singleton.1 hcheck]
    exact ⟨_, rfl⟩
  obtain ⟨-, hrun⟩ := run_outcome hroot hchecks
  obtain ⟨result, hresult, houtcome, -, -, hexit⟩ := hrun [] rfl
  refine ⟨result, hresult, houtcome, hexit.2 fun name content hentry hextension hreason => ?_⟩
  simp only [entries, List.mem_cons, Prod.mk.injEq, Entry.file.injEq, reduceCtorEq, and_false,
    List.not_mem_nil, or_false, false_or] at hentry
  rcases hentry with ⟨rfl, rfl⟩ | ⟨rfl, rfl⟩ | ⟨rfl, rfl⟩
  · exact absurd hreason (by decide)
  · exact absurd hextension (by decide)
  · have hempty : Utf8.readPage [] = [] := by
      rw [Utf8.readPage, Utf8.decodeLenient, Text.unifyNewlines]
    rw [scanOf, hempty]
    rfl

end Lint

end DesignLint
