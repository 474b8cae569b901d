import DesignLint.Proofs.Failure
import DesignLint.Proofs.Files.Changed
import DesignLint.Proofs.Lint
import Mathlib.Algebra.BigOperators.Group.List.Basic

/-! # Runs on a changed directory

What a run says about a page comes from the bytes of this page and of the token source. So files
that a run does not read can have any bytes, and files that are removed take their own results with
them:

* `candidates_eq_or`, `candidates_of_removed`: the pages of a changed directory;
* `Unread`: the places of the files that a run leaves unread because they are exempt;
* `run_eq_of_unread`: what a run says does not depend on their bytes;
* `run_of_removed`: what a run says after files are removed. -/

namespace DesignLint

open Text

namespace Lint

variable {tree after : FileTree} {root path : Path} {config : Config} {checks : List Check}
  {rewritten : Set Place} {removed : List Place}

/-! ## Reading files -/

/-- A file that is not rewritten has the text that it had. -/
theorem readAt_eq (h : tree.Changed rewritten removed after) (hspared : tree.Spares removed path)
    (hkept : ∀ place ∈ rewritten, ¬ tree.LeadsTo path place) :
    readAt after path = readAt tree path := by
  rw [readAt, readAt, h.read_eq hspared hkept]

/-- A token source that is not rewritten gives the palette that it gave. -/
theorem paletteAt_eq (h : tree.Changed rewritten removed after) (hspared : tree.Spares removed path)
    (hkept : ∀ place ∈ rewritten, ¬ tree.LeadsTo path place) (always : List Text) :
    paletteAt after path always = paletteAt tree path always := by
  rw [paletteAt, paletteAt, tokenSourceAt, tokenSourceAt, h.isFile_eq hspared,
    readAt_eq h hspared hkept]

/-- A page that is not rewritten has the outcome that it had. -/
theorem pageResult_eq {name : Text} (h : tree.Changed rewritten removed after)
    (hread : Exemption.reason? (Exemption.ofConfig config) name = none →
      tree.Spares removed (entryPath root name) ∧
        ∀ place ∈ rewritten, ¬ tree.LeadsTo (entryPath root name) place)
    (palette : Palette) (checks : List Check) :
    pageResult after root palette config checks name
      = pageResult tree root palette config checks name := by
  rw [pageResult, pageResult]
  cases hreason : Exemption.reason? (Exemption.ofConfig config) name with
  | some reason => rfl
  | none =>
    obtain ⟨hspared, hkept⟩ := hread hreason
    rw [scanAt, scanAt, readAt_eq h hspared hkept]

/-! ## The pages -/

/-- An entry that can be looked up is kept in both trees or in neither, if what it leads to is a
regular file in both or in neither. -/
theorem page?_eq_ok_of_isFile_eq {extension name : Text} {kept : Option Text}
    (h : page? tree root extension name = .ok kept)
    (hfile : ∀ answer, tree.isFile (entryPath root name) = .ok answer →
      after.isFile (entryPath root name) = .ok answer) :
    page? after root extension name = .ok kept := by
  rw [page?_eq] at h ⊢
  split at h
  · rename_i hsuffix
    obtain ⟨answer, hanswer, rfl⟩ := map_eq_ok_iff.1 h
    rw [if_pos hsuffix, hfile answer (mapError_eq_ok_iff.1 hanswer)]
    rfl
  · rename_i hsuffix
    rw [if_neg hsuffix, h]

/-- **The pages that are kept**, where the names that are kept are listed in any order and can still
be looked up. -/
theorem candidates_eq_ok_filter {extension : Text} {names listed others : List Text}
    (keep : Text → Bool) (h : candidates tree root extension = .ok names)
    (hlisted : tree.names root = .ok listed) (hothers : after.names root = .ok others)
    (hperm : others.Perm (listed.filter keep))
    (hpage : ∀ name ∈ listed, keep name = true → ∀ kept, page? tree root extension name = .ok kept →
      page? after root extension name = .ok kept) :
    candidates after root extension = .ok (names.filter keep) := by
  obtain ⟨listed', hlisted', hall, rfl⟩ := candidates_eq_ok_iff.1 h
  obtain rfl := Except.ok.inj (hlisted.symm.trans hlisted')
  have hboth : ∀ name ∈ others, ∃ kept, page? tree root extension name = .ok kept ∧
      page? after root extension name = .ok kept := by
    intro name hname
    obtain ⟨hmem, hkeep⟩ := List.mem_filter.1 (hperm.mem_iff.1 hname)
    obtain ⟨kept, hkept⟩ := hall name hmem
    exact ⟨kept, hkept, hpage name hmem hkeep kept hkept⟩
  refine candidates_eq_ok_iff.2 ⟨others, hothers, fun name hname => ?_, ?_⟩
  · obtain ⟨kept, -, hafter⟩ := hboth name hname
    exact ⟨kept, hafter⟩
  · have hsame : others.filter (isPage after root extension)
        = others.filter (isPage tree root extension) := by
      refine List.filter_congr fun name hname => ?_
      obtain ⟨kept, hkept, hafter⟩ := hboth name hname
      rw [isPage_eq_isSome hkept, isPage_eq_isSome hafter]
    -- Whether an entry is left and whether it is a page can be asked in any order.
    rw [hsame, ← sorted_filter, List.filter_comm]
    exact (sorted_eq_of_perm (hperm.filter _)).symm

/-- Pages that cannot be found in a directory have a path that is too long among them. -/
theorem exists_of_candidates_eq_error {extension : Text} {listed : List Text} {e : LintError}
    (hlisted : tree.names root = .ok listed) (h : candidates tree root extension = .error e) :
    ∃ shown, e = .access (.lookup .nameTooLong shown) := by
  have hsearch : listed.filterMapM (page? tree root extension) = .error e := by
    rw [candidates, hlisted, ← failure?_eq_some_iff] at h
    exact failure?_eq_some_iff.1 ((failure?_map sorted _).symm.trans h)
  obtain ⟨name, -, hname⟩ := exists_of_filterMapM_eq_error hsearch
  rw [page?_eq] at hname
  split at hname
  · rw [← failure?_eq_some_iff, failure?_map, failure?_eq_some_iff] at hname
    obtain ⟨cause, hcause, rfl⟩ := mapError_eq_error_iff.1 hname
    obtain ⟨shown, rfl⟩ := FileTree.exists_of_isFile_eq_error hcause
    exact ⟨shown, rfl⟩
  · cases hname

/-- **Where nothing is removed, the pages are the same.** But if the entries are listed in another
order, the search for them may meet another path that is too long. -/
theorem candidates_eq_or (h : tree.Changed rewritten [] after) (root : Path) (extension : Text) :
    candidates after root extension = candidates tree root extension ∨
      after.names root ≠ tree.names root ∧
      (∃ shown, candidates tree root extension = .error (.access (.lookup .nameTooLong shown))) ∧
      ∃ shown, candidates after root extension = .error (.access (.lookup .nameTooLong shown)) := by
  have hpage : page? after root extension = page? tree root extension := by
    funext name
    rw [page?, page?, h.isFile_eq FileTree.spares_nil]
  have hspared : tree.Spares [] root := FileTree.spares_nil
  rcases h.names hspared with ⟨e, he, he'⟩ | ⟨listed, others, hlisted, hothers, hperm⟩
  · rw [candidates, candidates, he, he']
    exact .inl rfl
  have hall : listed.filter (tree.location root ++ [·] ∉ ([] : List Place)) = listed :=
    List.filter_eq_self.2 fun _ _ => decide_eq_true List.not_mem_nil
  rw [hall, ← listed.filter_true] at hperm
  cases hnames : candidates tree root extension with
  | ok names =>
    have hafter := candidates_eq_ok_filter _ hnames hlisted hothers hperm
      fun name _ _ kept hkept => by rw [hpage, hkept]
    rw [hafter, List.filter_true]
    exact .inl rfl
  | error e =>
    cases hnames' : candidates after root extension with
    | ok names =>
      rw [List.filter_true, ← others.filter_true] at hperm
      have hbefore := candidates_eq_ok_filter _ hnames' hothers hlisted hperm.symm
        fun name _ _ kept hkept => by rw [← hpage, hkept]
      rw [hnames] at hbefore
      cases hbefore
    | error e' =>
      by_cases hsame : after.names root = tree.names root
      · rw [candidates, hpage, hsame, ← candidates, hnames] at hnames'
        exact .inl hnames'.symm
      · obtain ⟨shown, rfl⟩ := exists_of_candidates_eq_error hlisted hnames
        obtain ⟨shown', rfl⟩ := exists_of_candidates_eq_error hothers hnames'
        exact .inr ⟨hsame, ⟨shown, rfl⟩, shown', rfl⟩

/-! ## Results -/

/-- A run has an outcome just when there are a palette, the pages, and an outcome for each page. -/
theorem run_eq_ok_iff {result : RunResult} :
    run tree root config checks = .ok result ↔ ∃ palette names pages,
      paletteAt tree (tokenSourcePath root config) config.alwaysAllowed = .ok palette ∧
        candidates tree root config.extension = .ok names ∧
        names.mapM (pageResult tree root palette config checks) = .ok pages ∧
        result = ⟨palette.size, pages⟩ := by
  rw [run, bind_eq_ok_iff]
  constructor
  · rintro ⟨palette, hpalette, h⟩
    obtain ⟨names, hnames, h⟩ := bind_eq_ok_iff.1 h
    obtain ⟨pages, hpages, h⟩ := bind_eq_ok_iff.1 h
    exact ⟨palette, names, pages, hpalette, hnames, hpages, (Except.ok.inj h).symm⟩
  · rintro ⟨palette, names, pages, hpalette, hnames, hpages, rfl⟩
    refine ⟨palette, hpalette, bind_eq_ok_iff.2 ⟨names, hnames, ?_⟩⟩
    exact bind_eq_ok_iff.2 ⟨pages, hpages, rfl⟩

/-- The outcome for a page bears its name and the reason why it is exempt, and an exempt page has no
findings. -/
theorem pageResult_eq_ok {palette : Palette} {name : Text} {page : PageResult}
    (h : pageResult tree root palette config checks name = .ok page) :
    page.name = name ∧
      page.exemptReason = Exemption.reason? (Exemption.ofConfig config) name ∧
      (page.isExempt = true → page.findings = []) := by
  rw [pageResult] at h
  cases hreason : Exemption.reason? (Exemption.ofConfig config) name with
  | some reason =>
    rw [hreason] at h
    obtain rfl := Except.ok.inj h
    exact ⟨rfl, rfl, fun _ => rfl⟩
  | none =>
    rw [hreason] at h
    obtain ⟨findings, -, h⟩ := bind_eq_ok_iff.1 h
    obtain rfl := Except.ok.inj h
    exact ⟨rfl, rfl, fun hexempt => absurd hexempt Bool.false_ne_true⟩

/-- A text is read off a regular file. -/
theorem exists_lookup_of_readAt {text : Text} (h : readAt tree path = .ok text) :
    ∃ content, tree.lookup path = .ok (.file content) := by
  rw [readAt, mapError_eq_ok_iff] at h
  cases hread : tree.read path with
  | error e =>
    rw [hread] at h
    cases h
  | ok content => exact ⟨content, FileTree.read_eq_ok_iff.1 hread⟩

/-- So is a palette. -/
theorem exists_lookup_of_paletteAt {always : List Text} {palette : Palette}
    (h : paletteAt tree path always = .ok palette) :
    ∃ content, tree.lookup path = .ok (.file content) := by
  obtain ⟨css, hcss, -⟩ := bind_eq_ok_iff.1 h
  obtain ⟨isFile, -, hcss⟩ := bind_eq_ok_iff.1 hcss
  cases isFile with
  | true => exact exists_lookup_of_readAt hcss
  | false => cases hcss

/-- The findings about a page that is not exempt are read off a regular file. -/
theorem exists_lookup_of_pageResult {palette : Palette} {name : Text} {page : PageResult}
    (h : pageResult tree root palette config checks name = .ok page)
    (hreason : Exemption.reason? (Exemption.ofConfig config) name = none) :
    ∃ content, tree.lookup (entryPath root name) = .ok (.file content) := by
  rw [pageResult, hreason] at h
  obtain ⟨findings, hscan, -⟩ := bind_eq_ok_iff.1 h
  obtain ⟨text, htext, -⟩ := bind_eq_ok_iff.1 hscan
  exact exists_lookup_of_readAt htext

/-- The pages are listed off a directory. -/
theorem exists_lookup_of_candidates {extension : Text} {names : List Text}
    (h : candidates tree root extension = .ok names) :
    ∃ entries, tree.lookup root = .ok (.directory entries) := by
  obtain ⟨listed, hlisted, -⟩ := candidates_eq_ok_iff.1 h
  obtain ⟨entries, hentries, -⟩ := FileTree.names_eq_ok_iff.1 hlisted
  exact ⟨entries, hentries⟩

/-! ## Unread files -/

/-- The path of an entry of a directory leads to no other entry of it. -/
theorem eq_of_location_entryPath {name other : Text}
    (h : tree.location (entryPath root name) = tree.location root ++ [other]) : name = other := by
  rw [entryPath, FileTree.location_append] at h
  by_cases hparent : name = ['.', '.']
  · -- `..` leads to a place with no more names than that of the directory.
    rw [if_pos hparent] at h
    have hlength := congrArg List.length h
    rw [List.length_dropLast, List.length_append, List.length_singleton] at hlength
    omega
  · rw [if_neg hparent] at h
    exact List.singleton_inj.1 (List.append_cancel_left h)

/-- The places of exempt pages, unless the run reads its palette there. -/
def Unread (tree : FileTree) (root : Path) (config : Config) : Set Place :=
  {place | (∃ name reason, tree.location root ++ [name] = place ∧ config.extension <:+ name ∧
      Exemption.reason? (Exemption.ofConfig config) name = some reason) ∧
    ¬ tree.LeadsTo (tokenSourcePath root config) place}

/-- In an outcome, a page is exempt for the reason that its name has, and then has no findings. -/
theorem exemptReason_of_run {result : RunResult} (h : run tree root config checks = .ok result) :
    ∀ page ∈ result.pages,
      page.exemptReason = Exemption.reason? (Exemption.ofConfig config) page.name ∧
        (page.isExempt = true → page.findings = []) := by
  obtain ⟨palette, names, pages, -, -, hpages, rfl⟩ := run_eq_ok_iff.1 h
  refine forall_of_mapM_eq_ok hpages fun name page hpage => ?_
  obtain ⟨rfl, hreason⟩ := pageResult_eq_ok hpage
  exact hreason

/-- **The bytes of exempt pages do not matter**: whatever stands in them, a run has the same
outcome, or the same error. Only where the directory lists its entries in another order may the
error be about another path that is too long. In an outcome, a page is exempt just when its name has
a reason, even an empty one; then it has no findings and counts as passing. -/
theorem run_eq_of_unread (tree : FileTree) (root : Path) (config : Config) (checks : List Check) :
    (∀ after, tree.Changed (Unread tree root config) [] after →
      run after root config checks = run tree root config checks ∨
        after.names root ≠ tree.names root ∧
          (∃ shown, run tree root config checks = .error (.access (.lookup .nameTooLong shown))) ∧
          ∃ shown, run after root config checks = .error (.access (.lookup .nameTooLong shown))) ∧
    ∀ result, run tree root config checks = .ok result → ∀ page ∈ result.pages,
      page.exemptReason = Exemption.reason? (Exemption.ofConfig config) page.name ∧
        (page.isExempt = true →
          page.findings = [] ∧ page.passed = true ∧ page ∉ result.failing) := by
  constructor
  · intro after h
    have hpage (palette : Palette) : pageResult after root palette config checks
        = pageResult tree root palette config checks := by
      funext name
      refine pageResult_eq h (fun hreason => ⟨FileTree.spares_nil, ?_⟩) palette checks
      -- A page at an unread place has the name of an exempt one.
      rintro place ⟨⟨other, reason, rfl, -, hother⟩, -⟩ ⟨-, hlocation⟩
      rw [← eq_of_location_entryPath hlocation, hreason] at hother
      cases hother
    rw [run, run,
      paletteAt_eq h FileTree.spares_nil (fun place hplace => hplace.2) config.alwaysAllowed]
    simp only [hpage]
    cases paletteAt tree (tokenSourcePath root config) config.alwaysAllowed with
    | error e => exact .inl rfl
    | ok palette =>
      rcases candidates_eq_or h root config.extension with
        hsame | ⟨hnames, ⟨shown, hbefore⟩, shown', hafter⟩
      · rw [hsame]
        exact .inl rfl
      · rw [hbefore, hafter]
        exact .inr ⟨hnames, ⟨shown, rfl⟩, shown', rfl⟩
  · intro result hresult page hpage
    obtain ⟨hreason, hexempt⟩ := exemptReason_of_run hresult page hpage
    refine ⟨hreason, fun hisExempt => ?_⟩
    have hpassed : page.passed = true := List.isEmpty_iff.2 (hexempt hisExempt)
    refine ⟨hexempt hisExempt, hpassed, fun hfailing => ?_⟩
    have hfailed := (List.mem_filter.1 hfailing).2
    rw [hpassed] at hfailed
    cases hfailed

/-- A page whose bytes become undecodable, in a directory where the empty prefix makes every page
exempt for an empty reason. -/
theorem run_eq_of_unread_empty_reason :
    let config : Config := { exemptPrefixes := [([], [])] }
    let page : Text := "a.html".toList
    let sheet : Text := "styles.css".toList
    let tree : FileTree := ⟨.directory [(page, .file [35]), (sheet, .file [])], []⟩
    let after : FileTree := ⟨.directory [(sheet, .file []), (page, .file [255, 0])], []⟩
    run after ⟨.top, []⟩ config [StyleBlock.check] = run tree ⟨.top, []⟩ config [StyleBlock.check] ∧
      ∃ result, run tree ⟨.top, []⟩ config [StyleBlock.check] = .ok result ∧
        result.pages = [⟨page, [], some []⟩] ∧ ∀ page ∈ result.pages, page.passed = true := by
  intro config page sheet tree after
  have hunread : [page] ∈ Unread tree ⟨.top, []⟩ config :=
    ⟨⟨page, [], rfl, by decide, rfl⟩, fun hleads => absurd hleads.2 (by decide)⟩
  have hchanged : tree.Changed (Unread tree ⟨.top, []⟩ config) [] after := by
    refine ⟨rfl, fun place => ?_⟩
    cases place with
    | nil => exact .directory List.not_mem_nil (by decide)
    | cons name rest =>
      by_cases hpage : name = page
      · subst hpage
        cases rest with
        | nil => exact .file rfl rfl List.not_mem_nil fun hread => absurd hunread hread
        | cons => exact .nothing
      · by_cases hsheet : name = sheet
        · subst hsheet
          cases rest with
          | nil => exact .file rfl rfl List.not_mem_nil fun _ => rfl
          | cons => exact .nothing
        · simp only [tree, after, Entry.at?, List.lookup_cons, List.lookup_nil,
            beq_false_of_ne hpage, beq_false_of_ne hsheet]
          exact .nothing
  have hrun : run tree ⟨.top, []⟩ config [StyleBlock.check]
      = .ok ⟨(paletteOf config []).size, [⟨page, [], some []⟩]⟩ :=
    run_eq_ok_iff.2 ⟨paletteOf config [], [page], _, paletteAt_eq_ok _ rfl,
      congrArg Except.ok (List.mergeSort_singleton page), rfl, rfl⟩
  obtain ⟨hsame, hpages⟩ := run_eq_of_unread tree ⟨.top, []⟩ config [StyleBlock.check]
  refine ⟨(hsame after hchanged).resolve_right ?_, _, hrun, rfl, fun page hpage => ?_⟩
  · rintro ⟨-, ⟨shown, herror⟩, -⟩
    rw [hrun] at herror
    cases herror
  obtain ⟨hreason, hexempt⟩ := hpages _ hrun page hpage
  have hsome : page.isExempt = true := by
    rw [PageResult.isExempt, hreason, List.mem_singleton.1 hpage]
    rfl
  exact (hexempt hsome).2.1

/-! ## Removed files -/

/-- The path of an entry that is kept is spared. -/
theorem spares_entryPath {entries : List (Text × Entry)} {name : Text} {entry : Entry}
    (h : tree.Changed rewritten removed after) (hroot : tree.lookup root = .ok (.directory entries))
    (hentry : tree.lookup (entryPath root name) = .ok entry)
    (hkept : tree.location root ++ [name] ∉ removed) :
    tree.Spares removed (entryPath root name) := by
  refine FileTree.spares_of_lookup hentry ?_
  rw [entryPath, FileTree.location_append]
  by_cases hparent : name = ['.', '.']
  · -- No directory is removed, so `..` is spared too.
    obtain ⟨above, habove⟩ := Entry.exists_at?_dropLast (FileTree.at?_location hroot)
    rw [if_pos hparent]
    exact h.not_mem_of_directory habove
  · rw [if_neg hparent]
    exact hkept

/-- An entry that is kept can be looked up as before. -/
theorem isFile_of_kept {entries : List (Text × Entry)} {name : Text} {answer : Bool}
    (h : tree.Changed rewritten removed after) (hroot : tree.lookup root = .ok (.directory entries))
    (hname : name ∈ entries.map (·.1)) (hkept : tree.location root ++ [name] ∉ removed)
    (hanswer : tree.isFile (entryPath root name) = .ok answer) :
    after.isFile (entryPath root name) = .ok answer := by
  by_cases hnul : '\x00' ∈ (entryPath root name).text
  · rw [FileTree.isFile_of_nul after hnul, ← hanswer, FileTree.isFile_of_nul tree hnul]
  · obtain ⟨entry, hentry⟩ :=
      (FileTree.withinLimits_of_isFile hanswer).exists_lookup_append hroot hname hnul
    rw [h.isFile_eq (spares_entryPath h hroot hentry hkept), hanswer]

/-- **The pages of a directory after files are removed** are those that are not removed. -/
theorem candidates_of_removed {entries : List (Text × Entry)} {extension : Text}
    {names : List Text} (h : tree.Changed rewritten removed after)
    (hroot : tree.lookup root = .ok (.directory entries))
    (hnames : candidates tree root extension = .ok names) :
    candidates after root extension
      = .ok (names.filter (tree.location root ++ [·] ∉ removed)) := by
  have hspared : tree.Spares removed root :=
    FileTree.spares_of_lookup hroot (h.not_mem_of_directory (FileTree.at?_location hroot))
  have hentries := FileTree.names_eq_ok_iff.2 ⟨entries, hroot, rfl⟩
  rcases h.names hspared with ⟨e, he, -⟩ | ⟨listed, others, hlisted, hothers, hperm⟩
  · rw [hentries] at he
    exact nomatch he
  · obtain rfl := Except.ok.inj (hentries.symm.trans hlisted)
    refine candidates_eq_ok_filter _ hnames hlisted hothers hperm ?_
    intro name hname hkeep kept hkept
    exact page?_eq_ok_of_isFile_eq hkept fun answer hanswer =>
      isFile_of_kept h hroot hname (of_decide_eq_true hkeep) hanswer

/-- A page that is kept keeps its outcome. -/
theorem pageResult_of_kept {entries : List (Text × Entry)} {palette : Palette} {name : Text}
    {page : PageResult} (h : tree.Changed ∅ removed after)
    (hroot : tree.lookup root = .ok (.directory entries))
    (hpage : pageResult tree root palette config checks name = .ok page)
    (hkept : tree.location root ++ [name] ∉ removed) :
    pageResult after root palette config checks name = .ok page := by
  rw [← hpage]
  refine pageResult_eq h (fun hreason => ⟨?_, nofun⟩) palette checks
  obtain ⟨content, hcontent⟩ := exists_lookup_of_pageResult hpage hreason
  exact spares_entryPath h hroot hcontent hkept

/-- **A run after files are removed**: it has an outcome if the run before has one and the token
source is kept, with the same palette. The pages that are not removed keep their outcomes and their
order, and the findings about the removed ones are no longer counted. -/
theorem run_of_removed {result : RunResult} {gone : List Place}
    (hrun : run tree root config checks = .ok result)
    (hsource : ∀ place ∈ gone, ¬ tree.LeadsTo (tokenSourcePath root config) place)
    (h : tree.Changed ∅ gone after) :
    ∃ left, run after root config checks = .ok left ∧ left.paletteSize = result.paletteSize ∧
      left.pages = result.pages.filter (tree.location root ++ [·.name] ∉ gone) ∧
      result.totalFindings = left.totalFindings +
        ((result.pages.filter (tree.location root ++ [·.name] ∈ gone)).map
          (·.findings.length)).sum := by
  obtain ⟨palette, names, pages, hpalette, hnames, hpages, rfl⟩ := run_eq_ok_iff.1 hrun
  obtain ⟨css, hcss⟩ := exists_lookup_of_paletteAt hpalette
  obtain ⟨entries, hroot⟩ := exists_lookup_of_candidates hnames
  have hsourceKept : tree.Spares gone (tokenSourcePath root config) :=
    FileTree.spares_of_lookup hcss fun hmem => hsource _ hmem ⟨⟨_, hcss⟩, rfl⟩
  have hkept (name : Text) (page : PageResult)
      (hpage : pageResult tree root palette config checks name = .ok page) :
      page.name = name ∧ (decide (tree.location root ++ [name] ∉ gone) = true →
        pageResult after root palette config checks name = .ok page) :=
    ⟨(pageResult_eq_ok hpage).1,
      fun hname => pageResult_of_kept h hroot hpage (of_decide_eq_true hname)⟩
  refine ⟨⟨palette.size, pages.filter (tree.location root ++ [·.name] ∉ gone)⟩, ?_, rfl, rfl, ?_⟩
  · refine run_eq_ok_iff.2 ⟨palette, names.filter (tree.location root ++ [·] ∉ gone), _, ?_, ?_,
      mapM_filter_eq_ok hpages hkept, rfl⟩
    · rw [paletteAt_eq h hsourceKept nofun, hpalette]
    · exact candidates_of_removed h hroot hnames
  · rw [RunResult.totalFindings_eq_sum, RunResult.totalFindings_eq_sum, Nat.add_comm]
    exact (List.sum_map_filter_add_sum_map_filter_not _ _ _).symm

/-- A directory without one of its two pages. -/
theorem run_of_removed_one_page :
    let a : Text := "a.html".toList
    let b : Text := "b.html".toList
    let sheet : Text := "styles.css".toList
    let tree : FileTree := ⟨.directory [(b, .file []), (a, .file []), (sheet, .file [])], []⟩
    let after : FileTree := ⟨.directory [(a, .file []), (sheet, .file [])], []⟩
    let missing (page : Text) : Finding := ⟨page, 0, .missingFont, "Space Grotesk".toList,
      "Must import Space Grotesk from Google Fonts".toList⟩
    let checks := [RequiredAsset.fontCheck]
    run tree ⟨.top, []⟩ {} checks = .ok ⟨6, [⟨a, [missing a], none⟩, ⟨b, [missing b], none⟩]⟩ ∧
      run after ⟨.top, []⟩ {} checks = .ok ⟨6, [⟨a, [missing a], none⟩]⟩ := by
  intro a b sheet tree after missing checks
  have hempty : Utf8.readPage [] = [] := by
    rw [Utf8.readPage, Utf8.decodeLenient, Text.unifyNewlines]
  have hscan (page : Text) : scanOf [] {} checks page [] = .ok [missing page] := by
    rw [scanOf, hempty]
    rfl
  have hsize : (paletteOf {} []).size = 6 := by
    rw [paletteOf, Palette.size_ofStylesheet, hempty]
    rfl
  have hpage (page : Text) (hreason : Exemption.reason? (Exemption.ofConfig {}) page = none)
      (hlookup : tree.lookup (entryPath ⟨.top, []⟩ page) = .ok (.file [])) :
      pageResult tree ⟨.top, []⟩ (paletteOf {} []) {} checks page
        = .ok ⟨page, [missing page], none⟩ := by
    rw [pageResult, hreason]
    exact bind_eq_ok_iff.2 ⟨_, scanAt_eq_ok hlookup (hscan page), rfl⟩
  have hrun : run tree ⟨.top, []⟩ {} checks
      = .ok ⟨6, [⟨a, [missing a], none⟩, ⟨b, [missing b], none⟩]⟩ := by
    refine run_eq_ok_iff.2 ⟨paletteOf {} [], [a, b],
      [⟨a, [missing a], none⟩, ⟨b, [missing b], none⟩], paletteAt_eq_ok _ rfl, ?_, ?_, ?_⟩
    · exact congrArg Except.ok (eq_sorted (by decide) (by decide)).symm
    · exact mapM_eq_ok_iff.2 (.cons (hpage a rfl rfl) (.cons (hpage b rfl rfl) .nil))
    · rw [hsize]
      rfl
  have hchanged : tree.Changed ∅ [[b]] after := by
    refine ⟨rfl, fun place => ?_⟩
    cases place with
    | nil => exact .directory (by decide) (by decide)
    | cons name rest =>
      by_cases hb : name = b
      · subst hb
        cases rest with
        | nil => exact .removed rfl (List.mem_singleton.2 rfl)
        | cons => exact .nothing
      · have hkept : name :: rest ∉ [[b]] := fun hmem =>
          hb (List.cons.inj (List.mem_singleton.1 hmem)).1
        by_cases ha : name = a
        · subst ha
          cases rest with
          | nil => exact .file rfl rfl hkept fun _ => rfl
          | cons => exact .nothing
        by_cases hsheet : name = sheet
        · subst hsheet
          cases rest with
          | nil => exact .file rfl rfl hkept fun _ => rfl
          | cons => exact .nothing
        · simp only [tree, after, Entry.at?, List.lookup_cons, List.lookup_nil,
            beq_false_of_ne ha, beq_false_of_ne hb, beq_false_of_ne hsheet]
          exact .nothing
  obtain ⟨⟨size, pages⟩, hleft, rfl, rfl, -⟩ := run_of_removed hrun
    (fun place hplace hleads => by
      obtain rfl := List.mem_singleton.1 hplace
      exact absurd hleads.2 (by decide)) hchanged
  exact ⟨hrun, hleft⟩

end Lint

end DesignLint
