import DesignLint.Proofs.Files
import Mathlib.Data.Set.Basic

/-! # Trees that differ in some files

Two file trees with the same names, where some files have other bytes and some are removed. A path
leads to the same thing in both of them, unless it leads to one of these files:

* `Entry.at?`: what stands at a place, which is told by the names from the top to it;
* `FileTree.location`: the place to which a path leads;
* `FileTree.Changed`: one tree is the other one with some files rewritten and some removed;
* `FileTree.Changed.lookup`: what paths lead to in the two trees;
* `FileTree.Changed.read_eq`, `FileTree.Changed.isFile_eq`, `FileTree.Changed.names`: what can be
  seen of it. -/

namespace DesignLint

/-! ## Places -/

/-- The names from the top of a file tree to something in it. -/
abbrev Place := List Text

namespace Entry

/-- What stands at a place below an entry. -/
def at? : Entry → Place → Option Entry
  | entry, [] => some entry
  | .file _, _ :: _ | .unreadable _, _ :: _ => none
  | .directory entries, name :: rest =>
    match entries.lookup name with
    | none => none
    | some entry => entry.at? rest

/-- Further names lead on from what stands at a place. -/
theorem at?_append (entry : Entry) (place rest : Place) :
    entry.at? (place ++ rest) = (entry.at? place).bind (·.at? rest) := by
  induction place generalizing entry with
  | nil => rw [List.nil_append, at?.eq_def entry [], Option.bind_some]
  | cons name place ih =>
    cases entry with
    | file content => rfl
    | unreadable failure => rfl
    | directory entries =>
      rw [List.cons_append, at?, at?]
      cases entries.lookup name with
      | none => rfl
      | some entry => exact ih entry

/-- Below a directory stand its entries. -/
theorem at?_append_singleton {top : Entry} {place : Place} {entries : List (Text × Entry)}
    (h : top.at? place = some (.directory entries)) (name : Text) :
    top.at? (place ++ [name]) = entries.lookup name := by
  rw [at?_append, h, Option.bind_some, at?]
  cases entries.lookup name with
  | none => rfl
  | some entry => exact at?.eq_def entry []

/-- What is above a directory is a directory too; above the top is the top. -/
theorem exists_at?_dropLast {top : Entry} {place : Place} {entries : List (Text × Entry)}
    (h : top.at? place = some (.directory entries)) :
    ∃ above, top.at? place.dropLast = some (.directory above) := by
  rcases List.eq_nil_or_concat' place with rfl | ⟨init, name, rfl⟩
  · exact ⟨entries, h⟩
  · rw [at?_append] at h
    obtain ⟨above, habove, hname⟩ := Option.bind_eq_some_iff.1 h
    rw [List.dropLast_concat]
    cases above with
    | file content => exact nomatch hname
    | unreadable failure => exact nomatch hname
    | directory others => exact ⟨others, habove⟩

/-- The names and kinds of the entries of a directory. -/
def kinds (entries : List (Text × Entry)) : List (Text × Bool) :=
  entries.map fun (name, entry) => (name, entry.isFile)

/-- What stands at a place of a tree, and what stands there after some files are rewritten and some
are removed. -/
inductive Changed (rewritten : Set Place) (removed : List Place) (place : Place) :
    Option Entry → Option Entry → Prop
  /-- Nothing stands there. -/
  | nothing : Changed rewritten removed place none none
  /-- A file that is removed. -/
  | removed {entry : Entry} (file : entry.isFile = true) (gone : place ∈ removed) :
      Changed rewritten removed place (some entry) none
  /-- A file that is kept, and stays as it is unless it is rewritten. -/
  | file {entry other : Entry} (file : entry.isFile = true) (still : other.isFile = true)
      (kept : place ∉ removed) (same : place ∉ rewritten → entry = other) :
      Changed rewritten removed place (some entry) (some other)
  /-- A directory that keeps the names and kinds of its entries, in any order, but for the removed
  ones. -/
  | directory {entries others : List (Text × Entry)} (kept : place ∉ removed)
      (names : (kinds others).Perm ((kinds entries).filter (place ++ [·.1] ∉ removed))) :
      Changed rewritten removed place (some (.directory entries)) (some (.directory others))

end Entry

/-! ## Following names -/

namespace FileTree

variable {rewritten : Set Place} {removed : List Place} {top other : Entry}

/-- Names lead from the top to an entry, which lies in the directories `above`. The names as well as
the directories are told innermost first. -/
inductive Leads (top : Entry) : (inner : List Text) → (above : List Entry) → Entry → Prop
  /-- No names lead to the top. -/
  | top : Leads top [] [] top
  /-- A name further, they lead to the entry of that name. -/
  | step {inner : List Text} {above : List Entry} {entries : List (Text × Entry)} {name : Text}
      {entry : Entry} (h : Leads top inner above (.directory entries))
      (hentry : entries.lookup name = some entry) :
      Leads top (name :: inner) (.directory entries :: above) entry

/-- At the place to which names lead stands the entry to which they lead. -/
theorem Leads.at?_eq {inner : List Text} {above : List Entry} {entry : Entry}
    (h : Leads top inner above entry) : top.at? inner.reverse = some entry := by
  induction h with
  | top => exact Entry.at?.eq_def top []
  | step _ hentry ih => rw [List.reverse_cons, Entry.at?_append_singleton ih, hentry]

/-- Where further names lead stands the entry to which they lead. -/
theorem Leads.at?_foldParents {inner : List Text} {above : List Entry} {entry target : Entry}
    {parts : List Text} (h : Leads top inner above entry)
    (hfollow : follow above entry parts = .ok target) :
    top.at? (Path.foldParents inner parts) = some target := by
  fun_induction follow above entry parts generalizing inner with
  | case1 above entry =>
    obtain rfl := Except.ok.inj hfollow
    exact h.at?_eq
  | case2 above content part rest => cases hfollow
  | case3 above failure part rest => cases hfollow
  | case4 entries rest ih =>
    cases h
    rw [Path.foldParents, if_pos rfl]
    exact ih .top hfollow
  | case5 entries rest parent above ih =>
    cases h with
    | step habove =>
      rw [Path.foldParents, if_pos rfl]
      exact ih habove hfollow
  | case6 above entries part rest hparent hlong => cases hfollow
  | case7 above entries part rest hparent hfits hmissing => cases hfollow
  | case8 above entries part rest hparent hfits entry hfound ih =>
    rw [Path.foldParents, if_neg hparent]
    exact ih (.step h hfound) hfollow

/-- What a path leads to in two trees, where one is the other one with some files changed: in both
of them to nothing, for the same reason, or in both of them to something. -/
inductive Parallel {ε : Type} (rewritten : Set Place) (removed : List Place) (place : Place) :
    Except ε Entry → Except ε Entry → Prop
  /-- The path leads nowhere. -/
  | error (e : ε) : Parallel rewritten removed place (.error e) (.error e)
  /-- The path leads to something that is kept. -/
  | ok {entry entry' : Entry}
      (h : Entry.Changed rewritten removed place (some entry) (some entry')) :
      Parallel rewritten removed place (.ok entry) (.ok entry')

/-- **Names lead in parallel through a tree and a changed one**, or they lead to a removed file or
nowhere. -/
theorem follow_parallel
    (h : ∀ place, Entry.Changed rewritten removed place (top.at? place) (other.at? place))
    {inner : List Text} {above above' : List Entry} {entry entry' : Entry}
    (hleads : Leads top inner above entry) (hleads' : Leads other inner above' entry')
    (parts : List Text) :
    Parallel rewritten removed (Path.foldParents inner parts)
        (follow above entry parts) (follow above' entry' parts) ∨
      ∃ place ∈ removed, ∀ target, follow above entry parts = .ok target →
        Path.foldParents inner parts = place := by
  induction parts generalizing inner above above' entry entry' with
  | nil =>
    have hhere := h inner.reverse
    rw [hleads.at?_eq, hleads'.at?_eq] at hhere
    rw [follow.eq_def, follow.eq_def, Path.foldParents]
    exact .inl (.ok hhere)
  | cons part rest ih =>
    have hhere := h inner.reverse
    rw [hleads.at?_eq, hleads'.at?_eq] at hhere
    cases hhere with
    | file hfile hstill =>
      rw [follow_of_isFile _ hfile, follow_of_isFile _ hstill]
      exact .inl (.error _)
    | directory =>
      rename_i entries others _ _
      by_cases hparent : part = ['.', '.']
      · -- Both trees lead on from the directory above, or from the top if there is none.
        subst hparent
        rw [follow_parent, follow_parent, Path.foldParents, if_pos rfl]
        cases hleads with
        | top =>
          cases hleads'
          exact ih .top .top
        | step habove =>
          cases hleads' with
          | step habove' => exact ih habove habove'
      · rw [follow_cons _ _ _ hparent, follow_cons _ _ _ hparent, Path.foldParents,
          if_neg hparent]
        by_cases hlong : maxNameSize < Utf8.size part
        · rw [if_pos hlong, if_pos hlong]
          exact .inl (.error _)
        rw [if_neg hlong, if_neg hlong]
        -- The entries of the name in the two directories correspond, as they stand at one place.
        have hentry := h (inner.reverse ++ [part])
        rw [Entry.at?_append_singleton hleads.at?_eq,
          Entry.at?_append_singleton hleads'.at?_eq] at hentry
        generalize hfound : entries.lookup part = found at hentry
        generalize hfound' : others.lookup part = found' at hentry
        cases hentry with
        | nothing => exact .inl (.error _)
        | removed hfile hgone =>
          refine .inr ⟨_, hgone, fun target htarget => ?_⟩
          cases rest with
          | nil => rw [Path.foldParents, List.reverse_cons]
          | cons next rest =>
            dsimp only at htarget
            rw [follow_of_isFile _ hfile] at htarget
            cases htarget
        | file => exact ih (.step hleads hfound) (.step hleads' hfound')
        | directory => exact ih (.step hleads hfound) (.step hleads' hfound')

/-- What two paths lead to stays in parallel when their failures are told in other words. -/
theorem Parallel.mapError {ε δ : Type} {place : Place} {found found' : Except ε Entry}
    (h : Parallel rewritten removed place found found') (f : ε → δ) :
    Parallel rewritten removed place (found.mapError f) (found'.mapError f) := by
  cases h with
  | error e => exact .error (f e)
  | ok hentry => exact .ok hentry

/-! ## Looking up paths -/

/-- The place to which a path leads if it leads anywhere: its names from the top, without `..`. -/
def location (tree : FileTree) (path : Path) : Place :=
  Path.foldParents [] (tree.partsFromTop path)

/-- A name more at the end of some parts goes back by one name if it is `..`, and is kept
otherwise. -/
theorem foldParents_append_singleton (inner parts : List Text) (name : Text) :
    Path.foldParents inner (parts ++ [name])
      = if name = ['.', '.'] then (Path.foldParents inner parts).dropLast
        else Path.foldParents inner parts ++ [name] := by
  induction parts generalizing inner with
  | nil =>
    rw [List.nil_append, Path.foldParents, Path.foldParents, Path.foldParents, Path.foldParents,
      List.dropLast_reverse, List.reverse_cons]
  | cons part parts ih =>
    rw [List.cons_append, Path.foldParents, Path.foldParents, ih, ih]
    by_cases hparent : part = ['.', '.']
    · rw [if_pos hparent, if_pos hparent]
    · rw [if_neg hparent, if_neg hparent]

/-- The location of what a path leads to with one more name. -/
theorem location_append (tree : FileTree) (path : Path) (name : Text) :
    tree.location ⟨path.start, path.parts ++ [name]⟩
      = if name = ['.', '.'] then (tree.location path).dropLast
        else tree.location path ++ [name] := by
  rw [location, partsFromTop_append, foldParents_append_singleton]
  rfl

/-- A path leads to a place, at which something stands. -/
def LeadsTo (tree : FileTree) (path : Path) (place : Place) : Prop :=
  (∃ entry, tree.lookup path = .ok entry) ∧ tree.location path = place

/-- One tree is another one after some files are rewritten and some are removed. -/
structure Changed (rewritten : Set Place) (removed : List Place) (tree after : FileTree) :
    Prop where
  /-- Paths start at the same place. -/
  workingDirectory : after.workingDirectory = tree.workingDirectory
  /-- Every place has what it had, but for these files. -/
  at? : ∀ place, Entry.Changed rewritten removed place (tree.top.at? place) (after.top.at? place)

/-- A path leads somewhere, and not to a removed place; or nothing is removed at all. -/
def Spares (tree : FileTree) (removed : List Place) (path : Path) : Prop :=
  ∀ place ∈ removed, ∃ entry, tree.lookup path = .ok entry ∧ tree.location path ≠ place

variable {tree after : FileTree} {path : Path}

/-- Where nothing is removed, every path is spared. -/
theorem spares_nil : tree.Spares [] path := nofun

/-- A path is spared that leads to something which is not removed. -/
theorem spares_of_lookup {entry : Entry} (h : tree.lookup path = .ok entry)
    (hkept : tree.location path ∉ removed) : tree.Spares removed path := by
  intro place hplace
  refine ⟨entry, h, ?_⟩
  rintro rfl
  exact hkept hplace

/-- No directory is removed. -/
theorem Changed.not_mem_of_directory {place : Place} {entries : List (Text × Entry)}
    (h : Changed rewritten removed tree after)
    (hplace : tree.top.at? place = some (.directory entries)) : place ∉ removed := by
  have hchanged := h.at? place
  rw [hplace] at hchanged
  generalize after.top.at? place = there at hchanged
  cases hchanged with
  | removed hfile => cases hfile
  | file hfile => cases hfile
  | directory hkept => exact hkept

/-- **A path leads in parallel through a tree and a changed one**, if it is spared. -/
theorem Changed.lookup (h : Changed rewritten removed tree after)
    (hspared : tree.Spares removed path) :
    Parallel rewritten removed (tree.location path) (tree.lookup path) (after.lookup path) := by
  have hparts : after.partsFromTop path = tree.partsFromTop path := by
    rw [partsFromTop, partsFromTop, h.workingDirectory]
  have hfollow := follow_parallel h.at? .top .top (tree.partsFromTop path)
  rw [FileTree.lookup, FileTree.lookup, hparts]
  split
  · exact .error _
  split
  · exact .error _
  rcases hfollow with hfollow | ⟨place, hplace, hlost⟩
  · exact hfollow.mapError _
  · obtain ⟨entry, hentry, hne⟩ := hspared place hplace
    exact absurd (hlost entry (follow_eq_ok_of_lookup hentry).2) hne

/-- A path that leads somewhere leads to the entry at its location. -/
theorem at?_location {entry : Entry} (h : tree.lookup path = .ok entry) :
    tree.top.at? (tree.location path) = some entry :=
  Leads.top.at?_foldParents (follow_eq_ok_of_lookup h).2

/-- A path that leads to no rewritten file has its bytes. -/
theorem Changed.read_eq (h : Changed rewritten removed tree after)
    (hspared : tree.Spares removed path) (hkept : ∀ place ∈ rewritten, ¬ tree.LeadsTo path place) :
    after.read path = tree.read path := by
  have hlookup := h.lookup hspared
  rw [read, read]
  generalize hfound : tree.lookup path = found at hlookup
  generalize after.lookup path = found' at hlookup
  cases hlookup with
  | error e => rfl
  | ok hentry =>
    cases hentry with
    | file _ _ _ hsame =>
      have hplace : tree.location path ∉ rewritten := fun hmem => hkept _ hmem ⟨⟨_, hfound⟩, rfl⟩
      rw [hsame hplace]
    | directory => rfl

/-- A path leads to a regular file in both trees or in neither. -/
theorem Changed.isFile_eq (h : Changed rewritten removed tree after)
    (hspared : tree.Spares removed path) : after.isFile path = tree.isFile path := by
  have hlookup := h.lookup hspared
  rw [isFile, isFile]
  generalize tree.lookup path = found at hlookup
  generalize after.lookup path = found' at hlookup
  cases hlookup with
  | error e => rfl
  | ok hentry =>
    cases hentry with
    | file hfile hstill => exact congrArg Except.ok (hstill.trans hfile.symm)
    | directory => rfl

/-- A path leads to a directory in both trees, where the same names are listed but for the removed
ones, or nothing can be listed in both for the same reason. -/
theorem Changed.names (h : Changed rewritten removed tree after)
    (hspared : tree.Spares removed path) :
    (∃ e, tree.names path = .error e ∧ after.names path = .error e) ∨
      ∃ listed others, tree.names path = .ok listed ∧ after.names path = .ok others ∧
        others.Perm (listed.filter (tree.location path ++ [·] ∉ removed)) := by
  have hlookup := h.lookup hspared
  generalize hfound : tree.lookup path = found at hlookup
  generalize hfound' : after.lookup path = found' at hlookup
  cases hlookup with
  | error e => exact .inl ⟨e, by rw [FileTree.names, hfound], by rw [FileTree.names, hfound']⟩
  | ok hentry =>
    cases hentry with
    | file hfile hstill =>
      exact .inl ⟨_, names_of_isFile hfound hfile, names_of_isFile hfound' hstill⟩
    | directory _ hnames =>
      refine .inr
        ⟨_, _, names_eq_ok_iff.2 ⟨_, hfound, rfl⟩, names_eq_ok_iff.2 ⟨_, hfound', rfl⟩, ?_⟩
      have hlisted := hnames.map (·.1)
      rw [Entry.kinds, Entry.kinds, List.map_map, List.filter_map, List.map_map] at hlisted
      rw [List.filter_map]
      exact hlisted

end FileTree

end DesignLint
