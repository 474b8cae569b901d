import DesignLint.Files.Tree
import DesignLint.Proofs.Text.Lines

/-! # Looking up the entries of a directory

A path with one more name at its end leads to the entry of that name in the directory to which the
path leads:

* `Listing entries`: a file system can hold a directory with these entries;
* `WithinLimits tree path`: the path is not too long, and no name along it is;
* `lookup_append`: under these conditions, the lookup of an entry. -/

namespace DesignLint

open Text

/-! ## Written paths -/

/-- A written path has a NUL just when one of its names has. -/
theorem Path.nul_mem_text_iff {path : Path} :
    '\x00' ∈ path.text ↔ ∃ part ∈ path.parts, '\x00' ∈ part := by
  have hstart : '\x00' ∉ startText path.start := by
    cases path.start <;> decide
  have hslash : '\x00' ∉ ['/'] := by decide
  rw [← mem_joined_iff hslash, text]
  split
  · rename_i h
    rw [(List.append_eq_nil_iff.1 h).2]
    decide
  · rw [List.mem_append, or_iff_right hstart]

namespace FileTree

/-! ## Lookup -/

/-- No limit of the file system keeps a path from being looked up. -/
def WithinLimits (tree : FileTree) (path : Path) : Prop :=
  ∀ shown, tree.lookup path ≠ .error (.lookup .nameTooLong shown)

/-- A path that leads somewhere is within the limits. -/
theorem withinLimits_of_lookup {tree : FileTree} {path : Path} {entry : Entry}
    (h : tree.lookup path = .ok entry) : tree.WithinLimits path := by
  intro shown herror
  rw [h] at herror
  exact nomatch herror

/-- A name other than `..` leads from a directory to its entry of that name. -/
theorem follow_cons (above : List Entry) (entries : List (Text × Entry)) {part : Text}
    (rest : List Text) (hparent : part ≠ ['.', '.']) :
    follow above (.directory entries) (part :: rest)
      = if maxNameSize < Utf8.size part then .error .nameTooLong
        else match entries.lookup part with
          | none => .error .missing
          | some entry => follow (.directory entries :: above) entry rest := by
  rw [follow.eq_def]
  exact if_neg hparent

/-- Where there are no names, nothing is left to follow. -/
theorem follow_nil (above : List Entry) (entry : Entry) : follow above entry [] = .ok entry :=
  follow.eq_def ..

/-- `..` leads to the directory above. -/
theorem follow_parent (above : List Entry) (entries : List (Text × Entry)) (rest : List Text) :
    follow above (.directory entries) (['.', '.'] :: rest)
      = match above with
        | [] => follow [] (.directory entries) rest
        | parent :: above => follow above parent rest := by
  rw [follow.eq_def]
  exact if_pos rfl

/-- A name further, what a path denotes is a name further from the top. -/
theorem partsFromTop_append (tree : FileTree) (path : Path) (name : Text) :
    tree.partsFromTop ⟨path.start, path.parts ++ [name]⟩ = tree.partsFromTop path ++ [name] := by
  rw [partsFromTop, partsFromTop]
  cases path.start with
  | relative => exact (List.append_assoc _ _ _).symm
  | top => rfl
  | doubleSlash => rfl

/-- No names lead on from a regular file. -/
theorem follow_of_isFile (above : List Entry) {entry : Entry} (h : entry.isFile = true)
    (part : Text) (rest : List Text) :
    follow above entry (part :: rest) = .error .notDirectory := by
  cases entry with
  | directory entries => exact nomatch h
  | _ => rw [follow.eq_def]

/-- What stands behind some names is followed from where these lead. -/
theorem exists_follow_append {above : List Entry} {start target : Entry} {parts : List Text}
    (h : follow above start parts = .ok target) (more : List Text) :
    ∃ above', follow above start (parts ++ more) = follow above' target more := by
  fun_induction follow above start parts with
  | case1 above entry =>
    obtain rfl := Except.ok.inj h
    exact ⟨above, rfl⟩
  | case2 above content part rest => exact nomatch h
  | case3 above failure part rest => exact nomatch h
  | case4 entries rest ih =>
    -- Above the top is the top itself, so `..` leads on from the same directory.
    obtain ⟨above', hrest⟩ := ih h
    exact ⟨above', by rw [← hrest, List.cons_append, follow.eq_def]; exact if_pos rfl⟩
  | case5 entries rest parent above ih =>
    obtain ⟨above', hrest⟩ := ih h
    exact ⟨above', by rw [← hrest, List.cons_append, follow.eq_def]; exact if_pos rfl⟩
  | case6 above entries part rest hparent hlong => exact nomatch h
  | case7 above entries part rest hparent hfits hmissing => exact nomatch h
  | case8 above entries part rest hparent hfits entry hfound ih =>
    obtain ⟨above', hrest⟩ := ih h
    refine ⟨above', ?_⟩
    rw [← hrest, List.cons_append, follow_cons _ _ _ hparent, if_neg hfits, hfound]

/-- What a path without a NUL leads to. -/
theorem lookup_eq {tree : FileTree} {path : Path} (hnul : '\x00' ∉ path.text) :
    tree.lookup path = if maxPathSize < Utf8.size path.text then
      .error (.lookup .nameTooLong path.text)
    else (follow [] tree.top (tree.partsFromTop path)).mapError (.lookup · path.text) := by
  rw [lookup, if_neg]
  rw [List.contains_iff_mem]
  exact hnul

/-- A path that leads somewhere has no NUL, and its names lead there. -/
theorem follow_eq_ok_of_lookup {tree : FileTree} {path : Path} {entry : Entry}
    (h : tree.lookup path = .ok entry) :
    '\x00' ∉ path.text ∧ follow [] tree.top (tree.partsFromTop path) = .ok entry := by
  by_cases hnul : '\x00' ∈ path.text
  · rw [lookup, if_pos (List.contains_iff_mem.2 hnul)] at h
    exact nomatch h
  · refine ⟨hnul, ?_⟩
    rw [lookup_eq hnul] at h
    split at h
    · exact nomatch h
    · cases hfollow : follow [] tree.top (tree.partsFromTop path) with
      | error failure =>
        rw [hfollow] at h
        exact nomatch h
      | ok target =>
        rw [hfollow] at h
        exact congrArg Except.ok (Except.ok.inj h)

/-- Within the limits, a path leads where its names lead. -/
theorem WithinLimits.lookup_eq_ok {tree : FileTree} {path : Path} {entry : Entry}
    (hlimits : tree.WithinLimits path) (hnul : '\x00' ∉ path.text)
    (hfollow : follow [] tree.top (tree.partsFromTop path) = .error .nameTooLong ∨
      follow [] tree.top (tree.partsFromTop path) = .ok entry) : tree.lookup path = .ok entry := by
  have hshown := hlimits path.text
  rw [lookup_eq hnul] at hshown ⊢
  split at hshown
  · exact absurd rfl hshown
  · rename_i hsize
    rw [if_neg hsize]
    rcases hfollow with hfollow | hfollow
    · rw [hfollow] at hshown
      exact absurd rfl hshown
    · rw [hfollow]
      rfl

/-- Bytes are read off regular files. -/
theorem read_eq_ok_iff {tree : FileTree} {path : Path} {content : List UInt8} :
    tree.read path = .ok content ↔ tree.lookup path = .ok (.file content) := by
  rw [read]
  cases tree.lookup path with
  | error e => simp
  | ok entry =>
    cases entry with
    | file other => simp
    | unreadable failure => simp
    | directory entries => simp

/-- A path that leads to an entry leads to a regular file if the entry is one. -/
theorem isFile_of_lookup {tree : FileTree} {path : Path} {entry : Entry}
    (h : tree.lookup path = .ok entry) : tree.isFile path = .ok entry.isFile := by
  rw [isFile, h]

/-- It can be said what a path leads to, unless a limit of the file system is exceeded. -/
theorem exists_of_isFile_eq_error {tree : FileTree} {path : Path} {e : AccessError}
    (h : tree.isFile path = .error e) : ∃ shown, e = .lookup .nameTooLong shown := by
  rw [isFile] at h
  split at h
  · exact nomatch h
  · exact ⟨_, (Except.error.inj h).symm⟩
  · exact nomatch h

/-- A path with a NUL leads to no regular file. -/
theorem isFile_of_nul (tree : FileTree) {path : Path} (h : '\x00' ∈ path.text) :
    tree.isFile path = .ok false := by
  rw [isFile, lookup, if_pos (List.contains_iff_mem.2 h)]

/-- If it can be said what a path leads to, then no limit is exceeded. -/
theorem withinLimits_of_isFile {tree : FileTree} {path : Path} {answer : Bool}
    (h : tree.isFile path = .ok answer) : tree.WithinLimits path := by
  intro shown herror
  rw [isFile, herror] at h
  exact nomatch h

/-- Names are listed off directories. -/
theorem names_eq_ok_iff {tree : FileTree} {path : Path} {names : List Text} :
    tree.names path = .ok names ↔
      ∃ entries, tree.lookup path = .ok (.directory entries) ∧ entries.map (·.1) = names := by
  rw [FileTree.names]
  cases tree.lookup path with
  | error e => simp
  | ok entry =>
    cases entry with
    | file content => simp
    | unreadable failure => simp
    | directory entries => simp

/-- Nothing is listed off regular files. -/
theorem names_of_isFile {tree : FileTree} {path : Path} {entry : Entry}
    (h : tree.lookup path = .ok entry) (hfile : entry.isFile = true) :
    tree.names path = .error (.lookup .notDirectory path.text) := by
  rw [names, h]
  cases entry with
  | directory entries => exact nomatch hfile
  | _ => rfl

/-- The entries of a directory: no two of them have one name, and no name is `..` or has a NUL. -/
structure Listing (entries : List (Text × Entry)) : Prop where
  /-- No name is there twice. -/
  nodup : (entries.map (·.1)).Nodup
  /-- No entry is named like the directory above. -/
  ne_parent : ∀ name ∈ entries.map (·.1), name ≠ ['.', '.']
  /-- No name has a NUL. -/
  no_nul : ∀ name ∈ entries.map (·.1), '\x00' ∉ name

/-- An entry of a directory is found by its name. -/
theorem Listing.lookup_eq_some {entries : List (Text × Entry)} {name : Text} {entry : Entry}
    (h : Listing entries) (hentry : (name, entry) ∈ entries) :
    entries.lookup name = some entry := by
  obtain ⟨before, after, rfl⟩ := List.append_of_mem hentry
  refine List.lookup_eq_some_iff.2 ⟨before, after, rfl, fun other hother => ?_⟩
  have hnodup := h.nodup
  rw [List.map_append, List.map_cons, List.nodup_append] at hnodup
  have hne := hnodup.2.2 other.1 (List.mem_map_of_mem hother) name List.mem_cons_self
  rw [bne_iff_ne]
  exact hne.symm

/-- No two files of a directory have one name. -/
theorem Listing.content_unique {entries : List (Text × Entry)} {name : Text}
    {content other : List UInt8} (h : Listing entries) (hcontent : (name, .file content) ∈ entries)
    (hother : (name, .file other) ∈ entries) : content = other := by
  have hlookup := h.lookup_eq_some hcontent
  rw [h.lookup_eq_some hother, Option.some_inj, Entry.file.injEq] at hlookup
  exact hlookup.symm

/-- A listed name leads on from a directory, to the entry of that name unless it is `..`; or it is
too long. -/
theorem follow_append_of_listed {above : List Entry} {start : Entry} {parts : List Text}
    {entries : List (Text × Entry)} {name : Text}
    (h : follow above start parts = .ok (.directory entries)) (hname : name ∈ entries.map (·.1)) :
    follow above start (parts ++ [name]) = .error .nameTooLong ∨
      ∃ entry, follow above start (parts ++ [name]) = .ok entry ∧
        (name ≠ ['.', '.'] → entries.lookup name = some entry) := by
  obtain ⟨above', happend⟩ := exists_follow_append h [name]
  rw [happend]
  by_cases hparent : name = ['.', '.']
  · -- `..` leads to the directory above, or to the top itself.
    rw [hparent, follow_parent]
    cases above' with
    | nil => exact .inr ⟨_, follow_nil _ _, fun hne => absurd rfl hne⟩
    | cons parent above' => exact .inr ⟨_, follow_nil _ _, fun hne => absurd rfl hne⟩
  · rw [follow_cons _ _ _ hparent]
    by_cases hlong : maxNameSize < Utf8.size name
    · exact .inl (if_pos hlong)
    · obtain ⟨entry, hentry⟩ : ∃ entry, entries.lookup name = some entry := by
        rw [← Option.isSome_iff_exists, List.lookup_isSome_iff]
        obtain ⟨listed, hlisted, rfl⟩ := List.mem_map.1 hname
        exact ⟨listed, hlisted, beq_self_eq_true _⟩
      rw [if_neg hlong, hentry]
      exact .inr ⟨entry, follow_nil _ _, fun _ => rfl⟩

/-- A name further, a path leads somewhere if the name is listed. -/
theorem WithinLimits.exists_lookup_append {tree : FileTree} {path : Path}
    {entries : List (Text × Entry)} {name : Text}
    (hlimits : tree.WithinLimits ⟨path.start, path.parts ++ [name]⟩)
    (hpath : tree.lookup path = .ok (.directory entries)) (hname : name ∈ entries.map (·.1))
    (hnul : '\x00' ∉ Path.text ⟨path.start, path.parts ++ [name]⟩) :
    ∃ entry, tree.lookup ⟨path.start, path.parts ++ [name]⟩ = .ok entry := by
  have hfollow := follow_append_of_listed (follow_eq_ok_of_lookup hpath).2 hname
  rw [← partsFromTop_append] at hfollow
  rcases hfollow with hlong | ⟨entry, hentry, -⟩
  · exact ⟨.empty, hlimits.lookup_eq_ok hnul (.inl hlong)⟩
  · exact ⟨entry, hlimits.lookup_eq_ok hnul (.inr hentry)⟩

/-- **A name further, a path leads from a directory to the entry of that name.** -/
theorem lookup_append {tree : FileTree} {path : Path} {entries : List (Text × Entry)} {name : Text}
    {entry : Entry} (hpath : tree.lookup path = .ok (.directory entries)) (h : Listing entries)
    (hentry : (name, entry) ∈ entries)
    (hlimits : tree.WithinLimits ⟨path.start, path.parts ++ [name]⟩) :
    tree.lookup ⟨path.start, path.parts ++ [name]⟩ = .ok entry := by
  have hname : name ∈ entries.map (·.1) := List.mem_map_of_mem hentry
  obtain ⟨hpathNul, hpathFollow⟩ := follow_eq_ok_of_lookup hpath
  have hfollow := follow_append_of_listed hpathFollow hname
  rw [← partsFromTop_append] at hfollow
  refine hlimits.lookup_eq_ok ?_ (hfollow.imp_right ?_)
  · rw [Path.nul_mem_text_iff] at hpathNul ⊢
    rintro ⟨part, hpart, hmem⟩
    rcases List.mem_append.1 hpart with hpart | hpart
    · exact hpathNul ⟨part, hpart, hmem⟩
    · exact h.no_nul name hname (List.mem_singleton.1 hpart ▸ hmem)
  · rintro ⟨found, hfound, hlookup⟩
    have hsame := hlookup (h.ne_parent name hname)
    rw [h.lookup_eq_some hentry, Option.some_inj] at hsame
    rw [hfound, hsame]

end FileTree

end DesignLint
