import DesignLint.Exemption
import DesignLint.Proofs.Failure
import Mathlib.Data.List.Nodup

/-! # Which pages are exempt

The reason of an exemption, told without a search. A page is exempt by its name, or else by how its
name begins; of several entries that fit, the first one gives the reason, even an empty one:

* `FirstFit`: the first of some entries whose pattern fits;
* `ExemptionPolicy.reason?_eq_some_iff`, `ExemptionPolicy.reason?_eq_none_iff`: what one policy
  decides;
* `Exemption.reason?_append`: policies behind others decide what these leave open;
* `Exemption.reason?_ofConfig_eq_some_iff`, `Exemption.isExempt_ofConfig_iff`: what the policies of
  a configuration decide;
* `Exemption.reason?_outcome`: all of it. -/

namespace DesignLint

variable {page reason : Text}

/-- Of some patterns with their reasons, the first pattern that fits has this reason. -/
def FirstFit (fits : Text → Prop) (entries : List (Text × Text)) (reason : Text) : Prop :=
  ∃ front pattern back, entries = front ++ (pattern, reason) :: back ∧ fits pattern ∧
    ∀ entry ∈ front, ¬ fits entry.1

/-- Where no pattern is there twice, a pattern that is the only one to fit has its reason. -/
theorem FirstFit.of_mem {entries : List (Text × Text)} (hnodup : (entries.map (·.1)).Nodup)
    (hmem : (page, reason) ∈ entries) : FirstFit (· = page) entries reason := by
  obtain ⟨front, back, rfl⟩ := List.append_of_mem hmem
  rw [List.map_append, List.map_cons, List.nodup_middle, List.nodup_cons] at hnodup
  refine ⟨front, page, back, rfl, rfl, fun entry hentry hpage => ?_⟩
  have hkey : page ∈ front.map (·.1) := List.mem_map.2 ⟨entry, hentry, hpage⟩
  exact hnodup.1 (List.mem_append_left _ hkey)

namespace ExemptionPolicy

/-- The patterns of a policy with their reasons. -/
def entries : ExemptionPolicy → List (Text × Text)
  | exact reasons | beginning reasons => reasons

/-- A pattern of a policy fits a page: it is the name of the page, or a beginning of it. -/
def Fits : ExemptionPolicy → (page pattern : Text) → Prop
  | exact _, page, pattern => pattern = page
  | beginning _, page, pattern => pattern <+: page

/-- **The reason that a policy gives** is that of its first entry that fits. -/
theorem reason?_eq_some_iff {policy : ExemptionPolicy} :
    policy.reason? page = some reason ↔ FirstFit (policy.Fits page) policy.entries reason := by
  cases policy with
  | exact reasons =>
    -- A lookup compares the name with the key, a fit the key with the name.
    rw [reason?, List.lookup_eq_some_iff]
    constructor
    · rintro ⟨front, back, hentries, hfront⟩
      exact ⟨front, page, back, hentries, rfl, fun entry hentry hpage =>
        bne_iff_ne.1 (hfront entry hentry) hpage.symm⟩
    · rintro ⟨front, _, back, hentries, rfl, hfront⟩
      exact ⟨front, back, hentries, fun entry hentry =>
        bne_iff_ne.2 fun hpage => hfront entry hentry hpage.symm⟩
  | beginning reasons =>
    simp only [reason?, Option.map_eq_some_iff, List.find?_eq_some_iff_append,
      List.isPrefixOf_iff_prefix, Bool.not_eq_true', ← Bool.not_eq_true]
    constructor
    · rintro ⟨⟨start, _⟩, ⟨hstart, front, back, hentries, hfront⟩, rfl⟩
      exact ⟨front, start, back, hentries, hstart, hfront⟩
    · rintro ⟨front, start, back, hentries, hstart, hfront⟩
      exact ⟨(start, reason), ⟨hstart, front, back, hentries, hfront⟩, rfl⟩

/-- A policy gives no reason just when none of its patterns fits. -/
theorem reason?_eq_none_iff {policy : ExemptionPolicy} :
    policy.reason? page = none ↔
      ∀ pattern ∈ policy.entries.map (·.1), ¬ policy.Fits page pattern := by
  rw [List.forall_mem_map]
  cases policy with
  | exact reasons =>
    rw [reason?, List.lookup_eq_none_iff]
    refine forall₂_congr fun entry _ => ?_
    rw [bne_iff_ne]
    exact ne_comm
  | beginning reasons =>
    rw [reason?, Option.map_eq_none_iff, List.find?_eq_none]
    refine forall₂_congr fun entry _ => ?_
    rw [List.isPrefixOf_iff_prefix]
    rfl

end ExemptionPolicy

namespace Exemption

/-! ## Policies one behind the other -/

/-- **Policies behind others** decide what these leave open. -/
theorem reason?_append (policies more : List ExemptionPolicy) :
    reason? (policies ++ more) page = (reason? policies page).or (reason? more page) :=
  List.findSome?_append

/-- A page is exempt just when some policy has a pattern that fits. -/
theorem isExempt_iff {policies : List ExemptionPolicy} :
    isExempt policies page = true ↔
      ∃ policy ∈ policies, ∃ pattern ∈ policy.entries.map (·.1), policy.Fits page pattern := by
  rw [isExempt, reason?, List.findSome?_isSome_iff]
  refine exists_congr fun policy => and_congr_right fun _ => ?_
  rw [← Option.ne_none_iff_isSome, Ne, ExemptionPolicy.reason?_eq_none_iff]
  simp only [not_forall, not_not, exists_prop]

/-! ## The policies of a configuration -/

variable {config : Config}

/-- The names decide first, and then the beginnings. -/
theorem reason?_ofConfig :
    reason? (ofConfig config) page = (ExemptionPolicy.reason? (.exact config.exemptFiles) page).or
      (ExemptionPolicy.reason? (.beginning config.exemptPrefixes) page) :=
  findSome?_pair _ _ _

/-- **The reason of a page** is the one given for its name. If its name is not listed, it is that of
the first listed beginning of its name. -/
theorem reason?_ofConfig_eq_some_iff :
    reason? (ofConfig config) page = some reason ↔
      FirstFit (· = page) config.exemptFiles reason ∨
        page ∉ config.exemptFiles.map (·.1) ∧
          FirstFit (· <+: page) config.exemptPrefixes reason := by
  have hname : (∀ name ∈ config.exemptFiles.map (·.1), ¬ name = page)
      ↔ page ∉ config.exemptFiles.map (·.1) := List.forall_mem_ne'
  rw [reason?_ofConfig, Option.or_eq_some_iff, ExemptionPolicy.reason?_eq_some_iff,
    ExemptionPolicy.reason?_eq_none_iff, ExemptionPolicy.reason?_eq_some_iff, ← hname]
  rfl

/-- **A page is exempt** just when its name is listed, or a beginning of it is. -/
theorem isExempt_ofConfig_iff :
    isExempt (ofConfig config) page = true ↔
      page ∈ config.exemptFiles.map (·.1) ∨
        ∃ start ∈ config.exemptPrefixes.map (·.1), start <+: page := by
  have hname : (∃ name ∈ config.exemptFiles.map (·.1), name = page)
      ↔ page ∈ config.exemptFiles.map (·.1) := exists_eq_right
  rw [isExempt_iff, ofConfig, List.exists_mem_cons_iff, ← hname]
  simp only [List.mem_singleton, exists_eq_left]
  rfl

/-- An empty reason is one. -/
example : isExempt (ofConfig { exemptFiles := [(['a'], [])] }) ['a'] = true := by decide

/-- **Which pages are exempt, and why.** The policies of a configuration give the reason listed for
the name of a page, or else that of the first listed beginning of its name, and none if neither is
listed. Neither the reasons nor the order of the entries decide whether a page is exempt. Of any
policies the first one that gives a reason decides, whatever policies stand behind them. -/
theorem reason?_outcome (config : Config) (page : Text) :
    (∀ reason, reason? (ofConfig config) page = some reason ↔
      FirstFit (· = page) config.exemptFiles reason ∨
        page ∉ config.exemptFiles.map (·.1) ∧
          FirstFit (· <+: page) config.exemptPrefixes reason) ∧
    ((config.exemptFiles.map (·.1)).Nodup → ∀ reason, (page, reason) ∈ config.exemptFiles →
      reason? (ofConfig config) page = some reason) ∧
    (reason? (ofConfig config) page = none ↔ page ∉ config.exemptFiles.map (·.1) ∧
      ∀ start ∈ config.exemptPrefixes.map (·.1), ¬ start <+: page) ∧
    (isExempt (ofConfig config) page = true ↔ page ∈ config.exemptFiles.map (·.1) ∨
      ∃ start ∈ config.exemptPrefixes.map (·.1), start <+: page) ∧
    (∀ other : Config,
      (∀ name, name ∈ other.exemptFiles.map (·.1) ↔ name ∈ config.exemptFiles.map (·.1)) →
      (∀ start, start ∈ other.exemptPrefixes.map (·.1) ↔
        start ∈ config.exemptPrefixes.map (·.1)) →
      isExempt (ofConfig other) page = isExempt (ofConfig config) page) ∧
    ∀ policies : List ExemptionPolicy,
      (∀ reason, reason? policies page = some reason ↔
        ∃ front policy back, policies = front ++ policy :: back ∧
          policy.reason? page = some reason ∧ ∀ earlier ∈ front, earlier.reason? page = none) ∧
      (∀ policy ∈ policies, ∀ reason, policy.reason? page = some reason ↔
        FirstFit (policy.Fits page) policy.entries reason) ∧
      ∀ reason more, reason? policies page = some reason →
        reason? (policies ++ more) page = some reason := by
  refine ⟨fun reason => reason?_ofConfig_eq_some_iff, ?_, ?_, isExempt_ofConfig_iff, ?_, ?_⟩
  · intro hnodup reason hmem
    exact reason?_ofConfig_eq_some_iff.2 (.inl (.of_mem hnodup hmem))
  · -- A page without a reason is one that is not exempt.
    have hnone : reason? (ofConfig config) page = none ↔
        ¬ isExempt (ofConfig config) page = true := by
      rw [isExempt, Bool.not_eq_true, Option.isSome_eq_false_iff, Option.isNone_iff_eq_none]
    rw [hnone, isExempt_ofConfig_iff, not_or]
    simp only [not_exists, not_and]
  · intro other hnames hstarts
    rw [Bool.eq_iff_iff, isExempt_ofConfig_iff, isExempt_ofConfig_iff, hnames]
    simp only [hstarts]
  · intro policies
    refine ⟨fun reason => List.findSome?_eq_some_iff,
      fun policy _ reason => ExemptionPolicy.reason?_eq_some_iff, fun reason more h => ?_⟩
    rw [reason?_append, h, Option.some_or]

end Exemption

end DesignLint
