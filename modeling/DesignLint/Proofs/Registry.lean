import DesignLint.Proofs.Scan
import DesignLint.Registry.History
import Mathlib.Data.List.DropRight
import Mathlib.Data.List.Nodup

/-! # What a registry lists

A registry lists the checks whose registration succeeded since it was cleared, and says no for three
reasons, the first of which counts. `Registry.Answer` gives the answer to each operation and
`Registry.registered` the checks, both in terms of what became of the operations before:

* `perform_eq_iff`, `Answer.unique`: the answer to an operation;
* `checks_perform`: one more operation;
* `performAll_outcome`: operations in a row. -/

namespace DesignLint

/-! ## Candidates -/

/-- A candidate is a check just when no part is missing. -/
theorem Candidate.check?_eq_some_iff {candidate : Candidate} {check : Check} :
    candidate.check? = some check ↔ candidate = .ofCheck check := by
  obtain ⟨typeName, name, category, inspect⟩ := candidate
  constructor
  · intro h
    rw [check?] at h
    split at h
    · rename_i hname hcategory hinspect
      dsimp only at hname hcategory hinspect
      obtain rfl := Option.some_inj.1 h
      rw [ofCheck, hname, hcategory, hinspect]
    · exact nomatch h
  · intro h
    rw [h]
    rfl

/-- A candidate is none if a part is missing. -/
theorem Candidate.check?_eq_none_iff {candidate : Candidate} :
    candidate.check? = none ↔
      candidate.name = none ∨ candidate.category = none ∨ candidate.inspect = none := by
  obtain ⟨typeName, name, category, inspect⟩ := candidate
  cases name <;> cases category <;> cases inspect <;> simp [check?]

/-- A candidate is one check at most. -/
theorem Candidate.check_unique {candidate : Candidate} {a b : Check}
    (ha : candidate = .ofCheck a) (hb : candidate = .ofCheck b) : a = b := by
  have hsome : some a = some b :=
    (check?_eq_some_iff.2 ha).symm.trans (check?_eq_some_iff.2 hb)
  exact Option.some_inj.1 hsome

/-- A candidate that lacks a part is no check. -/
theorem Candidate.ne_ofCheck {candidate : Candidate} {check : Check} (h : candidate.name = none ∨
    candidate.category = none ∨ candidate.inspect = none) : candidate ≠ .ofCheck check := by
  intro hcheck
  have hnone := check?_eq_none_iff.2 h
  rw [check?_eq_some_iff.2 hcheck] at hnone
  exact nomatch hnone

namespace Registry

/-! ## Answers -/

/-- The answer to an operation when some checks are registered: why it is refused, or nothing. -/
inductive Answer (registered : List Check) : Operation → Option RegistryError → Prop
  /-- A part is missing. -/
  | incomplete {candidate : Candidate} (hpart : candidate.name = none ∨ candidate.category = none ∨
      candidate.inspect = none) :
      Answer registered (.register candidate) (some (.incomplete candidate.typeName))
  /-- No part is missing, and a check of that name is registered. -/
  | nameTaken {candidate : Candidate} {check existing : Check}
      (hcheck : candidate = .ofCheck check) (hmem : existing ∈ registered)
      (hname : existing.name = check.name) :
      Answer registered (.register candidate)
        (some (.nameTaken check.name existing.typeName check.typeName))
  /-- No part is missing, the name is free, and there is no such category. -/
  | unknownCategory {candidate : Candidate} {check : Check} (hcheck : candidate = .ofCheck check)
      (hfree : ∀ existing ∈ registered, existing.name ≠ check.name)
      (hcategory : check.category ∉ ["inline", "style-block", "document"].map String.toList) :
      Answer registered (.register candidate)
        (some (.unknownCategory check.category check.name))
  /-- The check is registered. -/
  | registered {candidate : Candidate} {check : Check} (hcheck : candidate = .ofCheck check)
      (hfree : ∀ existing ∈ registered, existing.name ≠ check.name)
      (hcategory : check.category ∈ ["inline", "style-block", "document"].map String.toList) :
      Answer registered (.register candidate) none
  /-- Clearing is never refused. -/
  | clear : Answer registered .clear none

variable {registry : Registry} {registered : List Check} {operation : Operation}
  {refusal other : Option RegistryError} {check : Check} {history : List Record} {record : Record}

/-- The known categories, in the order of their checks in reports. -/
theorem mem_knownCategories_iff {category : Text} :
    category ∈ knownCategories ↔
      category ∈ ["inline", "style-block", "document"].map String.toList := by
  have hperm : knownCategories.Perm (["inline", "style-block", "document"].map String.toList) := by
    decide
  exact hperm.mem_iff

/-- A name that is not found is free. -/
theorem find?_eq_none_iff {name : Text} :
    registry.find? name = none ↔ ∀ existing ∈ registry.checks, existing.name ≠ name := by
  simp only [find?, List.find?_eq_none, beq_iff_eq, ne_eq]

/-- The registry behind the registration of a check. -/
theorem checks_of_register {candidate : Candidate} {next : Registry}
    (h : registry.register candidate = .ok next) :
    ∃ check, candidate = .ofCheck check ∧ next.checks = registry.checks ++ [check] ∧
      (∀ existing ∈ registry.checks, existing.name ≠ check.name) ∧
      check.category ∈ knownCategories := by
  rw [register] at h
  split at h
  · exact nomatch h
  · rename_i check hcheck
    split at h
    · exact nomatch h
    · rename_i hfree
      split at h
      · rename_i hknown
        obtain rfl := Except.ok.inj h
        exact ⟨check, Candidate.check?_eq_some_iff.1 hcheck, rfl, find?_eq_none_iff.1 hfree, hknown⟩
      · exact nomatch h

/-- Why a registration is refused. -/
theorem answer_of_register_error {candidate : Candidate} {e : RegistryError}
    (h : registry.register candidate = .error e) :
    Answer registry.checks (.register candidate) (some e) := by
  rw [register] at h
  split at h
  · rename_i hcheck
    obtain rfl := Except.error.inj h
    exact .incomplete (Candidate.check?_eq_none_iff.1 hcheck)
  · rename_i check hcheck
    have hcandidate := Candidate.check?_eq_some_iff.1 hcheck
    split at h
    · rename_i existing hexisting
      obtain rfl := Except.error.inj h
      rw [find?] at hexisting
      exact .nameTaken hcandidate (List.mem_of_find?_eq_some hexisting)
        (beq_iff_eq.1 (List.find?_some hexisting :))
    · rename_i hfree
      split at h
      · exact nomatch h
      · rename_i hknown
        obtain rfl := Except.error.inj h
        exact .unknownCategory hcandidate (find?_eq_none_iff.1 hfree)
          (mt mem_knownCategories_iff.2 hknown)

/-- **A registry answers** as the registered checks have it. -/
theorem answer_perform (registry : Registry) (operation : Operation) :
    Answer registry.checks operation (registry.perform operation).2 := by
  cases operation with
  | clear => exact .clear
  | register candidate =>
    rw [perform]
    cases hregister : registry.register candidate with
    | error e => exact answer_of_register_error hregister
    | ok next =>
      obtain ⟨check, hcandidate, -, hfree, hknown⟩ := checks_of_register hregister
      exact .registered hcandidate hfree (mem_knownCategories_iff.1 hknown)

/-- A name has one check. -/
theorem eq_of_mem_of_name_eq {a b : Check} (hnames : (registered.map (·.name)).Nodup)
    (ha : a ∈ registered) (hb : b ∈ registered) (hname : a.name = b.name) : a = b :=
  List.inj_on_of_nodup_map hnames ha hb hname

/-- There is one answer, since names are distinct. -/
theorem Answer.unique (hnames : (registered.map (·.name)).Nodup)
    (h : Answer registered operation refusal) (hother : Answer registered operation other) :
    other = refusal := by
  -- The conditions of two different answers exclude each other.
  cases h with
  | incomplete hpart =>
    cases hother with
    | incomplete _ => rfl
    | nameTaken hcheck _ _ | unknownCategory hcheck _ _ | registered hcheck _ _ =>
      exact absurd hcheck (Candidate.ne_ofCheck hpart)
  | nameTaken hcheck hmem hname =>
    cases hother with
    | incomplete hpart => exact absurd hcheck (Candidate.ne_ofCheck hpart)
    | nameTaken hcheck' hmem' hname' =>
      obtain rfl := Candidate.check_unique hcheck hcheck'
      rw [eq_of_mem_of_name_eq hnames hmem' hmem (hname'.trans hname.symm)]
    | unknownCategory hcheck' hfree _ | registered hcheck' hfree _ =>
      obtain rfl := Candidate.check_unique hcheck hcheck'
      exact absurd hname (hfree _ hmem)
  | unknownCategory hcheck hfree hcategory =>
    cases hother with
    | incomplete hpart => exact absurd hcheck (Candidate.ne_ofCheck hpart)
    | nameTaken hcheck' hmem hname =>
      obtain rfl := Candidate.check_unique hcheck hcheck'
      exact absurd hname (hfree _ hmem)
    | unknownCategory hcheck' _ _ =>
      obtain rfl := Candidate.check_unique hcheck hcheck'
      rfl
    | registered hcheck' _ hcategory' =>
      obtain rfl := Candidate.check_unique hcheck hcheck'
      exact absurd hcategory' hcategory
  | registered hcheck hfree hcategory =>
    cases hother with
    | incomplete hpart => exact absurd hcheck (Candidate.ne_ofCheck hpart)
    | nameTaken hcheck' hmem hname =>
      obtain rfl := Candidate.check_unique hcheck hcheck'
      exact absurd hname (hfree _ hmem)
    | unknownCategory hcheck' _ hcategory' =>
      obtain rfl := Candidate.check_unique hcheck hcheck'
      exact absurd hcategory hcategory'
    | registered _ _ _ => rfl
  | clear =>
    cases hother
    rfl

/-- **The answer to an operation** is the one that the registered checks demand. -/
theorem perform_eq_iff :
    (registry.perform operation).2 = refusal ↔ Answer registry.checks operation refusal := by
  have hanswer := registry.answer_perform operation
  constructor
  · rintro rfl
    exact hanswer
  · intro h
    exact h.unique registry.names_nodup hanswer

/-- What is refused changes nothing. -/
theorem perform_of_refusal {e : RegistryError} (h : (registry.perform operation).2 = some e) :
    (registry.perform operation).1 = registry := by
  cases operation with
  | clear => exact nomatch h
  | register candidate =>
    rw [perform] at h ⊢
    cases hregister : registry.register candidate with
    | error e => rfl
    | ok next =>
      rw [hregister] at h
      exact nomatch h

/-! ## What is registered -/

/-- Whether a record is about a clearing. -/
def Record.isClear (record : Record) : Bool :=
  match record.operation with
  | .clear => true
  | .register _ => false

/-- The check that was registered; none if the operation was another one or was refused. -/
def Record.check? (record : Record) : Option Check :=
  match record.operation, record.refusal with
  | .register candidate, none => candidate.check?
  | _, _ => none

/-- The part of a history behind its last clearing. -/
def sinceClear (history : List Record) : List Record := history.rtakeWhile (!·.isClear)

/-- **The checks whose registration succeeded since the last clearing**, in the order of their
registration. -/
def registeredBy (history : List Record) : List Check := (sinceClear history).filterMap (·.check?)

/-- Behind a clearing nothing is registered. -/
theorem registeredBy_clear (history : List Record) {refusal : Option RegistryError} :
    registeredBy (history ++ [⟨.clear, refusal⟩]) = [] := by
  rw [registeredBy, sinceClear, List.rtakeWhile_concat_neg]
  · rfl
  · exact Bool.false_ne_true

/-- A registration adds its check to the registered ones. -/
theorem registeredBy_register (history : List Record) (candidate : Candidate)
    (refusal : Option RegistryError) :
    registeredBy (history ++ [⟨.register candidate, refusal⟩])
      = registeredBy history ++ (Record.check? ⟨.register candidate, refusal⟩).toList := by
  rw [registeredBy, sinceClear, List.rtakeWhile_concat_pos, List.filterMap_append]
  · rfl
  · rfl

/-- **One more operation**: if a registry lists what a history registered, it does so afterwards. -/
theorem checks_perform (h : registry.checks = registeredBy history) :
    (registry.perform operation).1.checks
      = registeredBy (history ++ [⟨operation, (registry.perform operation).2⟩]) := by
  cases operation with
  | clear => rw [registeredBy_clear, perform, empty]
  | register candidate =>
    rw [registeredBy_register, ← h, perform]
    cases hregister : registry.register candidate with
    | error e => exact (List.append_nil _).symm
    | ok next =>
      obtain ⟨check, hcandidate, hchecks, -⟩ := checks_of_register hregister
      show next.checks = registry.checks ++ candidate.check?.toList
      rw [hchecks, Candidate.check?_eq_some_iff.2 hcandidate, Option.toList_some]

/-! ## Operations in a row -/

/-- One more operation at the end. -/
theorem performAll_concat (registry : Registry) (operations : List Operation)
    (operation : Operation) :
    registry.performAll (operations ++ [operation]) =
      (((registry.performAll operations).1.perform operation).1,
        (registry.performAll operations).2 ++
          [⟨operation, ((registry.performAll operations).1.perform operation).2⟩]) := by
  induction operations generalizing registry with
  | nil => rfl
  | cons first rest ih =>
    rw [List.cons_append, performAll, performAll]
    dsimp only
    rw [ih]
    rfl

/-- The history of some operations lists them in order. -/
theorem map_operation_performAll (registry : Registry) (operations : List Operation) :
    (registry.performAll operations).2.map (·.operation) = operations := by
  induction operations generalizing registry with
  | nil => rfl
  | cons first rest ih =>
    rw [performAll]
    dsimp only
    rw [List.map_cons, ih]

/-- **Operations in a row**: a registry lists what its history registered. -/
theorem checks_performAll (operations : List Operation) :
    (empty.performAll operations).1.checks = registeredBy (empty.performAll operations).2 := by
  induction operations using List.reverseRecOn with
  | nil => rfl
  | append_singleton operations operation ih =>
    rw [performAll_concat]
    exact checks_perform ih

/-- Each operation was answered as the checks demand that were registered before. -/
theorem answer_of_performAll (operations : List Operation) {before after : List Record}
    (h : (empty.performAll operations).2 = before ++ record :: after) :
    Answer (registeredBy before) record.operation record.refusal := by
  -- Induction from the end, since the last operation meets the registry that all others left.
  induction operations using List.reverseRecOn generalizing after with
  | nil => exact absurd h.symm (List.append_ne_nil_of_right_ne_nil _ (List.cons_ne_nil _ _))
  | append_singleton operations operation ih =>
    rw [performAll_concat] at h
    rcases List.eq_nil_or_concat after with rfl | ⟨after, last, rfl⟩
    · obtain ⟨rfl, hrecord⟩ := List.append_inj' h rfl
      obtain rfl := (List.cons.inj hrecord).1
      rw [← checks_performAll]
      exact answer_perform _ operation
    · rw [List.concat_eq_append, ← List.cons_append, ← List.append_assoc] at h
      exact ih (List.append_inj' h rfl).1

/-- A registry lists some checks, whose names differ and whose categories are known. -/
structure Lists (registry : Registry) (listed : List Check) : Prop where
  /-- The checks, in their order. -/
  checks : registry.checks = listed
  /-- Their names differ. -/
  names : (listed.map (·.name)).Nodup
  /-- Their categories are known. -/
  category : ∀ check ∈ listed,
    check.category ∈ ["inline", "style-block", "document"].map String.toList
  /-- They are counted. -/
  size : registry.size = listed.length
  /-- Their names and no others are contained. -/
  contains_iff : ∀ name, registry.contains name = true ↔ ∃ check ∈ listed, check.name = name

/-- A registry lists its checks. -/
theorem lists_checks (registry : Registry) : registry.Lists registry.checks where
  checks := rfl
  names := registry.names_nodup
  category check hcheck := mem_knownCategories_iff.1 (registry.category_known check hcheck)
  size := rfl
  contains_iff name := by rw [Registry.contains_iff, List.mem_map]

/-- **Operations in a row** on the registry without a check. It lists the checks whose registration
succeeded since the last clearing. Each operation was answered as the checks demand that were
registered before it, and the next one will be, and one that is refused changes nothing. A scan runs
the listed checks once each in their order, or else the checks that it is given. -/
theorem performAll_outcome (operations : List Operation) :
    ∃ registry history, empty.performAll operations = (registry, history) ∧
      history.map (·.operation) = operations ∧
      registry.Lists (registeredBy history) ∧
      (∀ before record after, history = before ++ record :: after →
        Answer (registeredBy before) record.operation record.refusal) ∧
      (∀ operation refusal, (registry.perform operation).2 = refusal ↔
        Answer (registeredBy history) operation refusal) ∧
      (∀ operation e, (registry.perform operation).2 = some e →
        (registry.perform operation).1 = registry) ∧
      (∀ page, registry.inspect page none = scan page (registeredBy history)) ∧
      (∀ page given, registry.inspect page (some given) = scan page given) ∧
      ∀ page checks,
        (∀ found, scan page checks = .ok found ↔ ∃ parts,
          List.Forall₂ (fun check part => check.inspect page = .ok part) checks parts ∧
            found = parts.flatten) ∧
        ∀ e, scan page checks = .error e ↔ ∃ before check after, checks = before ++ check :: after ∧
          check.inspect page = .error e ∧
            ∀ earlier ∈ before, ∃ part, earlier.inspect page = .ok part := by
  have hchecks := checks_performAll operations
  refine ⟨_, _, rfl, map_operation_performAll empty operations, ?_, ?_, ?_, ?_, ?_, ?_, ?_⟩
  · rw [← hchecks]
    exact lists_checks _
  · intro before record after h
    exact answer_of_performAll operations h
  · intro operation refusal
    rw [← hchecks]
    exact perform_eq_iff
  · intro operation e h
    exact perform_of_refusal h
  · intro page
    rw [← hchecks]
    rfl
  · intro page given
    rfl
  · intro page checks
    exact ⟨fun found => scan_eq_ok_iff, fun e => scan_eq_error_iff⟩

end Registry

end DesignLint
