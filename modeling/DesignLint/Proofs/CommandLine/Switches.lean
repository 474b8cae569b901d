import DesignLint.CommandLine.Basic
import DesignLint.Proofs.Failure

/-! # Switches

The options without a value that change how a run tells about itself. A switch in front of other
arguments is switched on, and it changes nothing else about what they ask for:

* `CommandLine.effect_withSwitch`: arguments take effect the same way with a switch on;
* `CommandLine.parse_cons_switch`: so does a command line behind a switch. -/

namespace DesignLint.CommandLine

/-- Options with a switch on. -/
def Options.withSwitch (options : Options) : Flag → Options
  | .json => { options with json := true }
  | .noColor => { options with noColor := true }
  | .verbose => { options with verbose := true }
  | _ => options

variable {options final : Options} {extras : List Text} {arguments : List Argument}

/-- An option takes effect the same way with a switch on. -/
theorem Options.apply_withSwitch (options : Options) (switch flag : Flag) (value : Text) :
    (options.withSwitch switch).apply flag value
      = (options.apply flag value).map (·.withSwitch switch) := by
  cases switch <;> cases flag <;> rfl

/-- So do options in order. -/
theorem Options.applyAll_withSwitch (options : Options) (switch : Flag)
    (flags : List (Flag × Text)) :
    (options.withSwitch switch).applyAll flags
      = (options.applyAll flags).map (·.withSwitch switch) := by
  induction flags generalizing options with
  | nil => rfl
  | cons entry rest ih =>
    show ((options.withSwitch switch).apply entry.1 entry.2 >>= (·.applyAll rest)) =
      (options.apply entry.1 entry.2 >>= (·.applyAll rest)).map _
    rw [options.apply_withSwitch]
    cases options.apply entry.1 entry.2 with
    | error request => rfl
    | ok next => exact ih next

/-- What ends everything is no lint run. -/
theorem Options.applyAll_ne_lint (options : Options) (flags : List (Flag × Text)) :
    options.applyAll flags ≠ .error (.lint final) := by
  induction flags generalizing options with
  | nil => exact nofun
  | cons entry rest ih =>
    show (options.apply entry.1 entry.2 >>= (·.applyAll rest)) ≠ _
    obtain ⟨flag, value⟩ := entry
    cases flag with
    | help | version => exact nofun
    | _ => exact ih _

/-- **Arguments take effect the same way with a switch on.** -/
theorem effect_withSwitch (switch : Flag)
    (h : effect options extras arguments = .ok (.lint final)) :
    effect (options.withSwitch switch) extras arguments
      = .ok (.lint (final.withSwitch switch)) := by
  -- A switch is set for good, so it does not matter when. Arguments that are refused or that end
  -- everything do not lead to a lint run.
  fun_induction effect options extras arguments with
  | case1 options extras hextras =>
    obtain rfl := Request.lint.inj (Except.ok.inj h)
    rw [effect, if_pos hextras]
  | case2 options extras hextras => exact nomatch h
  | case3 options extras s rest ih =>
    rw [effect]
    exact ih h
  | case4 options extras s rest ih =>
    rw [effect]
    exact ih h
  | case5 options extras rest ih =>
    rw [effect]
    exact ih h
  | case6 options extras flag spelling value rest ih =>
    obtain ⟨flags, hflags, h⟩ := bind_eq_ok_iff.1 h
    rw [effect, hflags, ok_bind, options.applyAll_withSwitch]
    cases happly : options.applyAll flags with
    | error request =>
      rw [happly] at h
      obtain rfl := Except.ok.inj h
      exact absurd happly (Options.applyAll_ne_lint options flags)
    | ok next =>
      rw [happly] at h
      exact ih next h
  | case7 options extras flag spelling rest e htaken => exact nomatch h
  | case8 options extras flag spelling rest flags others htaken request happly =>
    obtain rfl := Except.ok.inj h
    exact absurd happly (Options.applyAll_ne_lint options flags)
  | case9 options extras flag spelling rest flags others htaken next happly ih =>
    rw [effect, htaken]
    dsimp only
    rw [options.applyAll_withSwitch, happly]
    exact ih h

/-- A spelling of an option is that option. -/
theorem classify_of_mem_spellings :
    ∀ entry ∈ Flag.spellings, classify entry.1 = .ok (.option entry.2 entry.1 none) := by
  decide

/-- An option of its own in front of other arguments. -/
theorem classifyAll_cons_of_mem_spellings {entry : Text × Flag} {args : List Text}
    (hentry : entry ∈ Flag.spellings) (hargs : classifyAll args = .ok arguments) :
    classifyAll (entry.1 :: args) = .ok (.option entry.2 entry.1 none :: arguments) := by
  have hseparator : ∀ entry ∈ Flag.spellings, entry.1 ≠ ['-', '-'] := by decide
  rw [classifyAll, classify_of_mem_spellings entry hentry, ok_bind, hargs]
  · rfl
  · exact hseparator entry hentry

/-- The switches. -/
def switches : List Flag := [.json, .noColor, .verbose]

/-- **A switch in front of other arguments** is switched on, and they ask for the same otherwise. -/
theorem parse_cons_switch {args : List Text} {entry : Text × Flag}
    (hargs : parse args = .ok (.lint final)) (hentry : entry ∈ Flag.spellings)
    (hswitch : entry.2 ∈ switches) :
    parse (entry.1 :: args) = .ok (.lint (final.withSwitch entry.2)) := by
  obtain ⟨arguments, harguments, heffect⟩ := bind_eq_ok_iff.1 hargs
  have hdetached : ∀ switch ∈ switches, ∀ arguments,
      detached switch arguments = .ok ([(switch, [])], arguments) := by
    intro switch hswitch arguments
    simp only [switches, List.mem_cons, List.not_mem_nil, or_false] at hswitch
    rcases hswitch with rfl | rfl | rfl <;> rfl
  have happly : ∀ switch ∈ switches, ({} : Options).applyAll [(switch, [])]
      = .ok (({} : Options).withSwitch switch) := by decide
  rw [parse, classifyAll_cons_of_mem_spellings hentry harguments, ok_bind, effect,
    hdetached _ hswitch]
  dsimp only
  rw [happly _ hswitch]
  exact effect_withSwitch entry.2 heffect

end DesignLint.CommandLine
