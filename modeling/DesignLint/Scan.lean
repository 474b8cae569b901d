import DesignLint.Registry

/-! # Scanning a page

Every check inspects the page, and the findings are listed check by check. A check that gives no
result stops the scan:

* `scan`: the findings of some checks;
* `Registry.inspect`: those of the checks that are given, or else of all that are registered. -/

namespace DesignLint

/-- The findings of some checks about a page, in the order of the checks. -/
def scan (page : Page) : List Check → Except CheckFailure (List Finding)
  | [] => .ok []
  | check :: rest => do
    let found ← check.inspect page
    return found ++ (← scan page rest)

/-- The checks of a scan: those that are given, or else all that are registered. -/
def Registry.chosen (registry : Registry) (given : Option (List Check)) : List Check :=
  given.getD registry.checks

/-- The findings about a page of the checks that are given, or else of all that are registered. -/
def Registry.inspect (registry : Registry) (page : Page) (given : Option (List Check)) :
    Except CheckFailure (List Finding) :=
  scan page (registry.chosen given)

end DesignLint
