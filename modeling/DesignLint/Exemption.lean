import DesignLint.Config.Basic

/-! # Exemptions

An exempt page counts as passing and is not read. Policies decide by the name of the page; the
first one that gives a reason wins. -/

namespace DesignLint

/-- A way to exempt pages, with the reason for each pattern. -/
inductive ExemptionPolicy where
  /-- Exempts pages of exactly these names. -/
  | exact (reasons : List (Text × Text))
  /-- Exempts pages whose name begins so; the first beginning in the list wins. -/
  | beginning (reasons : List (Text × Text))
  deriving Repr, DecidableEq

/-- Why a policy exempts a page, if it does. -/
def ExemptionPolicy.reason? : ExemptionPolicy → (page : Text) → Option Text
  | exact reasons, page => reasons.lookup page
  | beginning reasons, page =>
    (reasons.find? fun (start, _) => start.isPrefixOf page).map (·.2)

namespace Exemption

/-- The policies of a configuration. -/
def ofConfig (config : Config) : List ExemptionPolicy :=
  [.exact config.exemptFiles, .beginning config.exemptPrefixes]

/-- Why a page is exempt, if it is. -/
def reason? (policies : List ExemptionPolicy) (page : Text) : Option Text :=
  policies.findSome? (·.reason? page)

/-- Whether a page is exempt. -/
def isExempt (policies : List ExemptionPolicy) (page : Text) : Bool :=
  (reason? policies page).isSome

end Exemption

end DesignLint
