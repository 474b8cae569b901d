import DesignLint.Json.Reader
import DesignLint.Main
import DesignLint.Registry.History
import DesignLint.Text.Lemmas
import DesignLint.Proofs.InlineStyle.Declarations
import DesignLint.Proofs.StyleBlock.LineNumbers
import DesignLint.Proofs.Lint
import DesignLint.Proofs.Palette
import DesignLint.Proofs.DeclaredColors
import DesignLint.Proofs.LongerPage
import DesignLint.Proofs.LowerDown
import DesignLint.Proofs.Exemption
import DesignLint.Proofs.Scan
import DesignLint.Proofs.NewColor
import DesignLint.Proofs.Files.Changed
import DesignLint.Proofs.Failure
import DesignLint.Proofs.Value
import DesignLint.Proofs.Config.Settings
import DesignLint.Proofs.Config.Load
import DesignLint.Proofs.Association
import DesignLint.Proofs.Config.Outcome
import DesignLint.Proofs.Config.NullEntries
import DesignLint.Proofs.RequiredAsset.Advice
import DesignLint.Proofs.Lint.Changed
import DesignLint.Proofs.Lint.PageText
import DesignLint.Proofs.CommandLine.Outcome
import DesignLint.Proofs.Json.Completeness
import DesignLint.Proofs.Json.Reading
import DesignLint.Proofs.Json.Rendering
import DesignLint.Proofs.Report
import DesignLint.Proofs.Report.Lines
import DesignLint.Proofs.Placement
import DesignLint.Proofs.Registry
import DesignLint.Proofs.Palette.AlwaysAllowed
import DesignLint.Proofs.Console.Color
import DesignLint.Proofs.HexColor.Readings
import DesignLint.Proofs.Text.Places
