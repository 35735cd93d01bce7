import SiteAudit.Json.Decode
import SiteAudit.Program.Run
import SiteAudit.Watch.Observation
import SiteAudit.Main
import SiteAudit.Proofs.Batch.Completion
import SiteAudit.Proofs.Program.Verdict
import SiteAudit.Proofs.Rules.Compliance
import SiteAudit.Proofs.Rules.Shape
import SiteAudit.Proofs.Markup.Navigation
import SiteAudit.Proofs.Markup.Places
import SiteAudit.Proofs.Rules.Places
import SiteAudit.Proofs.Rules.Composition
import SiteAudit.Proofs.Markup.Lexemes
import SiteAudit.Proofs.Markup.Openings
import SiteAudit.Proofs.Markup.Lines
import SiteAudit.Proofs.Rules.Lines
import SiteAudit.Proofs.Rules.RoundTrip
import SiteAudit.Proofs.Json.Grammar
import SiteAudit.Proofs.Json.Reading
import SiteAudit.Proofs.Json.Writing
import SiteAudit.Proofs.Report.Lossless
import SiteAudit.Proofs.Program.MachineOutput
import SiteAudit.Proofs.Rules.Faults
import SiteAudit.Proofs.Watch.Debounce
import SiteAudit.Proofs.Batch.Names
import SiteAudit.Proofs.Report.Order
import SiteAudit.Proofs.Discovery.Selection
import SiteAudit.Proofs.Watch.Survival
import SiteAudit.Proofs.Watch.Roots
import SiteAudit.Proofs.Watch.Freshness
import SiteAudit.Proofs.Rules.Headings
import SiteAudit.Proofs.Rules.Identifiers
import SiteAudit.Proofs.Report.Layout
import SiteAudit.Proofs.Discovery.Exclusions
import SiteAudit.Proofs.Discovery.Pages
import SiteAudit.Proofs.Rules.Focus
import SiteAudit.Proofs.Markup.VisibleText
import SiteAudit.Proofs.Catalog.Rendering
import SiteAudit.Proofs.Program.Resolution
import SiteAudit.Proofs.Batch.Contents
import SiteAudit.Proofs.Batch.Display
import SiteAudit.Proofs.Config.Judgement
