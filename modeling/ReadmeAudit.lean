import ReadmeAudit.CommandLine
import ReadmeAudit.Main
import ReadmeAudit.Markdown.Document
import ReadmeAudit.Options.Resolution
import ReadmeAudit.Proofs.Audit
import ReadmeAudit.Proofs.Check.Addresses
import ReadmeAudit.Proofs.Check.Assignment
import ReadmeAudit.Proofs.Check.Items
import ReadmeAudit.Proofs.Check.Obstacle
import ReadmeAudit.Proofs.Check.Sections
import ReadmeAudit.Proofs.CommandLine
import ReadmeAudit.Proofs.Files.Path
import ReadmeAudit.Proofs.Files.Tree
import ReadmeAudit.Proofs.Item.Order
import ReadmeAudit.Proofs.Item.Reconciliation
import ReadmeAudit.Proofs.Item.Report
import ReadmeAudit.Proofs.Item.Representation
import ReadmeAudit.Proofs.Markdown.Address
import ReadmeAudit.Proofs.Markdown.Calls
import ReadmeAudit.Proofs.Markdown.LineContent
import ReadmeAudit.Proofs.Markdown.Outermost
import ReadmeAudit.Proofs.Markdown.Protocol
import ReadmeAudit.Proofs.Options.Field
import ReadmeAudit.Proofs.Options.Finalization
import ReadmeAudit.Proofs.Options.Resolution
import ReadmeAudit.Proofs.Options.Unforeseen
import ReadmeAudit.Proofs.Readme.Anchor
import ReadmeAudit.Proofs.Readme.Columns
import ReadmeAudit.Proofs.Readme.Detection
import ReadmeAudit.Proofs.Readme.Documentation
import ReadmeAudit.Proofs.Readme.Inventory
import ReadmeAudit.Proofs.Readme.Links
import ReadmeAudit.Proofs.Readme.Origin
import ReadmeAudit.Proofs.Readme.Overlap
import ReadmeAudit.Proofs.Readme.Range
import ReadmeAudit.Proofs.Readme.Session
import ReadmeAudit.Proofs.SectionName
import ReadmeAudit.Proofs.Subject
import ReadmeAudit.Proofs.Terraform.Declaration
import ReadmeAudit.Proofs.Terraform.Module
import ReadmeAudit.Proofs.Terraform.Obstacle
import ReadmeAudit.Proofs.Terraform.Pool
import ReadmeAudit.Proofs.Terraform.Scan
import ReadmeAudit.Proofs.Terraform.Workspace
import ReadmeAudit.Proofs.Text.Case
import ReadmeAudit.Proofs.Text.EditDistance
import ReadmeAudit.Proofs.Text.EditSequence
import ReadmeAudit.Proofs.Toml.Names
import ReadmeAudit.Proofs.Url
import ReadmeAudit.Readme.Session
import ReadmeAudit.Report
import ReadmeAudit.Subject
import ReadmeAudit.Terraform.Module
