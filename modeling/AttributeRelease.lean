import AttributeRelease.Config.LogFilter
import AttributeRelease.Config.Source
import AttributeRelease.Definition.Extract
import AttributeRelease.Definition.Mapping
import AttributeRelease.Definition.Scope
import AttributeRelease.Definition.Template
import AttributeRelease.Form.Configuration
import AttributeRelease.Form.Request
import AttributeRelease.Form.Resolution
import AttributeRelease.Form.TextMatch
import AttributeRelease.Form.Written
import AttributeRelease.Graph.Description
import AttributeRelease.Json.Reader
import AttributeRelease.Json.Writer
import AttributeRelease.Pairwise.Connector
import AttributeRelease.Pairwise.Database
import AttributeRelease.Pairwise.Keeper
import AttributeRelease.Resolver.Basic
import AttributeRelease.Resolver.Log
import AttributeRelease.Toml.Reader
import AttributeRelease.Proofs.Attribute.Insertions
import AttributeRelease.Proofs.Graph.CycleSearch
import AttributeRelease.Proofs.Graph.ReportedCycles
import AttributeRelease.Proofs.Graph.Validation
import AttributeRelease.Proofs.Config.Layering
import AttributeRelease.Proofs.Definition.Mappings
import AttributeRelease.Proofs.Definition.Templates
import AttributeRelease.Proofs.Filter.Counting
import AttributeRelease.Proofs.Filter.Laws
import AttributeRelease.Proofs.Form.Acceptance
import AttributeRelease.Proofs.Form.RoundTrips
import AttributeRelease.Proofs.Pairwise.Agreement
import AttributeRelease.Proofs.Pairwise.Attempts
import AttributeRelease.Proofs.Pairwise.Fetches
import AttributeRelease.Proofs.Pairwise.Interchange
import AttributeRelease.Proofs.Pairwise.Retirement
import AttributeRelease.Proofs.Pairwise.Separation
import AttributeRelease.Proofs.Regex.WholeTexts
import AttributeRelease.Proofs.Resolver.Driving
import AttributeRelease.Proofs.Resolver.Failing
import AttributeRelease.Proofs.Resolver.Inputs
import AttributeRelease.Proofs.Resolver.Narrowing
