import TeamLegality.Assoc
import TeamLegality.CommandLine
import TeamLegality.Config
import TeamLegality.Decoding.Basic
import TeamLegality.Decoding.Fields
import TeamLegality.Decoding.Issue
import TeamLegality.Decoding.Scalar
import TeamLegality.Dex.Basic
import TeamLegality.Dex.Decoding
import TeamLegality.Dex.Entity
import TeamLegality.Dex.Loading
import TeamLegality.ElementType
import TeamLegality.Error
import TeamLegality.Format.Basic
import TeamLegality.Format.Bundled
import TeamLegality.Format.Decoding
import TeamLegality.Format.Registry
import TeamLegality.Gender
import TeamLegality.HiddenPower
import TeamLegality.Json.Basic
import TeamLegality.Json.Display
import TeamLegality.Json.Reading
import TeamLegality.Legality.BatonPass
import TeamLegality.Legality.Clauses
import TeamLegality.Legality.SetChecks
import TeamLegality.Legality.SetContext
import TeamLegality.Legality.SetReport
import TeamLegality.Legality.TeamReport
import TeamLegality.Main
import TeamLegality.Nature
import TeamLegality.Number.Binary64
import TeamLegality.Number.Reading
import TeamLegality.Number.Shortest
import TeamLegality.Number.Word
import TeamLegality.Proofs.Format.Keys
import TeamLegality.Proofs.Legality.SetChecks
import TeamLegality.Proofs.Resolution.History
import TeamLegality.Proofs.Resolution.Memory
import TeamLegality.Proofs.Resolution.Runs
import TeamLegality.Proofs.Resolution.Steps
import TeamLegality.Proofs.Rule.Grouping
import TeamLegality.Proofs.RuleTable.Bans
import TeamLegality.Proofs.RuleTable.Combinations
import TeamLegality.Proofs.RuleTable.Lookup
import TeamLegality.Proofs.RuleTable.RuleKeys
import TeamLegality.Proofs.Session
import TeamLegality.Rule.Ban
import TeamLegality.Rule.Combination
import TeamLegality.Rule.Key
import TeamLegality.Rule.Spec
import TeamLegality.Rule.Target
import TeamLegality.RuleTable.Basic
import TeamLegality.RuleTable.CustomRules
import TeamLegality.RuleTable.Resolution
import TeamLegality.Session
import TeamLegality.Stats
import TeamLegality.Team.Basic
import TeamLegality.Team.Decoding
import TeamLegality.Team.Document
import TeamLegality.Team.Export
import TeamLegality.Text.Blank
import TeamLegality.Text.Digit
import TeamLegality.Text.Identifier
import TeamLegality.Text.Integer
import TeamLegality.Text.Numeral
import TeamLegality.Text.Printable
import TeamLegality.Text.Quoted
import TeamLegality.Text.Split
import TeamLegality.Proofs.Legality.Reports
import TeamLegality.Proofs.Legality.Acceptance
import TeamLegality.Proofs.Legality.TeamChecks
import TeamLegality.Proofs.Legality.Teams
import TeamLegality.Proofs.Format.Relisting
import TeamLegality.Proofs.RuleTable.Laxness
import TeamLegality.Proofs.Resolution.Relisting
import TeamLegality.Proofs.Legality.Relisting
import TeamLegality.Proofs.Format.Requests
import TeamLegality.Proofs.RuleTable.Origins
import TeamLegality.Proofs.Resolution.Provenance
import TeamLegality.Proofs.Resolution.Requests
import TeamLegality.Proofs.Resolution.Derived
import TeamLegality.Proofs.Resolution.Carriers
import TeamLegality.Proofs.Resolution.CustomRules
import TeamLegality.Proofs.Resolution.Turns
import TeamLegality.Proofs.Resolution.References
import TeamLegality.Proofs.Resolution.Faults
import TeamLegality.Proofs.Resolution.Cycles
import TeamLegality.Proofs.Resolution.Moves
import TeamLegality.Proofs.Legality.Wording
import TeamLegality.Proofs.Legality.Spelling
import TeamLegality.Proofs.Fallible
import TeamLegality.Proofs.Text.Integers
import TeamLegality.Proofs.Text.Parts
import TeamLegality.Proofs.Rule.Reading
import TeamLegality.Proofs.Rule.Printing
import TeamLegality.Proofs.Rule.Naming
import TeamLegality.Proofs.Rule.SyntaxErrors
import TeamLegality.Proofs.RuleTable.Collisions
import TeamLegality.Proofs.Resolution.Failures
import TeamLegality.Proofs.Legality.Boosts
import TeamLegality.Proofs.Legality.HiddenPowers
import TeamLegality.Proofs.Number.Scaling
import TeamLegality.Proofs.Team.Loading
import TeamLegality.Proofs.Legality.Answers
import TeamLegality.Proofs.Text.Lines
import TeamLegality.Proofs.Text.Numerals
import TeamLegality.Proofs.Team.Layout
import TeamLegality.Proofs.Json.Members
import TeamLegality.Proofs.Team.Headers
import TeamLegality.Proofs.Team.Entries
import TeamLegality.Proofs.Team.Sheets
import TeamLegality.Proofs.Resolution.Hooks
import TeamLegality.Proofs.Resolution.Blame
import TeamLegality.Proofs.Resolution.Depth
import TeamLegality.Proofs.Rule.Categories
import TeamLegality.Proofs.Team.Joining
import TeamLegality.Proofs.Team.Normal
import TeamLegality.Proofs.Decoding.Outcomes
import TeamLegality.Proofs.Team.Shapes
import TeamLegality.Proofs.Rule.TargetTexts
import TeamLegality.Proofs.Dex.Generations
import TeamLegality.Proofs.Decoding.Spellings
import TeamLegality.Proofs.Dex.Spellings
import TeamLegality.Proofs.Dex.Mods
import TeamLegality.Proofs.Format.Listing
import TeamLegality.Proofs.Assoc
import TeamLegality.Proofs.Legality.PerfectValues
import TeamLegality.Proofs.Resolution.Identity
