import SystemSketch.Text.Utf8
import SystemSketch.Analysis
import SystemSketch.Diagram.Markdown
import SystemSketch.Diagram.Reading
import SystemSketch.Diagram.Validity
import SystemSketch.Json.Printer
import SystemSketch.Json.Reader
import SystemSketch.Model.History
import SystemSketch.Rules.Overrides
import SystemSketch.Yaml.Content
import SystemSketch.Exchange.Datum
import SystemSketch.Exchange.Object
import SystemSketch.Exchange.Report
import SystemSketch.Files.Disk
import SystemSketch.Files.Loading
import SystemSketch.Command.Arguments
import SystemSketch.Command.Run
import SystemSketch.Service.Basic
import SystemSketch.Main
import SystemSketch.Text.Lower
import SystemSketch.Service.Target
import SystemSketch.Proofs.Keyed
import SystemSketch.Proofs.Text.Search
import SystemSketch.Proofs.Recognition.Pattern
import SystemSketch.Proofs.Text.Line
import SystemSketch.Proofs.Text.Occurrence
import SystemSketch.Proofs.Model.History
import SystemSketch.Proofs.Model.Answer
import SystemSketch.Proofs.Model.Pass
import SystemSketch.Proofs.Extraction.Identifier
import SystemSketch.Proofs.Analysis.Resolution
import SystemSketch.Proofs.Analysis.Confluence
import SystemSketch.Proofs.Diagram.SafeId
import SystemSketch.Proofs.Diagram.NodeId
import SystemSketch.Proofs.Diagram.Label
import SystemSketch.Proofs.Diagram.Statement
import SystemSketch.Proofs.Diagram.Reading
import SystemSketch.Proofs.Diagram.Render
import SystemSketch.Proofs.Diagram.Growth
import SystemSketch.Proofs.Analysis.Facts
import SystemSketch.Proofs.Analysis.PageOrder
import SystemSketch.Proofs.Analysis.ClassOrder
import SystemSketch.Proofs.Validation.Agreement
import SystemSketch.Proofs.Analysis.Coverage
import SystemSketch.Proofs.Diagram.Broken
import SystemSketch.Proofs.Diagram.Validity
import SystemSketch.Proofs.Validation.Account
import SystemSketch.Proofs.Analysis.Dangling
import SystemSketch.Proofs.Validation.Circuit
import SystemSketch.Proofs.Validation.Walk
import SystemSketch.Proofs.Json.Encoding
import SystemSketch.Proofs.Json.Surrogate
import SystemSketch.Proofs.Service.Sending
import SystemSketch.Proofs.Service.Drawing
import SystemSketch.Proofs.Service.Log
import SystemSketch.Proofs.Files.Tree
import SystemSketch.Proofs.Failure
import SystemSketch.Proofs.Files.Disk
import SystemSketch.Proofs.Files.Loading
import SystemSketch.Proofs.Command.Arguments
import SystemSketch.Proofs.Command.Run
import SystemSketch.Proofs.Recognition.Endpoint
import SystemSketch.Proofs.Recognition.Parameter
import SystemSketch.Proofs.Analysis.Linked
import SystemSketch.Proofs.Extraction.Call
import SystemSketch.Proofs.Extraction.Address
import SystemSketch.Proofs.Model.Drawn
import SystemSketch.Proofs.Validation.Drawn
import SystemSketch.Proofs.Path
import SystemSketch.Proofs.Files.Discovery
import SystemSketch.Proofs.Recognition.Decorator
import SystemSketch.Proofs.Extraction.Classification
import SystemSketch.Proofs.Validation.Looks
import SystemSketch.Proofs.Validation.Repetition
import SystemSketch.Proofs.Validation.Duplicate
import SystemSketch.Proofs.Service.Verdict
import SystemSketch.Proofs.Rules.Overrides
import SystemSketch.Proofs.Rules.StrayKey
import SystemSketch.Proofs.Command.RuleFile
import SystemSketch.Proofs.Text.Spacing
import SystemSketch.Proofs.Diagram.Escape
import SystemSketch.Proofs.Diagram.Markdown
import SystemSketch.Proofs.Exchange.Plain
import SystemSketch.Proofs.Validation.Traversal
import SystemSketch.Proofs.Diagram.Numbering
import SystemSketch.Proofs.Analysis.Collision
import SystemSketch.Proofs.Recognition.Language
import SystemSketch.Proofs.Recognition.Rounds
import SystemSketch.Proofs.Diagram.Declared
import SystemSketch.Proofs.Diagram.Layout
