import ParamTemplate.CommandLine.Argument
import ParamTemplate.CommandLine.Files
import ParamTemplate.CommandLine.Options
import ParamTemplate.CommandLine.Run
import ParamTemplate.CommandLine.Source
import ParamTemplate.CommandLine.UsageError
import ParamTemplate.Main
import ParamTemplate.Proofs.CommandLine.Modes
import ParamTemplate.Proofs.CommandLine.Outcome
import ParamTemplate.Proofs.CommandLine.Records
import ParamTemplate.Proofs.CommandLine.Sources
import ParamTemplate.Proofs.CommandLine.Writing
import ParamTemplate.Proofs.Regex.Adding
import ParamTemplate.Proofs.Regex.Assertions
import ParamTemplate.Proofs.Regex.Branching
import ParamTemplate.Proofs.Regex.Building
import ParamTemplate.Proofs.Regex.Capturing
import ParamTemplate.Proofs.Regex.Choosing
import ParamTemplate.Proofs.Regex.Directives
import ParamTemplate.Proofs.Regex.Exchanging
import ParamTemplate.Proofs.Regex.Greed
import ParamTemplate.Proofs.Regex.Groups
import ParamTemplate.Proofs.Regex.Keeping
import ParamTemplate.Proofs.Regex.Lasting
import ParamTemplate.Proofs.Regex.Limits
import ParamTemplate.Proofs.Regex.Matching
import ParamTemplate.Proofs.Regex.Measuring
import ParamTemplate.Proofs.Regex.Naming
import ParamTemplate.Proofs.Regex.Parts
import ParamTemplate.Proofs.Regex.Passage
import ParamTemplate.Proofs.Regex.Paths
import ParamTemplate.Proofs.Regex.Placing
import ParamTemplate.Proofs.Regex.Preference
import ParamTemplate.Proofs.Regex.Reader.Alike
import ParamTemplate.Proofs.Regex.Reader.Ending
import ParamTemplate.Proofs.Regex.Reader.Frame
import ParamTemplate.Proofs.Regex.Reader.Framing
import ParamTemplate.Proofs.Regex.Reader.Joining
import ParamTemplate.Proofs.Regex.Reader.LineFeed
import ParamTemplate.Proofs.Regex.Reader.Lockstep
import ParamTemplate.Proofs.Regex.Reader.Moves
import ParamTemplate.Proofs.Regex.Reader.Numbering
import ParamTemplate.Proofs.Regex.Reader.Regrouping
import ParamTemplate.Proofs.Regex.Reader.Sequence
import ParamTemplate.Proofs.Regex.Reader.Steady
import ParamTemplate.Proofs.Regex.Reader.Stripped
import ParamTemplate.Proofs.Regex.Relabelling
import ParamTemplate.Proofs.Regex.Renumbering
import ParamTemplate.Proofs.Regex.Searching
import ParamTemplate.Proofs.Regex.Simplifying
import ParamTemplate.Proofs.Regex.Stripping
import ParamTemplate.Proofs.Regex.Substituting
import ParamTemplate.Proofs.Regex.Surviving
import ParamTemplate.Proofs.Regex.Tying
import ParamTemplate.Proofs.Regex.Uncounting
import ParamTemplate.Proofs.Regex.Ungrouping
import ParamTemplate.Proofs.Report.Colouring
import ParamTemplate.Proofs.Template.Accepting
import ParamTemplate.Proofs.Template.Anchoring
import ParamTemplate.Proofs.Template.Assembling
import ParamTemplate.Proofs.Template.Counting
import ParamTemplate.Proofs.Template.Cutting
import ParamTemplate.Proofs.Template.Evaluating
import ParamTemplate.Proofs.Template.Filling
import ParamTemplate.Proofs.Template.Finding
import ParamTemplate.Proofs.Template.Hiding
import ParamTemplate.Proofs.Template.Holding
import ParamTemplate.Proofs.Template.Numbering
import ParamTemplate.Proofs.Template.Occurrence
import ParamTemplate.Proofs.Template.Piecewise
import ParamTemplate.Proofs.Template.Printing
import ParamTemplate.Proofs.Template.Refusing
import ParamTemplate.Proofs.Template.Regrouping
import ParamTemplate.Proofs.Template.Splitting
import ParamTemplate.Proofs.Template.Ungrouping
import ParamTemplate.Proofs.Template.Values
import ParamTemplate.Proofs.Template.Wrapping
import ParamTemplate.Proofs.Text.Decoding
import ParamTemplate.Proofs.Text.Lining
import ParamTemplate.Proofs.Text.Records
import ParamTemplate.Proofs.Text.Terminal
import ParamTemplate.Regex
import ParamTemplate.Regex.Diagnostic
import ParamTemplate.Regex.Expr
import ParamTemplate.Regex.Fault
import ParamTemplate.Regex.Footprint
import ParamTemplate.Regex.Look
import ParamTemplate.Regex.Meaning
import ParamTemplate.Regex.Pattern
import ParamTemplate.Regex.Position
import ParamTemplate.Regex.Program
import ParamTemplate.Regex.Reader
import ParamTemplate.Regex.Reader.Basic
import ParamTemplate.Regex.Reader.Brackets
import ParamTemplate.Regex.Reader.Escape
import ParamTemplate.Regex.Reader.Group
import ParamTemplate.Regex.Reader.Repetition
import ParamTemplate.Regex.Search
import ParamTemplate.Report
import ParamTemplate.Template
import ParamTemplate.Template.Evaluation
import ParamTemplate.Template.Piece
import ParamTemplate.Template.Segment
import ParamTemplate.Template.Token
import ParamTemplate.Text.CharSet
import ParamTemplate.Text.Json
import ParamTemplate.Text.Lines
import ParamTemplate.Text.Quoted
import ParamTemplate.Text.Similarity
import ParamTemplate.Text.Styled
import ParamTemplate.Text.Table
import ParamTemplate.Text.Utf8
import ParamTemplate.Unicode.Age
import ParamTemplate.Unicode.Basic
import ParamTemplate.Unicode.Binary
import ParamTemplate.Unicode.Boundary
import ParamTemplate.Unicode.Category
import ParamTemplate.Unicode.Fold
import ParamTemplate.Unicode.NamedSet
import ParamTemplate.Unicode.Printable
import ParamTemplate.Unicode.Property
import ParamTemplate.Unicode.Script
import ParamTemplate.Unicode.ScriptExtension
