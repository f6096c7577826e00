import LogosHooks.ClassInterface.Basic
import LogosHooks.ClassInterface.Method
import LogosHooks.CommandLine.Arguments
import LogosHooks.CommandLine.Output
import LogosHooks.CommandLine.Run
import LogosHooks.Config.Basic
import LogosHooks.Config.EditDistance
import LogosHooks.Declaration.Argument
import LogosHooks.Declaration.Line
import LogosHooks.Declaration.Segment
import LogosHooks.DeclaredType.Basic
import LogosHooks.DeclaredType.Builtin
import LogosHooks.DeclaredType.LogFormat
import LogosHooks.DeclaredType.Registry
import LogosHooks.Fault
import LogosHooks.Files.HeaderSearch
import LogosHooks.Files.Tree
import LogosHooks.Header.Collect
import LogosHooks.Header.Member
import LogosHooks.Hooks.Accessor
import LogosHooks.Hooks.HookText
import LogosHooks.Hooks.Preamble
import LogosHooks.Hooks.Report
import LogosHooks.Hooks.Request
import LogosHooks.Hooks.Session
import LogosHooks.Json
import LogosHooks.Main
import LogosHooks.Pattern.Basic
import LogosHooks.Pattern.Brackets
import LogosHooks.Pattern.ByteRange
import LogosHooks.Pattern.CharClass
import LogosHooks.Pattern.Escape
import LogosHooks.Pattern.Flags
import LogosHooks.Pattern.MachineSize
import LogosHooks.Pattern.NamePattern
import LogosHooks.Pattern.Parser
import LogosHooks.Pattern.Plan
import LogosHooks.Pattern.Property
import LogosHooks.Text.Blank
import LogosHooks.Text.Identifier
import LogosHooks.Text.Line
import LogosHooks.Text.Paren
import LogosHooks.Text.Upper
import LogosHooks.Text.Utf8
import LogosHooks.Toml.Number
import LogosHooks.Toml.Quoted
import LogosHooks.Toml.Reader
import LogosHooks.Toml.Value
import LogosHooks.Unicode.Age
import LogosHooks.Unicode.Binary
import LogosHooks.Unicode.CaseFold
import LogosHooks.Unicode.Category
import LogosHooks.Unicode.Ranges
import LogosHooks.Unicode.Script
import LogosHooks.Unicode.Segment
import LogosHooks.Proofs.Text.Spacing
import LogosHooks.Proofs.Text.Balance
import LogosHooks.Proofs.Text.OuterColons
import LogosHooks.Proofs.Text.Decoding
import LogosHooks.Proofs.Text.ByteOrder
import LogosHooks.Proofs.Text.Offsets
import LogosHooks.Proofs.DeclaredType.NormalForm
import LogosHooks.Proofs.DeclaredType.Spellings
import LogosHooks.Proofs.Declaration.Code
import LogosHooks.Proofs.Declaration.Segments
import LogosHooks.Proofs.Declaration.ArgumentText
import LogosHooks.Proofs.Declaration.SegmentFaults
import LogosHooks.Proofs.Declaration.Appended
import LogosHooks.Proofs.Declaration.ReadArgument
import LogosHooks.Proofs.Declaration.UnclosedTypes
import LogosHooks.Proofs.Declaration.ReadMethod
import LogosHooks.Proofs.Declaration.Spelling
import LogosHooks.Proofs.Declaration.ReadSpelling
import LogosHooks.Proofs.Declaration.Accepted
import LogosHooks.Proofs.Declaration.WholeSelector
import LogosHooks.Proofs.Declaration.ColonCount
import LogosHooks.Proofs.Declaration.ReadProperty
import LogosHooks.Proofs.Declaration.PropertySpelling
import LogosHooks.Proofs.Declaration.OffsetReading
import LogosHooks.Proofs.Declaration.LineEnds
import LogosHooks.Proofs.Declaration.Display
import LogosHooks.Proofs.Declaration.ReadDisplay
import LogosHooks.Proofs.Header.Outcome
import LogosHooks.Proofs.Header.Restriction
import LogosHooks.Proofs.Header.Invariant
import LogosHooks.Proofs.Header.Log
import LogosHooks.Proofs.Header.Blocks
import LogosHooks.Proofs.Header.Alignment
import LogosHooks.Proofs.Header.Edits
import LogosHooks.Proofs.Hooks.HookLines
import LogosHooks.Proofs.Hooks.Signatures
import LogosHooks.Proofs.Hooks.SingleLines
import LogosHooks.Proofs.Hooks.ReadBack
import LogosHooks.Proofs.Hooks.Layout
import LogosHooks.Proofs.Hooks.Requests
import LogosHooks.Proofs.Hooks.Sessions
import LogosHooks.Proofs.Hooks.Batches
import LogosHooks.Proofs.Hooks.BatchSum
import LogosHooks.Proofs.Files.Updates
import LogosHooks.Proofs.Files.Headers
import LogosHooks.Proofs.CommandLine.Effect
import LogosHooks.Proofs.CommandLine.Failure
import LogosHooks.Proofs.CommandLine.HeaderContents
import LogosHooks.Proofs.Toml.Keys
import LogosHooks.Proofs.Config.EditDistance
import LogosHooks.Proofs.Config.Nearest
import LogosHooks.Proofs.Config.Table
import LogosHooks.Proofs.Pattern.Matching
import LogosHooks.Proofs.Pattern.Locality
import LogosHooks.Proofs.Pattern.BracketLocality
import LogosHooks.Proofs.Pattern.ConstructLocality
import LogosHooks.Proofs.Pattern.ReadStates
import LogosHooks.Proofs.Pattern.Anchored
