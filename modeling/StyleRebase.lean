import StyleRebase.Text.Span
import StyleRebase.Text.CharClass
import StyleRebase.Text.Utf8
import StyleRebase.Text.Trim
import StyleRebase.Text.LineIndex
import StyleRebase.SourceMap.Directive
import StyleRebase.Css.Token
import StyleRebase.Css.Lexer
import StyleRebase.Css.Syntax
import StyleRebase.Css.ParseError
import StyleRebase.Css.Parser
import StyleRebase.Rebase.Locate
import StyleRebase.Text.Utf8Codec
import StyleRebase.Encoding.Percent
import StyleRebase.Unicode.RangeTable
import StyleRebase.Unicode.BidiClassData
import StyleRebase.Unicode.BidiClass
import StyleRebase.Unicode.CombiningClassData
import StyleRebase.Unicode.MarkData
import StyleRebase.Unicode.CombiningClass
import StyleRebase.Unicode.JoiningTypeData
import StyleRebase.Unicode.JoiningType
import StyleRebase.Unicode.DecompositionData
import StyleRebase.Unicode.Normalization
import StyleRebase.Idna.MappingData
import StyleRebase.Idna.Mapping
import StyleRebase.Idna.Punycode
import StyleRebase.Idna.Label
import StyleRebase.Idna.Domain
import StyleRebase.Url.Host
import StyleRebase.Url.Parse
import StyleRebase.Rebase.Path
import StyleRebase.Rebase.Classify
import StyleRebase.Encoding.Base64
import StyleRebase.SourceMap.DataUrl
import StyleRebase.Search.Bisect
import StyleRebase.Text.OffsetMap
import StyleRebase.Rebase.Splice
import StyleRebase.Binary64.Basic
import StyleRebase.Binary64.Shortest
import StyleRebase.Binary64.Text
import StyleRebase.Json.Value
import StyleRebase.Json.Number
import StyleRebase.Json.Read
import StyleRebase.Json.Write
import StyleRebase.Json.Typed
import StyleRebase.SourceMap.DecodeError
import StyleRebase.SourceMap.Vlq
import StyleRebase.SourceMap.Basic
import StyleRebase.SourceMap.Builder
import StyleRebase.SourceMap.DebugId
import StyleRebase.SourceMap.Decode
import StyleRebase.SourceMap.Load
import StyleRebase.SourceMap.Encode
import StyleRebase.Rebase.Project
import StyleRebase.Glob.Pattern
import StyleRebase.Glob.Match
import StyleRebase.Rebase.Policy
import StyleRebase.Rebase.Engine
import StyleRebase.Cli.Args
import StyleRebase.Cli.Config
import StyleRebase.Cli.FsPath
import StyleRebase.Cli.Report
import StyleRebase.Cli.Run
import StyleRebase.Cli.FileTree
import StyleRebase.Main
import StyleRebase.Proofs.CompletionOrder
import StyleRebase.Proofs.FailurePrecedence
import StyleRebase.Proofs.SpliceSpec
import StyleRebase.Proofs.TokenSpans
import StyleRebase.Proofs.ParserBranches
import StyleRebase.Proofs.ReferenceSpans
import StyleRebase.Proofs.RebaseOutcome
import StyleRebase.Proofs.ScanLocality
import StyleRebase.Proofs.Relexing
import StyleRebase.Proofs.ParserCongruence
import StyleRebase.Proofs.MalformedTokens
import StyleRebase.Proofs.ParserTermination
import StyleRebase.Proofs.LinePositions
import StyleRebase.Proofs.ReadBack
import StyleRebase.Proofs.Base64Text
import StyleRebase.Proofs.EmbeddedMaps
import StyleRebase.Proofs.LexedText
import StyleRebase.Proofs.SyntaxSpans
import StyleRebase.Proofs.SafeCuts
import StyleRebase.Proofs.SpliceOffsets
import StyleRebase.Proofs.SearchContract
import StyleRebase.Proofs.OccurrenceLayout
import StyleRebase.Proofs.FailedRuns
import StyleRebase.Proofs.ReferenceScan
import StyleRebase.Proofs.LineColumns
import StyleRebase.Proofs.OffsetLookup
import StyleRebase.Proofs.ProjectedMappings
import StyleRebase.Proofs.NormalPaths
import StyleRebase.Proofs.RelativeSources
import StyleRebase.Proofs.ByteColumns
import StyleRebase.Proofs.MapLookup
import StyleRebase.Proofs.CutPositions
import StyleRebase.Proofs.SpliceCopies
import StyleRebase.Proofs.ProjectedOrigins
import StyleRebase.Proofs.CopiedProvenance
