import ApiTypings.CommandLine
import ApiTypings.Config.Basic
import ApiTypings.Config.File
import ApiTypings.Config.Overrides
import ApiTypings.Declaration.Basic
import ApiTypings.Declaration.DocBlock
import ApiTypings.Declaration.Enumeration
import ApiTypings.Declaration.Generation
import ApiTypings.Declaration.Names
import ApiTypings.Declaration.TypeExpr
import ApiTypings.Failure
import ApiTypings.Files.Path
import ApiTypings.Files.Tree
import ApiTypings.Hook
import ApiTypings.Input.Document
import ApiTypings.Input.Format
import ApiTypings.Json.Basic
import ApiTypings.Json.Decode
import ApiTypings.Json.Printer
import ApiTypings.Json.Reader
import ApiTypings.Main
import ApiTypings.Metadata.ApiInfo
import ApiTypings.Metadata.Schema
import ApiTypings.Metadata.Shape
import ApiTypings.Number.Double
import ApiTypings.Number.Shortest
import ApiTypings.OutputFile
import ApiTypings.Proofs.AddedParameter
import ApiTypings.Proofs.AlikeTrees
import ApiTypings.Proofs.BundleDocuments
import ApiTypings.Proofs.BundleIsolation
import ApiTypings.Proofs.CasedLetters
import ApiTypings.Proofs.CommentEnds
import ApiTypings.Proofs.CommentErasure
import ApiTypings.Proofs.CommentLines
import ApiTypings.Proofs.DataType
import ApiTypings.Proofs.DeclaredNames
import ApiTypings.Proofs.Decoding
import ApiTypings.Proofs.DetectedFormats
import ApiTypings.Proofs.DistinctNames
import ApiTypings.Proofs.EntryNames
import ApiTypings.Proofs.EnumMembers
import ApiTypings.Proofs.FileChanges
import ApiTypings.Proofs.FileEffects
import ApiTypings.Proofs.FileHeaders
import ApiTypings.Proofs.FilePlaces
import ApiTypings.Proofs.FirstOfKey
import ApiTypings.Proofs.IdentifierNames
import ApiTypings.Proofs.InterfaceBodies
import ApiTypings.Proofs.InterfacePrefix
import ApiTypings.Proofs.JsonStrings
import ApiTypings.Proofs.KeyCasings
import ApiTypings.Proofs.LiteralUnions
import ApiTypings.Proofs.MemberIdentifiers
import ApiTypings.Proofs.NameAllocation
import ApiTypings.Proofs.NameHistory
import ApiTypings.Proofs.NameSupply
import ApiTypings.Proofs.NumberedSearch
import ApiTypings.Proofs.OutputPlaces
import ApiTypings.Proofs.OverrideComposition
import ApiTypings.Proofs.PageLinks
import ApiTypings.Proofs.Places
import ApiTypings.Proofs.PropertyKeys
import ApiTypings.Proofs.Pruning
import ApiTypings.Proofs.QuotedLiterals
import ApiTypings.Proofs.RecordFields
import ApiTypings.Proofs.References
import ApiTypings.Proofs.RequestHistory
import ApiTypings.Proofs.Requests
import ApiTypings.Proofs.RunEndings
import ApiTypings.Proofs.RunOutputs
import ApiTypings.Proofs.Runs
import ApiTypings.Proofs.SchemaFlags
import ApiTypings.Proofs.SchemaPaths
import ApiTypings.Proofs.StandardOutput
import ApiTypings.Proofs.TextParts
import ApiTypings.Proofs.TypePreservation
import ApiTypings.Proofs.TypeSegments
import ApiTypings.Proofs.Walk
import ApiTypings.RenderOptions
import ApiTypings.Run
import ApiTypings.Template.Basic
import ApiTypings.Template.Reader
import ApiTypings.Text.Alphabetic
import ApiTypings.Text.Alphanumeric
import ApiTypings.Text.CaseMap
import ApiTypings.Text.CodeRun
import ApiTypings.Text.LetterCase
import ApiTypings.Text.Lines
import ApiTypings.Text.Numeric
import ApiTypings.Text.Quoted
import ApiTypings.Text.Unprintable
import ApiTypings.Text.Words
import ApiTypings.Yaml.Cursor
import ApiTypings.Yaml.Node
import ApiTypings.Yaml.Scalar
import ApiTypings.Yaml.ScalarText
import ApiTypings.Yaml.Token
