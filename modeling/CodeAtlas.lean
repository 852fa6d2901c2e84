import CodeAtlas.Action
import CodeAtlas.Batch
import CodeAtlas.Catalog.Basic
import CodeAtlas.Catalog.Query
import CodeAtlas.Command.Help
import CodeAtlas.Command.Reader
import CodeAtlas.Command.Run
import CodeAtlas.Command.Spec
import CodeAtlas.Decimal.Round
import CodeAtlas.Decimal.Shortest
import CodeAtlas.Decimal.Text
import CodeAtlas.Digest.Md5
import CodeAtlas.Element
import CodeAtlas.Extract.Basic
import CodeAtlas.Extract.Braces
import CodeAtlas.Extract.Generic
import CodeAtlas.Extract.Heuristics
import CodeAtlas.Extract.JavaScript
import CodeAtlas.Extract.Lines
import CodeAtlas.Extract.Registry
import CodeAtlas.Extract.Script
import CodeAtlas.Failure
import CodeAtlas.Files.Find
import CodeAtlas.Files.Tree
import CodeAtlas.Index.Context
import CodeAtlas.Index.Dependencies
import CodeAtlas.Index.Discovery
import CodeAtlas.Index.Engine
import CodeAtlas.Index.Language
import CodeAtlas.Index.Loose
import CodeAtlas.Index.Overview
import CodeAtlas.Index.Reference
import CodeAtlas.Index.Script
import CodeAtlas.Index.Summary
import CodeAtlas.Launcher
import CodeAtlas.Main
import CodeAtlas.Outline.Element
import CodeAtlas.Outline.Heading
import CodeAtlas.Outline.Inline
import CodeAtlas.Package
import CodeAtlas.Path
import CodeAtlas.Schema.Basic
import CodeAtlas.Schema.Number
import CodeAtlas.Schema.Records
import CodeAtlas.Script.Depth
import CodeAtlas.Script.Grammar.Basic
import CodeAtlas.Script.Grammar.Embedded
import CodeAtlas.Script.Grammar.Expression
import CodeAtlas.Script.Grammar.Pattern
import CodeAtlas.Script.Grammar.Statement
import CodeAtlas.Script.Lexer
import CodeAtlas.Script.Literal
import CodeAtlas.Script.Node
import CodeAtlas.Script.Printer
import CodeAtlas.Script.Token
import CodeAtlas.Script.Walk
import CodeAtlas.Service.App
import CodeAtlas.Service.Prompts
import CodeAtlas.Service.Server
import CodeAtlas.Service.Tools
import CodeAtlas.Service.Values
import CodeAtlas.Settings
import CodeAtlas.Text.Blank
import CodeAtlas.Text.Case
import CodeAtlas.Text.CharacterName
import CodeAtlas.Text.CharacterName.EastAsia
import CodeAtlas.Text.CharacterName.Further
import CodeAtlas.Text.CharacterName.Historic
import CodeAtlas.Text.CharacterName.Pictures
import CodeAtlas.Text.CharacterName.Scripts
import CodeAtlas.Text.CharacterName.Symbols
import CodeAtlas.Text.Compose
import CodeAtlas.Text.Decode
import CodeAtlas.Text.Name
import CodeAtlas.Text.Pattern
import CodeAtlas.Text.Printable
import CodeAtlas.Text.Quoted
import CodeAtlas.Text.Ranges
import CodeAtlas.Text.Search
import CodeAtlas.Text.Similarity
import CodeAtlas.Text.Wildcard
import CodeAtlas.Text.Word
import CodeAtlas.Text.Wrap
import CodeAtlas.Value
import CodeAtlas.Value.Text
import CodeAtlas.Vectors.Answer
import CodeAtlas.Vectors.Collection
import CodeAtlas.Vectors.Store
import CodeAtlas.Proofs.Accounts
import CodeAtlas.Proofs.Action
import CodeAtlas.Proofs.Batching
import CodeAtlas.Proofs.Braces
import CodeAtlas.Proofs.Catalog
import CodeAtlas.Proofs.Characters
import CodeAtlas.Proofs.Cleanup
import CodeAtlas.Proofs.Clearing
import CodeAtlas.Proofs.Coverage
import CodeAtlas.Proofs.Dependencies
import CodeAtlas.Proofs.Descriptions
import CodeAtlas.Proofs.Discovery
import CodeAtlas.Proofs.Extraction
import CodeAtlas.Proofs.Globs
import CodeAtlas.Proofs.Hierarchy
import CodeAtlas.Proofs.Histories
import CodeAtlas.Proofs.ImportLines
import CodeAtlas.Proofs.Imports
import CodeAtlas.Proofs.Indexing
import CodeAtlas.Proofs.InlineCode
import CodeAtlas.Proofs.Layout
import CodeAtlas.Proofs.Listing
import CodeAtlas.Proofs.Lookup
import CodeAtlas.Proofs.Markup
import CodeAtlas.Proofs.Matches
import CodeAtlas.Proofs.Metrics
import CodeAtlas.Proofs.ModuleNames
import CodeAtlas.Proofs.Outline
import CodeAtlas.Proofs.Overviews
import CodeAtlas.Proofs.Patterns
import CodeAtlas.Proofs.Positions
import CodeAtlas.Proofs.Readers
import CodeAtlas.Proofs.Recovery
import CodeAtlas.Proofs.Reindexing
import CodeAtlas.Proofs.Repeats
import CodeAtlas.Proofs.Replacing
import CodeAtlas.Proofs.ScriptIds
import CodeAtlas.Proofs.Search
import CodeAtlas.Proofs.Sections
import CodeAtlas.Proofs.SemanticSearch
import CodeAtlas.Proofs.SharedLines
import CodeAtlas.Proofs.SharedNames
import CodeAtlas.Proofs.SourceLines
import CodeAtlas.Proofs.Stores
import CodeAtlas.Proofs.Unfinished
import CodeAtlas.Proofs.Unstamped
import CodeAtlas.Proofs.Vectors
import CodeAtlas.Proofs.Wildcards
import CodeAtlas.Proofs.Writes
