import CppSurface.AliasTable
import CppSurface.Compiler
import CppSurface.Decl
import CppSurface.DeclTree
import CppSurface.Diagnostic
import CppSurface.Dump
import CppSurface.Dump.KnownKinds
import CppSurface.Dump.Reader
import CppSurface.Dump.Tree
import CppSurface.Extraction
import CppSurface.FileTree
import CppSurface.IncludeTrace
import CppSurface.Invocation
import CppSurface.Json
import CppSurface.Json.Reader
import CppSurface.Json.Writer
import CppSurface.Main
import CppSurface.Path
import CppSurface.Pattern
import CppSurface.Pattern.Case
import CppSurface.Pattern.Category
import CppSurface.Pattern.CodeSet
import CppSurface.Pattern.Expr
import CppSurface.Pattern.Literals
import CppSurface.Pattern.Property
import CppSurface.Pattern.Reader
import CppSurface.Policy
import CppSurface.Program
import CppSurface.Proofs.DeclTree.Scope
import CppSurface.Proofs.Resolver.Moments
import CppSurface.Proofs.Resolver.Questions
import CppSurface.Proofs.Resolver.Retained
import CppSurface.Proofs.Resolver.Steps
import CppSurface.Proofs.Resolver.Verdicts
import CppSurface.Proofs.Survey.Attribution
import CppSurface.Proofs.Survey.BreadthFirst
import CppSurface.Proofs.Survey.Copies
import CppSurface.Proofs.Survey.Entries
import CppSurface.Proofs.Survey.Passes
import CppSurface.Proofs.Survey.Reported
import CppSurface.Proofs.Survey.Runs
import CppSurface.Proofs.Survey.SelfContained
import CppSurface.Proofs.Survey.Tally
import CppSurface.Record
import CppSurface.Report
import CppSurface.Resolver
import CppSurface.Schema
import CppSurface.Settings
import CppSurface.Settings.Overrides
import CppSurface.Sightings
import CppSurface.Source
import CppSurface.Survey
import CppSurface.Survey.FilePass
import CppSurface.Survey.Options
import CppSurface.Text.CharClass
import CppSurface.Text.Runs
import CppSurface.Text.Trim
import CppSurface.Text.Utf8
import CppSurface.Text.WordRanges
import CppSurface.Toml
import CppSurface.Toml.Reader
import CppSurface.Toml.Scalar
import CppSurface.TypeText
import CppSurface.Unit
import CppSurface.Verdict
import CppSurface.Proofs.Survey.Representation
import CppSurface.Proofs.Survey.Filters
import CppSurface.Proofs.Resolver.Dependencies
import CppSurface.Proofs.Json.RoundTrip
import CppSurface.Proofs.Schema.RoundTrip
import CppSurface.Proofs.Text.Lines
import CppSurface.Proofs.IncludeTrace.Forest
import CppSurface.Proofs.Text.Words
import CppSurface.Proofs.AliasTable.Pass
import CppSurface.Proofs.AliasTable.Expansion
import CppSurface.Proofs.DeclTree.QualifiedNames
import CppSurface.Proofs.DeclTree.ValueTypes
import CppSurface.Proofs.DeclTree.Preorder
import CppSurface.Proofs.DeclTree.Growth
import CppSurface.Proofs.Diagnostic.RoundTrip
import CppSurface.Proofs.Dump.Building
import CppSurface.Proofs.Dump.Records
import CppSurface.Proofs.Dump.Implicit
import CppSurface.Proofs.Dump.SpecialMembers
import CppSurface.Proofs.TypeText.ReturnType
import CppSurface.Proofs.AliasTable.Budget
import CppSurface.Proofs.Settings.NormalForm
import CppSurface.Proofs.Text.Trim
import CppSurface.Proofs.Resolver.Nesting
import CppSurface.Proofs.TypeText.SimpleSpelling
import CppSurface.Proofs.Dump.ScopeOrder
import CppSurface.Proofs.Path.Parents
import CppSurface.Proofs.FileTree.Passing
import CppSurface.Proofs.Settings.Discovery
import CppSurface.Proofs.Pattern.Literals
import CppSurface.Proofs.Survey.Spellings
