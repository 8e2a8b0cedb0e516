import BatchCompiler.Main
import BatchCompiler.Proofs.Action
import BatchCompiler.Proofs.CommandLine.Additions
import BatchCompiler.Proofs.CommandLine.Handler
import BatchCompiler.Proofs.CommandLine.Lists
import BatchCompiler.Proofs.CommandLine.Meaning
import BatchCompiler.Proofs.CommandLine.Operands
import BatchCompiler.Proofs.CommandLine.Operations
import BatchCompiler.Proofs.CommandLine.Points
import BatchCompiler.Proofs.CommandLine.Steps
import BatchCompiler.Proofs.CommandLine.Suppression
import BatchCompiler.Proofs.CommandLine.Symbols
import BatchCompiler.Proofs.CommandLine.Tail
import BatchCompiler.Proofs.Diagnostic.Expectation
import BatchCompiler.Proofs.Diagnostic.Tally
import BatchCompiler.Proofs.FileSystem.Directory
import BatchCompiler.Proofs.FileSystem.FileName
import BatchCompiler.Proofs.FileSystem.Writing
import BatchCompiler.Proofs.Firsts
import BatchCompiler.Proofs.Host.Braces
import BatchCompiler.Proofs.Host.Documentation
import BatchCompiler.Proofs.Host.DocumentedNames
import BatchCompiler.Proofs.Host.EntryPoint
import BatchCompiler.Proofs.Host.Files
import BatchCompiler.Proofs.Host.Jobs
import BatchCompiler.Proofs.Host.Lexeme
import BatchCompiler.Proofs.Host.Manifest
import BatchCompiler.Proofs.Host.Modules
import BatchCompiler.Proofs.Host.Prepares
import BatchCompiler.Proofs.Host.Run
import BatchCompiler.Proofs.Host.Scan
import BatchCompiler.Proofs.Host.Stages
import BatchCompiler.Proofs.Host.Tree
import BatchCompiler.Proofs.Invocation.Expectation
import BatchCompiler.Proofs.Invocation.Suppression
import BatchCompiler.Proofs.Pipeline.Alike
import BatchCompiler.Proofs.Pipeline.AlikeRuns
import BatchCompiler.Proofs.Pipeline.Arrival
import BatchCompiler.Proofs.Pipeline.Conditions
import BatchCompiler.Proofs.Pipeline.Course
import BatchCompiler.Proofs.Pipeline.Covers
import BatchCompiler.Proofs.Pipeline.Does
import BatchCompiler.Proofs.Pipeline.Extent
import BatchCompiler.Proofs.Pipeline.Fatal
import BatchCompiler.Proofs.Pipeline.Jobs
import BatchCompiler.Proofs.Pipeline.Order
import BatchCompiler.Proofs.Pipeline.Reset
import BatchCompiler.Proofs.Pipeline.Sources
import BatchCompiler.Proofs.Pipeline.Stages
import BatchCompiler.Proofs.Pipeline.Station
import BatchCompiler.Proofs.Pipeline.Stretch
import BatchCompiler.Proofs.Pipeline.Success
import BatchCompiler.Proofs.Reference.History
import BatchCompiler.Proofs.Reference.Repeated
import BatchCompiler.Proofs.Reference.Root
import BatchCompiler.Proofs.Reference.Search
import BatchCompiler.Proofs.Regex.Meaning
import BatchCompiler.Proofs.Resource.Emission
import BatchCompiler.Proofs.ResponseFile.Queue
import BatchCompiler.Proofs.ResponseFile.Quoting
import BatchCompiler.Proofs.ResponseFile.Termination
import BatchCompiler.Proofs.Source.Expansion
import BatchCompiler.Proofs.Source.Pattern
import BatchCompiler.Proofs.Source.Taking
import BatchCompiler.Proofs.Text.ByteOrder
import BatchCompiler.Proofs.Text.Numeral
import BatchCompiler.Proofs.Text.Split
import BatchCompiler.Proofs.Text.Utf8
import BatchCompiler.Scripted.Answers
import BatchCompiler.Proofs.CommandLine.Alike
import BatchCompiler.Proofs.CommandLine.Spelling
import BatchCompiler.Proofs.CommandLine.Dialects
import BatchCompiler.Proofs.CommandLine.LetterCase
import BatchCompiler.Proofs.CommandLine.Packages
import BatchCompiler.Proofs.CommandLine.Entries
import BatchCompiler.Proofs.CommandLine.Termination
