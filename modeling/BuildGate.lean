import BuildGate.CommandLine.Help
import BuildGate.Gate.Run
import BuildGate.Host.Description
import BuildGate.Log.File
import BuildGate.Main
import BuildGate.Pipeline
import BuildGate.Settings.Load
import BuildGate.Viewer
import BuildGate.Proofs.CompiledSets
import BuildGate.Proofs.Matches
import BuildGate.Proofs.Steps
import BuildGate.Proofs.StyleCheck
import BuildGate.Proofs.PathTexts
import BuildGate.Proofs.Resolution
import BuildGate.Proofs.Clean
import BuildGate.Proofs.LiteralPatterns
import BuildGate.Proofs.LinkFree
import BuildGate.Proofs.RootedPatterns
import BuildGate.Proofs.Expansion
import BuildGate.Proofs.RelativePaths
import BuildGate.Proofs.Selection
import BuildGate.Proofs.ModuleTests
import BuildGate.Proofs.BoundedWalk
import BuildGate.Proofs.ParentPaths
import BuildGate.Proofs.ProjectSearch
import BuildGate.Proofs.Wildcards
import BuildGate.Proofs.ModuleNames
import BuildGate.Proofs.SpelledPaths
import BuildGate.Proofs.FileLists
import BuildGate.Proofs.Tables
import BuildGate.Proofs.AscendingData
import BuildGate.Proofs.Records
import BuildGate.Proofs.Layers
import BuildGate.Proofs.LastWins
import BuildGate.Proofs.JsonTexts
import BuildGate.Proofs.WrittenSettings
import BuildGate.Proofs.ByteMatches
import BuildGate.Proofs.ComponentMatches
import BuildGate.Proofs.ComponentPaths
import BuildGate.Proofs.ExcludedComponents
import BuildGate.Proofs.ReachedPaths
import BuildGate.Proofs.NamedFiles
import BuildGate.Proofs.ToolRuns
import BuildGate.Proofs.StyleGate
import BuildGate.Proofs.CoverageRun
import BuildGate.Proofs.ScanDocument
import BuildGate.Proofs.ScanLines
import BuildGate.Proofs.SharedSyntax
import BuildGate.Proofs.SamePattern
import BuildGate.Proofs.Lines
import BuildGate.Proofs.EveryMatch
import BuildGate.Proofs.ScanModes
import BuildGate.Proofs.DocTags
import BuildGate.Proofs.ExitCodes
import BuildGate.Proofs.ExitStatus
import BuildGate.Proofs.HostCodes
import BuildGate.Proofs.ModuleScripts
import BuildGate.Proofs.Subtrees
import BuildGate.Proofs.DirectSteps
import BuildGate.Proofs.ListedFiles
import BuildGate.Proofs.OpenedFiles
import BuildGate.Proofs.LinkedWalks
import BuildGate.Proofs.LiteralRoots
import BuildGate.Proofs.ReadFaults
import BuildGate.Proofs.SameContent
import BuildGate.Proofs.SameExpansion
import BuildGate.Proofs.MovedRoots
import BuildGate.Proofs.ShownLines
import BuildGate.Proofs.FoundFiles
import BuildGate.Proofs.PreferredFiles
import BuildGate.Proofs.CustomRules
import BuildGate.Proofs.OneVariable
import BuildGate.Proofs.LogPlace
import BuildGate.Proofs.LineTexts
import BuildGate.Proofs.TextOverrides
import BuildGate.Proofs.UnreadVariables
import BuildGate.Proofs.GivenOptions
import BuildGate.Proofs.SightedSteps
import BuildGate.Proofs.AskedTests
import BuildGate.Proofs.Mentions
import BuildGate.Proofs.LateValues
import BuildGate.Proofs.SpelledOptions
import BuildGate.Proofs.VerblessArguments
import BuildGate.Proofs.IdleRuns
import BuildGate.Proofs.OwnArguments
import BuildGate.Proofs.MovedOptions
