import EmbeddedGo.Main
import EmbeddedGo.Proofs.Action
import EmbeddedGo.Proofs.Artifact
import EmbeddedGo.Proofs.ResolvedPath
import EmbeddedGo.Proofs.Walk
import EmbeddedGo.Proofs.ArtifactUrl
import EmbeddedGo.Proofs.Reference
import EmbeddedGo.Proofs.Calls
import EmbeddedGo.Proofs.WrapperText
import EmbeddedGo.Proofs.Chunk
import EmbeddedGo.Proofs.ServedFile
import EmbeddedGo.Proofs.WayDown
import EmbeddedGo.Proofs.SlotFiles
import EmbeddedGo.Proofs.Sequence
import EmbeddedGo.Proofs.Turns
import EmbeddedGo.Proofs.Interleaving
import EmbeddedGo.Proofs.SignatureGrammar
import EmbeddedGo.Proofs.Delivery
import EmbeddedGo.Proofs.BinaryUrl
import EmbeddedGo.Proofs.SlotFrame
import EmbeddedGo.Proofs.ServedArtifact
import EmbeddedGo.Proofs.Doing
import EmbeddedGo.Proofs.Removal
import EmbeddedGo.Proofs.Lines
import EmbeddedGo.Proofs.LineEnds
import EmbeddedGo.Proofs.RealPlace
import EmbeddedGo.Proofs.Frame
import EmbeddedGo.Proofs.Bundled
import EmbeddedGo.Proofs.GlueSource
import EmbeddedGo.Proofs.Emission
import EmbeddedGo.Proofs.Escaped
import EmbeddedGo.Proofs.BuildTurns
import EmbeddedGo.Proofs.BuildRuns
import EmbeddedGo.Proofs.BuildOutputs
import EmbeddedGo.Proofs.BuildAssets
import EmbeddedGo.Proofs.TokenLayout
import EmbeddedGo.Proofs.ExportedSource
import EmbeddedGo.Proofs.Unsupported
import EmbeddedGo.Proofs.MadeDirectories
import EmbeddedGo.Proofs.TransformEffects
import EmbeddedGo.Proofs.Endings
import EmbeddedGo.Proofs.JsonFaults
import EmbeddedGo.Proofs.YamlTokens
import EmbeddedGo.Proofs.YamlProblems
import EmbeddedGo.Proofs.LoadFailures
import EmbeddedGo.Proofs.BuildFailures
import EmbeddedGo.Proofs.SourcePieces
import EmbeddedGo.Proofs.SlotNames
import EmbeddedGo.Proofs.ScriptText
import EmbeddedGo.Proofs.WrapperScript
import EmbeddedGo.Proofs.Offers
import EmbeddedGo.Proofs.DeclarationNames
import EmbeddedGo.Proofs.Trimming
import EmbeddedGo.Proofs.EmbeddedUnit
import EmbeddedGo.Proofs.EmittedAssets
import EmbeddedGo.Proofs.Finishing
import EmbeddedGo.Proofs.Lexemes
import EmbeddedGo.Proofs.PackageClause
import EmbeddedGo.Proofs.DeclaredSignatures
import EmbeddedGo.Proofs.Imports
import EmbeddedGo.Proofs.PassedText
import EmbeddedGo.Proofs.Notices
import EmbeddedGo.Proofs.CompilerFailures
import EmbeddedGo.Proofs.ArtifactFailures
import EmbeddedGo.Proofs.ExactNumbers
import EmbeddedGo.Proofs.Pruning
import EmbeddedGo.Proofs.KnownGlue
import EmbeddedGo.Proofs.ShellLine
import EmbeddedGo.Proofs.SettledOptions
import EmbeddedGo.Proofs.TokenPlaces
import EmbeddedGo.Proofs.NestedErrors
