import SealedPillar.Action
import SealedPillar.Batch
import SealedPillar.Binary64.Basic
import SealedPillar.Binary64.Read
import SealedPillar.Binary64.Shortest
import SealedPillar.Cipher.Armor
import SealedPillar.Cipher.Gpg
import SealedPillar.Cipher.GpgScript
import SealedPillar.Cipher.Mock
import SealedPillar.Cli.Complete
import SealedPillar.Cli.Complete.Bash
import SealedPillar.Cli.Complete.Elvish
import SealedPillar.Cli.Complete.Fish
import SealedPillar.Cli.Complete.PowerShell
import SealedPillar.Cli.Complete.Shell
import SealedPillar.Cli.Complete.Table
import SealedPillar.Cli.Complete.Zsh
import SealedPillar.Cli.Help
import SealedPillar.Cli.Interface
import SealedPillar.Cli.Output
import SealedPillar.Cli.Parse
import SealedPillar.Cli.Program
import SealedPillar.Cli.Run
import SealedPillar.Cli.Spec
import SealedPillar.Cli.Styled
import SealedPillar.Cli.Suggest
import SealedPillar.ColonPath
import SealedPillar.Config
import SealedPillar.Document
import SealedPillar.Error
import SealedPillar.Host.FileTree
import SealedPillar.Host.Log
import SealedPillar.Host.Machine
import SealedPillar.Host.Store
import SealedPillar.Main
import SealedPillar.Number
import SealedPillar.Pillar
import SealedPillar.Proofs.ArmorCodec
import SealedPillar.Proofs.AtomicWrite
import SealedPillar.Proofs.BatchRuns
import SealedPillar.Proofs.BlankInput
import SealedPillar.Proofs.Deterministic
import SealedPillar.Proofs.DirectoryWalk
import SealedPillar.Proofs.ElementScope
import SealedPillar.Proofs.EncryptDecrypt
import SealedPillar.Proofs.EncryptIdempotent
import SealedPillar.Proofs.HexWindows
import SealedPillar.Proofs.HostRuns
import SealedPillar.Proofs.IncludeScan
import SealedPillar.Proofs.JobEffects
import SealedPillar.Proofs.KeyListings
import SealedPillar.Proofs.KeyReports
import SealedPillar.Proofs.Leaves
import SealedPillar.Proofs.LoaderRuns
import SealedPillar.Proofs.MockCodec
import SealedPillar.Proofs.PathLaws
import SealedPillar.Proofs.PathScope
import SealedPillar.Proofs.PathTexts
import SealedPillar.Proofs.PathWrites
import SealedPillar.Proofs.PlainScalars
import SealedPillar.Proofs.ReportPaths
import SealedPillar.Proofs.Rotation
import SealedPillar.Proofs.RunLaws
import SealedPillar.Proofs.Scopes
import SealedPillar.Proofs.SecretUpdates
import SealedPillar.Proofs.SortedDocuments
import SealedPillar.Proofs.Traversal
import SealedPillar.Proofs.Utf8RoundTrip
import SealedPillar.Proofs.WalkCalls
import SealedPillar.Text.Alphanumeric
import SealedPillar.Text.Escape
import SealedPillar.Text.Json
import SealedPillar.Text.Lines
import SealedPillar.Text.Pattern
import SealedPillar.Text.Printable
import SealedPillar.Text.Utf8
import SealedPillar.Toml.Parse
import SealedPillar.Toml.Tree
import SealedPillar.Trace
import SealedPillar.Value
import SealedPillar.Walk
import SealedPillar.Yaml.Emit
import SealedPillar.Yaml.Event
import SealedPillar.Yaml.Load
import SealedPillar.Yaml.Resolve
import SealedPillar.Yaml.Token
import SealedPillar.Yaml.Token.Scan
import SealedPillar.Yaml.Write
