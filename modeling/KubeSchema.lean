import KubeSchema.Action
import KubeSchema.Bindings
import KubeSchema.Classification
import KubeSchema.CommandLine.Arguments
import KubeSchema.CommandLine.Run
import KubeSchema.Compile
import KubeSchema.Decimal.Binary64
import KubeSchema.Decimal.Shortest
import KubeSchema.Document.Basic
import KubeSchema.Document.Shape
import KubeSchema.Error
import KubeSchema.Graph
import KubeSchema.Gvk
import KubeSchema.Identity
import KubeSchema.Json.Basic
import KubeSchema.Json.Number
import KubeSchema.Json.Printer
import KubeSchema.Json.Reader
import KubeSchema.Main
import KubeSchema.Manifest
import KubeSchema.MergeStrategy
import KubeSchema.Naming
import KubeSchema.Options
import KubeSchema.Proofs.ActionTheorems
import KubeSchema.Proofs.ArenaTheorems
import KubeSchema.Proofs.BindTheorems
import KubeSchema.Proofs.CaseTheorems
import KubeSchema.Proofs.ChainTheorems
import KubeSchema.Proofs.ChangeTheorems
import KubeSchema.Proofs.ClassificationTheorems
import KubeSchema.Proofs.CompileTheorems
import KubeSchema.Proofs.CorrespondenceTheorems
import KubeSchema.Proofs.CycleTheorems
import KubeSchema.Proofs.ExtensionTheorems
import KubeSchema.Proofs.GivenNameTheorems
import KubeSchema.Proofs.GraphTheorems
import KubeSchema.Proofs.HandleTheorems
import KubeSchema.Proofs.HistoryTheorems
import KubeSchema.Proofs.InterleavingTheorems
import KubeSchema.Proofs.LoopTheorems
import KubeSchema.Proofs.ManifestTheorems
import KubeSchema.Proofs.MemberTheorems
import KubeSchema.Proofs.NamesTheorems
import KubeSchema.Proofs.OperationTheorems
import KubeSchema.Proofs.OutcomeTheorems
import KubeSchema.Proofs.PropertiesTheorems
import KubeSchema.Proofs.PropertyListTheorems
import KubeSchema.Proofs.RecompileTheorems
import KubeSchema.Proofs.RedirectionTheorems
import KubeSchema.Proofs.RefusalTheorems
import KubeSchema.Proofs.RegistryTheorems
import KubeSchema.Proofs.RenderTheorems
import KubeSchema.Proofs.ResolutionTheorems
import KubeSchema.Proofs.ResolveTheorems
import KubeSchema.Proofs.RolesTheorems
import KubeSchema.Proofs.RunTheorems
import KubeSchema.Proofs.SealTheorems
import KubeSchema.Proofs.ServeTheorems
import KubeSchema.Proofs.ShapeTheorems
import KubeSchema.Proofs.SharingTheorems
import KubeSchema.Proofs.StabilityTheorems
import KubeSchema.Proofs.StageTheorems
import KubeSchema.Proofs.StrategyTheorems
import KubeSchema.Proofs.TableTheorems
import KubeSchema.Proofs.TreeTheorems
import KubeSchema.Proofs.TypesTheorems
import KubeSchema.Proofs.VersionTheorems
import KubeSchema.Proofs.VisibilityTheorems
import KubeSchema.Proofs.WalkTheorems
import KubeSchema.Proofs.WireNameTheorems
import KubeSchema.Proofs.WordsTheorems
import KubeSchema.Properties
import KubeSchema.Registry.Basic
import KubeSchema.Registry.Resolve
import KubeSchema.Registry.TypeTree
import KubeSchema.Resolution
import KubeSchema.Source.Format
import KubeSchema.Source.Load
import KubeSchema.Source.Place
import KubeSchema.Source.Workspace
import KubeSchema.Table
import KubeSchema.Text.Blank
import KubeSchema.Text.Case
import KubeSchema.Text.CaseTable
import KubeSchema.Text.HiddenTable
import KubeSchema.Text.Quoted
import KubeSchema.Text.Words
import KubeSchema.Yaml.Cursor
import KubeSchema.Yaml.Event
import KubeSchema.Yaml.Node
import KubeSchema.Yaml.Reader
import KubeSchema.Yaml.Scalar.Block
import KubeSchema.Yaml.Scalar.Gap
import KubeSchema.Yaml.Scalar.Plain
import KubeSchema.Yaml.Scalar.Quoted
import KubeSchema.Yaml.Scalar.Value
import KubeSchema.Yaml.Tag
import KubeSchema.Yaml.Token.Basic
import KubeSchema.Yaml.Token.Directive
import KubeSchema.Yaml.Token.Lexer
