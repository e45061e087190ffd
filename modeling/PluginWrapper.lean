import PluginWrapper.Main
import PluginWrapper.Sink.Limited
import PluginWrapper.Proofs.Round.Memory
import PluginWrapper.Proofs.Sink.Limited
import PluginWrapper.Proofs.Round.Limited
import PluginWrapper.Proofs.Java.Wrapper
import PluginWrapper.Proofs.Path
import PluginWrapper.Proofs.FileTree.Plant
import PluginWrapper.Proofs.FileTree.Create
import PluginWrapper.Proofs.Round.Directory
import PluginWrapper.Proofs.Wrapper.Source
import PluginWrapper.Proofs.Round.Distinct
import PluginWrapper.Proofs.Manifest.Grammar
import PluginWrapper.Proofs.Config.Layering
import PluginWrapper.Proofs.FileTree.Lookup
import PluginWrapper.Proofs.FileTree.Growth
import PluginWrapper.Proofs.Round.Use
import PluginWrapper.Proofs.Round.Frame
import PluginWrapper.Proofs.Round.Rerun
import PluginWrapper.Proofs.Path.Names
import PluginWrapper.Proofs.Round.Composition
import PluginWrapper.Proofs.Round.Containment
import PluginWrapper.Proofs.Round.Prediction
import PluginWrapper.Proofs.Descriptor
import PluginWrapper.Proofs.Round.Options
import PluginWrapper.Proofs.Config.Separation
import PluginWrapper.Proofs.Round.Dependencies
import PluginWrapper.Proofs.Manifest.Surplus
import PluginWrapper.Proofs.Config.NamedFile
import PluginWrapper.Proofs.CommandLine.Flags
import PluginWrapper.Proofs.CommandLine.Spelling
import PluginWrapper.Proofs.Round.Placement
import PluginWrapper.Proofs.Round.Trace
import PluginWrapper.Proofs.CommandLine.Report
import PluginWrapper.Proofs.CommandLine.Run
import PluginWrapper.Proofs.Round.Chunks
import PluginWrapper.Proofs.Round.Retry
import PluginWrapper.Proofs.FileTree.Shape
import PluginWrapper.Proofs.Config.LogSettings
import PluginWrapper.Proofs.CommandLine.LogSettings
import PluginWrapper.Proofs.Sink.SourcePath
import PluginWrapper.Proofs.Dependency.Forms
import PluginWrapper.Proofs.Wrapper.Kinds
import PluginWrapper.Proofs.CommandLine.OptionFlag
import PluginWrapper.Proofs.Config.OptionKey
import PluginWrapper.Proofs.Bytes.Order
import PluginWrapper.Proofs.OptionTable.History
