import Mathlib.Logic.Basic
import ComponentSplit.Files.Tree
import ComponentSplit.Proofs.Registry.Building

namespace ComponentSplit

namespace FileTree

variable {t : FileTree} {place : Place} {bytes : ByteArray}

end FileTree

end ComponentSplit
