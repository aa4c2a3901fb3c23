import TextMate.Command.Plan
import TextMate.Proofs.Cue.Clean
import TextMate.Proofs.Handover

/-! What the command leaves behind: an exit code, the bytes on standard output and the files. -/
namespace TextMate

namespace FileTree

variable {t : FileTree} {working place : Place} {path : String}

/-- A file stands at a place where no directory was, and all else is as it was. -/
structure Writes (t : FileTree) (place : Place) (content : ByteArray) (written : FileTree) :
    Prop where
  free : t.item? place ≠ some .directory
  file : written.item? place = some (.file content)
  others : ∀ name ≠ key place, written.items.get? name = t.items.get? name

end FileTree

namespace Command

namespace Outlet

variable (o : Outlet) (g : Grammar) {t : FileTree} {working place : FileTree.Place} {path : String}

end Outlet

variable {t : FileTree} {working : FileTree.Place}

section Delivering

variable {outlet : Outlet} {stderr path : String} {g : Grammar}

end Delivering

end Command

end TextMate
