import Hostkeeper.Storage
import Hostkeeper.Proofs.Text.Numeral

/-! Which unit a device path names. The parts of the name are read back from it: the number after the last dash, and
the portal before the first mark, since a portal with its port ends with a digit. -/
namespace Hostkeeper.Storage

section Marks

variable {α : Type} {mark front front' more rest rest' : List α}

end Marks

section Ports

variable {portal : String}

end Ports

section Paths

variable {dir portal portal' iqn iqn' : String} {lun lun' : Nat}

end Paths

end Hostkeeper.Storage
