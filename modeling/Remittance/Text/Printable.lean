import Remittance.Text.Printable.Table

/-! # Printable characters

A character is printable when it is the ASCII space or has a mark of its own on paper. -/

namespace Remittance.Text

/-- Whether `c` is printable: of the ASCII characters, those from the space to the tilde. -/
def isPrintable (c : Char) : Bool :=
  if c.toNat < 0x7F then decide (0x20 ≤ c.toNat) else !nonPrintable.contains c

end Remittance.Text
