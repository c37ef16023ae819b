import ScanLexer.Memory

/-!
# An ordinary machine

Single runs are told on a machine that hands out whatever takes fewer than 2 ^ 34 bytes. It is the
last choice: whatever is said of every machine names its own.
-/
namespace ScanLexer

instance (priority := low) Memory.ordinary : Memory := .below (Nat.pow 2 34) (by decide)

end ScanLexer
