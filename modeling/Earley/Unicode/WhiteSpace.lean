import Earley.Unicode.Ranges

/-!
# White space
-/

namespace Earley.Unicode

/-- The code points with the property White_Space. -/
def whiteSpace : Ranges :=
  [(0x0009, 0x000D), (0x0020, 0x0020), (0x0085, 0x0085), (0x00A0, 0x00A0), (0x1680, 0x1680),
   (0x2000, 0x200A), (0x2028, 0x2029), (0x202F, 0x202F), (0x205F, 0x205F), (0x3000, 0x3000)]

end Earley.Unicode
