/-!
# Diagnostics

Every error has a message, a stable code, and for some errors advice on what to do.
-/

namespace Earley

/-- Errors that can be reported. -/
class Diagnostic (ε : Type) where
  message : ε → String
  code : ε → String
  help? : ε → Option String

end Earley
