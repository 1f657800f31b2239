import AsmLens.Text.Basic

namespace AsmLens

inductive Level where
  | debug
  | info
  | warning
  deriving DecidableEq, Repr

namespace Level

def rank : Level → Nat
  | .debug => 0
  | .info => 1
  | .warning => 2

def name : Level → Text
  | .debug => "DEBUG"
  | .info => "INFO"
  | .warning => "WARNING"

end Level

structure LogRecord where
  level : Level
  message : Text
  deriving DecidableEq, Repr

end AsmLens
