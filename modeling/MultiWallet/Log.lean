/-!
Lines for a log.
-/

namespace MultiWallet

inductive LogLevel where
  | debug
  | info
  | warn
  | error
deriving DecidableEq

def LogLevel.name : LogLevel → String
  | debug => "DEBUG"
  | info => "INFO"
  | warn => "WARN"
  | error => "ERROR"

structure LogLine where
  level : LogLevel
  message : String
deriving DecidableEq

def LogLine.text (line : LogLine) : String := line.level.name ++ " " ++ line.message

end MultiWallet
