/-!
# Host status values

`framework::Status` pairs a code with a message.  Host operations that fail
return one; operations that succeed return their result.
-/

namespace AudioStudio.Common

inductive StatusCode where
  | ok
  | invalidArgument
  | unavailable
  | internal
  deriving DecidableEq, Repr

structure Status where
  code : StatusCode
  message : String
  deriving DecidableEq, Repr

namespace Status

def invalidArgument (message : String) : Status := ⟨.invalidArgument, message⟩

def unavailable (message : String) : Status := ⟨.unavailable, message⟩

def internal (message : String) : Status := ⟨.internal, message⟩

end Status

/-- The result of a host call: its value, or the status it failed with. -/
abbrev Result (α : Type) := Except Status α

end AudioStudio.Common
