import Mathlib.Logic.Basic

/-! Values the OIDC code hands to Go's runtime and libraries: error values, the
calls it makes to `fmt`-style printers (log lines and HTTP bodies), and HTTP
responses. A printed line is kept as its format string and operands; rendering is
left to `fmt`, so two calls with the same format and operands print the same text.
-/

set_option autoImplicit false

namespace OidcLogin

/-- Error values. The package's sentinels are compared by identity (`err == watchFailed`),
so each is a constructor of its own; `wrapped` is `errors.Wrap(cause, message)`. -/
inductive GoError where
  | notConfigured
  | authFailed
  | watchFailed
  | tokenDeleted
  | notFound (key : String)
  | other (text : String)
  | wrapped (message : String) (cause : GoError)
  deriving DecidableEq, Repr, Inhabited

inductive Arg where
  | str (s : String)
  | err (e : GoError)
  | nil
  | duration (nanoseconds : Nat)
  deriving DecidableEq, Repr

/-- One call of a printf-style function: its format string and operands. -/
structure Printf where
  format : String
  args : List Arg
  deriving DecidableEq, Repr, Inhabited

inductive Level where
  | info
  | error
  deriving DecidableEq, Repr, Inhabited

structure LogLine where
  level : Level
  line : Printf
  deriving DecidableEq, Repr, Inhabited

def infof (format : String) (args : List Arg) : LogLine := ⟨.info, ⟨format, args⟩⟩

def errorf (format : String) (args : List Arg) : LogLine := ⟨.error, ⟨format, args⟩⟩

structure Response where
  status : Nat
  body : Printf
  deriving DecidableEq, Repr, Inhabited

/-- `http.Error(w, message, code)`: the status, and the message followed by a newline. -/
def httpError (message : Printf) (code : Nat) : Response :=
  ⟨code, { message with format := message.format ++ "\n" }⟩

/-- A computation that may panic, with the runtime's panic text. -/
abbrev Go (α : Type) := Except String α

def indexOutOfRange : String := "runtime error: index out of range [0] with length 0"

/-- `url.Values`: the values of each query key, in order; nil for an absent key. -/
abbrev Values := String → List String

end OidcLogin
