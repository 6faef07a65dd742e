import Mathlib.Data.List.Nodup
import OidcLogin.Output
import OidcLogin.Text

/-! The log package: `GRPCLogWriter.Write`, which turns gRPC's log lines into logrus
entries, and the `Pretty` formatter.

`Write` cuts a line with `SplitN(p, " ", 4)`. A line of gRPC's form, a prefix, a date and a
time before the message, is logged as its trimmed message at the prefix's level; anything
else is logged twice at error level, the second entry naming the problem. `Pretty` edits
the entry it formats: it takes `service` and `method` out of the fields and turns a
`duration` into seconds in place, so formatting the same entry again panics.
-/

set_option autoImplicit false

namespace OidcLogin.Log

/-! ### `GRPCLogWriter.Write` -/

inductive Level where
  | panic
  | fatal
  | error
  | warning
  | info
  | debug
  | trace
  deriving DecidableEq, Repr, Inhabited

inductive Message where
  | text (s : String)
  | bytes (p : List Char)
  | printf (line : Printf)
  deriving DecidableEq, Repr, Inhabited

structure Logged where
  level : Level
  fields : List (String × String)
  message : Message
  deriving DecidableEq, Repr, Inhabited

structure GRPCLogWriter where
  source : String
  deriving DecidableEq, Repr, Inhabited

/-- `Write`: the count and error it returns, and the entries it logs. -/
def GRPCLogWriter.write (l : GRPCLogWriter) (p : List Char) : (Nat × Option GoError) × List Logged :=
  let entry (level : Level) (message : Message) : Logged := ⟨level, [("source", l.source)], message⟩
  ((byteSize p, none),
    match splitN ' ' 4 p with
    | [level, _, _, rest] =>
      let message : String := ⟨trimSpace rest⟩
      if level = "INFO:".toList then [entry .info (.text message)]
      else if level = "ERROR:".toList then [entry .error (.text message)]
      else if level = "WARNING:".toList then [entry .warning (.text message)]
      else if level = "FATAL:".toList then [entry .error (.text message)]
      else
        [entry .error (.text message),
          entry .error (.printf ⟨"entry had unknown log level prefix: \x27%s\x27; this is a bug, please report it along with the previous log entry", [.str ⟨level⟩]⟩)]
    | _ =>
      [entry .error (.bytes p),
        entry .error (.text "entry had unexpected format; this is a bug, please report it along with the previous log entry")])

/-! ### `Pretty` -/

/-- A field value (an `interface{}`), by its dynamic type; `seconds` is the float64 that
`Duration.Seconds()` gives for that many nanoseconds. -/
inductive Value where
  | nil
  | text (s : String)
  | duration (nanoseconds : Int)
  | seconds (nanoseconds : Int)
  | other (typeName : String) (rendered : String)
  deriving DecidableEq, Repr, Inhabited

def Value.typeName : Value → String
  | .nil => "nil"
  | .text _ => "string"
  | .duration _ => "time.Duration"
  | .seconds _ => "float64"
  | .other typeName _ => typeName

/-- `logrus.Fields`, a Go map: one value per key. -/
structure Fields where
  entries : List (String × Value)
  keysNodup : (entries.map Prod.fst).Nodup
  deriving DecidableEq

def Fields.get (data : Fields) (key : String) : Value :=
  (data.entries.lookup key).getD .nil

theorem Fields.nodup_filter (data : Fields) (key : String) :
    ((data.entries.filter fun field => field.1 != key).map Prod.fst).Nodup :=
  data.keysNodup.sublist (List.Sublist.map _ (List.filter_sublist _))

def Fields.delete (data : Fields) (key : String) : Fields :=
  ⟨data.entries.filter (fun field => field.1 != key), data.nodup_filter key⟩

def Fields.set (data : Fields) (key : String) (value : Value) : Fields :=
  ⟨data.entries.filter (fun field => field.1 != key) ++ [(key, value)], by
    rw [List.map_append, List.nodup_append]
    refine ⟨data.nodup_filter key, List.nodup_singleton _, ?_⟩
    simp [List.Disjoint]⟩

def Level.name : Level → String
  | .panic => "panic"
  | .fatal => "fatal"
  | .error => "error"
  | .warning => "warning"
  | .info => "info"
  | .debug => "debug"
  | .trace => "trace"

theorem lookup_filter_ne (entries : List (String × Value)) {key other : String} (differ : key ≠ other) :
    (entries.filter fun field => field.1 != other).lookup key = entries.lookup key := by
  induction entries with
  | nil => rfl
  | cons field entries ih =>
    obtain ⟨k, v⟩ := field
    by_cases removed : k = other
    · subst removed
      simp [List.lookup_cons, ih, beq_false_of_ne differ]
    · simp [List.lookup_cons, ih, removed]

@[simp] theorem Fields.get_delete_of_ne (data : Fields) {key other : String} (differ : key ≠ other) :
    (data.delete other).get key = data.get key := by
  simp [Fields.get, Fields.delete, lookup_filter_ne _ differ]

end OidcLogin.Log
