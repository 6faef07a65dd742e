import Mathlib.Logic.Function.Basic
import OidcLogin.Output

/-! The `oidc-authns` etcd collection: the `SessionInfo` stored under each OIDC
state token, and the transactions the code runs on it.

`col.NewSTM` is modelled by its serializability contract: the closure runs once
against the current records, and its writes take effect only if the transaction
commits. Variables the closure assigns (the handler's `conversionErr`) keep the
assignment whether or not it commits. The lease behind `PutTTL` is not kept: expiry
is a step of its own (`expire`) that may come at any time.
-/

set_option autoImplicit false

namespace OidcLogin

/-- `auth.SessionInfo`, with the three fields this code reads and writes. -/
structure SessionInfo where
  nonce : String
  accessToken : String
  conversionErr : Bool
  deriving DecidableEq, Repr, Inhabited

abbrev States := String → Option SessionInfo

/-- What etcd does with one transaction: it commits, a read fails (so the closure stops
before it finishes), or the closure runs to its end and the commit fails. -/
inductive Txn where
  | commits
  | failsBeforeRead (err : String)
  | failsAtCommit (err : String)
  deriving DecidableEq, Repr, Inhabited

def Txn.reads : Txn → Bool
  | .failsBeforeRead _ => false
  | _ => true

/-- Modelled from the spec: `col.NewSTM(ctx, client, apply)`. `captured` is what the
closure's captured variables hold before it runs; the result is what they hold after,
the error the call returns, and the records after the transaction. -/
def newSTM {σ : Type} (txn : Txn) (apply : σ → States → σ × Except GoError States)
    (captured : σ) (states : States) : σ × Option GoError × States :=
  match txn with
  | .failsBeforeRead err => (captured, some (.other err), states)
  | .commits =>
    match apply captured states with
    | (after, .error err) => (after, some err, states)
    | (after, .ok written) => (after, none, written)
  | .failsAtCommit err =>
    match apply captured states with
    | (after, .error failed) => (after, some failed, states)
    | (after, .ok _) => (after, some (.other err), states)

/-- Modelled from the spec: `col.NewSTM` runs `apply` again from scratch each time its
commit finds that a key it read changed meanwhile. `conflicts` are the records the
attempts that lost such a race read (their `apply` succeeded, or the call would have
ended there), and `txn` what etcd does with the attempt that ends the call. Only that
attempt can commit, but the closure's captured variables keep what every attempt
assigned to them. -/
def newSTMRetrying {σ : Type} (conflicts : List States) (txn : Txn)
    (apply : σ → States → σ × Except GoError States) (captured : σ) (states : States) :
    σ × Option GoError × States :=
  newSTM txn apply (conflicts.foldl (fun captured snapshot => (apply captured snapshot).1) captured) states

def putTTL (key : String) (val : SessionInfo) (_ttl : Nat) (states : States) : States :=
  Function.update states key (some val)

/-- Modelled from the spec: `Update(key, val, f)` of a read-write collection reads
the record under `key` (an absent record is a not-found error), runs `f` on it, which
may fail and then aborts the update, and writes the result back. `f` also returns what
it assigned to the caller's variables. -/
def update {σ : Type} (key : String) (f : σ → SessionInfo → σ × Except GoError SessionInfo)
    (captured : σ) (states : States) : σ × Except GoError States :=
  match states key with
  | none => (captured, .error (.notFound key))
  | some si =>
    match f captured si with
    | (after, .error err) => (after, .error err)
    | (after, .ok si') => (after, .ok (Function.update states key (some si')))

def expire (key : String) (states : States) : States := Function.update states key none

theorem update_absent {σ : Type} {key : String} {states : States} (absent : states key = none)
    (f : σ → SessionInfo → σ × Except GoError SessionInfo) (captured : σ) :
    update key f captured states = (captured, .error (.notFound key)) := by
  simp [update, absent]

theorem update_present {σ : Type} {key : String} {states : States} {si : SessionInfo}
    (present : states key = some si) (f : σ → SessionInfo → σ × Except GoError SessionInfo)
    (captured : σ) :
    update key f captured states =
      ((f captured si).1, (f captured si).2.map fun si' => Function.update states key (some si')) := by
  simp only [update, present]
  split <;> simp_all [Except.map]

end OidcLogin
