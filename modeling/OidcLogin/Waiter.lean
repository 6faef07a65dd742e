import Mathlib.Data.List.Basic
import OidcLogin.Login

/-! `OIDCStateToEmail`: watch the record under a state token until it leaves the
pending state, re-establishing the watch under `backoff.RetryNotify`, then ask the ID
provider for the user's email with the access token found.

Each call of `WatchOne` gets the next `WatchSession` the world supplies: a failure, or
a finite list of events and whether the channel then closes. `Waiting` holds the
variables the closures share and the number of calls made.

Over the code stands an abstract waiter. A watch ends in a `Decision`, fixed by its
first event that is not a pending record; `lastWatch` goes from watch to watch while
they end for a retry and the schedule lasts. `oidcStateToEmail_outcome` shows the code
refines it: what the call returns, whether and with which token it asks for the user's
email, and how many watches it opens are those of the abstract waiter.
-/

set_option autoImplicit false

namespace OidcLogin

inductive Event where
  | put (value : List UInt8)
  | delete
  | error (err : String)
  deriving DecidableEq, Repr, Inhabited

/-- Modelled from the spec: what one `WatchOne` call of the etcd collection gives, an
error, or a watcher whose channel delivers `events` and then closes (`closes`) or stays
open with nothing more. -/
inductive WatchSession where
  | fails (err : String)
  | delivers (events : List Event) (closes : Bool)
  deriving DecidableEq, Repr

abbrev Unmarshal := List UInt8 → Except String SessionInfo

structure Waiting where
  accessToken : String
  opened : Nat
  logs : List LogLine

section
variable (unmarshal : Unmarshal)

/-- The loop `for e := range watcher.Watch()`: the operation's error (`none` for
success) and the shared variables, or `none` when the channel stays open with nothing
decisive. -/
def watchEvents : List Event → Bool → Waiting → Option (Option GoError × Waiting)
  | [], closes, w => if closes then some (none, w) else none
  | e :: rest, closes, w =>
    match e with
    | .error err => some (some (.other err), w)
    | .delete => some (some .tokenDeleted, w)
    | .put value =>
      match unmarshal value with
      | .error err => some (some (.wrapped "error unmarshalling OIDC SessionInfo" (.other err)), w)
      | .ok si =>
        if si.accessToken ≠ "" then some (none, { w with accessToken := si.accessToken })
        else if si.conversionErr then some (some .authFailed, w)
        else
          watchEvents rest closes
            { w with logs := w.logs ++ [errorf "ID token unset in OIDC conversion watch event" []] }

def watchOperation (sessions : Nat → WatchSession) (state : String) (w : Waiting) :
    Option (Option GoError × Waiting) :=
  match sessions w.opened with
  | .fails err =>
    some (some .watchFailed, { w with
      opened := w.opened + 1
      logs := w.logs ++ [errorf "error watching OIDC state token %q during authorization: %v"
        [.str state, .err (.other err)]] })
  | .delivers events closes => watchEvents unmarshal events closes { w with opened := w.opened + 1 }

end

def notifyWatch (state : String) (err : GoError) (next : Nat) (w : Waiting) : Option GoError × Waiting :=
  (if err = .watchFailed ∨ err = .tokenDeleted ∨ err = .authFailed then some err else none,
    { w with logs := w.logs ++ [errorf "error watching OIDC state token %q during authorization (retrying in %s): %v"
      [.str state, .duration next, .err err]] })

/-- Modelled from the spec: `backoff.RetryNotify(operation, b, notify)` runs the
operation until it succeeds; after each failure it takes the policy's next wait, and
stops with the failure when the policy says stop, or with notify's error when notify
returns one, and otherwise sleeps and retries. `schedule` is the waits the policy gives
before it says stop. -/
def retryNotify {σ : Type} (operation : σ → Option (Option GoError × σ))
    (notify : GoError → Nat → σ → Option GoError × σ) : List Nat → σ → Option (Option GoError × σ)
  | schedule, s =>
    match operation s with
    | none => none
    | some (none, s) => some (none, s)
    | some (some err, s) =>
      match schedule with
      | [] => some (some err, s)
      | next :: rest =>
        match notify err next s with
        | (some stop, s) => some (some stop, s)
        | (none, s) => retryNotify operation notify rest s

structure Resolved where
  result : Except GoError String
  userInfo : Option String
  waiting : Waiting

def convertedLine (state email : String) (retErr : Option GoError) : LogLine :=
  infof "converted OIDC state %q to email %q (or err: %v)"
    [.str state, .str email, retErr.elim .nil .err]

def finishWaiting (o : InternalOIDCProvider) (state : String) : Option GoError × Waiting → Resolved
  | (some err, w) =>
    ⟨.error err, none, { w with logs := w.logs ++ [convertedLine state "" (some err)] }⟩
  | (none, w) =>
    match o.provider.userInfo w.accessToken with
    | .error err =>
      ⟨.error (.other err), some w.accessToken,
        { w with logs := w.logs ++ [convertedLine state "" (some (.other err))] }⟩
    | .ok email =>
      ⟨.ok email, some w.accessToken,
        { w with logs := w.logs ++ [infof "recovered user info with email: \x27%v\x27" [.str email],
          convertedLine state email none] }⟩

/-- `OIDCStateToEmail`, or `none` if it never returns. -/
def oidcStateToEmail (o : InternalOIDCProvider) (unmarshal : Unmarshal) (sessions : Nat → WatchSession)
    (schedule : List Nat) (state : String) : Option Resolved :=
  (retryNotify (watchOperation unmarshal sessions state) (notifyWatch state) schedule ⟨"", 0, []⟩).map
    (finishWaiting o state)

/-! ## How a watch ends -/

section
variable (unmarshal : Unmarshal)

def pendingPut : Event → Bool
  | .put value =>
    match unmarshal value with
    | .ok si => si.accessToken = "" && !si.conversionErr
    | .error _ => false
  | _ => false

/-- How one watch ends: `WatchOne` failed (`unopened`), a watch error or a value that does
not decode (`retry`), a delete, a record with `ConversionErr` set (`rejected`), a record
granted an access token, or the channel closing after pending records only (`closed`). -/
inductive Decision where
  | unopened
  | retry (err : GoError)
  | deleted
  | rejected
  | granted (accessToken : String)
  | closed
  deriving DecidableEq, Repr

def eventDecision : Event → Decision
  | .error err => .retry (.other err)
  | .delete => .deleted
  | .put value =>
    match unmarshal value with
    | .error err => .retry (.wrapped "error unmarshalling OIDC SessionInfo" (.other err))
    | .ok si => if si.accessToken ≠ "" then .granted si.accessToken else .rejected

def WatchSession.decision : WatchSession → Option Decision
  | .fails _ => some .unopened
  | .delivers events closes =>
    match events.find? (!pendingPut unmarshal ·) with
    | some e => some (eventDecision unmarshal e)
    | none => if closes then some .closed else none

/-- The abstract waiter: from watch `first` on, a watch that ends for a retry is
followed by the next while the schedule lasts; the index and decision of the watch
that ends the call. -/
def lastWatch (sessions : Nat → WatchSession) : List Nat → Nat → Option (Nat × Decision)
  | schedule, first =>
    match (sessions first).decision unmarshal with
    | none => none
    | some (.retry err) =>
      match schedule with
      | [] => some (first, .retry err)
      | _ :: rest => lastWatch sessions rest (first + 1)
    | some d => some (first, d)

end

def Decision.err : Decision → Option GoError
  | .unopened => some .watchFailed
  | .retry err => some err
  | .deleted => some .tokenDeleted
  | .rejected => some .authFailed
  | .granted _ => none
  | .closed => none

def Decision.token : Decision → Option String
  | .granted accessToken => some accessToken
  | _ => none

def Decision.userInfo : Decision → Option String
  | .granted accessToken => some accessToken
  | .closed => some ""
  | _ => none

def Decision.resolve (o : InternalOIDCProvider) (d : Decision) : Except GoError String :=
  match d.userInfo with
  | some accessToken => (o.provider.userInfo accessToken).mapError .other
  | none => .error (d.err.getD .watchFailed)

def Resolved.outcome (r : Resolved) : Except GoError String × Option String × Nat :=
  (r.result, r.userInfo, r.waiting.opened)

/-! ## The code refines the abstract waiter -/

section
variable (unmarshal : Unmarshal)

theorem watchEvents_decision (events : List Event) (closes : Bool) (w : Waiting) :
    (watchEvents unmarshal events closes w).map (fun r => (r.1, r.2.accessToken, r.2.opened)) =
      ((WatchSession.delivers events closes).decision unmarshal).map
        fun d => (d.err, d.token.getD w.accessToken, w.opened) := by
  induction events generalizing w with
  | nil => cases closes <;> simp [watchEvents, WatchSession.decision, Decision.err, Decision.token]
  | cons e rest ih =>
    cases e with
    | error err => simp [watchEvents, WatchSession.decision, pendingPut, eventDecision, Decision.err, Decision.token]
    | delete => simp [watchEvents, WatchSession.decision, pendingPut, eventDecision, Decision.err, Decision.token]
    | put value =>
      cases decoded : unmarshal value with
      | error err =>
        simp [watchEvents, WatchSession.decision, pendingPut, eventDecision, Decision.err, Decision.token, decoded]
      | ok si =>
        by_cases tokenSet : si.accessToken = ""
        · by_cases failed : si.conversionErr = true
          · simp [watchEvents, WatchSession.decision, pendingPut, eventDecision, Decision.err, Decision.token,
              decoded, tokenSet, failed]
          · have pending : pendingPut unmarshal (.put value) = true := by
              simp [pendingPut, decoded, tokenSet, failed]
            have skip : (Event.put value :: rest).find? (!pendingPut unmarshal ·) =
                rest.find? (!pendingPut unmarshal ·) := List.find?_cons_of_neg _ (by simp [pending])
            simp only [WatchSession.decision, skip] at ih ⊢
            simp [watchEvents, decoded, tokenSet, failed, ih]
        · simp [watchEvents, WatchSession.decision, pendingPut, eventDecision, Decision.err, Decision.token,
            decoded, tokenSet]

theorem watchOperation_decision (sessions : Nat → WatchSession) (state : String) (w : Waiting) :
    (watchOperation unmarshal sessions state w).map (fun r => (r.1, r.2.accessToken, r.2.opened)) =
      ((sessions w.opened).decision unmarshal).map fun d => (d.err, d.token.getD w.accessToken, w.opened + 1) := by
  unfold watchOperation
  split
  · rename_i err found
    simp [found, WatchSession.decision, Decision.err, Decision.token]
  · rename_i events closes found
    rw [found, watchEvents_decision]

theorem watchOperation_of_decision {sessions : Nat → WatchSession} (state : String) {w : Waiting}
    {d : Decision} (decided : (sessions w.opened).decision unmarshal = some d) :
    ∃ w', watchOperation unmarshal sessions state w = some (d.err, w') ∧
      w'.accessToken = d.token.getD w.accessToken ∧ w'.opened = w.opened + 1 := by
  have view := watchOperation_decision unmarshal sessions state w
  rw [decided, Option.map_some'] at view
  obtain ⟨⟨res, w'⟩, ran, same⟩ := Option.map_eq_some'.mp view
  simp only [Prod.mk.injEq] at same
  exact ⟨w', same.1 ▸ ran, same.2⟩

theorem watchOperation_of_blocked {sessions : Nat → WatchSession} {state : String} {w : Waiting}
    (blocked : (sessions w.opened).decision unmarshal = none) :
    watchOperation unmarshal sessions state w = none := by
  have view := watchOperation_decision unmarshal sessions state w
  rw [blocked, Option.map_none'] at view
  exact Option.map_eq_none'.mp view

theorem eventDecision_retry {e : Event} {err : GoError} (retried : eventDecision unmarshal e = .retry err) :
    ¬(err = .watchFailed ∨ err = .tokenDeleted ∨ err = .authFailed) := by
  cases e with
  | error => cases retried; simp
  | delete => cases retried
  | put value =>
    cases decoded : unmarshal value with
    | error => simp only [eventDecision, decoded, Decision.retry.injEq] at retried; subst retried; simp
    | ok si => simp only [eventDecision, decoded] at retried; split_ifs at retried

theorem decision_retry {session : WatchSession} {err : GoError}
    (retried : session.decision unmarshal = some (.retry err)) :
    ¬(err = .watchFailed ∨ err = .tokenDeleted ∨ err = .authFailed) := by
  rcases session with _ | ⟨events, closes⟩
  · cases retried
  · simp only [WatchSession.decision] at retried
    split at retried
    · exact eventDecision_retry unmarshal (Option.some.inj retried)
    · split_ifs at retried; cases retried

@[simp] theorem notifyWatch_accessToken (state : String) (err : GoError) (next : Nat) (w : Waiting) :
    (notifyWatch state err next w).2.accessToken = w.accessToken := rfl

@[simp] theorem notifyWatch_opened (state : String) (err : GoError) (next : Nat) (w : Waiting) :
    (notifyWatch state err next w).2.opened = w.opened := rfl

@[simp] theorem Decision.err_retry (err : GoError) : (Decision.retry err).err = some err := rfl

@[simp] theorem Decision.token_retry (err : GoError) : (Decision.retry err).token = none := rfl

theorem retryNotify_of_blocked {sessions : Nat → WatchSession} {state : String} {w : Waiting}
    (blocked : (sessions w.opened).decision unmarshal = none) (schedule : List Nat) :
    retryNotify (watchOperation unmarshal sessions state) (notifyWatch state) schedule w = none := by
  rw [retryNotify, watchOperation_of_blocked unmarshal blocked]

/-- The retry loop, seen through the variables it leaves, is the abstract waiter. -/
theorem retryNotify_lastWatch (sessions : Nat → WatchSession) (state : String) (schedule : List Nat)
    (w : Waiting) :
    (retryNotify (watchOperation unmarshal sessions state) (notifyWatch state) schedule w).map
        (fun r => (r.1, r.2.accessToken, r.2.opened)) =
      (lastWatch unmarshal sessions schedule w.opened).map
        fun r => (r.2.err, r.2.token.getD w.accessToken, r.1 + 1) := by
  induction schedule generalizing w with
  | nil =>
    cases decided : (sessions w.opened).decision unmarshal with
    | none => rw [retryNotify_of_blocked unmarshal decided, lastWatch, decided]; rfl
    | some d =>
      obtain ⟨w', ran, token, opened⟩ := watchOperation_of_decision unmarshal state decided
      rw [retryNotify, lastWatch]
      cases d <;> simp [ran, decided, Decision.err, token, opened]
  | cons next rest ih =>
    cases decided : (sessions w.opened).decision unmarshal with
    | none => rw [retryNotify_of_blocked unmarshal decided, lastWatch, decided]; rfl
    | some d =>
      obtain ⟨w', ran, token, opened⟩ := watchOperation_of_decision unmarshal state decided
      rw [retryNotify, lastWatch]
      cases d with
      | retry err =>
        have continues : (notifyWatch state err next w').1 = none := by
          simpa [notifyWatch] using decision_retry unmarshal decided
        simp only [ran, Decision.err_retry]
        rw [← Prod.mk.eta (p := notifyWatch state err next w'), continues]
        simp only [decided, ih, notifyWatch_accessToken, notifyWatch_opened, token, opened,
          Decision.token_retry, Option.getD_none]
      | _ => simp [ran, decided, Decision.err, notifyWatch, token, opened]

/-- `OIDCStateToEmail` refines the abstract waiter: its result, the token it gives
`UserInfo` and the watches it opens are those of the watch that ends the call. -/
theorem oidcStateToEmail_outcome (o : InternalOIDCProvider) (sessions : Nat → WatchSession)
    (schedule : List Nat) (state : String) :
    (oidcStateToEmail o unmarshal sessions schedule state).map Resolved.outcome =
      (lastWatch unmarshal sessions schedule 0).map fun r => (r.2.resolve o, r.2.userInfo, r.1 + 1) := by
  have view := retryNotify_lastWatch unmarshal sessions state schedule ⟨"", 0, []⟩
  unfold oidcStateToEmail
  cases ran : retryNotify (watchOperation unmarshal sessions state) (notifyWatch state) schedule ⟨"", 0, []⟩ with
  | none =>
    rw [ran, Option.map_none', eq_comm, Option.map_eq_none'] at view
    simp [view]
  | some r =>
    rw [ran, Option.map_some', eq_comm, Option.map_eq_some'] at view
    obtain ⟨⟨i, d⟩, last, same⟩ := view
    rcases r with ⟨err, w⟩
    simp only [Prod.mk.injEq] at same
    obtain ⟨rfl, token, opened⟩ := same
    rw [show (⟨"", 0, []⟩ : Waiting).opened = 0 from rfl] at last
    rw [last]
    cases d <;> simp only [Decision.err, Decision.token, Option.getD_some, Option.getD_none] at token ⊢ <;>
      simp only [Option.map_some', finishWaiting, Resolved.outcome, Decision.resolve, Decision.userInfo,
        Decision.err, Option.getD_some, token, opened]
    all_goals cases o.provider.userInfo _ <;> rfl

end

end OidcLogin
