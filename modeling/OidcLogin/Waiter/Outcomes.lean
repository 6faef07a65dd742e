import OidcLogin.Waiter

/-! What `OIDCStateToEmail` returns, read off the abstract waiter: the event behind
each sentinel error, watch errors and undecodable values that only end the current
watch, pending records that change nothing, and the token `UserInfo` gets, which is
empty when a channel closes after pending records only.

The inversion lemmas say once what each `Decision` tells about the watch that made
it; `oidcStateToEmail_returned` says once which watch ends a call that returns.
-/

set_option autoImplicit false

namespace OidcLogin

section
variable (unmarshal : Unmarshal)

theorem decision_cases {session : WatchSession} {d : Decision}
    (decided : session.decision unmarshal = some d) :
    (∃ err, session = .fails err ∧ d = .unopened) ∨
    (∃ events closes e, session = .delivers events closes ∧
      events.find? (!pendingPut unmarshal ·) = some e ∧ eventDecision unmarshal e = d) ∨
    (∃ events, session = .delivers events true ∧ (∀ e ∈ events, pendingPut unmarshal e) ∧ d = .closed) := by
  rcases session with err | ⟨events, closes⟩
  · exact .inl ⟨err, rfl, (Option.some.inj decided).symm⟩
  · simp only [WatchSession.decision] at decided
    split at decided
    · rename_i e found
      exact .inr (.inl ⟨events, closes, e, rfl, found, Option.some.inj decided⟩)
    · rename_i found
      split_ifs at decided with closing
      cases decided
      subst closing
      exact .inr (.inr ⟨events, rfl, fun e mem => by simpa using List.find?_eq_none.mp found e mem, rfl⟩)

theorem decision_of_found {events : List Event} {closes : Bool} {e : Event}
    (found : events.find? (!pendingPut unmarshal ·) = some e) :
    (WatchSession.delivers events closes).decision unmarshal = some (eventDecision unmarshal e) := by
  simp only [WatchSession.decision, found]

theorem eventDecision_put {value : List UInt8} {d : Decision} (decided : eventDecision unmarshal (.put value) = d) :
    (∃ err e, unmarshal value = .error err ∧ d = .retry e) ∨
    ∃ si, unmarshal value = .ok si ∧
      (si.accessToken ≠ "" ∧ d = .granted si.accessToken ∨ si.accessToken = "" ∧ d = .rejected) := by
  subst decided
  cases decoded : unmarshal value with
  | error err => exact .inl ⟨err, _, rfl, by rw [eventDecision, decoded]⟩
  | ok si =>
    refine .inr ⟨si, rfl, ?_⟩
    by_cases tokenSet : si.accessToken = "" <;> simp [eventDecision, decoded, tokenSet]

theorem decision_deleted {session : WatchSession} (decided : session.decision unmarshal = some .deleted) :
    ∃ events closes, session = .delivers events closes ∧ events.find? (!pendingPut unmarshal ·) = some .delete := by
  obtain ⟨err, -, ⟨⟩⟩ | ⟨events, closes, e, rfl, found, made⟩ | ⟨events, -, -, ⟨⟩⟩ :=
    decision_cases unmarshal decided
  cases e with
  | error => cases made
  | delete => exact ⟨events, closes, rfl, found⟩
  | put value => obtain ⟨_, _, -, ⟨⟩⟩ | ⟨_, -, ⟨-, ⟨⟩⟩ | ⟨-, ⟨⟩⟩⟩ := eventDecision_put unmarshal made

theorem decision_rejected {session : WatchSession} (decided : session.decision unmarshal = some .rejected) :
    ∃ events closes value si, session = .delivers events closes ∧
      events.find? (!pendingPut unmarshal ·) = some (.put value) ∧ unmarshal value = .ok si ∧
      si.accessToken = "" ∧ si.conversionErr = true := by
  obtain ⟨err, -, ⟨⟩⟩ | ⟨events, closes, e, rfl, found, made⟩ | ⟨events, -, -, ⟨⟩⟩ :=
    decision_cases unmarshal decided
  cases e with
  | error => cases made
  | delete => cases made
  | put value =>
    obtain ⟨_, _, -, ⟨⟩⟩ | ⟨si, decoded, ⟨-, ⟨⟩⟩ | ⟨tokenSet, -⟩⟩ := eventDecision_put unmarshal made
    refine ⟨events, closes, value, si, rfl, found, decoded, tokenSet, ?_⟩
    simpa [pendingPut, decoded, tokenSet] using List.find?_some found

theorem decision_granted {session : WatchSession} {accessToken : String}
    (decided : session.decision unmarshal = some (.granted accessToken)) :
    accessToken ≠ "" ∧ ∃ events closes value si, session = .delivers events closes ∧
      events.find? (!pendingPut unmarshal ·) = some (.put value) ∧ unmarshal value = .ok si ∧
      si.accessToken = accessToken := by
  obtain ⟨err, -, ⟨⟩⟩ | ⟨events, closes, e, rfl, found, made⟩ | ⟨events, -, -, ⟨⟩⟩ :=
    decision_cases unmarshal decided
  cases e with
  | error => cases made
  | delete => cases made
  | put value =>
    obtain ⟨_, _, -, ⟨⟩⟩ | ⟨si, decoded, ⟨tokenSet, ⟨⟩⟩ | ⟨-, ⟨⟩⟩⟩ := eventDecision_put unmarshal made
    exact ⟨tokenSet, events, closes, value, si, rfl, found, decoded, rfl⟩

/-- The watch that ends the call decides, every watch before it from `first` on ended
for a retry, and it is the last the schedule allows if it ended for a retry too. -/
theorem lastWatch_spec {sessions : Nat → WatchSession} {schedule : List Nat} {first i : Nat}
    {d : Decision} (last : lastWatch unmarshal sessions schedule first = some (i, d)) :
    (sessions i).decision unmarshal = some d ∧
      (∀ j, first ≤ j → j < i → ∃ err, (sessions j).decision unmarshal = some (.retry err)) ∧
      first ≤ i ∧ i ≤ first + schedule.length ∧ ∀ err, d = .retry err → i = first + schedule.length := by
  induction schedule generalizing first with
  | nil =>
    rw [lastWatch] at last
    split at last <;> cases last
    all_goals exact ⟨‹_›, fun j low high => absurd high (by omega), le_refl _, by simp, fun _ _ => by simp⟩
  | cons next rest ih =>
    rw [lastWatch] at last
    split at last
    · cases last
    · rename_i err decided
      obtain ⟨ended, before, low, high, exhausted⟩ := ih last
      refine ⟨ended, fun j lowJ highJ => ?_, by omega, by simp; omega, fun err' same => by simp [exhausted err' same]; omega⟩
      rcases Nat.lt_or_ge j (first + 1) with atFirst | later
      · exact ⟨err, (show j = first by omega) ▸ decided⟩
      · exact before j later highJ
    · cases last
      rename_i d notRetry decided
      exact ⟨decided, fun j low high => absurd high (by omega), le_refl _, by simp,
        fun err same => absurd same (notRetry err)⟩

end

/-! ## What a call returns -/

section
variable (unmarshal : Unmarshal)

theorem oidcStateToEmail_returned {o : InternalOIDCProvider} {sessions : Nat → WatchSession}
    {schedule : List Nat} {state : String} {r : Resolved}
    (returned : oidcStateToEmail o unmarshal sessions schedule state = some r) :
    ∃ d, lastWatch unmarshal sessions schedule 0 = some (r.waiting.opened - 1, d) ∧ 0 < r.waiting.opened ∧
      r.result = d.resolve o ∧ r.userInfo = d.userInfo := by
  have view := oidcStateToEmail_outcome unmarshal o sessions schedule state
  rw [returned, Option.map_some', eq_comm, Option.map_eq_some'] at view
  obtain ⟨⟨i, d⟩, last, same⟩ := view
  simp only [Resolved.outcome, Prod.mk.injEq] at same
  obtain ⟨result, userInfo, opened⟩ := same
  refine ⟨d, ?_, by omega, result.symm, userInfo.symm⟩
  rwa [← opened, Nat.add_sub_cancel]

theorem Decision.resolve_sentinel (o : InternalOIDCProvider) {d : Decision} {err : GoError}
    (sentinel : err = .watchFailed ∨ err = .tokenDeleted ∨ err = .authFailed)
    (resolved : d.resolve o = .error err) : d.userInfo = none ∧ d.err = some err := by
  cases d with
  | granted accessToken =>
    simp only [Decision.resolve, Decision.userInfo] at resolved
    cases answered : o.provider.userInfo accessToken <;> simp [answered, Except.mapError] at resolved
    subst resolved; simp at sentinel
  | closed =>
    simp only [Decision.resolve, Decision.userInfo] at resolved
    cases answered : o.provider.userInfo "" <;> simp [answered, Except.mapError] at resolved
    subst resolved; simp at sentinel
  | _ => simpa [Decision.resolve, Decision.userInfo, Decision.err] using resolved

theorem decision_err_sentinel {session : WatchSession} {d : Decision} {err : GoError}
    (decided : session.decision unmarshal = some d)
    (sentinel : err = .watchFailed ∨ err = .tokenDeleted ∨ err = .authFailed) (erred : d.err = some err) :
    d = .unopened ∧ err = .watchFailed ∨ d = .deleted ∧ err = .tokenDeleted ∨ d = .rejected ∧ err = .authFailed := by
  cases d with
  | retry e =>
    cases erred
    exact absurd sentinel (decision_retry unmarshal decided)
  | _ => cases erred <;> simp

theorem oidcStateToEmail_sentinel {o : InternalOIDCProvider} {sessions : Nat → WatchSession}
    {schedule : List Nat} {state : String} {r : Resolved} {err : GoError}
    (returned : oidcStateToEmail o unmarshal sessions schedule state = some r) (erred : r.result = .error err)
    (sentinel : err = .watchFailed ∨ err = .tokenDeleted ∨ err = .authFailed) :
    r.userInfo = none ∧ ∃ d, (sessions (r.waiting.opened - 1)).decision unmarshal = some d ∧
      (d = .unopened ∧ err = .watchFailed ∨ d = .deleted ∧ err = .tokenDeleted ∨ d = .rejected ∧ err = .authFailed) := by
  obtain ⟨d, last, -, result, userInfo⟩ := oidcStateToEmail_returned unmarshal returned
  have decided := (lastWatch_spec unmarshal last).1
  obtain ⟨none, erred⟩ := Decision.resolve_sentinel o sentinel (result ▸ erred)
  exact ⟨userInfo.trans none, d, decided, decision_err_sentinel unmarshal decided sentinel erred⟩

end

/-- A watch whose channel closes before any record arrives ends the call: it asks
`UserInfo` for the user's email with the empty access token. -/
theorem oidcStateToEmail_closed_channel (o : InternalOIDCProvider) (unmarshal : Unmarshal)
    (schedule : List Nat) (state : String) :
    (oidcStateToEmail o unmarshal (fun _ => .delivers [] true) schedule state).map Resolved.userInfo =
      some (some "") := by
  have view := oidcStateToEmail_outcome unmarshal o (fun _ => .delivers [] true) schedule state
  rw [lastWatch] at view
  rw [show Resolved.userInfo = (·.2.1) ∘ Resolved.outcome from rfl, ← Option.map_map, view]
  rfl

def waitingProvider : InternalOIDCProvider :=
  ⟨⟨"", fun _ => .error "unused", fun _ => .error "unused",
    fun accessToken => if accessToken = "tok" then .ok "robot@idp" else .error "401 Unauthorized"⟩, "pachd", ""⟩

def waitingUnmarshal : Unmarshal := fun value =>
  if value = [0] then .ok ⟨"n", "", false⟩
  else if value = [1] then .ok ⟨"n", "tok", false⟩
  else if value = [2] then .ok ⟨"n", "", true⟩
  else .error "unexpected EOF"

def droppedThen (last : Event) : Nat → WatchSession := fun i =>
  if i = 0 then .delivers [.error "etcdserver: mvcc: required revision has been compacted"] false
  else .delivers [.put [0], .put [0], last] false

/-- When `OIDCStateToEmail` calls `UserInfo`, the token is the non-empty `AccessToken`
of the decoded put that ended the last watch, or empty when that watch's channel closed
after pending records only. -/
theorem oidcStateToEmail_userInfo (o : InternalOIDCProvider) (unmarshal : Unmarshal)
    (sessions : Nat → WatchSession) (schedule : List Nat) (state : String) (r : Resolved) (accessToken : String)
    (returned : oidcStateToEmail o unmarshal sessions schedule state = some r)
    (called : r.userInfo = some accessToken) :
    (accessToken ≠ "" ∧ ∃ events closes value si, sessions (r.waiting.opened - 1) = .delivers events closes ∧
      events.find? (!pendingPut unmarshal ·) = some (.put value) ∧ unmarshal value = .ok si ∧
      si.accessToken = accessToken) ∨
    (accessToken = "" ∧ ∃ events, sessions (r.waiting.opened - 1) = .delivers events true ∧
      ∀ e ∈ events, pendingPut unmarshal e) := by
  obtain ⟨d, last, -, -, userInfo⟩ := oidcStateToEmail_returned unmarshal returned
  have decided := (lastWatch_spec unmarshal last).1
  rw [called] at userInfo
  cases d with
  | granted t =>
    cases userInfo
    exact .inl (decision_granted unmarshal decided)
  | closed =>
    cases userInfo
    obtain ⟨err, -, ⟨⟩⟩ | ⟨events, closes, e, -, -, made⟩ | ⟨events, ran, pending, -⟩ :=
      decision_cases unmarshal decided
    · cases e with
      | error => cases made
      | delete => cases made
      | put value => obtain ⟨_, _, -, ⟨⟩⟩ | ⟨_, -, ⟨-, ⟨⟩⟩ | ⟨-, ⟨⟩⟩⟩ := eventDecision_put unmarshal made
    · exact .inr ⟨rfl, events, ran, pending⟩
  | _ => cases userInfo

theorem oidcStateToEmail_userInfo_scenario :
    ∃ r, oidcStateToEmail waitingProvider waitingUnmarshal (droppedThen (.put [1])) [100] "abc123" = some r ∧
      r.userInfo = some "tok" ∧ r.result = .ok "robot@idp" ∧
      ∃ events closes value si, droppedThen (.put [1]) 1 = .delivers events closes ∧
        events.find? (!pendingPut waitingUnmarshal ·) = some (.put value) ∧ waitingUnmarshal value = .ok si ∧
        si.accessToken = "tok" := by
  refine ⟨_, rfl, rfl, rfl, ?_⟩
  obtain ⟨-, granted⟩ | ⟨empty, -⟩ := oidcStateToEmail_userInfo waitingProvider waitingUnmarshal
    (droppedThen (.put [1])) [100] "abc123" _ "tok" rfl rfl
  · exact granted
  · exact absurd empty (by decide)

end OidcLogin
