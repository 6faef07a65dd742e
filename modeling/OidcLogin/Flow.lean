import OidcLogin.Session
import OidcLogin.Waiter.Outcomes

/-! # The login flow end to end

`GetOIDCLoginURL` stores the pending record; callbacks and lease expiry change it in
some serial order (`OidcLogin.Session`); `OIDCStateToEmail` watches it
(`OidcLogin.Waiter`). The three share nothing but etcd, and a watch shows only what
the record held: a put carries a record the key held after some prefix of the run, a
delete comes once it held none, and delivery may be late, repeated or cut short.

Under that contract the waiter's conclusions are backed by the run: the token it gives
`UserInfo` was issued to a callback whose ID token carried the session's nonce, an
authorization failure comes from a committed callback that failed, and a deleted state
token from the lease running out.
-/

set_option autoImplicit false

namespace OidcLogin

section
variable (unmarshal : Unmarshal) (state : String) (actions : List Action) (states : States)

/-- Modelled from the spec: an event a watch on the record under `state` may deliver
while `actions` run from `states`. -/
def Event.shows : Event → Prop
  | .put value => ∃ k si, unmarshal value = .ok si ∧ run (actions.take k) states state = some si
  | .delete => ∃ k, run (actions.take k) states state = none
  | .error _ => True

def WatchSession.shows : WatchSession → Prop
  | .fails _ => True
  | .delivers events _ => ∀ e ∈ events, e.shows unmarshal state actions states

variable {unmarshal state actions states}

theorem shows_put {session : WatchSession} (shown : session.shows unmarshal state actions states)
    {events : List Event} {closes : Bool} {value : List UInt8} {si : SessionInfo}
    (ran : session = .delivers events closes) (found : events.find? (!pendingPut unmarshal ·) = some (.put value))
    (decoded : unmarshal value = .ok si) : ∃ k, run (actions.take k) states state = some si := by
  subst ran
  obtain ⟨k, si', decoded', held⟩ := shown _ (List.mem_of_find?_eq_some found)
  rw [decoded, Except.ok.injEq] at decoded'
  exact ⟨k, decoded' ▸ held⟩

theorem shows_delete {session : WatchSession} (shown : session.shows unmarshal state actions states)
    {events : List Event} {closes : Bool} (ran : session = .delivers events closes)
    (found : events.find? (!pendingPut unmarshal ·) = some .delete) :
    ∃ k, run (actions.take k) states state = none := by
  subst ran
  exact shown _ (List.mem_of_find?_eq_some found)

end

/-! ## What the waiter concludes -/

/-- After a successful `GetOIDCLoginURL`, whatever callbacks and expiries follow and
however the watches deliver them: a token `OIDCStateToEmail` gives `UserInfo` is that
of a callback whose code was exchanged and whose ID token verified with the login
URL's nonce; `authFailed` means a committed callback for the state token failed its
exchange or nonce check; `tokenDeleted` means the record's lease ran out. -/
theorem login_outcome {o : Option InternalOIDCProvider} {readState readNonce : Read} {txn : Txn}
    {states states₁ : States} {url : LoginURL} {state : String}
    (created : getOIDCLoginURL o readState readNonce txn states = .ok (.ok (url, state), states₁))
    (sp : InternalOIDCProvider) (unmarshal : Unmarshal) (sessions : Nat → WatchSession) (schedule : List Nat)
    (actions : List Action) (shown : ∀ i, (sessions i).shows unmarshal state actions states₁) (r : Resolved)
    (returned : oidcStateToEmail sp unmarshal sessions schedule state = some r) :
    ∃ nonce, ("nonce", nonce) ∈ url.params ∧
      (∀ accessToken, r.userInfo = some accessToken → accessToken ≠ "" →
        ∃ sp' query txn' code tok rawIDToken idToken, Action.callback (some sp') query txn' ∈ actions ∧
          (query "code")[0]? = some code ∧ sp'.provider.exchange code = .ok tok ∧ tok.idToken = some rawIDToken ∧
          sp'.provider.verify rawIDToken = .ok idToken ∧ idToken.nonce = nonce ∧ tok.accessToken = accessToken) ∧
      (r.result = .error .authFailed →
        ∃ sp' query code, Action.callback (some sp') query .commits ∈ actions ∧ (query "code")[0]? = some code ∧
          (query "state")[0]? = some state ∧ code ≠ "" ∧
          ((exchangeCode sp' code).retErr ≠ none ∨ (exchangeCode sp' code).nonce ≠ nonce)) ∧
      (r.result = .error .tokenDeleted → Action.expire state ∈ actions) := by
  obtain ⟨nonce, -, -, inURL, stored⟩ := length_state_nonce created
  refine ⟨nonce, inURL, fun accessToken called tokenSet => ?_, fun rejected => ?_, fun deleted => ?_⟩
  · obtain ⟨d, last, -, -, userInfo⟩ := oidcStateToEmail_returned unmarshal returned
    have decided := (lastWatch_spec unmarshal last).1
    rw [called] at userInfo
    cases d with
    | granted t =>
      cases userInfo
      obtain ⟨-, events, closes, value, si, ran, found, decoded, token⟩ := decision_granted unmarshal decided
      obtain ⟨k, held⟩ := shows_put (shown _) ran found decoded
      obtain ⟨sp', query, txn', code, tok, rawIDToken, idToken, member, rest⟩ :=
        run_accessToken _ stored held (token ▸ tokenSet)
      exact ⟨sp', query, txn', code, tok, rawIDToken, idToken, List.mem_of_mem_take member, token ▸ rest⟩
    | closed => cases userInfo; exact absurd rfl tokenSet
    | _ => cases userInfo
  · obtain ⟨-, d, decided, ⟨-, ⟨⟩⟩ | ⟨-, ⟨⟩⟩ | ⟨rfl, -⟩⟩ :=
      oidcStateToEmail_sentinel unmarshal returned rejected (by simp)
    obtain ⟨events, closes, value, si, ran, found, decoded, -, flagged⟩ := decision_rejected unmarshal decided
    obtain ⟨k, held⟩ := shows_put (shown _) ran found decoded
    obtain ⟨sp', query, code, member, rest⟩ := run_conversionErr _ stored held flagged
    exact ⟨sp', query, code, List.mem_of_mem_take member, rest⟩
  · obtain ⟨-, d, decided, ⟨-, ⟨⟩⟩ | ⟨rfl, -⟩ | ⟨-, ⟨⟩⟩⟩ :=
      oidcStateToEmail_sentinel unmarshal returned deleted (by simp)
    obtain ⟨events, closes, ran, found⟩ := decision_deleted unmarshal decided
    obtain ⟨k, gone⟩ := shows_delete (shown _) ran found
    exact List.mem_of_mem_take (run_absent _ stored gone)

/-! ## A login, concretely -/

def flowState : String := "AAAAAAAAAAAAAAAAAAAAAAAAAAAAAAA"

def flowNonce : String := "AQEBAQEBAQEBAQEBAQEBAQEBAQEBAQE"

def flowProvider : InternalOIDCProvider :=
  ⟨⟨"", fun code => if code = "xyz" then .ok ⟨"tok", some "raw"⟩ else .error "invalid_grant",
    fun raw => if raw = "raw" then .ok ⟨flowNonce⟩ else .error "bad signature",
    fun accessToken => if accessToken = "tok" then .ok "robot@idp" else .error "401 Unauthorized"⟩, "pachd", ""⟩

def flowQuery : Values := fun key =>
  if key = "code" then ["xyz"] else if key = "state" then [flowState] else []

def flowStates : States := putTTL flowState ⟨flowNonce, "", false⟩ threeMinutes (fun _ => none)

def flowUnmarshal : Unmarshal := fun value =>
  if value = [1] then .ok ⟨flowNonce, "tok", false⟩ else .error "unexpected EOF"

def flowSessions : Nat → WatchSession := fun _ => .delivers [.put [1]] false

theorem getOIDCLoginURL_flow :
    getOIDCLoginURL (some flowProvider) (fun _ => some fun _ => 0) (fun _ => some fun _ => 1) .commits
      (fun _ => none) = .ok (.ok (authCodeURL flowProvider flowState flowNonce, flowState), flowStates) := by
  simp only [getOIDCLoginURL, cryptoString, numBytesFrom_thirty]
  rfl

theorem shows_flowPut :
    (Event.put [1]).shows flowUnmarshal flowState [.callback (some flowProvider) flowQuery .commits] flowStates :=
  ⟨1, _, rfl, by decide⟩

theorem login_outcome_scenario :
    getOIDCLoginURL (some flowProvider) (fun _ => some fun _ => 0) (fun _ => some fun _ => 1) .commits
        (fun _ => none) = .ok (.ok (authCodeURL flowProvider flowState flowNonce, flowState), flowStates) ∧
      (∀ i, (flowSessions i).shows flowUnmarshal flowState [.callback (some flowProvider) flowQuery .commits]
        flowStates) ∧
      ∃ r, oidcStateToEmail flowProvider flowUnmarshal flowSessions [100] flowState = some r ∧
        r.userInfo = some "tok" ∧ ∃ nonce, ("nonce", nonce) ∈ (authCodeURL flowProvider flowState flowNonce).params ∧
          ∃ sp' query txn' code tok rawIDToken idToken,
            Action.callback (some sp') query txn' ∈ [.callback (some flowProvider) flowQuery .commits] ∧
            (query "code")[0]? = some code ∧ sp'.provider.exchange code = .ok tok ∧
            tok.idToken = some rawIDToken ∧ sp'.provider.verify rawIDToken = .ok idToken ∧
            idToken.nonce = nonce ∧ tok.accessToken = "tok" := by
  have shown : ∀ i, (flowSessions i).shows flowUnmarshal flowState [.callback (some flowProvider) flowQuery .commits]
      flowStates := fun _ e mem => (List.mem_singleton.mp mem) ▸ shows_flowPut
  obtain ⟨nonce, inURL, token, -⟩ := login_outcome getOIDCLoginURL_flow flowProvider flowUnmarshal flowSessions [100]
    [.callback (some flowProvider) flowQuery .commits] shown _ rfl
  exact ⟨getOIDCLoginURL_flow, shown, _, rfl, rfl, nonce, inURL, token "tok" rfl (by decide)⟩

/-! ## The login succeeds -/

/-- The login succeeds. After a successful `GetOIDCLoginURL`, a well-formed callback for
the state token whose code exchanges for an access token and an ID token carrying the
login URL's nonce, and whose transaction commits, answers 200; a waiter whose first
watch delivers puts of records the key held, not all of them pending, then gets the
provider's answer for that access token after one watch. -/
theorem login_succeeds {o : Option InternalOIDCProvider} {readState readNonce : Read} {txn : Txn}
    {states states₁ : States} {url : LoginURL} {state : String}
    (created : getOIDCLoginURL o readState readNonce txn states = .ok (.ok (url, state), states₁))
    (sp : InternalOIDCProvider) (query : Values) (code : String) (hasCode : (query "code")[0]? = some code)
    (hasState : (query "state")[0]? = some state) (codeSet : code ≠ "")
    (verified : (exchangeCode sp code).retErr = none) (tokenSet : (exchangeCode sp code).accessToken ≠ "")
    (sameNonce : ("nonce", (exchangeCode sp code).nonce) ∈ url.params)
    (o' : InternalOIDCProvider) (unmarshal : Unmarshal) (sessions : Nat → WatchSession) (schedule : List Nat)
    (events : List Event) (closes : Bool) (first : sessions 0 = .delivers events closes)
    (shown : ∀ e ∈ events, (∃ value, e = .put value) ∧
      e.shows unmarshal state [.callback (some sp) query .commits] states₁)
    (delivered : ∃ e ∈ events, pendingPut unmarshal e = false) :
    (handleOIDCExchange (some sp) query .commits states₁).map (·.response.status) = .ok 200 ∧
    (oidcStateToEmail o' unmarshal sessions schedule state).map Resolved.outcome =
      some ((o'.provider.userInfo (exchangeCode sp code).accessToken).mapError .other,
        some (exchangeCode sp code).accessToken, 1) := by
  obtain ⟨nonce, stateLength, -, inURL, stored⟩ := length_state_nonce created
  obtain ⟨provider, nonce', -, -, -, -, -, rfl⟩ := getOIDCLoginURL_ok created
  have sameNonce : (exchangeCode sp code).nonce = nonce :=
    (authCodeURL_nonce sameNonce).trans (authCodeURL_nonce inURL).symm
  have stateSet : state ≠ "" := fun empty => by simp [empty] at stateLength
  have granted : Action.change state nonce (.callback (some sp) query .commits) =
      .grant (exchangeCode sp code).accessToken := by
    simp [Action.change, hasCode, hasState, codeSet, stateSet, Change.ofExchange, verified, sameNonce]
  refine ⟨?_, ?_⟩
  · rw [handleOIDCExchange_exchange sp query .commits states₁ hasCode hasState codeSet stateSet, exchangeAndStore_eq]
    simp [transact, stored, verified, sameNonce, checkNonce, respond, Except.map]
  · obtain ⟨e, found⟩ : ∃ e, events.find? (!pendingPut unmarshal ·) = some e :=
      Option.isSome_iff_exists.mp (List.find?_isSome.mpr (by simpa using delivered))
    obtain ⟨⟨value, rfl⟩, k, si, decoded, held⟩ := shown e (List.mem_of_find?_eq_some found)
    have decisive := List.find?_some found
    rw [run_pending _ stored] at held
    cases k with
    | zero =>
      simp only [List.take_zero, List.map_nil, List.not_mem_nil, if_false, Change.lastGrant, decide_False,
        Option.some.injEq] at held
      subst held
      simp [pendingPut, decoded] at decisive
    | succ k =>
      simp only [List.take_succ_cons, List.take_nil, List.map_cons, List.map_nil, granted, List.mem_singleton,
        reduceCtorEq, if_false, Change.lastGrant, decide_False, Option.some.injEq] at held
      subst held
      have decided : (sessions 0).decision unmarshal = some (.granted (exchangeCode sp code).accessToken) := by
        rw [first, decision_of_found unmarshal found]
        simp [eventDecision, decoded, tokenSet]
      rw [oidcStateToEmail_outcome, lastWatch, decided]
      rfl

theorem login_succeeds_scenario :
    getOIDCLoginURL (some flowProvider) (fun _ => some fun _ => 0) (fun _ => some fun _ => 1) .commits
        (fun _ => none) = .ok (.ok (authCodeURL flowProvider flowState flowNonce, flowState), flowStates) ∧
      (flowQuery "code")[0]? = some "xyz" ∧ (flowQuery "state")[0]? = some flowState ∧ "xyz" ≠ "" ∧
      (exchangeCode flowProvider "xyz").retErr = none ∧ (exchangeCode flowProvider "xyz").accessToken ≠ "" ∧
      ("nonce", (exchangeCode flowProvider "xyz").nonce) ∈ (authCodeURL flowProvider flowState flowNonce).params ∧
      flowSessions 0 = .delivers [.put [1]] false ∧
      (∀ e ∈ [Event.put [1]], (∃ value, e = .put value) ∧
        e.shows flowUnmarshal flowState [.callback (some flowProvider) flowQuery .commits] flowStates) ∧
      (∃ e ∈ [Event.put [1]], pendingPut flowUnmarshal e = false) ∧
      (handleOIDCExchange (some flowProvider) flowQuery .commits flowStates).map (·.response.status) = .ok 200 ∧
      (oidcStateToEmail flowProvider flowUnmarshal flowSessions [100] flowState).map Resolved.outcome =
        some (.ok "robot@idp", some "tok", 1) := by
  have shown : ∀ e ∈ [Event.put [1]], (∃ value, e = .put value) ∧
      e.shows flowUnmarshal flowState [.callback (some flowProvider) flowQuery .commits] flowStates :=
    fun e mem => (List.mem_singleton.mp mem) ▸ ⟨⟨[1], rfl⟩, shows_flowPut⟩
  have succeeded := login_succeeds getOIDCLoginURL_flow flowProvider flowQuery "xyz" rfl rfl (by decide) rfl
    (by decide) (by simp [authCodeURL, exchangeCode, flowProvider, flowNonce]) flowProvider flowUnmarshal flowSessions
    [100] [.put [1]] false rfl shown ⟨_, List.mem_singleton_self _, rfl⟩
  exact ⟨getOIDCLoginURL_flow, rfl, rfl, by decide, rfl, by decide,
    by simp [authCodeURL, exchangeCode, flowProvider, flowNonce], rfl, shown, ⟨_, List.mem_singleton_self _, rfl⟩,
    succeeded.1, succeeded.2⟩

end OidcLogin
