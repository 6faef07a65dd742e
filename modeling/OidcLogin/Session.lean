import OidcLogin.Callback

/-! # The life of one login session

After `GetOIDCLoginURL` stores a pending record, the world goes on in steps: callback
requests, each with whatever its provider, query and etcd outcome are, and lease
expiry. Handlers that run at once commit one transaction each; etcd serializes them,
so every interleaving is some order of steps, and `run` takes any order.

Seen from the record under one state token, each step keeps it, grants it an access
token, flags it failed, or drops it (`Action.change`); `run_state` shows the code
refines this abstract view. The record is then a function of the changes alone
(`foldl_change`), and the main results read off that closed form.
-/

set_option autoImplicit false

namespace OidcLogin

/-- A step of the world: a callback request with everything its handler reads, or
the lease of the record under `key` running out. -/
inductive Action where
  | callback (sp : Option InternalOIDCProvider) (query : Values) (txn : Txn)
  | expire (key : String)
  deriving Inhabited

def Action.apply : Action → States → States
  | .callback sp query txn, states =>
    match handleOIDCExchange sp query txn states with
    | .ok handled => handled.states
    | .error _ => states
  | .expire key, states => OidcLogin.expire key states

def run (actions : List Action) (states : States) : States :=
  actions.foldl (fun states action => action.apply states) states

/-! ## The abstract record -/

inductive Change where
  | keep
  | grant (accessToken : String)
  | fail
  | drop
  deriving DecidableEq, Repr

def Change.apply : Change → Option SessionInfo → Option SessionInfo
  | .keep, record => record
  | .grant accessToken, record => record.map fun si => { si with accessToken := accessToken }
  | .fail, record => record.map fun si => { si with conversionErr := true }
  | .drop, _ => none

def Change.lastGrant (current : String) : List Change → String
  | [] => current
  | .grant accessToken :: rest => lastGrant accessToken rest
  | _ :: rest => lastGrant current rest

def Change.ofExchange (ex : Exchanged) (nonce : String) : Change :=
  if ex.retErr = none ∧ ex.nonce = nonce then .grant ex.accessToken else .fail

/-- The change an action makes to the record under `state`, whose nonce is `nonce`:
only a well-formed callback for `state` whose transaction commits touches it. -/
def Action.change (state nonce : String) : Action → Change
  | .expire key => if key = state then .drop else .keep
  | .callback none _ _ => .keep
  | .callback (some sp) query txn =>
    match (query "code")[0]?, (query "state")[0]? with
    | some code, some s =>
      if s = state ∧ code ≠ "" ∧ s ≠ "" ∧ txn = .commits then Change.ofExchange (exchangeCode sp code) nonce
      else .keep
    | _, _ => .keep

@[simp] theorem Change.apply_keep (record : Option SessionInfo) : Change.keep.apply record = record := rfl

@[simp] theorem Change.apply_grant (accessToken : String) (record : Option SessionInfo) :
    (Change.grant accessToken).apply record = record.map fun si => { si with accessToken := accessToken } :=
  rfl

@[simp] theorem Change.apply_fail (record : Option SessionInfo) :
    Change.fail.apply record = record.map fun si => { si with conversionErr := true } := rfl

@[simp] theorem Change.apply_drop (record : Option SessionInfo) : Change.drop.apply record = none := rfl

@[simp] theorem Change.apply_none (change : Change) : change.apply none = none := by
  cases change <;> rfl

theorem Change.apply_nonce (change : Change) {record : Option SessionInfo} {nonce : String}
    (nonceOf : ∀ si, record = some si → si.nonce = nonce) :
    ∀ si, change.apply record = some si → si.nonce = nonce := by
  cases change <;> cases record <;> simp_all

theorem foldl_change_none (changes : List Change) :
    changes.foldl (fun record change => change.apply record) none = none := by
  induction changes with
  | nil => rfl
  | cons change rest ih => simpa using ih

theorem foldl_change (changes : List Change) (si : SessionInfo) :
    changes.foldl (fun record change => change.apply record) (some si) =
      if Change.drop ∈ changes then none
      else some ⟨si.nonce, Change.lastGrant si.accessToken changes, si.conversionErr || Change.fail ∈ changes⟩ := by
  induction changes generalizing si with
  | nil => simp [Change.lastGrant]
  | cons change rest ih =>
    cases change <;> simp [Change.lastGrant, ih, foldl_change_none]

theorem lastGrant_mem (current : String) (changes : List Change) :
    Change.lastGrant current changes = current ∨ .grant (Change.lastGrant current changes) ∈ changes := by
  induction changes generalizing current with
  | nil => exact .inl rfl
  | cons change rest ih =>
    cases change <;> simp only [Change.lastGrant, List.mem_cons, reduceCtorEq, false_or] <;>
      first | exact ih current | rcases ih _ with same | member
    · exact .inr (.inl (by rw [same]))
    · exact .inr (.inr member)

/-! ## The code refines the abstract record -/

theorem transact_commit (ex : Exchanged) (txn : Txn) {prior : Option SessionInfo} {state nonce : String}
    (nonceOf : ∀ si, prior = some si → si.nonce = nonce) :
    (transact ex txn prior state).2.2.elim prior some =
      (if txn = .commits then Change.ofExchange ex nonce else .keep).apply prior := by
  rcases ex with ⟨exNonce, accessToken, _ | err⟩ <;> cases txn <;> cases prior <;>
    simp_all [transact, Change.ofExchange, checkNonce, eq_comm]
  split_ifs <;> simp

theorem Action.apply_state (action : Action) {state nonce : String} {states : States}
    (nonceOf : ∀ si, states state = some si → si.nonce = nonce) :
    action.apply states state = (action.change state nonce).apply (states state) := by
  cases action with
  | expire key =>
    by_cases same : key = state
    · subst same; simp [Action.apply, Action.change, OidcLogin.expire]
    · simp [Action.apply, Action.change, OidcLogin.expire, same, Function.update_noteq (Ne.symm same)]
  | callback sp query txn =>
    rcases sp with _ | sp
    · rfl
    cases hasCode : (query "code")[0]? with
    | none => simp [Action.apply, Action.change, handleOIDCExchange, hasCode]
    | some code =>
      cases hasState : (query "state")[0]? with
      | none => simp [Action.apply, Action.change, handleOIDCExchange, hasCode, hasState]
      | some s =>
        by_cases valid : s ≠ "" ∧ code ≠ ""
        · rw [Action.apply, handleOIDCExchange_exchange sp query txn states hasCode hasState valid.2 valid.1,
            exchangeAndStore_eq]
          by_cases same : s = state
          · subst same
            simp only [commitAt_self, transact_commit _ txn nonceOf]
            simp [Action.change, hasCode, hasState, valid]
          · simp [Action.change, hasCode, hasState, same, commitAt_other (Ne.symm same)]
        · have empty : s = "" ∨ code = "" := (not_and_or.mp valid).imp not_not.mp not_not.mp
          rw [Action.apply, handleOIDCExchange_empty sp query txn states hasCode hasState empty]
          have : ¬(s = state ∧ code ≠ "" ∧ s ≠ "" ∧ txn = .commits) := fun ⟨_, codeSet, stateSet, _⟩ =>
            valid ⟨stateSet, codeSet⟩
          simp [Action.change, hasCode, hasState, this]

/-- Run after run, the record under `state` is the abstract record after the changes
the actions make to it. -/
theorem run_state (actions : List Action) {state nonce : String} {states : States}
    (nonceOf : ∀ si, states state = some si → si.nonce = nonce) :
    run actions states state =
      (actions.map (Action.change state nonce)).foldl (fun record change => change.apply record) (states state) := by
  induction actions generalizing states with
  | nil => rfl
  | cons action rest ih =>
    simp only [run, List.foldl_cons, List.map_cons] at ih ⊢
    rw [ih (fun si found => Change.apply_nonce _ nonceOf si ((action.apply_state nonceOf).symm.trans found)),
      action.apply_state nonceOf]

theorem run_append (pre post : List Action) (states : States) :
    run (pre ++ post) states = run post (run pre states) :=
  List.foldl_append _ _ _ _

theorem run_singleton (action : Action) (states : States) : run [action] states = action.apply states :=
  rfl

theorem run_nonce (actions : List Action) {state nonce : String} {states : States}
    (nonceOf : ∀ si, states state = some si → si.nonce = nonce) :
    ∀ si, run actions states state = some si → si.nonce = nonce := by
  induction actions generalizing states with
  | nil => exact nonceOf
  | cons action rest ih =>
    exact ih fun si found => Change.apply_nonce _ nonceOf si ((action.apply_state nonceOf).symm.trans found)

theorem Action.change_grant {action : Action} {state nonce accessToken : String}
    (granted : action.change state nonce = .grant accessToken) :
    ∃ sp query txn code, action = .callback (some sp) query txn ∧ (query "code")[0]? = some code ∧
      (exchangeCode sp code).retErr = none ∧ (exchangeCode sp code).nonce = nonce ∧
      (exchangeCode sp code).accessToken = accessToken := by
  rcases action with ⟨_ | sp, query, txn⟩ | key
  · cases granted
  · simp only [Action.change] at granted
    split at granted
    · rename_i code s hasCode _
      split_ifs at granted with valid
      unfold Change.ofExchange at granted
      split_ifs at granted with ok
      cases granted
      exact ⟨sp, query, txn, code, rfl, hasCode, ok.1, ok.2, rfl⟩
    · cases granted
  · simp only [Action.change] at granted
    split_ifs at granted

theorem Action.change_callback_ne_drop (sp : Option InternalOIDCProvider) (query : Values) (txn : Txn)
    (state nonce : String) : (Action.callback sp query txn).change state nonce ≠ .drop := by
  rcases sp with _ | sp
  · simp [Action.change]
  · simp only [Action.change, Change.ofExchange]
    split
    · split_ifs <;> simp
    · simp

theorem Action.change_fail {action : Action} {state nonce : String} (failed : action.change state nonce = .fail) :
    ∃ sp query code, action = .callback (some sp) query .commits ∧ (query "code")[0]? = some code ∧
      (query "state")[0]? = some state ∧ code ≠ "" ∧
      ((exchangeCode sp code).retErr ≠ none ∨ (exchangeCode sp code).nonce ≠ nonce) := by
  rcases action with ⟨_ | sp, query, txn⟩ | key
  · cases failed
  · simp only [Action.change] at failed
    split at failed
    · rename_i code s hasCode hasState
      split_ifs at failed with valid
      obtain ⟨rfl, codeSet, -, rfl⟩ := valid
      unfold Change.ofExchange at failed
      split_ifs at failed with ok
      exact ⟨sp, query, code, rfl, hasCode, hasState, codeSet, not_and_or.mp ok⟩
    · cases failed
  · simp only [Action.change] at failed
    split_ifs at failed

theorem Action.change_drop {action : Action} {state nonce : String} (dropped : action.change state nonce = .drop) :
    action = .expire state := by
  rcases action with ⟨sp, query, txn⟩ | key
  · exact absurd dropped (Action.change_callback_ne_drop _ _ _ _ _)
  · simp only [Action.change] at dropped
    split_ifs at dropped with same
    rw [same]

theorem run_pending (actions : List Action) {state nonce : String} {states : States}
    (created : states state = some ⟨nonce, "", false⟩) :
    run actions states state =
      if Change.drop ∈ actions.map (Action.change state nonce) then none
      else some ⟨nonce, Change.lastGrant "" (actions.map (Action.change state nonce)),
        decide (Change.fail ∈ actions.map (Action.change state nonce))⟩ := by
  have nonceOf : ∀ si, states state = some si → si.nonce = nonce := by simp [created]
  rw [run_state actions nonceOf, created, foldl_change]
  simp

theorem run_accessToken (actions : List Action) {state nonce : String} {states : States} {si : SessionInfo}
    (created : states state = some ⟨nonce, "", false⟩) (found : run actions states state = some si)
    (tokenSet : si.accessToken ≠ "") :
    ∃ sp query txn code tok rawIDToken idToken, Action.callback (some sp) query txn ∈ actions ∧
      (query "code")[0]? = some code ∧ sp.provider.exchange code = .ok tok ∧ tok.idToken = some rawIDToken ∧
      sp.provider.verify rawIDToken = .ok idToken ∧ idToken.nonce = nonce ∧ tok.accessToken = si.accessToken := by
  rw [run_pending actions created] at found
  split_ifs at found
  cases found
  rcases lastGrant_mem "" (actions.map (Action.change state nonce)) with none | member
  · exact absurd none tokenSet
  obtain ⟨action, member, granted⟩ := List.mem_map.mp member
  obtain ⟨sp, query, txn, code, rfl, hasCode, ok, sameNonce, sameToken⟩ := Action.change_grant granted
  obtain ⟨tok, rawIDToken, idToken, exchanged, hasID, verified, ex⟩ := exchangeCode_ok.mp ok
  rw [ex] at sameNonce sameToken
  exact ⟨sp, query, txn, code, tok, rawIDToken, idToken, member, hasCode, exchanged, hasID, verified,
    sameNonce, sameToken⟩

theorem run_conversionErr (actions : List Action) {state nonce : String} {states : States} {si : SessionInfo}
    (created : states state = some ⟨nonce, "", false⟩) (found : run actions states state = some si)
    (flagged : si.conversionErr = true) :
    ∃ sp query code, Action.callback (some sp) query .commits ∈ actions ∧ (query "code")[0]? = some code ∧
      (query "state")[0]? = some state ∧ code ≠ "" ∧
      ((exchangeCode sp code).retErr ≠ none ∨ (exchangeCode sp code).nonce ≠ nonce) := by
  rw [run_pending actions created] at found
  split_ifs at found
  cases found
  obtain ⟨action, member, failed⟩ := List.mem_map.mp (of_decide_eq_true flagged)
  obtain ⟨sp, query, code, rfl, rest⟩ := Action.change_fail failed
  exact ⟨sp, query, code, member, rest⟩

theorem run_absent (actions : List Action) {state nonce : String} {states : States}
    (created : states state = some ⟨nonce, "", false⟩) (gone : run actions states state = none) :
    Action.expire state ∈ actions := by
  rw [run_pending actions created] at gone
  split_ifs at gone with dropped
  obtain ⟨action, member, drops⟩ := List.mem_map.mp dropped
  exact Action.change_drop drops ▸ member

/-! ## Retried transactions -/

/-- The records after an action, when `NewSTM` retried a callback's transaction after the
races in `conflicts`. -/
def Action.applyRetrying (conflicts : List States) : Action → States → States
  | .callback sp query txn, states =>
    match handleOIDCExchangeRetrying conflicts sp query txn states with
    | .ok handled => handled.states
    | .error _ => states
  | .expire key, states => OidcLogin.expire key states

def runRetrying (steps : List (Action × List States)) (states : States) : States :=
  steps.foldl (fun states step => step.1.applyRetrying step.2 states) states

theorem Action.applyRetrying_state (action : Action) (conflicts : List States) {state nonce : String}
    {states : States} (nonceOf : ∀ si, states state = some si → si.nonce = nonce)
    (read : ∀ snapshot ∈ conflicts, ∀ si, snapshot state = some si → si.nonce = nonce) :
    action.applyRetrying conflicts states state = action.apply states state := by
  rcases action with ⟨sp, query, txn⟩ | key
  · rw [Action.applyRetrying]
    unfold handleOIDCExchangeRetrying
    split
    · rename_i sp code s hasCode hasState
      split
      · rfl
      · rename_i valid
        rw [Action.apply, handleOIDCExchange_exchange sp query txn states hasCode hasState (not_or.mp valid).2
          (not_or.mp valid).1]
        exact exchangeAndStoreRetrying_states conflicts sp code s txn read nonceOf
    · rfl
  · rfl

/-- Runs in which `NewSTM` retried callbacks' transactions leave the record under a state
token as the same runs without retries do, when every record under it that a lost attempt
read had the record's nonce, as every record a run leaves there has (`run_nonce`). -/
theorem runRetrying_eq_run (steps : List (Action × List States)) {state nonce : String} {states : States}
    (nonceOf : ∀ si, states state = some si → si.nonce = nonce)
    (read : ∀ step ∈ steps, ∀ snapshot ∈ step.2, ∀ si, snapshot state = some si → si.nonce = nonce) :
    runRetrying steps states state = run (steps.map Prod.fst) states state := by
  induction steps generalizing states with
  | nil => rfl
  | cons step rest ih =>
    have same := step.1.applyRetrying_state step.2 nonceOf (read step (List.mem_cons_self _ _))
    have kept : ∀ si, step.1.apply states state = some si → si.nonce = nonce := fun si found =>
      Change.apply_nonce _ nonceOf si ((step.1.apply_state nonceOf).symm.trans found)
    have kept' : ∀ si, step.1.applyRetrying step.2 states state = some si → si.nonce = nonce :=
      fun si found => kept si (same.symm.trans found)
    show runRetrying rest (step.1.applyRetrying step.2 states) state = run (rest.map Prod.fst) (step.1.apply states) state
    rw [ih kept' fun later member => read later (List.mem_cons_of_mem _ member), run_state _ kept', run_state _ kept,
      same]

theorem runRetrying_eq_run_scenario :
    (∀ si, scenarioStates "abc123" = some si → si.nonce = "n") ∧
      (∀ step ∈ [(Action.callback (some scenarioProvider) scenarioQuery .commits, [scenarioStates])],
        ∀ snapshot ∈ step.2, ∀ si, snapshot "abc123" = some si → si.nonce = "n") ∧
      runRetrying [(.callback (some scenarioProvider) scenarioQuery .commits, [scenarioStates])] scenarioStates
          "abc123" =
        run [.callback (some scenarioProvider) scenarioQuery .commits] scenarioStates "abc123" := by
  have nonceOf : ∀ si, scenarioStates "abc123" = some si → si.nonce = "n" := by simp [scenarioStates]
  have read : ∀ step ∈ [(Action.callback (some scenarioProvider) scenarioQuery .commits, [scenarioStates])],
      ∀ snapshot ∈ step.2, ∀ si, snapshot "abc123" = some si → si.nonce = "n" := by simp [scenarioStates]
  exact ⟨nonceOf, read, runRetrying_eq_run _ nonceOf read⟩

/-! ## The record of a login session -/

def SessionInfo.pending (si : SessionInfo) : Prop := si.accessToken = "" ∧ si.conversionErr = false

def SessionInfo.succeeded (si : SessionInfo) : Prop := si.accessToken ≠ "" ∧ si.conversionErr = false

def SessionInfo.failed (si : SessionInfo) : Prop := si.accessToken = "" ∧ si.conversionErr = true

/-- After `PutTTL` stored the pending record, the record under the state token is, run
after run, absent once its lease ran out and otherwise its nonce, the access token of
the last committed callback that succeeded with that nonce (or none), and whether any
committed callback failed. It is pending, succeeded or failed while the committed
callbacks do not both grant a token and fail, and a failure flag is never cleared. -/
theorem session_record (state nonce : String) (states : States) (actions : List Action) :
    run actions (putTTL state ⟨nonce, "", false⟩ threeMinutes states) state =
      (if Change.drop ∈ actions.map (Action.change state nonce) then none
       else some ⟨nonce, Change.lastGrant "" (actions.map (Action.change state nonce)),
         decide (Change.fail ∈ actions.map (Action.change state nonce))⟩) ∧
    ((∀ accessToken, Change.grant accessToken ∈ actions.map (Action.change state nonce) → accessToken = "") ∨
        Change.fail ∉ actions.map (Action.change state nonce) →
      ∀ si, run actions (putTTL state ⟨nonce, "", false⟩ threeMinutes states) state = some si →
        si.pending ∨ si.succeeded ∨ si.failed) ∧
    ∀ pre post si si', run pre (putTTL state ⟨nonce, "", false⟩ threeMinutes states) state = some si →
      run (pre ++ post) (putTTL state ⟨nonce, "", false⟩ threeMinutes states) state = some si' →
      si.conversionErr = true → si'.conversionErr = true := by
  have created : putTTL state ⟨nonce, "", false⟩ threeMinutes states state = some ⟨nonce, "", false⟩ := by
    simp [putTTL]
  have closed := fun actions => run_pending actions created
  refine ⟨closed actions, fun agree si found => ?_, fun pre post si si' found found' flagged => ?_⟩
  · rw [closed] at found
    split_ifs at found
    cases found
    simp only [SessionInfo.pending, SessionInfo.succeeded, SessionInfo.failed, decide_eq_true_eq,
      decide_eq_false_iff_not]
    rcases lastGrant_mem "" (actions.map (Action.change state nonce)) with none | member
    · tauto
    · rcases agree with grants | unfailed
      · have := grants _ member; tauto
      · tauto
  · rw [closed] at found found'
    split_ifs at found found'
    cases found; cases found'
    simp_all

def refusedQuery : Values := fun key =>
  if key = "code" then ["bad"] else if key = "state" then ["abc123"] else []

/-- A refused callback and then a successful one leave a record that holds an access
token and the failure flag at once. -/
theorem session_failed_then_granted :
    run [.callback (some scenarioProvider) refusedQuery .commits,
        .callback (some scenarioProvider) scenarioQuery .commits]
      (putTTL "abc123" ⟨"n", "", false⟩ threeMinutes (fun _ => none)) "abc123" =
      some ⟨"n", "tok", true⟩ := by
  decide

/-- From a successful `GetOIDCLoginURL` on, in every reachable state the session's
record holds the non-empty nonce of the login URL; an access token in it is that of a
callback whose code was exchanged and whose ID token verified with that nonce; and a
callback without such an ID token never changes the access token. -/
theorem session_nonce_token {o : Option InternalOIDCProvider} {readState readNonce : Read}
    {txn : Txn} {states states₁ : States} {url : LoginURL} {state : String}
    (created : getOIDCLoginURL o readState readNonce txn states = .ok (.ok (url, state), states₁)) :
    ∃ nonce, nonce ≠ "" ∧ ("nonce", nonce) ∈ url.params ∧ states₁ state = some ⟨nonce, "", false⟩ ∧
      (∀ actions si, run actions states₁ state = some si →
        si.nonce = nonce ∧
        (si.accessToken ≠ "" → ∃ sp query txn code tok rawIDToken idToken,
          Action.callback (some sp) query txn ∈ actions ∧ (query "code")[0]? = some code ∧
          sp.provider.exchange code = .ok tok ∧ tok.idToken = some rawIDToken ∧
          sp.provider.verify rawIDToken = .ok idToken ∧ idToken.nonce = nonce ∧
          tok.accessToken = si.accessToken)) ∧
      ∀ actions sp query txn,
        (∀ code, (query "code")[0]? = some code →
          (exchangeCode sp code).retErr ≠ none ∨ (exchangeCode sp code).nonce ≠ nonce) →
        (run (actions ++ [.callback (some sp) query txn]) states₁ state).map (·.accessToken) =
          (run actions states₁ state).map (·.accessToken) := by
  obtain ⟨nonce, -, length, inURL, stored⟩ := length_state_nonce created
  have nonceOf : ∀ si, states₁ state = some si → si.nonce = nonce := by simp [stored]
  refine ⟨nonce, fun empty => by simp [empty] at length, inURL, stored,
    fun actions si found => ⟨run_nonce actions nonceOf si found, fun tokenSet => ?_⟩,
    fun actions sp query txn unverified => ?_⟩
  · obtain ⟨sp, query, txn, code, tok, rawIDToken, idToken, member, hasCode, exchanged, hasID, verified,
      sameNonce, sameToken⟩ := run_accessToken actions stored found tokenSet
    exact ⟨sp, query, txn, code, tok, rawIDToken, idToken, member, hasCode, exchanged, hasID, verified,
      sameNonce, sameToken⟩
  · rw [run_append, run_singleton, Action.apply_state _ (run_nonce actions nonceOf)]
    cases changed : (Action.callback (some sp) query txn).change state nonce with
    | keep => rfl
    | grant accessToken =>
      obtain ⟨sp', query', txn', code, same, hasCode, ok, sameNonce, -⟩ := Action.change_grant changed
      cases same
      rcases unverified code hasCode with failed | other
      · exact absurd ok failed
      · exact absurd sameNonce other
    | fail => cases run actions states₁ state <;> rfl
    | drop => exact absurd changed (Action.change_callback_ne_drop _ _ _ _ _)

theorem session_nonce_token_scenario :
    getOIDCLoginURL (some scenarioProvider) (fun _ => some fun _ => 0) (fun _ => some fun _ => 1) .commits
        (fun _ => none) =
      .ok (.ok (authCodeURL scenarioProvider "AAAAAAAAAAAAAAAAAAAAAAAAAAAAAAA" "AQEBAQEBAQEBAQEBAQEBAQEBAQEBAQE",
          "AAAAAAAAAAAAAAAAAAAAAAAAAAAAAAA"),
        putTTL "AAAAAAAAAAAAAAAAAAAAAAAAAAAAAAA" ⟨"AQEBAQEBAQEBAQEBAQEBAQEBAQEBAQE", "", false⟩ threeMinutes
          (fun _ => none)) ∧
      ∃ nonce, nonce ≠ "" ∧ ("nonce", nonce) ∈ (authCodeURL scenarioProvider "AAAAAAAAAAAAAAAAAAAAAAAAAAAAAAA"
        "AQEBAQEBAQEBAQEBAQEBAQEBAQEBAQE").params := by
  have created : getOIDCLoginURL (some scenarioProvider) (fun _ => some fun _ => 0) (fun _ => some fun _ => 1)
      .commits (fun _ => none) =
      .ok (.ok (authCodeURL scenarioProvider "AAAAAAAAAAAAAAAAAAAAAAAAAAAAAAA" "AQEBAQEBAQEBAQEBAQEBAQEBAQEBAQE",
          "AAAAAAAAAAAAAAAAAAAAAAAAAAAAAAA"),
        putTTL "AAAAAAAAAAAAAAAAAAAAAAAAAAAAAAA" ⟨"AQEBAQEBAQEBAQEBAQEBAQEBAQEBAQE", "", false⟩ threeMinutes
          (fun _ => none)) := by
    simp only [getOIDCLoginURL, cryptoString, numBytesFrom_thirty]
    rfl
  obtain ⟨nonce, nonempty, inURL, -⟩ := session_nonce_token created
  exact ⟨created, nonce, nonempty, inURL⟩

end OidcLogin
