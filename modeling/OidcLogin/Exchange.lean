import OidcLogin.Login

/-! The `/authorization-code/callback` endpoint: `handleOIDCExchangeInternal`, which
turns an authorization code into an ID-token nonce and an access token, and
`handleOIDCExchange`, which checks the nonce inside one etcd transaction, records
the outcome under the state token and writes exactly one HTTP response.

`transact` says once what the transaction does for each etcd outcome and prior
record; `exchangeAndStore_eq` reduces the handler to it.
-/

set_option autoImplicit false

namespace OidcLogin

structure Exchanged where
  nonce : String
  accessToken : String
  retErr : Option GoError
  deriving DecidableEq, Repr

def exchangeCode (sp : InternalOIDCProvider) (authCode : String) : Exchanged :=
  match sp.provider.exchange authCode with
  | .error err => ⟨"", "", some (.wrapped "failed to exchange code" (.other err))⟩
  | .ok tok =>
    match tok.idToken with
    | none => ⟨"", "", some (.other "missing id token")⟩
    | some rawIDToken =>
      match sp.provider.verify rawIDToken with
      | .error err => ⟨"", "", some (.wrapped "could not verify token" (.other err))⟩
      | .ok idToken => ⟨idToken.nonce, tok.accessToken, none⟩

/-- `handleOIDCExchangeInternal`: the results and its two log lines, the second one
deferred and so showing the nonce it returns. -/
def handleOIDCExchangeInternal (sp : InternalOIDCProvider) (authCode state : String) :
    Exchanged × List LogLine :=
  (exchangeCode sp authCode,
    [infof "auth.OIDC.handleOIDCExchange \x7b \"state\": %q \x7d" [.str state],
      infof "auth.OIDC.handleOIDCExchange \x7b \"state\": %q, \"nonce\": %q \x7d"
        [.str state, .str (exchangeCode sp authCode).nonce]])

def nonceMismatch (nonce stored : String) : GoError :=
  .other ("IDP nonce " ++ nonce ++ " did not match Pachyderm\x27s session nonce " ++ stored)

def checkNonce (nonce : String) (conversionErr : Option GoError) (si : SessionInfo) :
    Option GoError :=
  if conversionErr = none ∧ nonce ≠ si.nonce then some (nonceMismatch nonce si.nonce)
  else conversionErr

def writeOutcome (accessToken : String) (conversionErr : Option GoError) (si : SessionInfo) :
    SessionInfo :=
  match conversionErr with
  | none => { si with accessToken := accessToken }
  | some _ => { si with conversionErr := true }

/-- The function `handleOIDCExchange` passes to `Update`, with the `conversionErr` it
assigns. It never fails. -/
def recordExchange (nonce accessToken : String) (conversionErr : Option GoError)
    (si : SessionInfo) : Option GoError × Except GoError SessionInfo :=
  (checkNonce nonce conversionErr si,
    .ok (writeOutcome accessToken (checkNonce nonce conversionErr si) si))

def respond (state : String) (conversionErr etcdErr : Option GoError) : Response :=
  match conversionErr, etcdErr with
  | some _, _ =>
    httpError ⟨"authorization failed (OIDC state token: %q; Pachyderm logs may contain more information)",
      [.str state]⟩ 401
  | none, some _ =>
    httpError ⟨"temporary error during authorization (OIDC state token: %q; Pachyderm logs may contain more information)",
      [.str state]⟩ 500
  | none, none => ⟨200, ⟨"You are now logged in. Go back to the terminal to use Pachyderm!", []⟩⟩

def reportErrors (state : String) (conversionErr etcdErr : Option GoError) : List LogLine :=
  (conversionErr.map fun err =>
      errorf "could not convert authorization code (OIDC state: %q) %v" [.str state, .err err]).toList ++
    (etcdErr.map fun err =>
      errorf "error storing OIDC authorization code in etcd (OIDC state: %q): %v" [.str state, .err err]).toList

structure Handled where
  response : Response
  logs : List LogLine
  states : States
  deriving Inhabited

/-- `handleOIDCExchange` from the call of `handleOIDCExchangeInternal` on. -/
def exchangeAndStore (sp : InternalOIDCProvider) (code state : String) (txn : Txn)
    (states : States) : Handled :=
  let internal := handleOIDCExchangeInternal sp code state
  let stored := newSTM txn (update state (recordExchange internal.1.nonce internal.1.accessToken))
    internal.1.retErr states
  ⟨respond state stored.1 stored.2.1, internal.2 ++ reportErrors state stored.1 stored.2.1, stored.2.2⟩

/-- `handleOIDCExchange`: `sp` is what `getOIDCSP` returns, `query` the request's
`URL.Query()`. Indexing a missing parameter panics. -/
def handleOIDCExchange (sp : Option InternalOIDCProvider) (query : Values) (txn : Txn)
    (states : States) : Go Handled :=
  match sp with
  | none => .ok ⟨httpError ⟨"%v", [.err .notConfigured]⟩ 409, [], states⟩
  | some sp =>
    match (query "code")[0]?, (query "state")[0]? with
    | none, _ => .error indexOutOfRange
    | some _, none => .error indexOutOfRange
    | some code, some state =>
      if state = "" ∨ code = "" then
        .ok ⟨httpError ⟨"invalid OIDC callback request: missing OIDC state token or authorization code",
          []⟩ 400, [], states⟩
      else .ok (exchangeAndStore sp code state txn states)

/-! ## The transaction, once -/

/-- What one callback's transaction leaves, from etcd's outcome and the record it
finds: `conversionErr` after it, `NewSTM`'s error, and the record it commits. -/
def transact (ex : Exchanged) (txn : Txn) (prior : Option SessionInfo) (state : String) :
    Option GoError × Option GoError × Option SessionInfo :=
  match txn, prior with
  | .failsBeforeRead err, _ => (ex.retErr, some (.other err), none)
  | _, none => (ex.retErr, some (.notFound state), none)
  | .commits, some si =>
    (checkNonce ex.nonce ex.retErr si, none,
      some (writeOutcome ex.accessToken (checkNonce ex.nonce ex.retErr si) si))
  | .failsAtCommit err, some si => (checkNonce ex.nonce ex.retErr si, some (.other err), none)

def commitAt (state : String) (written : Option SessionInfo) (states : States) : States :=
  written.elim states fun si => Function.update states state (some si)

theorem newSTM_recordExchange (ex : Exchanged) (txn : Txn) (state : String) (states : States) :
    newSTM txn (update state (recordExchange ex.nonce ex.accessToken)) ex.retErr states =
      ((transact ex txn (states state) state).1, (transact ex txn (states state) state).2.1,
        commitAt state (transact ex txn (states state) state).2.2 states) := by
  cases txn <;> cases prior : states state <;>
    simp [newSTM, update, prior, transact, recordExchange, commitAt]

theorem exchangeAndStore_eq (sp : InternalOIDCProvider) (code state : String) (txn : Txn)
    (states : States) :
    exchangeAndStore sp code state txn states =
      let t := transact (exchangeCode sp code) txn (states state) state
      ⟨respond state t.1 t.2.1, (handleOIDCExchangeInternal sp code state).2 ++ reportErrors state t.1 t.2.1,
        commitAt state t.2.2 states⟩ := by
  simp only [exchangeAndStore, handleOIDCExchangeInternal, newSTM_recordExchange]

/-! ## Small lemmas -/

@[simp] theorem checkNonce_eq_none {nonce : String} {conversionErr : Option GoError}
    {si : SessionInfo} : checkNonce nonce conversionErr si = none ↔ conversionErr = none ∧ nonce = si.nonce := by
  unfold checkNonce
  split <;> simp_all

@[simp] theorem writeOutcome_none (accessToken : String) (si : SessionInfo) :
    writeOutcome accessToken none si = { si with accessToken := accessToken } := rfl

@[simp] theorem writeOutcome_some (accessToken : String) (err : GoError) (si : SessionInfo) :
    writeOutcome accessToken (some err) si = { si with conversionErr := true } := rfl

theorem respond_status (state : String) (conversionErr etcdErr : Option GoError) :
    (respond state conversionErr etcdErr).status =
      if conversionErr.isSome then 401 else if etcdErr.isSome then 500 else 200 := by
  cases conversionErr <;> cases etcdErr <;> rfl

theorem commitAt_other {state key : String} (other : key ≠ state) (written : Option SessionInfo)
    (states : States) : commitAt state written states key = states key := by
  cases written <;> simp [commitAt, Function.update_noteq other]

@[simp] theorem commitAt_self (state : String) (written : Option SessionInfo) (states : States) :
    commitAt state written states state = written.elim (states state) some := by
  cases written <;> simp [commitAt]

theorem exchangeCode_ok {sp : InternalOIDCProvider} {code : String} :
    (exchangeCode sp code).retErr = none ↔
      ∃ tok rawIDToken idToken, sp.provider.exchange code = .ok tok ∧ tok.idToken = some rawIDToken ∧
        sp.provider.verify rawIDToken = .ok idToken ∧
        exchangeCode sp code = ⟨idToken.nonce, tok.accessToken, none⟩ := by
  unfold exchangeCode
  split
  · simp
  · rename_i tok exchanged
    split
    · simp
    · rename_i rawIDToken hasID
      split
      · simp
      · rename_i idToken verified
        simp [exchanged, hasID, verified]

/-! ## Retried transactions -/

theorem checkNonce_checkNonce {nonce : String} {conversionErr : Option GoError} {si si' : SessionInfo}
    (same : si.nonce = si'.nonce) :
    checkNonce nonce (checkNonce nonce conversionErr si) si' = checkNonce nonce conversionErr si' := by
  unfold checkNonce
  split_ifs <;> simp_all

theorem checkNonce_foldl_recordExchange (ex : Exchanged) (state nonce : String) (conflicts : List States)
    (read : ∀ snapshot ∈ conflicts, ∀ si, snapshot state = some si → si.nonce = nonce)
    (conversionErr : Option GoError) {si : SessionInfo} (sameNonce : si.nonce = nonce) :
    checkNonce ex.nonce (conflicts.foldl (fun captured snapshot =>
        (update state (recordExchange ex.nonce ex.accessToken) captured snapshot).1) conversionErr) si =
      checkNonce ex.nonce conversionErr si := by
  induction conflicts generalizing conversionErr with
  | nil => rfl
  | cons snapshot rest ih =>
    rw [List.foldl_cons, ih (fun s mem => read s (List.mem_cons_of_mem _ mem))]
    cases found : snapshot state with
    | none => rw [update_absent found]
    | some si' =>
      rw [update_present found]
      exact checkNonce_checkNonce ((read snapshot (List.mem_cons_self _ _) si' found).trans sameNonce.symm)

theorem newSTMRetrying_update_recordExchange (ex : Exchanged) (conflicts : List States) (txn : Txn)
    (state nonce : String) (states : States)
    (read : ∀ snapshot ∈ conflicts, ∀ si, snapshot state = some si → si.nonce = nonce)
    (current : ∀ si, states state = some si → si.nonce = nonce) :
    (newSTMRetrying conflicts txn (update state (recordExchange ex.nonce ex.accessToken)) ex.retErr states).2 =
        (newSTM txn (update state (recordExchange ex.nonce ex.accessToken)) ex.retErr states).2 ∧
      (txn.reads → (states state).isSome →
        newSTMRetrying conflicts txn (update state (recordExchange ex.nonce ex.accessToken)) ex.retErr states =
          newSTM txn (update state (recordExchange ex.nonce ex.accessToken)) ex.retErr states) := by
  unfold newSTMRetrying
  cases prior : states state with
  | none => cases txn <;> simp [newSTM, update_absent prior]
  | some si =>
    have sameCheck := checkNonce_foldl_recordExchange ex state nonce conflicts read ex.retErr (current si prior)
    cases txn <;> simp [newSTM, update_present prior, recordExchange, sameCheck, Txn.reads]

/-- Retries of the callback's transaction, each reading the record with the session's
nonce, never change what the call commits or etcd's error; they change the conversion
error only when the attempt that ends the call cannot read the record, where a nonce
mismatch seen by a lost attempt still counts. -/
theorem newSTMRetrying_recordExchange (ex : Exchanged) (conflicts : List States) (txn : Txn)
    (state nonce : String) (states : States)
    (read : ∀ snapshot ∈ conflicts, ∃ si, snapshot state = some si ∧ si.nonce = nonce)
    (current : ∀ si, states state = some si → si.nonce = nonce) :
    (newSTMRetrying conflicts txn (update state (recordExchange ex.nonce ex.accessToken)) ex.retErr states).2 =
        (newSTM txn (update state (recordExchange ex.nonce ex.accessToken)) ex.retErr states).2 ∧
      (txn.reads → (states state).isSome →
        newSTMRetrying conflicts txn (update state (recordExchange ex.nonce ex.accessToken)) ex.retErr states =
          newSTM txn (update state (recordExchange ex.nonce ex.accessToken)) ex.retErr states) :=
  newSTMRetrying_update_recordExchange ex conflicts txn state nonce states (fun snapshot mem si found => by
    obtain ⟨_, found', sameNonce⟩ := read snapshot mem
    exact Option.some.inj (found'.symm.trans found) ▸ sameNonce) current

def exchangeAndStoreRetrying (conflicts : List States) (sp : InternalOIDCProvider) (code state : String)
    (txn : Txn) (states : States) : Handled :=
  let internal := handleOIDCExchangeInternal sp code state
  let stored := newSTMRetrying conflicts txn (update state (recordExchange internal.1.nonce internal.1.accessToken))
    internal.1.retErr states
  ⟨respond state stored.1 stored.2.1, internal.2 ++ reportErrors state stored.1 stored.2.1, stored.2.2⟩

/-- `handleOIDCExchange` whose transaction `NewSTM` retried after the races in `conflicts`. -/
def handleOIDCExchangeRetrying (conflicts : List States) (sp : Option InternalOIDCProvider) (query : Values)
    (txn : Txn) (states : States) : Go Handled :=
  match sp, (query "code")[0]?, (query "state")[0]? with
  | some sp, some code, some state =>
    if state = "" ∨ code = "" then handleOIDCExchange (some sp) query txn states
    else .ok (exchangeAndStoreRetrying conflicts sp code state txn states)
  | sp, _, _ => handleOIDCExchange sp query txn states

theorem newSTM_update_other {σ : Type} (txn : Txn) {state key : String} (other : key ≠ state)
    (f : σ → SessionInfo → σ × Except GoError SessionInfo) (captured : σ) (states : States) :
    (newSTM txn (update state f) captured states).2.2 key = states key := by
  cases prior : states state with
  | none => cases txn <;> simp [newSTM, update_absent prior]
  | some si =>
    cases txn <;> simp only [newSTM, update_present prior] <;> cases (f captured si).2 <;>
      simp [Except.map, Function.update_noteq other]

theorem exchangeAndStoreRetrying_states (conflicts : List States) (sp : InternalOIDCProvider) (code s : String)
    (txn : Txn) {state nonce : String} {states : States}
    (read : ∀ snapshot ∈ conflicts, ∀ si, snapshot state = some si → si.nonce = nonce)
    (current : ∀ si, states state = some si → si.nonce = nonce) :
    (exchangeAndStoreRetrying conflicts sp code s txn states).states state =
      (exchangeAndStore sp code s txn states).states state := by
  dsimp only [exchangeAndStoreRetrying, exchangeAndStore]
  by_cases same : s = state
  · subst same
    rw [(newSTMRetrying_update_recordExchange (handleOIDCExchangeInternal sp code s).1 conflicts txn s nonce states
      read current).1]
  · exact (newSTM_update_other txn (Ne.symm same) _ _ _).trans (newSTM_update_other txn (Ne.symm same) _ _ _).symm

def pendingRecord : States := fun _ => some ⟨"n", "", false⟩

def grantedRecord : States := fun _ => some ⟨"n", "tok", false⟩

theorem newSTMRetrying_recordExchange_scenario :
    (∀ snapshot ∈ [pendingRecord], ∃ si, snapshot "abc123" = some si ∧ si.nonce = "n") ∧
      (∀ si, grantedRecord "abc123" = some si → si.nonce = "n") ∧
      newSTMRetrying [pendingRecord] .commits (update "abc123" (recordExchange "m" "tok")) none grantedRecord =
        newSTM .commits (update "abc123" (recordExchange "m" "tok")) none grantedRecord := by
  have read : ∀ snapshot ∈ [pendingRecord], ∃ si, snapshot "abc123" = some si ∧ si.nonce = "n" := by
    simp [pendingRecord]
  have current : ∀ si, grantedRecord "abc123" = some si → si.nonce = "n" := by
    simp [grantedRecord]
  exact ⟨read, current, (newSTMRetrying_recordExchange ⟨"m", "tok", none⟩ _ .commits "abc123" "n" _ read
    current).2 rfl rfl⟩

end OidcLogin
