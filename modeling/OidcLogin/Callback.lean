import OidcLogin.Exchange

/-! What a callback request gets back, and what it reveals.

With a provider configured, the handler indexes `code` and `state` before anything
else: a query without either panics, and a query whose first `code` or `state` is
empty gets 400 with nothing else done. A well-formed callback gets 200, 401 or 500
by the outcome of its exchange and of its transaction (`handleOIDCExchange_status`).
The response depends on the state token and that outcome only, and the log lines on
neither the authorization code nor the access token
(`handleOIDCExchange_noninterference`).
-/

set_option autoImplicit false

namespace OidcLogin

/-! ## Parameter checks -/

section
variable (sp : InternalOIDCProvider) (query : Values) (txn : Txn) (states : States)

def missingParameter : Response :=
  httpError ⟨"invalid OIDC callback request: missing OIDC state token or authorization code", []⟩ 400

theorem handleOIDCExchange_exchange {code state : String} (hasCode : (query "code")[0]? = some code)
    (hasState : (query "state")[0]? = some state) (codeSet : code ≠ "") (stateSet : state ≠ "") :
    handleOIDCExchange (some sp) query txn states = .ok (exchangeAndStore sp code state txn states) := by
  simp [handleOIDCExchange, hasCode, hasState, codeSet, stateSet]

theorem handleOIDCExchange_empty {code state : String} (hasCode : (query "code")[0]? = some code)
    (hasState : (query "state")[0]? = some state) (empty : state = "" ∨ code = "") :
    handleOIDCExchange (some sp) query txn states = .ok ⟨missingParameter, [], states⟩ := by
  simp [handleOIDCExchange, hasCode, hasState, empty, missingParameter]

/-- A redirect that omits `code` makes the handler panic instead of answering 400. -/
theorem handleOIDCExchange_missing_code_panics :
    handleOIDCExchange (some sp) (fun key => if key = "state" then ["abc123"] else []) txn states =
      .error indexOutOfRange := rfl

end

/-! ## The response and the record, by outcome -/

theorem transact_status (ex : Exchanged) (txn : Txn) (prior : Option SessionInfo) (state : String) :
    ((respond state (transact ex txn prior state).1 (transact ex txn prior state).2.1).status = 200 ↔
      ex.retErr = none ∧ (∃ si, prior = some si ∧ si.nonce = ex.nonce) ∧ txn = .commits) ∧
    ((respond state (transact ex txn prior state).1 (transact ex txn prior state).2.1).status = 401 ↔
      ex.retErr ≠ none ∨ (txn.reads ∧ ∃ si, prior = some si ∧ si.nonce ≠ ex.nonce)) ∧
    (respond state (transact ex txn prior state).1 (transact ex txn prior state).2.1).status ∈
      [200, 401, 500] := by
  rcases ex with ⟨nonce, accessToken, _ | err⟩ <;> cases txn <;> cases prior <;>
    simp [transact, respond_status, checkNonce, Txn.reads] <;> split_ifs <;> simp_all [eq_comm]

theorem transact_written (ex : Exchanged) (txn : Txn) (prior : Option SessionInfo) (state : String) :
    ((respond state (transact ex txn prior state).1 (transact ex txn prior state).2.1).status = 200 →
      (transact ex txn prior state).2.2.elim prior some =
        prior.map fun si => { si with accessToken := ex.accessToken }) ∧
    ((respond state (transact ex txn prior state).1 (transact ex txn prior state).2.1).status ≠ 200 →
      (transact ex txn prior state).2.2.elim prior some = prior ∨
      (transact ex txn prior state).2.2.elim prior some =
        prior.map fun si => { si with conversionErr := true }) := by
  rcases ex with ⟨nonce, accessToken, _ | err⟩ <;> cases txn <;> cases prior <;>
    simp [transact, respond_status, checkNonce] <;> split_ifs <;> simp_all

/-- A callback with a code and a state token gets 200 exactly when its exchange
succeeded, the record was there with the ID token's nonce and the transaction
committed, and then only the access token was written; 401 exactly when the exchange
failed or the transaction read a record with another nonce; 500 otherwise, and then or
on 401 the record is at most flagged as failed, and an absent one stays absent. -/
theorem handleOIDCExchange_status (sp : InternalOIDCProvider) (query : Values) (txn : Txn)
    (states : States) (code state : String) (hasCode : (query "code")[0]? = some code)
    (hasState : (query "state")[0]? = some state) (codeSet : code ≠ "") (stateSet : state ≠ "") :
    ∃ handled, handleOIDCExchange (some sp) query txn states = .ok handled ∧
      (handled.response.status = 200 ↔ (handleOIDCExchangeInternal sp code state).1.retErr = none ∧
        (∃ si, states state = some si ∧ si.nonce = (handleOIDCExchangeInternal sp code state).1.nonce) ∧
        txn = .commits) ∧
      (handled.response.status = 401 ↔ (handleOIDCExchangeInternal sp code state).1.retErr ≠ none ∨
        (txn.reads ∧ ∃ si, states state = some si ∧
          si.nonce ≠ (handleOIDCExchangeInternal sp code state).1.nonce)) ∧
      handled.response.status ∈ [200, 401, 500] ∧
      (handled.response.status = 200 → handled.states state =
        (states state).map fun si => { si with accessToken := (handleOIDCExchangeInternal sp code state).1.accessToken }) ∧
      (handled.response.status ≠ 200 → handled.states state = states state ∨
        handled.states state = (states state).map fun si => { si with conversionErr := true }) := by
  refine ⟨_, handleOIDCExchange_exchange sp query txn states hasCode hasState codeSet stateSet, ?_⟩
  rw [exchangeAndStore_eq]
  obtain ⟨ok, unauthorized, status⟩ := transact_status (exchangeCode sp code) txn (states state) state
  obtain ⟨granted, refused⟩ := transact_written (exchangeCode sp code) txn (states state) state
  simp only [commitAt_self]
  exact ⟨ok, unauthorized, status, granted, refused⟩

def scenarioQuery : Values := fun key =>
  if key = "code" then ["xyz"] else if key = "state" then ["abc123"] else []

def scenarioProvider : InternalOIDCProvider :=
  ⟨⟨"auth", fun code => if code = "xyz" then .ok ⟨"tok", some "id"⟩ else .error "bad code",
    fun raw => if raw = "id" then .ok ⟨"n"⟩ else .error "bad token", fun _ => .ok "user"⟩,
    "pachyderm", ""⟩

def scenarioStates : States := fun key => if key = "abc123" then some ⟨"n", "", false⟩ else none

theorem handleOIDCExchange_status_scenario :
    (scenarioQuery "code")[0]? = some "xyz" ∧ (scenarioQuery "state")[0]? = some "abc123" ∧
      "xyz" ≠ "" ∧ "abc123" ≠ "" ∧
      ∃ handled, handleOIDCExchange (some scenarioProvider) scenarioQuery .commits scenarioStates =
        .ok handled ∧ handled.response.status = 200 := by
  obtain ⟨handled, ran, ok, -⟩ := handleOIDCExchange_status scenarioProvider scenarioQuery .commits
    scenarioStates "xyz" "abc123" rfl rfl (by decide) (by decide)
  refine ⟨rfl, rfl, by decide, by decide, handled, ran, ok.mpr ⟨rfl, ⟨_, rfl, rfl⟩, rfl⟩⟩

/-! ## What the response and the logs reveal -/

/-- The outcome classes of a callback: its exchange or nonce check failed, its
exchange succeeded but the store failed, or it succeeded. -/
inductive Outcome where
  | rejected
  | temporary
  | success
  deriving DecidableEq, Repr

def outcome (ex : Exchanged) (txn : Txn) (prior : Option SessionInfo) : Outcome :=
  match ex.retErr, txn, prior with
  | some _, _, _ => .rejected
  | none, .failsBeforeRead _, _ => .temporary
  | none, _, none => .temporary
  | none, .commits, some si => if si.nonce = ex.nonce then .success else .rejected
  | none, .failsAtCommit _, some si => if si.nonce = ex.nonce then .temporary else .rejected

def Outcome.of (conversionErr etcdErr : Option GoError) : Outcome :=
  if conversionErr.isSome then .rejected else if etcdErr.isSome then .temporary else .success

theorem respond_eq_of_outcome {state : String} {c₁ e₁ c₂ e₂ : Option GoError}
    (same : Outcome.of c₁ e₁ = Outcome.of c₂ e₂) : respond state c₁ e₁ = respond state c₂ e₂ := by
  cases c₁ <;> cases c₂ <;> cases e₁ <;> cases e₂ <;> simp_all [Outcome.of, respond]

theorem outcome_transact (ex : Exchanged) (txn : Txn) (prior : Option SessionInfo) (state : String) :
    Outcome.of (transact ex txn prior state).1 (transact ex txn prior state).2.1 = outcome ex txn prior := by
  rcases ex with ⟨nonce, accessToken, _ | err⟩ <;> cases txn <;> cases prior <;>
    simp [transact, outcome, Outcome.of, checkNonce] <;> split_ifs <;> simp_all [eq_comm]

/-- What the provider's answer to a code shows apart from the access token: the
exchange's error text, a missing ID token, or the verification's error text or nonce. -/
def observe (sp : InternalOIDCProvider) (code : String) : Except String (Option (Except String String)) :=
  (sp.provider.exchange code).map fun tok => tok.idToken.map fun raw => (sp.provider.verify raw).map (·.nonce)

def observed : Except String (Option (Except String String)) → String × Option GoError
  | .error err => ("", some (.wrapped "failed to exchange code" (.other err)))
  | .ok none => ("", some (.other "missing id token"))
  | .ok (some (.error err)) => ("", some (.wrapped "could not verify token" (.other err)))
  | .ok (some (.ok nonce)) => (nonce, none)

theorem exchangeCode_observe (sp : InternalOIDCProvider) (code : String) :
    ((exchangeCode sp code).nonce, (exchangeCode sp code).retErr) = observed (observe sp code) := by
  unfold exchangeCode observe
  cases sp.provider.exchange code with
  | error err => rfl
  | ok tok =>
    cases hasID : tok.idToken with
    | none => simp [hasID, observed, Except.map]
    | some raw =>
      cases verified : sp.provider.verify raw <;> simp [hasID, verified, observed, Except.map]

theorem handleOIDCExchangeInternal_logs {sp₁ sp₂ : InternalOIDCProvider} {code₁ code₂ : String} (state : String)
    (same : observe sp₁ code₁ = observe sp₂ code₂) :
    (handleOIDCExchangeInternal sp₁ code₁ state).2 = (handleOIDCExchangeInternal sp₂ code₂ state).2 := by
  have nonces := congrArg Prod.fst ((exchangeCode_observe sp₁ code₁).trans
    (same ▸ (exchangeCode_observe sp₂ code₂).symm))
  simp only [handleOIDCExchangeInternal] at nonces ⊢
  rw [nonces]

theorem transact_errors {ex₁ ex₂ : Exchanged} {prior₁ prior₂ : Option SessionInfo} (txn : Txn)
    (state : String) (sameNonce : ex₁.nonce = ex₂.nonce) (sameErr : ex₁.retErr = ex₂.retErr)
    (samePrior : prior₁.map (·.nonce) = prior₂.map (·.nonce)) :
    (transact ex₁ txn prior₁ state).1 = (transact ex₂ txn prior₂ state).1 ∧
      (transact ex₁ txn prior₁ state).2.1 = (transact ex₂ txn prior₂ state).2.1 := by
  cases txn <;> cases prior₁ <;> cases prior₂ <;> simp_all [transact, checkNonce]

/-- Two callbacks with a code and the same state token: in the same outcome class they
get the same response, whatever their codes, tokens, nonces and error texts; and if
they differ only in the code and the access token, they log the same lines. -/
theorem handleOIDCExchange_noninterference (sp₁ sp₂ : InternalOIDCProvider) (query₁ query₂ : Values)
    (txn₁ txn₂ : Txn) (states₁ states₂ : States) (code₁ code₂ state : String)
    (hasCode₁ : (query₁ "code")[0]? = some code₁) (hasCode₂ : (query₂ "code")[0]? = some code₂)
    (codeSet₁ : code₁ ≠ "") (codeSet₂ : code₂ ≠ "")
    (hasState₁ : (query₁ "state")[0]? = some state) (hasState₂ : (query₂ "state")[0]? = some state) :
    ∃ handled₁ handled₂, handleOIDCExchange (some sp₁) query₁ txn₁ states₁ = .ok handled₁ ∧
      handleOIDCExchange (some sp₂) query₂ txn₂ states₂ = .ok handled₂ ∧
      (outcome (handleOIDCExchangeInternal sp₁ code₁ state).1 txn₁ (states₁ state) =
          outcome (handleOIDCExchangeInternal sp₂ code₂ state).1 txn₂ (states₂ state) →
        handled₁.response = handled₂.response) ∧
      (observe sp₁ code₁ = observe sp₂ code₂ → txn₁ = txn₂ →
        (states₁ state).map (·.nonce) = (states₂ state).map (·.nonce) →
        handled₁.logs = handled₂.logs ∧
          (handleOIDCExchangeInternal sp₁ code₁ state).2 = (handleOIDCExchangeInternal sp₂ code₂ state).2) := by
  by_cases stateSet : state = ""
  · have empty₁ := handleOIDCExchange_empty sp₁ query₁ txn₁ states₁ hasCode₁ hasState₁ (.inl stateSet)
    have empty₂ := handleOIDCExchange_empty sp₂ query₂ txn₂ states₂ hasCode₂ hasState₂ (.inl stateSet)
    exact ⟨_, _, empty₁, empty₂, fun _ => rfl, fun same _ _ => ⟨rfl, handleOIDCExchangeInternal_logs state same⟩⟩
  refine ⟨_, _, handleOIDCExchange_exchange sp₁ query₁ txn₁ states₁ hasCode₁ hasState₁ codeSet₁ stateSet,
    handleOIDCExchange_exchange sp₂ query₂ txn₂ states₂ hasCode₂ hasState₂ codeSet₂ stateSet,
    fun sameOutcome => ?_, fun same sameTxn samePrior => ?_⟩
  · simp only [exchangeAndStore_eq]
    exact respond_eq_of_outcome ((outcome_transact _ _ _ state).trans
      (sameOutcome.trans (outcome_transact _ _ _ state).symm))
  · have observed := (exchangeCode_observe sp₁ code₁).trans (same ▸ (exchangeCode_observe sp₂ code₂).symm)
    simp only [Prod.mk.injEq] at observed
    obtain ⟨conversion, etcd⟩ := transact_errors txn₁ state observed.1 observed.2 samePrior
    subst sameTxn
    simp only [exchangeAndStore_eq, handleOIDCExchangeInternal_logs state same, conversion, etcd, and_self]

def secondProvider : InternalOIDCProvider :=
  ⟨⟨"auth", fun code => if code = "uvw" then .ok ⟨"tok2", some "id"⟩ else .error "bad code",
    fun raw => if raw = "id" then .ok ⟨"n"⟩ else .error "bad token", fun _ => .ok "user"⟩,
    "pachyderm", ""⟩

def secondQuery : Values := fun key =>
  if key = "code" then ["uvw"] else if key = "state" then ["abc123"] else []

theorem handleOIDCExchange_noninterference_scenario :
    (scenarioQuery "code")[0]? = some "xyz" ∧ (secondQuery "code")[0]? = some "uvw" ∧ "xyz" ≠ "" ∧ "uvw" ≠ "" ∧
      (scenarioQuery "state")[0]? = some "abc123" ∧ (secondQuery "state")[0]? = some "abc123" ∧
      (exchangeCode scenarioProvider "xyz").accessToken ≠ (exchangeCode secondProvider "uvw").accessToken ∧
      ∃ handled₁ handled₂,
        handleOIDCExchange (some scenarioProvider) scenarioQuery .commits scenarioStates = .ok handled₁ ∧
        handleOIDCExchange (some secondProvider) secondQuery .commits scenarioStates = .ok handled₂ ∧
        handled₁.response = handled₂.response ∧ handled₁.logs = handled₂.logs := by
  obtain ⟨handled₁, handled₂, ran₁, ran₂, sameResponse, sameLogs⟩ := handleOIDCExchange_noninterference
    scenarioProvider secondProvider scenarioQuery secondQuery .commits .commits scenarioStates scenarioStates
    "xyz" "uvw" "abc123" rfl rfl (by decide) (by decide) rfl rfl
  exact ⟨rfl, rfl, by decide, by decide, rfl, rfl, by decide, handled₁, handled₂, ran₁, ran₂, sameResponse rfl,
    (sameLogs rfl rfl rfl).1⟩

end OidcLogin
