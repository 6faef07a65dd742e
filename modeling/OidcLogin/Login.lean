import OidcLogin.CryptoString
import OidcLogin.Store

/-! The configured ID provider and `GetOIDCLoginURL`, which opens a login session:
a fresh state token and nonce, a pending `SessionInfo` under the state token, and
the provider's login URL carrying both.

`NewOIDCSP` returns a provider only once discovery has succeeded, so `Provider` is
never nil in an `InternalOIDCProvider` here, and the rediscovery branch of
`GetOIDCLoginURL` (which its own comment expects never to run) is not modelled.
-/

set_option autoImplicit false

namespace OidcLogin

/-- The OAuth2 token `conf.Exchange` returns: its access token, and its `id_token`
extra when that is a string. -/
structure Token where
  accessToken : String
  idToken : Option String
  deriving DecidableEq, Repr, Inhabited

structure IDToken where
  nonce : String
  deriving DecidableEq, Repr, Inhabited

/-- The ID provider as the code reaches it through `go-oidc` and `oauth2`: `authURL` is
`Endpoint().AuthURL`, `exchange` is `conf.Exchange`, `verify` the ID token verifier's
`Verify`, and `userInfo` is `UserInfo` with a static token source, by its `Email`. Each call
answers with a value or the error's text. -/
structure OIDCProvider where
  authURL : String
  exchange : String → Except String Token
  verify : String → Except String IDToken
  userInfo : String → Except String String

structure InternalOIDCProvider where
  provider : OIDCProvider
  clientID : String
  redirectURI : String

structure LoginURL where
  authURL : String
  params : List (String × String)
  deriving DecidableEq, Repr

/-- `conf.AuthCodeURL(state, response_type=code, nonce=nonce)` for the scopes
`openid`, `profile` and `email`. -/
def authCodeURL (o : InternalOIDCProvider) (state nonce : String) : LoginURL :=
  ⟨o.provider.authURL,
    [("response_type", "code"), ("client_id", o.clientID)] ++
      (if o.redirectURI = "" then [] else [("redirect_uri", o.redirectURI)]) ++
      [("scope", "openid profile email")] ++
      (if state = "" then [] else [("state", state)]) ++ [("nonce", nonce)]⟩

def threeMinutes : Nat := 3 * 60

/-- `GetOIDCLoginURL`: the login URL and the state token, or an error, with the
records afterwards. `readState` and `readNonce` are what `crypto/rand` gives the two
calls of `CryptoString(30)`. -/
def getOIDCLoginURL (o : Option InternalOIDCProvider) (readState readNonce : Read) (txn : Txn)
    (states : States) : Go (Except GoError (LoginURL × String) × States) :=
  match o with
  | none => .ok (.error .notConfigured, states)
  | some o =>
    match cryptoString readState 30, cryptoString readNonce 30 with
    | .error panic, _ => .error panic
    | .ok _, .error panic => .error panic
    | .ok state, .ok nonce =>
      match newSTM txn (fun _ s => ((), .ok (putTTL state ⟨nonce, "", false⟩ threeMinutes s))) ()
          states with
      | (_, some err, states) => .ok (.error (.wrapped "could not create OIDC login session" err), states)
      | (_, none, states) => .ok (.ok (authCodeURL o state nonce, state), states)

theorem getOIDCLoginURL_ok {o : Option InternalOIDCProvider} {readState readNonce : Read}
    {txn : Txn} {states states' : States} {url : LoginURL} {state : String}
    (created : getOIDCLoginURL o readState readNonce txn states = .ok (.ok (url, state), states')) :
    ∃ o' nonce, o = some o' ∧ cryptoString readState 30 = .ok state ∧
      cryptoString readNonce 30 = .ok nonce ∧ txn = .commits ∧
      states' = putTTL state ⟨nonce, "", false⟩ threeMinutes states ∧
      url = authCodeURL o' state nonce := by
  rcases o with _ | o'
  · cases created
  cases drawnState : cryptoString readState 30 with
  | error => simp [getOIDCLoginURL, drawnState] at created
  | ok state' =>
    cases drawnNonce : cryptoString readNonce 30 with
    | error => simp [getOIDCLoginURL, drawnState, drawnNonce] at created
    | ok nonce =>
      cases txn <;> simp [getOIDCLoginURL, drawnState, drawnNonce, newSTM] at created
      obtain ⟨⟨rfl, rfl⟩, rfl⟩ := created
      exact ⟨o', nonce, rfl, rfl, rfl, rfl, rfl, rfl⟩

/-- A `GetOIDCLoginURL` that returns an error leaves the records as they were. -/
theorem getOIDCLoginURL_error_unchanged {o : Option InternalOIDCProvider}
    {readState readNonce : Read} {txn : Txn} {states states' : States} {err : GoError}
    (failed : getOIDCLoginURL o readState readNonce txn states = .ok (.error err, states')) :
    states' = states := by
  rcases o with _ | o'
  · simp [getOIDCLoginURL] at failed; exact failed.2.symm
  cases drawnState : cryptoString readState 30 with
  | error => simp [getOIDCLoginURL, drawnState] at failed
  | ok state' =>
    cases drawnNonce : cryptoString readNonce 30 with
    | error => simp [getOIDCLoginURL, drawnState, drawnNonce] at failed
    | ok nonce =>
      cases txn <;> simp [getOIDCLoginURL, drawnState, drawnNonce, newSTM] at failed <;>
        exact failed.2.symm

theorem authCodeURL_nonce {o : InternalOIDCProvider} {state nonce value : String}
    (member : ("nonce", value) ∈ (authCodeURL o state nonce).params) : value = nonce := by
  simpa [authCodeURL] using member

theorem length_state_nonce {o : Option InternalOIDCProvider} {readState readNonce : Read}
    {txn : Txn} {states states' : States} {url : LoginURL} {state : String}
    (created : getOIDCLoginURL o readState readNonce txn states = .ok (.ok (url, state), states')) :
    ∃ nonce, state.length = 31 ∧ nonce.length = 31 ∧ ("nonce", nonce) ∈ url.params ∧
      states' state = some ⟨nonce, "", false⟩ := by
  obtain ⟨o', nonce, -, drawnState, drawnNonce, -, rfl, rfl⟩ := getOIDCLoginURL_ok created
  exact ⟨nonce, length_cryptoString_thirty drawnState, length_cryptoString_thirty drawnNonce,
    by simp [authCodeURL], by simp [putTTL]⟩

end OidcLogin
