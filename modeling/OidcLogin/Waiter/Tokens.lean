import OidcLogin.Waiter

/-! The waiter treats access tokens as opaque. Renaming the access token of every
record it decodes, with the empty token kept empty, changes only the token it hands to
`UserInfo`: when the provider answers the renamed token as it answered the original,
`OIDCStateToEmail` returns the same result, opens as many watches and writes the same
log lines. So no log line carries an access token.

`retryNotify_map` is the simulation lemma for the backoff loop this rests on.
-/

set_option autoImplicit false

namespace OidcLogin

/-- `backoff.RetryNotify` commutes with a map of its state that the operation and the
notify function commute with. -/
theorem retryNotify_map {σ τ : Type} (f : σ → τ) {op₁ : σ → Option (Option GoError × σ)}
    {op₂ : τ → Option (Option GoError × τ)} {notify₁ : GoError → Nat → σ → Option GoError × σ}
    {notify₂ : GoError → Nat → τ → Option GoError × τ}
    (opMap : ∀ s, op₂ (f s) = (op₁ s).map (Prod.map id f))
    (notifyMap : ∀ err next s, notify₂ err next (f s) = Prod.map id f (notify₁ err next s))
    (schedule : List Nat) (s : σ) :
    retryNotify op₂ notify₂ schedule (f s) = (retryNotify op₁ notify₁ schedule s).map (Prod.map id f) := by
  induction schedule generalizing s with
  | nil =>
    rw [retryNotify, retryNotify, opMap]
    rcases op₁ s with _ | ⟨_ | err, s'⟩ <;> rfl
  | cons next rest ih =>
    rw [retryNotify, retryNotify, opMap]
    rcases op₁ s with _ | ⟨_ | err, s'⟩
    · rfl
    · rfl
    · simp only [Option.map_some', Prod.map_apply, id_eq, notifyMap]
      rcases notify₁ err next s' with ⟨_ | stop, s''⟩
      · exact ih s''
      · rfl

def renameTokens (rename : String → String) (unmarshal : Unmarshal) : Unmarshal := fun value =>
  (unmarshal value).map fun si => { si with accessToken := rename si.accessToken }

def Waiting.renameToken (rename : String → String) (w : Waiting) : Waiting :=
  { w with accessToken := rename w.accessToken }

@[simp] theorem Waiting.renameToken_opened (rename : String → String) (w : Waiting) :
    (w.renameToken rename).opened = w.opened := rfl

@[simp] theorem Waiting.renameToken_logs (rename : String → String) (w : Waiting) :
    (w.renameToken rename).logs = w.logs := rfl

section
variable (rename : String → String) (unmarshal : Unmarshal)

theorem watchEvents_renameTokens (keepsEmpty : ∀ t, rename t = "" ↔ t = "") (events : List Event) (closes : Bool)
    (w : Waiting) :
    watchEvents (renameTokens rename unmarshal) events closes (w.renameToken rename) =
      (watchEvents unmarshal events closes w).map (Prod.map id (Waiting.renameToken rename)) := by
  induction events generalizing w with
  | nil => cases closes <;> rfl
  | cons e rest ih =>
    cases e with
    | error => rfl
    | delete => rfl
    | put value =>
      cases decoded : unmarshal value with
      | error => simp [watchEvents, renameTokens, decoded, Except.map]
      | ok si =>
        by_cases tokenSet : si.accessToken = ""
        · have renamed : rename "" = "" := (keepsEmpty "").mpr rfl
          by_cases failed : si.conversionErr = true
          · simp [watchEvents, renameTokens, decoded, Except.map, tokenSet, renamed, failed]
          · have step := ih { w with logs := w.logs ++ [errorf "ID token unset in OIDC conversion watch event" []] }
            simpa [watchEvents, renameTokens, decoded, Except.map, tokenSet, renamed, failed] using step
        · have renamed : rename si.accessToken ≠ "" := fun empty => tokenSet ((keepsEmpty _).mp empty)
          simp [watchEvents, renameTokens, decoded, Except.map, tokenSet, renamed, Waiting.renameToken]

theorem watchOperation_renameTokens (keepsEmpty : ∀ t, rename t = "" ↔ t = "") (sessions : Nat → WatchSession)
    (state : String) (w : Waiting) :
    watchOperation (renameTokens rename unmarshal) sessions state (w.renameToken rename) =
      (watchOperation unmarshal sessions state w).map (Prod.map id (Waiting.renameToken rename)) := by
  simp only [watchOperation, Waiting.renameToken_opened]
  cases sessions w.opened with
  | fails => rfl
  | delivers events closes => exact watchEvents_renameTokens rename unmarshal keepsEmpty events closes { w with opened := w.opened + 1 }

/-- Renaming tokens changes only the token handed to `UserInfo`, for a provider that
answers the renamed token as the original one. -/
theorem oidcStateToEmail_renameTokens (keepsEmpty : ∀ t, rename t = "" ↔ t = "") (o₁ o₂ : InternalOIDCProvider)
    (answers : ∀ t, o₂.provider.userInfo (rename t) = o₁.provider.userInfo t)
    (sessions : Nat → WatchSession) (schedule : List Nat) (state : String) :
    oidcStateToEmail o₂ (renameTokens rename unmarshal) sessions schedule state =
      (oidcStateToEmail o₁ unmarshal sessions schedule state).map fun r =>
        { r with userInfo := r.userInfo.map rename, waiting := r.waiting.renameToken rename } := by
  have start : (⟨"", 0, []⟩ : Waiting) = Waiting.renameToken rename ⟨"", 0, []⟩ := by
    simp [Waiting.renameToken, (keepsEmpty "").mpr rfl]
  have notified (err : GoError) (next : Nat) (w : Waiting) :
      notifyWatch state err next (w.renameToken rename) =
        Prod.map id (Waiting.renameToken rename) (notifyWatch state err next w) := rfl
  unfold oidcStateToEmail
  conv_lhs => rw [start]
  rw [retryNotify_map (Waiting.renameToken rename) (watchOperation_renameTokens rename unmarshal keepsEmpty
    sessions state) notified, Option.map_map, Option.map_map]
  congr 1
  funext ⟨err, w⟩
  cases err with
  | some err => rfl
  | none =>
    simp only [Function.comp_apply, Prod.map_apply, id_eq, finishWaiting, Waiting.renameToken, answers]
    cases o₁.provider.userInfo w.accessToken <;> rfl

end

def anyTokenProvider : InternalOIDCProvider :=
  ⟨⟨"", fun _ => .error "unused", fun _ => .error "unused", fun _ => .ok "robot@idp"⟩, "pachd", ""⟩

def hideToken (t : String) : String := if t = "" then "" else "secret"

def grantedUnmarshal : Unmarshal := fun _ => .ok ⟨"n", "tok", false⟩

theorem oidcStateToEmail_renameTokens_scenario :
    (∀ t, hideToken t = "" ↔ t = "") ∧
      (∀ t, anyTokenProvider.provider.userInfo (hideToken t) = anyTokenProvider.provider.userInfo t) ∧
      oidcStateToEmail anyTokenProvider (renameTokens hideToken grantedUnmarshal) (fun _ => .delivers [.put [1]] false)
          [100] "abc123" =
        (oidcStateToEmail anyTokenProvider grantedUnmarshal (fun _ => .delivers [.put [1]] false) [100] "abc123").map
          fun r => { r with userInfo := r.userInfo.map hideToken, waiting := r.waiting.renameToken hideToken } := by
  have keepsEmpty : ∀ t, hideToken t = "" ↔ t = "" := by
    intro t
    unfold hideToken
    split_ifs with empty <;> simp [empty]
  exact ⟨keepsEmpty, fun _ => rfl, oidcStateToEmail_renameTokens hideToken grantedUnmarshal keepsEmpty anyTokenProvider
    anyTokenProvider (fun _ => rfl) _ _ _⟩

end OidcLogin
