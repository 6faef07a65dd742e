import OidcLogin.Output
import OidcLogin.Base64
import OidcLogin.CryptoString
import OidcLogin.Store
import OidcLogin.Login
import OidcLogin.Exchange
import OidcLogin.Callback
import OidcLogin.Session
import OidcLogin.Waiter
import OidcLogin.Waiter.Outcomes
import OidcLogin.Waiter.Tokens
import OidcLogin.Flow
import OidcLogin.Text
import OidcLogin.Testutil
import OidcLogin.Log
import OidcLogin.Cert
