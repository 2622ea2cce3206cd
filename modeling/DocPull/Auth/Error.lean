import DocPull.Auth.Callback
import DocPull.Auth.Grant
import DocPull.Auth.TokenFile

/-!
# Failures of signing in

Failures fall into three kinds: authorization was refused or given up, the saved credential cannot
be used, or the client's identity is not known. A listener that cannot be opened and a credential
that cannot be saved are of none of these kinds.
-/
namespace DocPull.Auth

/-- Why signing in failed. -/
inductive Error where
  | noTokenPath
  | noScopes
  | credentialFile (e : TokenFile.Error)
  | identity (e : IdentityError)
  | listener (message : Bytes)
  | listenerAddress
  | server (message : Bytes)
  | canceled
  | callback (e : CallbackError)
  | redeeming (e : GrantError)
  | refreshing (e : GrantError)
  | renewing (e : GrantError)
  | saving (e : TokenFile.Error)
  | logout (e : TokenFile.Error)
  deriving DecidableEq, Repr

/-- The words for a failed authorization. -/
def failed (parts : List Bytes) : Bytes := text ("auth: authorization failed: " :: parts)

instance : Failure Error where
  message
    | .noTokenPath => "auth: token path is required"
    | .noScopes => "auth: at least one scope is required"
    | .credentialFile e => text ["auth: credential file unusable: ", e.message]
    | .identity e => text ["auth: client secret unavailable: ", e.message]
    | .listener m => text ["auth: binding localhost listener: ", m]
    | .listenerAddress => "auth: listener address is not TCP"
    | .server m => text ["auth: callback server error: ", m]
    | .canceled => failed ["interactive authorization canceled: ", Http.canceledMessage]
    | .callback e => failed [e.message]
    | .redeeming e => failed ["token exchange failed: ", Failure.message e]
    | .refreshing e => failed ["refreshing token: ", Failure.message e]
    | .renewing e => failed ["obtaining token: ", Failure.message e]
    | .saving e => text ["auth: saving token: ", e.message]
    | .logout e => e.message
  isA
    | .credentialFile _, k => k == .credentialFile
    | .identity _, k => k == .clientSecret
    | .canceled, k => k == .authorization || k == .canceled
    | .callback _, k => k == .authorization
    | .redeeming e, k => k == .authorization || Failure.isA e k
    | .refreshing e, k => k == .authorization || Failure.isA e k
    | .renewing e, k => k == .authorization || Failure.isA e k
    | _, _ => false

end DocPull.Auth
