import DocPull.Auth.Identity
import DocPull.Auth.Token

/-!
# Where tokens come from

A source either serves one token as it is or renews it when it has expired. Authorized requests
keep the last token they got from their source for as long as it can be used.
-/
namespace DocPull.Auth

/-- A token that is renewed on demand and written back to the token file. -/
structure Renewal where
  identity : Identity
  /-- The token in use. -/
  current : Token
  /-- What the next renewal is asked with. -/
  refreshToken : Bytes
  /-- The access token that the token file holds, as far as is known. -/
  saved : Bytes
  scopes : Option (List Bytes)
  path : Bytes
  /-- Whether renewals are given up when work is canceled. -/
  listens : Bool
  deriving DecidableEq, Repr

inductive Source where
  | fixed (t : Token)
  | renewing (r : Renewal)
  deriving DecidableEq, Repr

/-- A source together with the last token that it gave. -/
structure Session where
  source : Source
  cached : Option Token
  deriving DecidableEq, Repr

end DocPull.Auth
