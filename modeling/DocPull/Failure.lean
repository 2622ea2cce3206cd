import DocPull.Bytes

/-!
# Kinds of failure

Every part of the program has its own type of errors. What callers need of all of them is the
same: the words to show, and which of the well-known kinds of failure the error is or was caused
by.
-/
namespace DocPull

/-- The kinds of failure that callers tell apart. -/
inductive FailureKind where
  /-- The Drive service answered with an error status. -/
  | apiError
  /-- A published document was answered with a status other than success. -/
  | httpError
  /-- Authorization failed. -/
  | authorization
  /-- The saved credential cannot be used. -/
  | credentialFile
  /-- No client identity is configured. -/
  | clientSecret
  | badRequest
  | unauthorized
  | forbidden
  | notFound
  | rateLimited
  | serverError
  /-- The Drive service could not be reached. -/
  | driveNetwork
  | unexpectedStatus
  /-- A published document could not be reached. -/
  | fetchNetwork
  | streamDone
  | noProgress
  /-- The work was canceled. -/
  | canceled
  deriving DecidableEq, Repr

def FailureKind.all : List FailureKind :=
  [apiError, httpError, authorization, credentialFile, clientSecret, badRequest, unauthorized,
    forbidden, notFound, rateLimited, serverError, driveNetwork, unexpectedStatus, fetchNetwork,
    streamDone, noProgress, canceled]

/-- Errors that can be shown and told apart. -/
class Failure (ε : Type) where
  /-- The words for the error. -/
  message : ε → Bytes
  /-- Whether the error is of a kind, or was caused by one. -/
  isA : ε → FailureKind → Bool

def kinds {ε : Type} [Failure ε] (e : ε) : List FailureKind :=
  FailureKind.all.filter (Failure.isA e)

end DocPull
