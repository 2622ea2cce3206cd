import DocPull.Auth.Error
import DocPull.Cli.Command
import DocPull.Config.Resolve
import DocPull.Drive.Export
import DocPull.Published

/-!
# Failures of a run

A run of the program fails with what its command line, its settings or one of its parts failed
with.
-/
namespace DocPull.Cli

/-- Why a run of the program failed. -/
inductive Error where
  | usage (e : UsageError)
  | config (e : Config.Error)
  | auth (e : Auth.Error)
  | drive (e : Drive.Error Auth.Error)
  | user (e : Drive.Error Auth.Error)
  | exporting (fileId : Bytes) (e : Download.Error (Drive.Error Auth.Error))
  | fetch (e : Published.Error)
  | noUrl
  | noDocument
  deriving DecidableEq, Repr

instance : Failure Error where
  message
    | .usage e => e.message
    | .config e => text ["loading config: ", e.message]
    | .auth e => Failure.message e
    | .drive e => Failure.message e
    | .user e => text ["fetching user: ", Failure.message e]
    | .exporting fileId e => text ["exporting ", fileId, ": ", Failure.message e]
    | .fetch e => Failure.message e
    | .noUrl => "no URL: pass one, use --key, or set [fetch] url or key"
    | .noDocument => "no document configured: set [export] file_id"
  isA
    | .auth e, k => Failure.isA e k
    | .drive e, k => Failure.isA e k
    | .user e, k => Failure.isA e k
    | .exporting _ e, k => Failure.isA e k
    | .fetch e, k => Failure.isA e k
    | _, _ => false

/-- The answer with an error status that a run failed with. -/
def Error.api? : Error → Option Drive.ApiError
  | .drive e => e.api?
  | .user e => e.api?
  | .exporting _ e => e.cause?.bind Drive.Error.api?
  | _ => none

end DocPull.Cli
