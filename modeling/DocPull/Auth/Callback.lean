import DocPull.Host
import DocPull.Http.Server

/-!
# Callbacks of a login

The provider sends the browser back to a listener on this machine. The first callback that its
handler gets decides the login: its state must be the one that the consent page was opened with, it
must not report an error, and it must carry a code.
-/
namespace DocPull.Auth

/-- Why a callback carries no code. -/
inductive CallbackError where
  | stateMismatch
  | denied (error description : Bytes)
  | noCode
  deriving DecidableEq, Repr

def CallbackError.message : CallbackError → Bytes
  | stateMismatch => "state mismatch in callback"
  | denied error description => text [error, ": ", description]
  | noCode => "callback missing authorization code"

/-- A plain page with an error on it. -/
def errorPage (status : Nat) (message : Bytes) : Page :=
  ⟨status, "text/plain; charset=utf-8", message ++ [10]⟩

def successPage : Page :=
  ⟨200, "text/html; charset=utf-8",
    text ["<html><body><h1>Authentication successful</h1>",
      "<p>You can close this window and return to the terminal.</p></body></html>"]⟩

/-- What a callback's query amounts to: the page to show, and the code or what is wrong. -/
def handleCallback (state query : Bytes) : Page × Except CallbackError Bytes :=
  let ps := Query.parse query
  let error := Query.get ps "error"
  let code := Query.get ps "code"
  if Query.get ps "state" ≠ state then
    (errorPage 400 "Invalid state parameter", .error .stateMismatch)
  else if error ≠ [] then
    (errorPage 400 (text ["Authorization failed: ", error]),
      .error (.denied error (Query.get ps "error_description")))
  else if code = [] then (errorPage 400 "Missing authorization code", .error .noCode)
  else (successPage, .ok code)

/-- The query that the handler gets with a callback, if the callback is routed to it. -/
def Callback.handled? (state : Bytes) (c : Callback) : Option Bytes :=
  match Http.route c.method (c.target state) c.fields with
  | .handled query => some query
  | _ => none

def escapeHtml (s : Bytes) : Bytes :=
  s.flatMap fun b =>
    if b = byte '&' then "&amp;"
    else if b = byte '<' then "&lt;"
    else if b = byte '>' then "&gt;"
    else if b = byte '"' then "&#34;"
    else if b = 0x27 then "&#39;"
    else [b]

/-- The page that sends a browser on to another target; only a browser that asks for a page is
shown one. -/
def movedPage (method target : Bytes) : Page :=
  if method = utf8 "GET" ∨ method = utf8 "HEAD" then
    ⟨301, "text/html; charset=utf-8",
      text ["<a href=\"", escapeHtml target, "\">Moved Permanently</a>.\n\n"]⟩
  else ⟨301, [], []⟩

def pageFor (state : Bytes) (c : Callback) : Page :=
  let page : Page := match Http.route c.method (c.target state) c.fields with
    | .tooLong => ⟨431, "text/plain; charset=utf-8", "431 Request Header Fields Too Large"⟩
    | .unreadable => ⟨400, "text/plain; charset=utf-8", "400 Bad Request"⟩
    | .pathless status => ⟨status, [], []⟩
    | .moved target => movedPage c.method target
    | .notAllowed => errorPage 405 "Method Not Allowed"
    | .handled query => (handleCallback state query).1
  if c.method = utf8 "HEAD" then { page with body := [] } else page

/-- What the first callback that is routed to the handler amounts to. -/
def firstResult? (state : Bytes) (cs : List Callback) : Option (Except CallbackError Bytes) :=
  (cs.findSome? (Callback.handled? state)).map fun query => (handleCallback state query).2

end DocPull.Auth
