import DocPull.Cli.Run
import DocPull.Proofs.Auth.Guarded

/-!
# What a run leaves alone

A run touches the token file of its settings, and the file it exports to when it exports: every
command stays within its names, however it ends. Runs that are refused, and fetching, touch nothing.
-/
open DocPull.Files DocPull.Files.Tree

namespace DocPull.Published

end DocPull.Published

namespace DocPull.Cli

open Auth

/-- Whether a run is refused: for its command line, for its settings, or for what they leave out. A
page size that cannot be listed is not among the reasons; the service refuses it, after the run has
signed in. -/
def Error.isRefusal : Error → Bool
  | .usage _ | .config _ | .noUrl | .noDocument => true
  | _ => false

/-- What differs between two trees is what one of some names leads to, which is no directory
afterwards, or a directory made for one of them. -/
def Touches (paths : List Bytes) (t u : Tree) : Prop :=
  ∀ l, u.get? l = t.get? l ∨
    (∃ path ∈ paths, (t.locate path = .ok l ∨ u.locate path = .ok l) ∧
      ∀ mode, u.get? l ≠ some (.dir mode)) ∨
    MadeFor paths t u l

/-- What an action left: it touched nothing but some names, and nothing at all when it refused. -/
structure Leaves {α : Type} (paths : List Bytes) (t : Tree) (out : Except Error α × Host) :
    Prop where
  touches : Touches paths t out.2.tree
  refused : ∀ e, out.1 = .error e → e.isRefusal → out.2.tree = t

section

variable {α : Type} {paths : List Bytes} {t u : Tree} {h : Host}

theorem Leaves.done {x : α} (ht : Touches paths t h.tree) : Leaves paths t (.ok x, h) :=
  ⟨ht, by rintro e ⟨⟩⟩

theorem Leaves.failed {e : Error} (he : e.isRefusal = false) (ht : Touches paths t h.tree) :
    Leaves paths t ((.error e : Except Error α), h) := by
  refine ⟨ht, ?_⟩
  rintro e' ⟨⟩ hrefused
  simp [he] at hrefused

end

theorem obtain_cases (j : Job) (h : Host) :
    ∃ h₁, Confined [j.tokenFile] h.tree h₁.tree ∧
      ((∃ e, obtain j h = (.error (.auth e), h₁)) ∨
        ∃ c, obtain j h = (.ok (authOptions j, c), h₁)) := by
  unfold obtain
  cases hcheck : (authOptions j).check with
  | error e => exact ⟨h, .refl _ _, .inl ⟨_, rfl⟩⟩
  | ok o =>
    obtain rfl := Options.check_ok hcheck
    dsimp only
    have hconfined : Confined [j.tokenFile] h.tree (Auth.obtain (authOptions j) h).2.tree :=
      obtain_confined (authOptions j) h
    generalize Auth.obtain (authOptions j) h = got at hconfined
    obtain ⟨e | c, h₁⟩ := got
    · exact ⟨h₁, hconfined, .inl ⟨_, rfl⟩⟩
    · exact ⟨h₁, hconfined, .inr ⟨_, rfl⟩⟩

/-- Where an export goes, when it comes to have a destination. -/
def exportTarget? (j : Job) (h : Host) : Option Bytes :=
  match signIn j h with
  | (.error _, _) => none
  | (.ok client, h) => (destination j client h).1.toOption

/-- The names that a command may touch. -/
def written (c : Command) (j : Job) (h : Host) : List Bytes :=
  match c with
  | .login | .logout | .whoami | .ls => [j.tokenFile]
  | .exporting => j.tokenFile :: (exportTarget? j h).toList
  | .grab => [j.tokenFile, j.settings.exporting.output]
  | .root | .completion | .shell _ | .fetch | .help => []

end DocPull.Cli
