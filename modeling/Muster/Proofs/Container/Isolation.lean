import Muster.Proofs.Container.Errand
import Muster.Proofs.Environment.Borrow
/-!
# What of the host's environment gets into a container

A start looks at the host's environment only to read the environment files.  It is the same in all
environments unless a variable of the container is borrowed from there, and then it is not: an
engine that refuses nothing makes containers that differ.
-/

namespace Muster

open EnvFile (IsHost)

/-- The environments of the containers that an engine has been told to make. -/
def Engine.environments (e : Engine) : List (Table String) :=
  e.calls.filterMap fun
    | .createContainer spec => some spec.environment
    | _ => none

namespace Project

open Engine

variable {p : Project} {s : Service} {a b : Table String}

/-- A project in another environment of the host. -/
def within (p : Project) (environ : Table String) : Project :=
  { p with environ }

/-- How a start ends, and the environments of the containers that have been made. -/
def startedWith (p : Project) (s : Service) (e : Engine) :
    Except Fault Unit × List (Table String) :=
  (((p.start s).run e).1, ((p.start s).run e).2.environments)

/-- The variables of a service's container, each with whether it is borrowed from the host. -/
def borrowed (p : Project) (s : Service) : Table Bool :=
  Environment.borrowed p.files p.base s.envFiles s.environment

/-- The fault of a start for want of an environment file. -/
def missing? (p : Project) (s : Service) : Option Fault :=
  Environment.missing? p.files p.base s.envFiles

theorem environment_within (p : Project) (s : Service) (a : Table String) :
  (p.within a).environment s = match p.missing? s with
    | some fault => .error fault
    | none => .ok (Environment.ofFiles p.files a p.base s.envFiles s.environment)
  := Environment.merge_eq ..

/-- The host's environment counts for a start only in what it makes of the environment files. -/
theorem start_within (same : s.image ≠ "" →
    (p.within a).environment s = (p.within b).environment s) :
  (p.within a).start s = (p.within b).start s
  := by
  unfold start
  split
  · rfl
  · next image =>
    rw [same image]
    rfl

/-- A start with an engine that refuses nothing and has nothing but the image. -/
theorem startedWith_image (image : s.image ≠ "") {environment : Table String}
    (made : p.environment s = .ok environment) :
  p.startedWith s { images := [s.image] } = (.ok (), [environment])
  := by
  let e : Engine := { images := [s.image] }
  have image? : (ensureImage s).run e = (.ok (), e.record (.findImage s.image)) := by
    simp [ensureImage, findImage, run_bind, run_attempt, run_call, run_get, e, record, run_pure]
  have cleared : (p.clear s).run (e.record (.findImage s.image))
      = (.ok (), (e.record (.findImage s.image)).record (.findContainer (p.containerName s))) :=
    rfl
  rw [startedWith, start, if_neg image, run_bind_of_ok image?, run_bind_of_ok cleared, made]
  rfl

/-- A start is the same in all environments of the host exactly when it does not come to make a
container or makes one that has nothing borrowed from the host. -/
theorem started_alike_iff (p : Project) (s : Service) :
  (∀ a b, IsHost a → IsHost b → ∀ e,
      (p.within a).startedWith s e = (p.within b).startedWith s e)
    ↔ s.image = "" ∨ (∃ fault, p.missing? s = some fault)
      ∨ ∀ name, (p.borrowed s).get? name ≠ some true
  := by
  constructor
  · intro alike
    by_cases image : s.image = ""
    · exact .inl image
    cases missing : p.missing? s with
    | some fault => exact .inr (.inl ⟨fault, rfl⟩)
    | none =>
      refine .inr (.inr fun name taken => ?_)
      obtain ⟨a, b, host, host', apart⟩ := Environment.exists_ofFiles_ne_of_borrowed taken
      -- An engine that has the image and refuses nothing comes to make the container.
      have same := alike a b host host' { images := [s.image] }
      rw [startedWith_image image (by rw [environment_within, missing]),
        startedWith_image image (by rw [environment_within, missing])] at same
      simp only [Prod.mk.injEq, List.cons.injEq, and_true, true_and] at same
      exact apart (by rw [same])
  · intro reason a b host host' e
    suffices same : (p.within a).start s = (p.within b).start s by
      rw [startedWith, startedWith, same]
    apply start_within
    intro image
    rw [environment_within, environment_within]
    rcases reason with none | ⟨fault, missing⟩ | own
    · exact absurd none image
    · rw [missing]
    · rw [Environment.ofFiles_eq_of_not_borrowed host host' own]

end Project

/-! ### A variable that refers to the host -/

namespace Sample

/-- A project with an environment file that refers to a variable of the host. -/
def borrower : Project :=
  { demo with files := Files.ofList ["srv"] [("proxy.env", "KEY=$\x7bTOKEN\x7d\n")] }

/-- A service with that file. -/
def proxyWithKey : Service :=
  { proxy with envFiles := ["proxy.env"] }

/-- An environment of a host with a token. -/
def withToken : Table String :=
  Table.ofList [("TOKEN", "s3cret")]

theorem isHost_withToken :
  IsHost withToken
  := by
  intro name unsettable
  have found : withToken.get? name = if "TOKEN" = name then some "s3cret" else none := rfl
  rw [found, if_neg]
  rintro rfl
  revert unsettable
  decide

end Sample

/-- Whether a host has a token shows in the environment of a container. -/
theorem token_reaches_container :
  ¬ ∀ (p : Project) (s : Service) (a b : Table String), IsHost a → IsHost b →
    ∀ e, (p.within a).startedWith s e = (p.within b).startedWith s e
  := by
  intro law
  have same := law Sample.borrower Sample.proxyWithKey ∅ Sample.withToken (fun _ _ => rfl)
    Sample.isHost_withToken { images := [Sample.proxyWithKey.image] }
  have there : Sample.borrower.missing? Sample.proxyWithKey = none := by rfl
  rw [Project.startedWith_image (by decide) (by rw [Project.environment_within, there]),
    Project.startedWith_image (by decide) (by rw [Project.environment_within, there])] at same
  have key : ∀ a b : Table String, a.get? "KEY" ≠ b.get? "KEY" → a ≠ b := by
    rintro a _ apart rfl
    exact apart rfl
  refine key _ _ ?_ (List.cons.inj (Prod.mk.inj same).2).1
  decide +kernel

end Muster
