import Muster.Proofs.Launch.Turn
/-!
# Flags and marks

The flags of a state are set by marks and never taken back.  While a worker makes the marks of a
list, the flags that are set are those that were set before and those of the marks already made.
In each list that ends the start of a service the last mark is the one that releases those who
wait, so whoever sees it finds all other marks made.
-/

namespace Muster

/-- The flags of a state. -/
inductive Flag where
  | ready
  | failed
  | started
  | settled
deriving DecidableEq

/-- The mark that sets a flag. -/
def Flag.mark : Flag → Mark
  | ready => .ready
  | failed => .failed
  | started => .started
  | settled => .settled

/-- A status in which a service is on its way to be ready. -/
def Status.isEarly (s : Status) : Prop :=
  s = .pending ∨ s = .starting

namespace ServiceState

/-- Whether a flag of a state is set. -/
def has (s : ServiceState) : Flag → Bool
  | .ready => s.ready
  | .failed => s.failed
  | .started => s.started
  | .settled => s.settled

/-- A mark sets its own flag, if it has one. -/
theorem has_mark_iff {s : ServiceState} {m : Mark} {f : Flag} :
  (s.mark m).has f = true ↔ s.has f = true ∨ m = f.mark
  := by
  cases m <;> cases f <;> simp [mark, has, Flag.mark]

/-- No flag of a state is taken back. -/
def Grows (s s' : ServiceState) : Prop :=
  ∀ f, s.has f = true → s'.has f = true

theorem Grows.refl (s : ServiceState) :
  s.Grows s
  := fun _ set => set

theorem grows_mark (s : ServiceState) (m : Mark) :
  s.Grows (s.mark m)
  := by
  intro f set
  apply has_mark_iff.mpr (.inl set)

@[simp]
theorem has_noteStart (s : ServiceState) (f : Flag) :
  (Poll.noteStart s).has f = s.has f
  := by
  cases f <;> rfl

@[simp]
theorem has_noteResult (reply : Except Fault CheckResult) (s : ServiceState) (f : Flag) :
  (Poll.noteResult reply s).has f = s.has f
  := by
  cases reply <;> cases f <;> rfl

/-- The flags that are set are those in `base` and those of the marks in `done`. -/
def Shows (s : ServiceState) (base : Flag → Prop) (done : List Mark) : Prop :=
  ∀ f, s.has f = true ↔ base f ∨ f.mark ∈ done

theorem Shows.mark {s : ServiceState} {base : Flag → Prop} {done : List Mark}
    (shows' : s.Shows base done) (m : Mark) :
  (s.mark m).Shows base (done ++ [m])
  := by
  intro f
  rw [has_mark_iff, shows' f, List.mem_append, List.mem_singleton, or_assoc, eq_comm (a := m)]

/-- What is seen of a state does not depend on anything but its flags. -/
theorem Shows.congr {s s' : ServiceState} {base : Flag → Prop} {done : List Mark}
    (shows' : s.Shows base done) (same : ∀ f, s'.has f = s.has f) :
  s'.Shows base done
  := by
  intro f
  rw [same, shows' f]

/-- The marks of the list `all` are being made, those in `left` are still to come, and the flags
in `base` were set before. -/
def Making (s : ServiceState) (base : Flag → Prop) (all left : List Mark) : Prop :=
  ∃ done, done ++ left = all ∧ s.Shows base done

theorem Shows.making {s : ServiceState} {base : Flag → Prop} (shows' : s.Shows base [])
    (all : List Mark) :
  s.Making base all all
  := ⟨[], rfl, shows'⟩

theorem Making.mark {s : ServiceState} {base : Flag → Prop} {all left : List Mark} {m : Mark}
    (making : s.Making base all (m :: left)) :
  (s.mark m).Making base all left
  := by
  obtain ⟨done, split, made⟩ := making
  exact ⟨done ++ [m], by simpa using split, made.mark m⟩

theorem Making.congr {s s' : ServiceState} {base : Flag → Prop} {all left : List Mark}
    (making : s.Making base all left) (same : ∀ f, s'.has f = s.has f) :
  s'.Making base all left
  := by
  obtain ⟨done, split, made⟩ := making
  exact ⟨done, split, made.congr same⟩

/-- When all marks have been made, their flags are set. -/
theorem Making.shows {s : ServiceState} {base : Flag → Prop} {all : List Mark}
    (making : s.Making base all []) :
  s.Shows base all
  := by
  obtain ⟨done, split, made⟩ := making
  rw [List.append_nil] at split
  apply split ▸ made

/-- A status that is not early has been given, or is to be given by one of the marks. -/
def Late (s : ServiceState) (left : List Mark) : Prop :=
  (∃ x, Mark.status x ∈ left) ∨ ¬ s.status.isEarly

theorem Late.mark {s : ServiceState} {left : List Mark} {m : Mark} (late : s.Late (m :: left))
    (own : ∀ x, m = .status x → ¬ x.isEarly) :
  (s.mark m).Late left
  := by
  by_cases given : ∃ x, m = .status x
  · obtain ⟨x, rfl⟩ := given
    exact .inr (own x rfl)
  · have kept : (s.mark m).status = s.status := by
      cases m with
      | status x => apply absurd ⟨x, rfl⟩ given
      | _ => rfl
    refine late.imp ?_ (by rw [kept]; exact id)
    rintro ⟨x, mem⟩
    rcases List.mem_cons.mp mem with same | mem
    · apply absurd ⟨x, same.symm⟩ given
    · exact ⟨x, mem⟩

theorem Late.not_isEarly {s : ServiceState} (late : s.Late []) :
  ¬ s.status.isEarly
  := by
  rcases late with ⟨x, mem⟩ | late
  · cases mem
  · exact late

end ServiceState

namespace Mark

variable {done left : List Mark} {checked : Bool} {status : Status} {error : String}

/-- If some of a list has been passed and that holds the last element, all has been passed. -/
theorem eq_nil_of_mem_last (init : List Mark) {last : Mark} (new : last ∉ init)
    (made : last ∈ done) (split : done ++ left = init ++ [last]) :
  left = []
  := by
  obtain ⟨rest, rfl, -⟩ | ⟨rest, rfl, tail⟩ := List.append_eq_append_iff.mp split
  · apply absurd (List.mem_append_left _ made) new
  · cases rest with
    | nil => apply absurd (by simpa using made) new
    | cons m rest =>
      obtain ⟨-, tail⟩ := List.cons.inj tail
      exact (List.append_eq_nil_iff.mp tail.symm).2

/-- The mark that settles a service is the last one of those that make it ready. -/
theorem eq_nil_of_ofReady (split : done ++ left = ofReady checked) (made : settled ∈ done) :
  left = []
  := by
  cases checked
  · apply eq_nil_of_mem_last [ready, .status .running, started] (by simp) made split
  · apply eq_nil_of_mem_last [ready, .status .healthy, health .healthy, started]
      (by simp) made split

/-- The mark that settles a service is the last one of those that make it fail. -/
theorem eq_nil_of_ofFailure (split : done ++ left = ofFailure status error)
    (made : settled ∈ done) :
  left = []
  := by
  rw [ofFailure] at split
  split at split
  · exact eq_nil_of_mem_last
      [failed, .status status, .error error, health .unhealthy, started]
      (by simp) made split
  · apply eq_nil_of_mem_last [failed, .status status, .error error, started]
      (by simp) made split

/-- The mark that says that a service has failed is the first one of those that make it fail. -/
theorem failed_mem_of_ofFailure (split : done ++ left = ofFailure status error) {m : Mark}
    (made : m ∈ done) :
  failed ∈ done
  := by
  have head : (ofFailure status error).head? = some failed := by
    rw [ofFailure]
    split <;> rfl
  cases done with
  | nil => cases made
  | cons first done =>
    rw [← split] at head
    obtain rfl : first = failed := Option.some.inj head
    apply List.mem_cons_self

theorem exists_status_mem_ofReady (checked : Bool) :
  ∃ x, Mark.status x ∈ ofReady checked
  := by
  cases checked
  · exact ⟨.running, by simp [ofReady]⟩
  · exact ⟨.healthy, by simp [ofReady]⟩

theorem status_mem_ofFailure (status : Status) (error : String) :
  Mark.status status ∈ ofFailure status error
  := by
  rw [ofFailure]
  split <;> simp

theorem not_isEarly_of_mem_ofReady {x : Status} (mem : Mark.status x ∈ ofReady checked) :
  ¬ x.isEarly
  := by
  cases checked <;> simp [ofReady] at mem <;> simp [mem, Status.isEarly]

theorem eq_of_mem_ofFailure {x : Status} (mem : Mark.status x ∈ ofFailure status error) :
  x = status
  := by
  rw [ofFailure] at mem
  split at mem <;> simpa using mem

end Mark

end Muster
