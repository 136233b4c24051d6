import Muster.Proofs.Launch.Progress
import Muster.Proofs.Supervisor.Restart
/-!
# Chronicles

A stack is used again and again: services are brought up by their workers, the supervisor looks
after them, the stack is described and taken down, and a stop may be asked for at any time.  At the
host anything may happen meanwhile: services end and come back, and time passes.  `Chronicle` is the
relation of all that can become of a stack, with the events that are put down: which services are
brought up, who starts a service, and when the stack is taken down.

A stack is either idle, or services are being brought up; `Phase.Step` lists what can happen next,
one constructor for each.  A stack is not taken down while services are brought up.
-/

namespace Muster

/-- What is put down in a chronicle. -/
inductive Event where
  /-- Services are brought up, in this order. -/
  | chosen (order : List String)
  /-- A worker calls the host to start its service. -/
  | started (service : String) (result : Except Fault Unit)
  /-- The supervisor calls the host to start a service again. -/
  | restarted (service : String)
  /-- The stack is taken down. -/
  | down

/-- The event of a turn of a worker, if it calls the host to start its service. -/
def Worker.Turn.event? : Worker.Turn → Option Event
  | ⟨service, some (.start result)⟩ => some (.started service result)
  | _ => none

theorem Worker.Turn.eq_of_event? {turn : Worker.Turn} {event : Event}
    (same : turn.event? = some event) :
  ∃ result, event = .started turn.service result ∧ turn.call = some (.start result)
  := by
  unfold Worker.Turn.event? at same
  split at same
  · next service result =>
    cases same
    exact ⟨result, rfl, rfl⟩
  · cases same

theorem Worker.filterMap_event? (turn : Worker.Turn) :
  [turn].filterMap Worker.Turn.event? = turn.event?.toList
  := by
  rw [List.filterMap_cons]
  cases turn.event? <;> rfl

/-- What a stack is in the middle of. -/
inductive Phase (τ σ : Type) where
  | idle (stack : Stack τ σ)
  /-- Services are being brought up. -/
  | busy (launch : Launch τ σ)

variable {τ σ : Type}

/-- The turns that some workers take, one after the other. -/
def Launch.trace (h : Host τ σ) : List String → Launch τ σ → List Worker.Turn
  | [], _ => []
  | name :: rest, l =>
    match l.step h name with
    | some l' => ⟨name, l.call? h name⟩ :: trace h rest l'
    | none => trace h rest l

namespace Phase

/-- The stack as it stands. -/
def stack : Phase τ σ → Stack τ σ
  | idle k => k
  | busy l => l.stack

/-- Changes the stack, but not what it is in the middle of. -/
def onStack (p : Phase τ σ) (f : Stack τ σ → Stack τ σ) : Phase τ σ :=
  match p with
  | idle k => .idle (f k)
  | busy l => .busy { l with stack := f l.stack }

@[simp]
theorem stack_onStack (p : Phase τ σ) (f : Stack τ σ → Stack τ σ) :
  (p.onStack f).stack = f p.stack
  := by cases p <;> rfl

/-- The event of a check of a service, if the supervisor starts it again. -/
def checkEvent? [Timeline τ] (h : Host τ σ) (p : Phase τ σ) (name : String) : Option Event :=
  if .start ∈ p.stack.checkCalls h name then some (.restarted name) else none

/-- What can happen next, with the event that it is.  A selection that is not accepted changes
nothing. -/
inductive Step [Timeline τ] (h : Host τ σ) : Phase τ σ → Option Event → Phase τ σ → Prop where
  /-- An accepted selection begins to be brought up. -/
  | begin {k l profiles services} (launched : k.launch profiles services = .ok l) :
    Step h (.idle k) (some (.chosen l.stack.order)) (.busy l)
  /-- A worker takes its next step, or gives up waiting. -/
  | turn {l l' name} (taken : l.step h name = some l' ∨ l.quit name = some l') :
    Step h (.busy l) (Worker.Turn.event? ⟨name, l.call? h name⟩) (.busy l')
  /-- The fault of a worker that has died is taken note of. -/
  | join {l} : Step h (.busy l) none (.busy l.join)
  /-- All workers have ended. -/
  | finish {l} (finished : l.isOver = true) : Step h (.busy l) none (.idle l.finish.2)
  | down {k} : Step h (.idle k) (some .down) (.idle (k.down h).2)
  /-- The stack is described. -/
  | ps {k} : Step h (.idle k) none (.idle (k.ps h).2)
  /-- The supervisor checks a service. -/
  | check {p} (name : String) : Step h p (p.checkEvent? h name) (p.onStack fun k => (k.check h name).2)
  /-- A stop is asked for. -/
  | stop {p} : Step h p none (p.onStack Stack.requestStop)
  /-- Services end and come back by themselves, and time passes. -/
  | pass {p} (world : σ) : Step h p none (p.onStack fun k => { k with world })

/-- What is known of the phases before and after an event. -/
def Tells [Timeline τ] (h : Host τ σ) (p p' : Phase τ σ) : Event → Prop
  | .chosen order => ∃ l, p' = .busy l ∧ l.stack.order = order
  | .started service result => ∃ l, p = .busy l ∧ l.call? h service = some (.start result)
  | .restarted service => .start ∈ p.stack.checkCalls h service
  | .down => ∃ k, p = .idle k ∧ p' = .idle (k.down h).2

theorem Step.tells [Timeline τ] {h : Host τ σ} {p p' : Phase τ σ} {event? : Option Event}
    {event : Event} (next : p.Step h event? p') (same : event? = some event) :
  Tells h p p' event
  := by
  cases next with
  | @begin k l =>
    cases same
    exact ⟨l, rfl, rfl⟩
  | @turn l =>
    obtain ⟨result, rfl, call⟩ := Worker.Turn.eq_of_event? same
    exact ⟨l, rfl, call⟩
  | @down k =>
    cases same
    exact ⟨k, rfl, rfl⟩
  | check name =>
    rw [checkEvent?] at same
    split at same
    · next starts =>
      cases same
      exact starts
    · cases same
  | _ => cases same

end Phase

/-- What can become of a stack from some phase on, with the events in between. -/
inductive Chronicle [Timeline τ] (h : Host τ σ) (p₀ : Phase τ σ) :
    List Event → Phase τ σ → Prop where
  | start : Chronicle h p₀ [] p₀
  | step {events p p' event} (chronicle : Chronicle h p₀ events p) (next : p.Step h event p') :
    Chronicle h p₀ (events ++ event.toList) p'

namespace Chronicle

variable [Timeline τ] {h : Host τ σ} {p₀ p : Phase τ σ} {events before after : List Event}
  {event : Event}

/-- A chronicle can be cut at every event. -/
theorem exists_step (chronicle : Chronicle h p₀ events p)
    (split : events = before ++ event :: after) :
  ∃ q q', Chronicle h p₀ before q ∧ q.Step h (some event) q' ∧ Chronicle h q' after p
  := by
  induction chronicle generalizing after with
  | start => simp at split
  | @step events p p' last chronicle next ih =>
    cases last with
    | none =>
      obtain ⟨q, q', first, here, rest⟩ := ih (by simpa using split)
      exact ⟨q, q', first, here, by simpa using rest.step next⟩
    | some last =>
      -- The last event is the one to cut at, or the cut lies further back.
      rcases after.eq_nil_or_concat with rfl | ⟨rest, final, rfl⟩
      · obtain ⟨rfl, ends⟩ := List.append_inj' split rfl
        cases ends
        exact ⟨p, p', chronicle, next, .start⟩
      · rw [List.concat_eq_append, ← List.cons_append, ← List.append_assoc] at split
        obtain ⟨same, ends⟩ := List.append_inj' split rfl
        cases ends
        obtain ⟨q, q', first, here, later⟩ := ih same
        exact ⟨q, q', first, here, by simpa using later.step next⟩

/-! ### Bringing services up -/

variable {l l' : Launch τ σ} {k : Stack τ σ} {trace : List Worker.Turn}

/-- A run of the workers is part of a chronicle. -/
theorem run (chronicle : Chronicle h p₀ events (.busy l))
    (run : l.Run h (fun _ _ => False) trace l') :
  Chronicle h p₀ (events ++ trace.filterMap Worker.Turn.event?) (.busy l')
  := by
  induction run with
  | start => simpa using chronicle
  | turn run taken ih =>
    have later := ih.step (.turn taken)
    rwa [List.append_assoc, ← Worker.filterMap_event?, ← List.filterMap_append] at later
  | join run ih => simpa using ih.step .join
  | other run change ih => exact change.elim

/-- Bringing a stack up is part of a chronicle. -/
theorem up (chronicle : Chronicle h p₀ events (.idle k)) (profiles services : List String) :
  ∃ rest, Chronicle h p₀ (events ++ rest) (.idle (k.up h profiles services).2)
  := by
  rw [Stack.up]
  cases launched : k.launch profiles services with
  | error fault => exact ⟨[], by simpa using chronicle⟩
  | ok l =>
    obtain ⟨active, waves, -, ok, rfl⟩ := Launch.exists_begin_of_launch launched
    have fresh : (Launch.begin k active waves).Fresh := Launch.fresh_begin ok
    have first : (Launch.begin k active waves).Run h (fun _ _ => False) [] _ := .start
    obtain ⟨trace, run⟩ := first.fair
    have finished := ((chronicle.step (.begin launched)).run run).step
      (.finish (Launch.isOver_run fresh))
    rw [Option.toList_none, List.append_nil, List.append_assoc] at finished
    exact ⟨_, finished⟩

/-- Any workers may take turns, one after the other. -/
theorem turns (chronicle : Chronicle h p₀ events (.busy l)) (names : List String) :
  Chronicle h p₀ (events ++ (l.trace h names).filterMap Worker.Turn.event?)
    (.busy (names.foldl (Launch.turn h false) l))
  := by
  induction names generalizing events l with
  | nil => simpa [Launch.trace] using chronicle
  | cons name rest ih =>
    rw [List.foldl_cons, Launch.trace]
    cases step : l.step h name with
    | none =>
      have stays : l.turn h false name = l := by simp [Launch.turn, step]
      rw [stays]
      apply ih chronicle
    | some l' =>
      have moves : l.turn h false name = l' := by simp [Launch.turn, step]
      rw [moves]
      have later := ih (chronicle.step (.turn (.inl step)))
      rwa [List.append_assoc, ← Worker.filterMap_event?, ← List.filterMap_append] at later

end Chronicle

/-! ### A stack of two services -/

namespace Sample

/-- A service that only takes part in a run with its own profile. -/
def apart (name : String) : Service where
  name
  restart := .onFailure
  profiles := [name]

/-- A stack of nothing but one such service. -/
def solo (name : String) : Descriptor where
  project := "pair"
  services := ⟨[(name, apart name)], by simp⟩
  named := by simp [apart]
  closed e mem d depends := by
    obtain rfl := List.mem_singleton.mp mem
    cases depends

/-- A stack of two services of which neither depends on the other. -/
def pair : Descriptor where
  project := "pair"
  services := ⟨[("blog", apart "blog"), ("shop", apart "shop")], by decide⟩
  named := by simp [apart]
  closed := by decide

/-- The stack of the two services on a bench. -/
def both : Stack Int Bench where
  descriptor := pair
  backoff := ⟨1, 30, 10⟩
  stopTimeout := 10
  world := ⟨0, fun _ => ⟨0, false, none⟩⟩

theorem startWaves_pair :
  pair.startWaves = .ok [["blog", "shop"]]
  := by
  have graph : pair.graph = [("blog", []), ("shop", [])] := rfl
  rw [Descriptor.startWaves_eq_ok_iff, graph]
  simp [StartOrder.split, StartOrder.free, StartOrder.nodes, StartOrder.remove]

theorem startWaves_solo (name : String) :
  (solo name).startWaves = .ok [[name]]
  := by
  have graph : (solo name).graph = [(name, [])] := rfl
  rw [Descriptor.startWaves_eq_ok_iff, graph]
  simp [StartOrder.split, StartOrder.free, StartOrder.nodes, StartOrder.remove]

theorem launch_pair {σ : Type} {k : Stack Int σ} (same : k.descriptor = pair) {name : String}
    (listed : name = "blog" ∨ name = "shop") :
  k.launch [name] [] = .ok (.begin k (solo name) [[name]])
  := by
  have accepted : k.plan [name] [] = .ok (solo name) := by
    rw [Launch.plan_eq_ok_iff, same]
    refine ⟨⟨_, startWaves_pair⟩, ?_⟩
    rcases listed with rfl | rfl <;> rfl
  simp [Stack.launch, accepted, startWaves_solo, Except.map]

end Sample

end Muster
