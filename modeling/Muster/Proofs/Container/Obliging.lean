import Muster.Proofs.Container.Leftover
/-!
# Engines that oblige

An engine obliges an errand when it is in reach and refuses none of the calls that the errand makes.
Which calls these are depends on the errand and on what the engine has; of a kind of call that is not
made nothing is asked.

There is a rule for each way to put errands together.  Whether the rest of an errand is obliged can
only be told once it is known that the rest adds to the calls made before it, and so each rule says
this as well.
-/

namespace Muster

/-- What an engine has. -/
structure Stock where
  images : List String
  networks : List String
  containers : Table Container

namespace Stock

/-- A stock with an image, which comes last if it is new. -/
def withImage (k : Stock) (name : String) : Stock :=
  if k.images.contains name then k else { k with images := k.images ++ [name] }

/-- A stock with a network, which comes last if it is new. -/
def withNetwork (k : Stock) (name : String) : Stock :=
  if k.networks.contains name then k else { k with networks := k.networks ++ [name] }

/-- A stock with other containers. -/
def withContainers (k : Stock) (containers : Table Container) : Stock :=
  { k with containers }

variable (k : Stock) (name : String) (containers : Table Container)

@[simp]
theorem containers_withImage :
  (k.withImage name).containers = k.containers
  := by
  unfold withImage
  split <;> rfl

@[simp]
theorem networks_withImage :
  (k.withImage name).networks = k.networks
  := by
  unfold withImage
  split <;> rfl

@[simp]
theorem mem_images_withImage {image : String} :
  image ∈ (k.withImage name).images ↔ image ∈ k.images ∨ image = name
  := by
  unfold withImage
  split
  · next present => simpa using fun same : image = name => same ▸ List.contains_iff_mem.mp present
  · simp

@[simp]
theorem containers_withNetwork :
  (k.withNetwork name).containers = k.containers
  := by
  unfold withNetwork
  split <;> rfl

@[simp]
theorem images_withNetwork :
  (k.withNetwork name).images = k.images
  := by
  unfold withNetwork
  split <;> rfl

@[simp]
theorem mem_networks_withNetwork {network : String} :
  network ∈ (k.withNetwork name).networks ↔ network ∈ k.networks ∨ network = name
  := by
  unfold withNetwork
  split
  · next present => simpa using fun same : network = name => same ▸ List.contains_iff_mem.mp present
  · simp

@[simp]
theorem images_withContainers :
  (k.withContainers containers).images = k.images
  := rfl

@[simp]
theorem networks_withContainers :
  (k.withContainers containers).networks = k.networks
  := rfl

@[simp]
theorem withContainers_withContainers (containers' : Table Container) :
  (k.withContainers containers).withContainers containers' = k.withContainers containers'
  := rfl

end Stock

namespace Engine

variable {α β : Type} {P : Engine → Prop} {Q : α → Engine → Prop} {R : β → Engine → Prop}
  {F G : Fault → Engine → Prop} {t : Errand α} {e e' : Engine} {made : List EngineCall}

/-- What an engine has, apart from its calls, its log and what decides how a call ends. -/
def stock (e : Engine) : Stock where
  images := e.images
  networks := e.networks
  containers := e.containers

/-- The calls that an errand makes. -/
def madeBy (t : Errand α) (e : Engine) : List EngineCall :=
  (t.run e).2.calls.drop e.calls.length

/-- An engine that is in reach and refuses none of the calls that an errand makes. -/
structure Obliges (e : Engine) (t : Errand α) : Prop where
  inReach : e.unavailable = none
  granted : ∀ c ∈ madeBy t e, e.faults.lookup c.action = none

theorem madeBy_of_after (after : After e made (t.run e).2) :
  madeBy t e = made
  := by
  rw [madeBy, after.calls, List.drop_left]

/-! ### Errands that add to the calls -/

/-- An errand that adds to the calls made before it and changes nothing that decides how a call
ends. -/
def Adds (t : Errand α) : Prop :=
  ∀ e, ∃ made, After e made (t.run e).2

theorem adds_bind {f : α → Errand β} (first : Adds t) (next : ∀ a, Adds (f a)) :
  Adds (t >>= f)
  := by
  intro e
  obtain ⟨made, after⟩ := first e
  rw [run_bind]
  generalize t.run e = ended at after
  obtain ⟨fault | a, e'⟩ := ended
  · exact ⟨made, after⟩
  · obtain ⟨more, after'⟩ := next a e'
    exact ⟨made ++ more, after.trans after'⟩

theorem adds_call (c : EngineCall) :
  Adds (call c)
  := by
  intro e
  rw [run_call]
  cases e.unavailable with
  | some reason => exact ⟨[], .refl e⟩
  | none => cases e.faults.lookup c.action <;> exact ⟨[c], .record e c⟩

/-- An engine that obliges two errands, one after the other, obliges the first, and once that is done
it obliges the second. -/
theorem Obliges.apart {f : α → Errand β} (first : Adds t) (next : ∀ a, Adds (f a))
    (obliges : e.Obliges (t >>= f)) :
  e.Obliges t ∧ ∀ a e', t.run e = (.ok a, e') → e'.Obliges (f a)
  := by
  obtain ⟨made, after⟩ := first e
  have here := madeBy_of_after after
  constructor
  · refine ⟨obliges.inReach, fun c mem => obliges.granted c ?_⟩
    obtain ⟨all, whole⟩ := adds_bind first next e
    rw [madeBy_of_after whole]
    rw [here] at mem
    rw [run_bind] at whole
    generalize t.run e = ended at after whole
    obtain ⟨fault | a, e'⟩ := ended
    · rwa [List.append_cancel_left (whole.calls.symm.trans after.calls)]
    · obtain ⟨more, after'⟩ := next a e'
      have same := whole.calls.symm.trans (after.trans after').calls
      rw [List.append_cancel_left same]
      exact List.mem_append_left more mem
  · intro a e' ended
    rw [ended] at after
    obtain ⟨more, after'⟩ := next a e'
    constructor
    · rw [after.unavailable]
      exact obliges.inReach
    · intro c mem
      rw [madeBy_of_after after'] at mem
      rw [after.faults]
      apply obliges.granted
      have whole : After e (made ++ more) ((t >>= f).run e).2 := by
        rw [run_bind_of_ok ended]
        exact after.trans after'
      rw [madeBy_of_after whole]
      exact List.mem_append_right made mem

/-! ### What an obliging engine makes of an errand -/

/-- What holds after an errand with an engine that obliges it, given what holds before. -/
structure Obliged (P : Engine → Prop) (t : Errand α) (Q : α → Engine → Prop)
    (F : Fault → Engine → Prop) : Prop where
  adds : Adds t
  brings : Brings (fun e => P e ∧ e.Obliges t) t Q F

theorem Obliged.weaken {Q' : α → Engine → Prop} (obliged : Obliged P t Q F)
    (ok : ∀ a e, Q a e → Q' a e) (failed : ∀ fault e, F fault e → G fault e) :
  Obliged P t Q' G
  where
  adds := obliged.adds
  brings := obliged.brings.weaken ok failed

theorem Obliged.narrow {P' : Engine → Prop} (less : ∀ e, P' e → P e) (obliged : Obliged P t Q F) :
  Obliged P' t Q F
  where
  adds := obliged.adds
  brings := obliged.brings.narrow fun e before => ⟨less e before.1, before.2⟩

theorem obliged_pure {a : α} (holds : ∀ e, P e → Q a e) :
  Obliged P (pure a) Q F
  where
  adds e := ⟨[], .refl e⟩
  brings := brings_pure fun e before => holds e before.1

theorem obliged_throw {fault : Fault} (holds : ∀ e, P e → F fault e) :
  Obliged P (throw fault : Errand α) Q F
  where
  adds e := ⟨[], .refl e⟩
  brings := brings_throw fun e before => holds e before.1

theorem obliged_lift {result : Except Fault α} (ok : ∀ a, result = .ok a → ∀ e, P e → Q a e)
    (failed : ∀ fault, result = .error fault → ∀ e, P e → F fault e) :
  Obliged P (liftM result : Errand α) Q F
  := by
  cases result with
  | ok a => exact obliged_pure (ok a rfl)
  | error fault => exact obliged_throw (failed fault rfl)

/-- A change of nothing that decides how a call ends. -/
theorem obliged_modify {f : Engine → Engine} {Q : PUnit → Engine → Prop}
    (after : ∀ e, After e [] (f e)) (holds : ∀ e, P e → Q ⟨⟩ (f e)) :
  Obliged P (modify f : Errand PUnit) Q F
  where
  adds e := ⟨[], after e⟩
  brings := brings_modify fun e before => holds e before.1

theorem obliged_note (entry : LogEntry) (holds : ∀ e log, P e → P { e with log }) :
  Obliged P (note entry) (fun _ => P) F
  := obliged_modify (fun _ => .of_silent rfl rfl rfl rfl) fun e => holds e _

/-- A call that is not refused. -/
theorem obliged_call {c : EngineCall} {Q : Unit → Engine → Prop}
    (holds : ∀ e, P e → Q () (e.record c)) :
  Obliged P (call c) Q F
  where
  adds := adds_call c
  brings := by
    rintro e ⟨before, obliges⟩
    have granted := obliges.granted
    rw [madeBy, run_call, obliges.inReach] at granted
    rw [run_call, obliges.inReach]
    cases found : e.faults.lookup c.action with
    | none => exact holds e before
    | some fault =>
      -- The call would be among those made, and none of these is refused.
      rw [found] at granted
      have mem : c ∈ (e.record c).calls.drop e.calls.length := by
        rw [record, List.drop_left]
        exact List.mem_singleton_self c
      cases found.symm.trans (granted c mem)

theorem obliged_bind {f : α → Errand β} (first : Obliged P t Q F)
    (next : ∀ a, Obliged (Q a) (f a) R F) :
  Obliged P (t >>= f) R F
  where
  adds := adds_bind first.adds fun a => (next a).adds
  brings := by
    rintro e ⟨before, obliges⟩
    obtain ⟨obliges, obliges'⟩ := obliges.apart first.adds fun a => (next a).adds
    have between := first.brings e ⟨before, obliges⟩
    rw [run_bind]
    generalize t.run e = ended at between obliges'
    obtain ⟨fault | a, e'⟩ := ended
    · exact between
    · exact (next a).brings e' ⟨between, obliges' a e' rfl⟩

/-- An errand that looks at the engine. -/
theorem obliged_get {f : Engine → Errand β}
    (next : ∀ now, Obliged (fun e => P e ∧ e = now) (f now) R F) :
  Obliged P (do f (← get)) R F
  := by
  apply obliged_bind (Q := fun now e => P e ∧ e = now) _ next
  constructor
  · exact fun e => ⟨[], .refl e⟩
  · exact fun e before => ⟨before.1, rfl⟩

/-- An errand whose fault is dealt with. -/
theorem obliged_attempt {f : Except Fault α → Errand β} (first : Obliged P t Q F)
    (ok : ∀ a, Obliged (Q a) (f (.ok a)) R G)
    (failed : ∀ fault, Obliged (F fault) (f (.error fault)) R G) :
  Obliged P (do f (← attempt t)) R G
  := by
  apply obliged_bind (Q := fun result e =>
    (∀ a, result = .ok a → Q a e) ∧ ∀ fault, result = .error fault → F fault e)
  · constructor
    · exact first.adds
    · rintro e ⟨before, obliges⟩
      have after := first.brings e ⟨before, obliges.inReach, obliges.granted⟩
      rw [run_attempt]
      generalize t.run e = ended at after
      obtain ⟨fault | a, e'⟩ := ended
      · exact ⟨nofun, by rintro _ ⟨⟩; exact after⟩
      · exact ⟨by rintro _ ⟨⟩; exact after, nofun⟩
  · rintro (fault | a)
    · exact (failed fault).narrow fun e after => after.2 fault rfl
    · exact (ok a).narrow fun e after => after.1 a rfl

/-- What is known without the engine may be used. -/
theorem obliged_given {known : Prop} (adds : Adds t) (obliged : known → Obliged P t Q F) :
  Obliged (fun e => known ∧ P e) t Q F
  where
  adds := adds
  brings := by
    rintro e ⟨⟨given, before⟩, obliges⟩
    exact (obliged given).brings e ⟨before, obliges⟩

/-! ### What calls make of a stock -/

/-- An engine with a stock and all the calls that have been made to it. -/
structure Stocked (k : Stock) (calls : List EngineCall) (e : Engine) : Prop where
  stock : e.stock = k
  calls : e.calls = calls

variable {k : Stock} {calls : List EngineCall}

theorem obliged_note_stocked (entry : LogEntry) :
  Obliged (Stocked k calls) (note entry) (fun _ => Stocked k calls) F
  := obliged_note entry fun _ _ stocked => ⟨stocked.stock, stocked.calls⟩

theorem obliged_call_stocked (c : EngineCall) :
  Obliged (Stocked k calls) (call c) (fun _ => Stocked k (calls ++ [c])) F
  := obliged_call fun e stocked => ⟨stocked.stock, by rw [record, stocked.calls]⟩

/-- A call with an effect. -/
theorem obliged_change (c : EngineCall) {f : Engine → Engine} (g : Stock → Stock)
    (after : ∀ e, After e [] (f e)) (does : ∀ e, (f e).stock = g e.stock) :
  Obliged (Stocked k calls) (do call c; modify f : Errand PUnit)
    (fun _ => Stocked (g k) (calls ++ [c])) F
  := by
  apply obliged_bind (obliged_call_stocked c)
  intro _
  apply obliged_modify after
  intro e stocked
  constructor
  · rw [does, stocked.stock]
  · rw [(after e).calls, stocked.calls, List.append_nil]

/-- A call with an effect on the containers. -/
theorem obliged_containers (c : EngineCall) (f : Table Container → Table Container) :
  Obliged (Stocked k calls)
    (do call c; modify fun e => { e with containers := f e.containers } : Errand PUnit)
    (fun _ => Stocked (k.withContainers (f k.containers)) (calls ++ [c])) F
  := obliged_change c (fun k => k.withContainers (f k.containers))
    (fun _ => .of_silent rfl rfl rfl rfl) fun _ => rfl

theorem obliged_pullImage (name : String) :
  Obliged (Stocked k calls) (pullImage name)
    (fun _ => Stocked (k.withImage name) (calls ++ [.pullImage name])) F
  := by
  apply obliged_change (.pullImage name) (·.withImage name)
  · intro e
    split
    · exact .refl e
    · exact .of_silent rfl rfl rfl rfl
  · intro e
    by_cases present : name ∈ e.images <;> simp [stock, Stock.withImage, present]

theorem obliged_createNetwork (name driver : String) (labels : Table String) :
  Obliged (Stocked k calls) (createNetwork name driver labels)
    (fun _ => Stocked (k.withNetwork name) (calls ++ [.createNetwork name driver labels])) F
  := by
  apply obliged_change (.createNetwork name driver labels) (·.withNetwork name)
  · intro e
    split
    · exact .refl e
    · exact .of_silent rfl rfl rfl rfl
  · intro e
    by_cases present : name ∈ e.networks <;> simp [stock, Stock.withNetwork, present]

/-- A call that looks whether there is something. -/
theorem obliged_look (c : EngineCall) (there : Stock → Bool) (fault : Fault) :
  Obliged (Stocked k calls) (do call c; if !there (← get).stock then throw fault : Errand Unit)
    (fun _ e => there k = true ∧ Stocked k (calls ++ [c]) e)
    (fun fault' e => (there k = false ∧ fault' = fault) ∧ Stocked k (calls ++ [c]) e)
  := by
  apply obliged_bind (obliged_call_stocked c)
  intro _
  apply obliged_get
  intro now
  split
  · next absent =>
    apply obliged_throw
    rintro e ⟨stocked, rfl⟩
    rw [stocked.stock] at absent
    exact ⟨⟨by simpa using absent, rfl⟩, stocked⟩
  · next present =>
    apply obliged_pure
    rintro e ⟨stocked, rfl⟩
    rw [stocked.stock] at present
    exact ⟨by simpa using present, stocked⟩

theorem obliged_findContainer (name : String) :
  Obliged (Stocked k calls) (findContainer name)
    (fun c e => k.containers.get? name = some c ∧ Stocked k (calls ++ [.findContainer name]) e)
    (fun fault e => (k.containers.get? name = none
        ∧ fault = .engine (.notFound ("No such container: " ++ name)))
      ∧ Stocked k (calls ++ [.findContainer name]) e)
  := by
  apply obliged_bind (obliged_call_stocked (.findContainer name))
  intro _
  apply obliged_get
  intro now
  have containers (stocked : Stocked k (calls ++ [.findContainer name]) now) :
      now.containers = k.containers := by rw [← stocked.stock, stock]
  split
  · next c found =>
    apply obliged_pure
    rintro e ⟨stocked, rfl⟩
    exact ⟨containers stocked ▸ found, stocked⟩
  · next absent =>
    apply obliged_throw
    rintro e ⟨stocked, rfl⟩
    exact ⟨⟨containers stocked ▸ absent, rfl⟩, stocked⟩

end Engine

namespace Project

open Engine

variable {k : Stock} {calls : List EngineCall} {F : Fault → Engine → Prop}

/-- What stands under the name of a service's container is found. -/
theorem obliged_container? (p : Project) (s : Service) :
  Obliged (Stocked k calls) (p.container? s)
    (fun found e => found = k.containers.get? (p.containerName s)
      ∧ Stocked k (calls ++ [.findContainer (p.containerName s)]) e) F
  := by
  apply obliged_attempt (obliged_findContainer (p.containerName s))
  · intro c
    apply obliged_pure
    rintro e ⟨found, stocked⟩
    exact ⟨found.symm, stocked⟩
  · intro fault
    split
    · next same => cases same
    · next cause same =>
      split
      · apply obliged_pure
        rintro e ⟨⟨absent, -⟩, stocked⟩
        exact ⟨absent.symm, stocked⟩
      · next other =>
        apply obliged_throw
        rintro e ⟨⟨-, rfl⟩, -⟩
        cases same
        exact absurd rfl other
    · next other same =>
      apply obliged_throw
      rintro e ⟨⟨-, rfl⟩, -⟩
      cases same
      cases other _ rfl

end Project

end Muster
