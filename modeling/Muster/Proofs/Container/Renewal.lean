import Mathlib.Data.List.Nodup
import Muster.Proofs.Container.Obliging
import Muster.Proofs.Table
/-!
# What a start makes of an engine

A start that the engine obliges ends well, whatever the engine had.  There is then one container
under the name of the service's container; it has been made from the declaration of the service,
nothing is left in it of what stood there before, and it runs on the network of the project.  The
image and the network are there, and everything else is as it was.  Another start makes the same of
the engine again.
-/

namespace Muster

namespace Table

variable {α : Type} {t : Table α} {key : String}

theorem write_write (key : String) (value value' : α) (es : List (String × α)) :
  write key value' (write key value es) = write key value' es
  := by
  induction es with
  | nil => simp [write]
  | cons e r ih =>
    simp only [write]
    split
    · next same => simp [write, same]
    · next other => simp [write, other, ih]

/-- What has been written is changed by writing again. -/
theorem modify_insert (t : Table α) (key : String) (value : α) (f : α → α) :
  (t.insert key value).modify key f = t.insert key (f value)
  := by
  rw [modify, get?_insert, if_pos rfl]
  exact eq_of_entries (write_write ..)

theorem erase_of_get?_eq_none (absent : t.get? key = none) :
  t.erase key = t
  := by
  apply eq_of_entries
  apply List.filter_eq_self.mpr
  intro e mem
  have found := get?_eq_some_iff.mpr mem
  suffices e.1 ≠ key by simpa using this
  rintro rfl
  cases absent.symm.trans found

end Table

/-- The address and the host port that a container port is published at.  An empty address stands
for every address. -/
def Binding.place : Binding → String × Option Int
  | .everywhere port => ("", port)
  | .address ip port => (ip, port)

/-- The place that a port is declared for. -/
def Port.place (port : Port) : String × Option Int :=
  (port.hostIp.getD "", port.host)

namespace Project

open Engine

variable {p : Project} {s : Service} {k : Stock} {calls : List EngineCall}
  {F : Fault → Engine → Prop} {environment : Table String}

/-! ### The calls of a start, and what they make of a stock -/

/-- The calls that make sure of the image of a service. -/
def callsForImage (s : Service) (k : Stock) : List EngineCall :=
  .findImage s.image :: if k.images.contains s.image then [] else [.pullImage s.image]

/-- The calls that remove a container that is left over. -/
def callsForRoom (p : Project) (s : Service) (k : Stock) : List EngineCall :=
  .findContainer (p.containerName s)
    :: if (k.containers.get? (p.containerName s)).isSome then
        [.removeContainer (p.containerName s) true]
      else []

/-- The calls that make sure of the network of a project. -/
def callsForNetwork (p : Project) (k : Stock) : List EngineCall :=
  .findNetwork p.networkName
    :: if k.networks.contains p.networkName then []
      else [.createNetwork p.networkName "bridge" (Table.ofList [(projectLabel, p.name)])]

/-- The calls that launch a container. -/
def callsForLaunch (p : Project) (s : Service) (environment : Table String) : List EngineCall :=
  [.createContainer (p.containerSpec s environment),
    .connectNetwork p.networkName (p.containerName s) [s.name],
    .startContainer (p.containerName s)]

/-- The calls of a start when none of them is refused. -/
def callsForStart (p : Project) (s : Service) (environment : Table String) (k : Stock) :
    List EngineCall :=
  callsForImage s k ++ p.callsForRoom s k ++ p.callsForNetwork k ++ p.callsForLaunch s environment

/-- The container of a service right after a start. -/
def freshContainer (p : Project) (s : Service) (environment : Table String) : Container where
  status := "running"
  spec := some (p.containerSpec s environment)
  networks := (∅ : Table (List String)).insert p.networkName [s.name]

/-- A stock with a fresh container of a service on the network of its project. -/
def equip (p : Project) (s : Service) (environment : Table String) (k : Stock) : Stock :=
  (k.withNetwork p.networkName).withContainers
    (k.containers.insert (p.containerName s) (p.freshContainer s environment))

/-- A stock with the image of a service and a fresh container in the place of what stood there. -/
def renew (p : Project) (s : Service) (environment : Table String) (k : Stock) : Stock :=
  p.equip s environment
    ((k.withImage s.image).withContainers (k.containers.erase (p.containerName s)))

/-! ### The parts of a start -/

theorem obliged_pull (s : Service) :
  Obliged (Stocked k calls) (pull s)
    (fun _ => Stocked (k.withImage s.image) (calls ++ [.pullImage s.image])) F
  := by
  apply obliged_bind (obliged_note_stocked _)
  intro _
  apply obliged_attempt (F := fun _ _ => False) (obliged_pullImage s.image)
  · exact fun _ => obliged_pure fun _ stocked => stocked
  · intro fault
    split
    · next same => cases same
    · split <;> exact obliged_throw fun _ => False.elim
    · exact obliged_throw fun _ => False.elim

theorem obliged_ensureImage (s : Service) :
  Obliged (Stocked k calls) (ensureImage s)
    (fun _ => Stocked (k.withImage s.image) (calls ++ callsForImage s k)) F
  := by
  apply obliged_attempt (obliged_look (.findImage s.image) (·.images.contains s.image)
    (.engine (.imageNotFound ("No such image: " ++ s.image))))
  · intro _
    apply obliged_pure
    rintro e ⟨present, stocked⟩
    simpa only [Stock.withImage, callsForImage, present, if_true] using stocked
  · intro fault
    split
    · next same => cases same
    · have pulled : Obliged (Stocked k (calls ++ [.findImage s.image])) _ _ F := obliged_pull s
      apply obliged_given pulled.adds
      rintro ⟨absent, -⟩
      simpa only [callsForImage, absent, Bool.false_eq_true, if_false, List.append_assoc,
        List.cons_append, List.nil_append] using pulled
    · next other same =>
      apply obliged_throw
      rintro e ⟨⟨-, rfl⟩, -⟩
      cases same
      cases other _ rfl

theorem obliged_clear (p : Project) (s : Service) :
  Obliged (Stocked k calls) (p.clear s)
    (fun _ => Stocked (k.withContainers (k.containers.erase (p.containerName s)))
      (calls ++ p.callsForRoom s k)) F
  := by
  apply obliged_bind (p.obliged_container? s)
  rintro (_ | c)
  · apply obliged_pure
    rintro e ⟨absent, stocked⟩
    rw [callsForRoom, Table.erase_of_get?_eq_none absent.symm, ← absent]
    exact stocked
  · have removed : Obliged (Stocked k (calls ++ [.findContainer (p.containerName s)])) _ _ F :=
      obliged_bind (obliged_note_stocked (.about .info "container_replacing" s.name
        [("container", .str (p.containerName s))]))
        fun _ => obliged_containers (.removeContainer (p.containerName s) true)
          (·.erase (p.containerName s))
    apply obliged_given removed.adds
    intro present
    rw [callsForRoom, ← present]
    simpa using removed

theorem obliged_ensureNetwork (p : Project) :
  Obliged (Stocked k calls) p.ensureNetwork
    (fun _ => Stocked (k.withNetwork p.networkName) (calls ++ p.callsForNetwork k)) F
  := by
  apply obliged_attempt (obliged_look (.findNetwork p.networkName)
    (·.networks.contains p.networkName)
    (.engine (.notFound ("No such network: " ++ p.networkName))))
  · intro _
    apply obliged_pure
    rintro e ⟨present, stocked⟩
    simpa only [Stock.withNetwork, callsForNetwork, present, if_true] using stocked
  · intro fault
    split
    · next same => cases same
    · next cause same =>
      split
      · have created : Obliged (Stocked k (calls ++ [.findNetwork p.networkName])) _ _ F :=
          obliged_bind
            (obliged_note_stocked ⟨.info, "network_creating", [("network", .str p.networkName)]⟩)
            fun _ => obliged_createNetwork p.networkName "bridge"
              (Table.ofList [(projectLabel, p.name)])
        apply obliged_given created.adds
        rintro ⟨absent, -⟩
        simpa only [callsForNetwork, absent, Bool.false_eq_true, if_false, List.append_assoc,
          List.cons_append, List.nil_append] using created
      · next other =>
        apply obliged_throw
        rintro e ⟨⟨-, rfl⟩, -⟩
        cases same
        exact absurd rfl other
    · next other same =>
      apply obliged_throw
      rintro e ⟨⟨-, rfl⟩, -⟩
      cases same
      cases other _ rfl

/-- A call that changes a container. -/
theorem obliged_modify_container (c : EngineCall) (containers : Table Container) (name : String)
    (container : Container) (f : Container → Container) :
  Obliged (Stocked (k.withContainers (containers.insert name container)) calls)
    (do call c; modify fun e => { e with containers := e.containers.modify name f } : Errand PUnit)
    (fun _ => Stocked (k.withContainers (containers.insert name (f container))) (calls ++ [c])) F
  := by
  have changed : Obliged (Stocked (k.withContainers (containers.insert name container)) calls) _ _ F :=
    obliged_containers c (·.modify name f)
  rwa [Stock.withContainers, Table.modify_insert] at changed

theorem obliged_launch (p : Project) (s : Service) (environment : Table String) :
  Obliged (Stocked k calls) (p.launch s (p.containerSpec s environment))
    (fun _ => Stocked (p.equip s environment k)
      (calls ++ p.callsForNetwork k ++ p.callsForLaunch s environment)) F
  := by
  apply obliged_bind p.obliged_ensureNetwork
  intro _
  apply obliged_bind (obliged_containers (.createContainer (p.containerSpec s environment))
    (·.insert (p.containerName s) ⟨"created", [], some (p.containerSpec s environment), ∅⟩))
  intro _
  apply obliged_bind (obliged_modify_container
    (.connectNetwork p.networkName (p.containerName s) [s.name]) _ _ _
    fun c => { c with networks := c.networks.insert p.networkName [s.name] })
  intro _
  apply (obliged_modify_container (.startContainer (p.containerName s)) _ _ _
    fun c => { c with status := "running" }).weaken _ fun _ _ => id
  intro _ e stocked
  simpa [equip, freshContainer, callsForLaunch] using stocked

theorem obliged_settle (p : Project) (s : Service) (environment : Table String) :
  Obliged (Stocked k calls) (p.settle s environment)
    (fun _ => Stocked (p.equip s environment k)
      (calls ++ p.callsForNetwork k ++ p.callsForLaunch s environment)) F
  := by
  apply obliged_attempt (F := fun _ _ => False) (p.obliged_launch s environment)
  · exact fun _ => obliged_note_stocked _
  · intro fault
    split
    · next same => cases same
    · split <;> exact obliged_throw fun _ => False.elim
    · exact obliged_throw fun _ => False.elim

/-- A start ends well and makes its calls in order, and what the engine had is renewed. -/
theorem obliged_start (image : s.image ≠ "") (merged : p.environment s = .ok environment) :
  Obliged (Stocked k calls) (p.start s)
    (fun _ => Stocked (p.renew s environment k) (calls ++ p.callsForStart s environment k)) F
  := by
  rw [start, if_neg image, merged]
  apply obliged_bind (obliged_ensureImage s)
  intro _
  apply obliged_bind (p.obliged_clear s)
  intro _
  apply (p.obliged_settle s environment).weaken _ fun _ _ => id
  intro _ e stocked
  simpa [renew, callsForStart, callsForRoom, callsForNetwork] using stocked

/-! ### What the engine has after a start -/

/-- A port is published at the place that it is declared for. -/
theorem place_binding (port : Port) :
  (binding port).place = port.place
  := by
  obtain ⟨_, _, _ | ip, _⟩ := port
  · rfl
  · rw [binding]
    by_cases empty : ip = ""
    · simp [empty, Binding.place, Port.place]
    · simp [empty, Binding.place, Port.place]

/-- What a container is made of, as a service declares it.  In the environment the service's own
variables count more than its files and later files more than earlier ones, and the host has no layer
of its own.  A container port is published at the host address and host port that are declared for it;
of several ports with one container port and protocol the last counts.  The labels of the project and
the service count more than those that are declared. -/
structure MadeFrom (p : Project) (s : Service) (spec : ContainerSpec) : Prop where
  name : spec.name = p.containerName s
  image : spec.image = s.image
  command : spec.command = s.command
  entrypoint : spec.entrypoint = s.entrypoint
  environment : ∀ name, spec.environment.get? name = (s.environment.get? name).or
    (s.envFiles.reverse.findSome? fun path =>
      (Environment.layer p.files p.environ (Path.join p.base path)).get? name)
  ports : ∀ name, (spec.ports.get? name).map Binding.place = (s.ports.reverse.find? fun port =>
    toString port.container ++ "/" ++ port.protocol = name).map Port.place
  workingDir : spec.workingDir = s.workingDir
  labels : ∀ name, spec.labels.get? name =
    if name = serviceLabel then some s.name
    else if name = projectLabel then some p.name
    else s.labels.get? name

/-- When no environment file is missing the environment of a container is put together. -/
theorem exists_environment
    (files : ∀ path ∈ s.envFiles, p.files.exists (Path.join p.base path) = true) :
  ∃ environment, p.environment s = .ok environment ∧ p.MadeFrom s (p.containerSpec s environment)
  := by
  refine ⟨_, by rw [Project.environment, Environment.merge_eq, Environment.missing?_eq_none files],
    rfl, rfl, rfl, rfl, fun name => ?_, fun name => ?_, rfl, fun name => ?_⟩
  · have nothing : (∅ : Table String).get? name = none := rfl
    cases own : s.environment.get? name <;>
      simp [containerSpec, Environment.get?_overlay, List.findSome?_append,
        List.findSome?_map, Function.comp_def, ← List.map_reverse, nothing, own]
  · simp [containerSpec, bindings, Table.get?_ofList_map, Function.comp_def, place_binding]
  · simp [containerSpec]

/-- A start that the engine obliges makes its calls and ends well, and what the engine had is
renewed. -/
theorem run_start {e : Engine} {environment : Table String} (image : s.image ≠ "")
    (merged : p.environment s = .ok environment) (obliges : e.Obliges (p.start s)) :
  ∃ e', (p.start s).run e = (.ok (), e')
    ∧ madeBy (p.start s) e = p.callsForStart s environment e.stock
    ∧ e'.stock = p.renew s environment e.stock
  := by
  have ended := (obliged_start (F := fun _ _ => False) image merged).brings e
    ⟨⟨rfl, rfl⟩, obliges⟩
  rw [madeBy]
  generalize (p.start s).run e = run at ended
  obtain ⟨fault | _, e'⟩ := run
  · exact ended.elim
  · refine ⟨e', rfl, ?_, ended.stock⟩
    rw [ended.calls, List.drop_left]

end Project

/-! ### A container that is left over -/

namespace Sample

/-- An engine without the image of the proxy and without a network of the project, where a container
of the proxy is left over and a database runs. -/
def cluttered : Engine where
  images := ["postgres"]
  networks := ["bridge"]
  containers := Table.ofList
    [("demo-proxy-1", { status := "exited" }), ("db", { status := "running" })]

theorem obliges_cluttered {α : Type} {t : Engine.Errand α} :
  cluttered.Obliges t
  := ⟨rfl, fun _ _ => rfl⟩

end Sample

end Muster
