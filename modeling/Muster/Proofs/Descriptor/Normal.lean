import Muster.Launcher.Report
import Muster.Proofs.Descriptor.Lasting
/-!
# Normal forms of descriptors

The normal form of a descriptor is again a document.  It is read back as the descriptor, whatever
the project and the variables are, exactly when each of its services lasts and the name of its
project refuses no variables.
-/

namespace Muster

open Value Interpolation

variable {context : Table String}

/-! ### Tables in another order -/

namespace Table

variable {α β : Type}

/-- The entries of a table in a given order of its keys. -/
def arranged (t : Table α) (order : List String) : List (String × α) :=
  order.filterMap fun name => (t.get? name).map (name, ·)

theorem mem_arranged_iff {t : Table α} {order : List String} {e : String × α} :
  e ∈ t.arranged order ↔ e.1 ∈ order ∧ e ∈ t.entries
  := by
  rw [arranged, List.mem_filterMap]
  constructor
  · rintro ⟨name, mem, found⟩
    obtain ⟨value, known, rfl⟩ := Option.map_eq_some_iff.mp found
    exact ⟨mem, get?_eq_some_iff.mp known⟩
  · rintro ⟨mem, entry⟩
    exact ⟨e.1, mem, Option.map_eq_some_iff.mpr ⟨e.2, get?_eq_some_iff.mpr entry, rfl⟩⟩

theorem arranged_map (f : α → β) (t : Table α) (order : List String) :
  (t.map f).arranged order = (t.arranged order).map fun e => (e.1, f e.2)
  := by
  rw [arranged, arranged, List.map_filterMap]
  congr 1
  funext name
  rw [get?_map, Option.map_map, Option.map_map]
  rfl

theorem keys_arranged {t : Table α} {order : List String}
    (known : ∀ name ∈ order, name ∈ t.keys) :
  (t.arranged order).map Prod.fst = order
  := by
  induction order with
  | nil => rfl
  | cons name r ih =>
    obtain ⟨first, others⟩ := List.forall_mem_cons.mp known
    obtain ⟨value, found⟩ := Option.isSome_iff_exists.mp (contains_iff.mpr first)
    rw [arranged, List.filterMap_cons, found]
    exact congrArg (name :: ·) (ih others)

theorem entries_ofList_arranged {t : Table α} {order : List String} (perm : order.Perm t.keys) :
  (ofList (t.arranged order)).entries = t.arranged order
  := by
  apply entries_ofList
  rw [keys_arranged fun _ => perm.mem_iff.mp]
  exact perm.nodup_iff.mpr t.nodup

/-- A table is the same in every order of its keys. -/
theorem get?_ofList_arranged {t : Table α} {order : List String} (perm : order.Perm t.keys)
    (key : String) :
  (ofList (t.arranged order)).get? key = t.get? key
  := by
  apply Option.ext
  intro value
  rw [get?_eq_some_iff, get?_eq_some_iff, entries_ofList_arranged perm, mem_arranged_iff]
  constructor
  · exact And.right
  · exact fun mem => ⟨perm.mem_iff.mpr (List.mem_map_of_mem mem), mem⟩

end Table

/-! ### Documents -/

namespace Descriptor

variable {d back : Descriptor} {order : List String}

/-- Whether two descriptors have the same services. -/
def Same (d back : Descriptor) : Prop :=
  ∀ name, Option.Rel Service.Same (d.services.get? name) (back.services.get? name)

/-- The services of a normal form. -/
def normalServices (d : Descriptor) (order : List String) : List (String × Value) :=
  (d.services.arranged order).map fun e => (e.1, e.2.normal)

theorem normal_eq (d : Descriptor) (order : List String) :
  d.normal order = .map [(.str "name", .str d.project),
    (.str "services", .map ((d.normalServices order).map keyed))]
  := by
  have services : (d.normalServices order).map keyed = order.filterMap fun name =>
      (d.services.get? name).map fun s => (Value.str name, s.normal) := by
    rw [normalServices, Table.arranged, List.map_map, List.map_filterMap]
    congr 1
    funext name
    cases d.services.get? name <;> rfl
  rw [services]
  rfl

/-- Whatever the services are, no more than five lists and mappings of a normal form are nested in
one another. -/
theorem not_isNested_normal (d : Descriptor) (order : List String) :
  ¬ IsNested 5 (d.normal order)
  := by
  have services : ¬ IsNested 4 (.map ((d.normalServices order).map keyed)) := by
    apply not_isNested_keyed
    intro e mem
    obtain ⟨e', -, rfl⟩ := List.mem_map.mp mem
    exact e'.2.not_isNested_normal
  rw [normal_eq]
  rintro ⟨e, mem, nested⟩
  simp only [List.mem_cons, List.not_mem_nil, or_false] at mem
  rcases mem with rfl | rfl <;> rcases nested with key | value
  · exact key
  · exact value
  · exact key
  · exact services value

theorem writable_normalServices (d : Descriptor) :
  ∀ e ∈ (d.normalServices order).map keyed, Writable (writtenEntry e)
  := by
  intro e among
  obtain ⟨e, mem, rfl⟩ := List.mem_map.mp among
  obtain ⟨e, -, rfl⟩ := List.mem_map.mp mem
  exact e.2.writable_normal e.1

/-! ### What is read back lasts -/

/-- What is read from a normal form: the name of its project has turned into something, and each of
its services is read from what its normal form has become. -/
theorem exists_of_read_normal {project : String} {unset : List String}
    (ok : read project context (d.normal order) = .ok (back, unset)) :
  (∃ name, Turns context d.project name) ∧ ∃ fs each, back.services = .ofList each
    ∧ List.Forall₂ (fun e f => Turns context e.1 f.1 ∧ Becomes context e.2 f.2)
      (d.normalServices order) fs
    ∧ List.Forall₂ (fun f r => r.1 = f.1 ∧ readService f.1 f.2 = .ok r.2)
      (Table.ofList fs).entries each
  := by
  obtain ⟨-, w, expanded, -, made⟩ := read_eq_ok_iff.mp ok
  have becomes : Becomes context (.map ([("name", str d.project),
      ("services", map ((d.normalServices order).map keyed))].map keyed)) w :=
    ⟨unset, by rw [← expanded, normal_eq]; rfl⟩
  have inert : ∀ key ∈ ["name", "services"], '$' ∉ key.toList := by decide
  obtain ⟨entries, rfl, kept⟩ := becomes.of_inert_keys (by simp) fun e mem =>
    inert_of_not_mem (inert e.1 (List.mem_map_of_mem mem))
  simp only [List.forall₂_cons_left_iff, List.forall₂_nil_left_iff] at kept
  obtain ⟨⟨_, v⟩, _, ⟨rfl, name⟩, ⟨⟨_, w⟩, _, ⟨rfl, services⟩, rfl, rfl⟩, rfl⟩ := kept
  obtain ⟨t, -, turns⟩ := name.of_str
  obtain ⟨fs, rfl, turned⟩ := services.of_keyed
  obtain ⟨table, read, made⟩ := (ofDocument_eq_ok_iff rfl).mp made
  obtain ⟨each, rfl, one⟩ := readServices_eq_ok_iff.mp read
  rw [List.forall₂_map_left_iff] at one
  exact ⟨⟨t, turns⟩, fs, each, services_of_make made, turned, one⟩

/-- Where the same services have been read, each of them has been read from an entry under its own
name. -/
theorem Same.exists_read {fs : List (String × Value)} {each : List (String × Service)}
    (same : d.Same back) (services : back.services = .ofList each)
    (one : List.Forall₂ (fun f r => r.1 = f.1 ∧ readService f.1 f.2 = .ok r.2)
      (Table.ofList fs).entries each)
    {name : String} {s : Service} (found : d.services.get? name = some s) :
  ∃ b w, s.Same b ∧ (Table.ofList fs).get? name = some w ∧ readService name w = .ok b
  := by
  have related := same name
  rw [found] at related
  cases back : back.services.get? name with
  | none =>
    rw [back] at related
    cases related
  | some b =>
    rw [back] at related
    rw [services, Table.get?_eq_some_iff] at back
    obtain ⟨f, mem, own, read⟩ := exists_of_forall₂ one.flip (Table.mem_of_mem_ofList back)
    cases own
    exact ⟨b, f.2, Option.rel_some_some.mp related, Table.get?_eq_some_iff.mpr mem, read⟩

/-- A descriptor whose normal form is read back where no variable is set has services that last. -/
theorem lasting_of_read_normal {project : String} {unset : List String}
    (perm : order.Perm d.names) (ok : read project ∅ (d.normal order) = .ok (back, unset))
    (same : d.Same back) :
  ∀ e ∈ d.services.entries, e.2.Lasting
  := by
  obtain ⟨-, fs, each, services, turned, one⟩ := exists_of_read_normal ok
  have arranged := Table.entries_ofList_arranged perm
  have placed : List.Forall₂
      (fun (e : String × Service) f => Turns ∅ e.1 f.1 ∧ Becomes ∅ e.2.normal f.2)
      (Table.ofList (d.services.arranged order)).entries fs := by
    rw [arranged]
    exact List.forall₂_map_left_iff.mp turned
  have kept : ∀ key ∈ (Table.ofList (d.services.arranged order)).keys,
      key ∈ (Table.ofList fs).keys := by
    intro key mem
    obtain ⟨e, mem', rfl⟩ := List.mem_map.mp mem
    rw [arranged, Table.mem_arranged_iff] at mem'
    obtain ⟨_, w, -, became, -⟩ := same.exists_read services one (Table.get?_eq_some_iff.mpr mem'.2)
    exact List.mem_map_of_mem (Table.get?_eq_some_iff.mp became)
  -- No name has become shorter: the names that are read are those that were written.
  obtain ⟨inert, -, became⟩ :=
    Table.inert_of_turned (R := fun (s : Service) (w : Value) => Becomes ∅ s.normal w) placed kept
  intro e mem
  have here : d.services.get? e.1 = some e.2 := Table.get?_eq_some_iff.mpr mem
  obtain ⟨b, w, same, there, read⟩ := same.exists_read services one here
  have first : (Table.ofList (d.services.arranged order)).get? e.1 = some e.2 :=
    (Table.get?_ofList_arranged perm e.1).trans here
  obtain ⟨-, rereads⟩ := (Service.readService_eq_ok_iff (became e.1 e.2 w first there)).mp read
  have name : Inert e.1 := inert e.1 (List.mem_map_of_mem (Table.get?_eq_some_iff.mp first))
  rw [d.named e mem] at name
  exact Service.lasting_of_rereads name rereads same

/-! ### What lasts is read back -/

theorem exists_make (project : String) {services : Table Service}
    (named : ∀ e ∈ services.entries, e.1 = e.2.name)
    (independent : ∀ e ∈ services.entries, e.2.dependsOn.entries = []) :
  ∃ d, make project services = .ok d
  := by
  have closed : ∀ e ∈ services.entries, ∀ name ∈ e.2.dependencies, name ∈ services.keys := by
    intro e mem name dependency
    simp [Service.dependencies, Table.keys, independent e mem] at dependency
  exact ⟨_, make_services ⟨project, services, named, closed⟩⟩

theorem isInert_normalServices (perm : order.Perm d.names)
    (lasting : ∀ e ∈ d.services.entries, e.2.Lasting) :
  IsInert (.map ((d.normalServices order).map keyed))
  := by
  apply isInert_keyed
  · have keys : (d.services.arranged order).map Prod.fst = order :=
      Table.keys_arranged fun _ => perm.mem_iff.mp
    rw [normalServices, List.map_map]
    change ((d.services.arranged order).map Prod.fst).Nodup
    rw [keys]
    exact perm.nodup_iff.mpr d.nodup_names
  · intro e mem
    obtain ⟨e', mem', rfl⟩ := List.mem_map.mp mem
    have known := (Table.mem_arranged_iff.mp mem').2
    have lasts := lasting e' known
    exact ⟨d.named e' known ▸ lasts.inert _ List.mem_cons_self, lasts.isInert_normal⟩

/-- A normal form of inert services changes only in the name of its project. -/
theorem expand_normal {e : Expansion}
    (inert : IsInert (.map ((d.normalServices order).map keyed)))
    (expanded : interpolate context d.project = .ok e) :
  (d.normal order).expand context = .ok (.map [(.str "name", .str e.text),
    (.str "services", .map ((d.normalServices order).map keyed))], e.unset)
  := by
  have first := interpolate_of_inert (inert_of_not_mem (s := "name") (by decide)) context
  have second := interpolate_of_inert (inert_of_not_mem (s := "services") (by decide)) context
  rw [normal_eq]
  generalize Value.map ((d.normalServices order).map keyed) = services at inert ⊢
  simp only [expand, expandEntries, expandText, first, second, expanded, expand_of_isInert inert,
    bind, Except.bind, pure, Except.pure, Expansion.ofText, List.append_nil, List.nil_append]
  rfl

/-- The services that are read back from a normal form. -/
def settledServices (d : Descriptor) (order : List String) : Table Service :=
  .ofList ((d.services.map Service.settled).arranged order)

theorem mem_settledServices {e : String × Service} (mem : e ∈ (d.settledServices order).entries) :
  ∃ e' ∈ d.services.entries, (e'.1, e'.2.settled) = e
  := List.mem_map.mp (Table.mem_arranged_iff.mp (Table.mem_of_mem_ofList mem)).2

theorem readServices_normalServices (lasting : ∀ e ∈ d.services.entries, e.2.Lasting)
    (sound : ∀ e ∈ d.services.entries, e.2.Sound) :
  readServices ((d.normalServices order).map keyed) = .ok (d.settledServices order)
  := by
  refine readServices_eq_ok_iff.mpr ⟨_, rfl, ?_⟩
  rw [normalServices, Table.arranged_map, List.forall₂_map_left_iff, List.forall₂_map_left_iff,
    List.forall₂_map_right_iff, List.forall₂_same]
  intro e mem
  have known := (Table.mem_arranged_iff.mp mem).2
  have lasts := lasting e known
  have becomes : Becomes ∅ e.2.normal e.2.normal := ⟨[], expand_of_isInert lasts.isInert_normal ∅⟩
  exact ⟨rfl, (Service.readService_eq_ok_iff becomes).mpr
    ⟨(d.named e known).symm, lasts.rereads (sound e known)⟩⟩

/-- A descriptor of sound services that last is read back from its normal form, if the name of its
project refuses no variables. -/
theorem read_normal_of_lasting (perm : order.Perm d.names) (free : Undemanding d.project)
    (lasting : ∀ e ∈ d.services.entries, e.2.Lasting)
    (sound : ∀ e ∈ d.services.entries, e.2.Sound) (project : String) (context : Table String) :
  ∃ back unset, read project context (d.normal order) = .ok (back, unset) ∧ d.Same back
  := by
  obtain ⟨e, expanded⟩ := undemanding_iff.mp free context
  have becomes := expand_normal (isInert_normalServices perm lasting) expanded
  have each : readServices ((d.normalServices order).map keyed) = .ok (d.settledServices order) :=
    readServices_normalServices lasting sound
  have named : ∀ e ∈ (d.settledServices order).entries, e.1 = e.2.name := by
    intro e mem
    obtain ⟨e', mem', rfl⟩ := mem_settledServices mem
    exact d.named e' mem'
  have independent : ∀ e ∈ (d.settledServices order).entries, e.2.dependsOn.entries = [] := by
    intro e mem
    obtain ⟨e', mem', rfl⟩ := mem_settledServices mem
    exact (lasting e' mem').independent
  obtain ⟨back, made⟩ := exists_make project named independent
  have flat : ¬ IsNested nestingLimit (d.normal order) :=
    fun nested => d.not_isNested_normal order (isNested_of_le nested (by decide))
  refine ⟨back, e.unset, ?_, ?_⟩
  · exact read_eq_ok_iff.mpr ⟨flat, _, becomes, writable_written rfl d.writable_normalServices,
      (ofDocument_eq_ok_iff rfl).mpr ⟨_, each, made⟩⟩
  intro name
  rw [services_of_make made, settledServices, Table.get?_ofList_arranged (by rwa [Table.keys_map]),
    Table.get?_map]
  cases d.services.get? name with
  | none => exact .none
  | some s => exact .some s.same_settled

/-! ### Which normal forms are read back -/

theorem perm_of_active {active : Descriptor} {profiles : List String}
    (selected : Launcher.active d profiles = .ok (active, order)) :
  d.select profiles [] = .ok active ∧ order.Perm active.names
  := by
  unfold Launcher.active at selected
  obtain ⟨_, -, selected⟩ := bind_eq_ok_iff.mp selected
  obtain ⟨part, chosen, selected⟩ := bind_eq_ok_iff.mp selected
  obtain ⟨started, ordered, same⟩ := bind_eq_ok_iff.mp selected
  cases same
  rw [startOrder] at ordered
  cases waves : active.startWaves with
  | error fault =>
    rw [waves] at ordered
    cases ordered
  | ok w =>
    rw [waves] at ordered
    cases ordered
    exact ⟨mapError_descriptor_eq_ok_iff.mp chosen, flatten_startWaves_perm waves⟩

/-- The normal form of what the profiles enable is read back as the same services, whatever the
project and the variables are, exactly when each of the services lasts and the name of the project
refuses no variables. -/
theorem read_normal_iff {project : String} {document : Value} {active : Descriptor}
    {profiles unset : List String} (parsed : read project context document = .ok (d, unset))
    (selected : Launcher.active d profiles = .ok (active, order)) :
  (∀ project' context', ∃ back unset',
      read project' context' (active.normal order) = .ok (back, unset') ∧ active.Same back)
    ↔ Undemanding active.project ∧ ∀ e ∈ active.services.entries, e.2.Lasting
  := by
  obtain ⟨chosen, perm⟩ := perm_of_active selected
  constructor
  · intro returns
    constructor
    · rw [undemanding_iff]
      intro context'
      obtain ⟨_, _, ok, -⟩ := returns project context'
      obtain ⟨⟨name, missed, turns⟩, -⟩ := exists_of_read_normal ok
      exact ⟨_, turns⟩
    · obtain ⟨back, unset, ok, same⟩ := returns project ∅
      exact lasting_of_read_normal perm ok same
  · rintro ⟨free, lasting⟩ project' context'
    obtain ⟨-, w, -, -, made⟩ := read_eq_ok_iff.mp parsed
    refine read_normal_of_lasting perm free lasting (fun e mem => ?_) project' context'
    obtain ⟨entries, declares⟩ := exists_declares_of_ofDocument made (mem_of_select chosen mem)
    exact Service.sound_of_declares declares

end Descriptor

namespace Sample

/-- A stack of one service. -/
def lone (s : Service) (independent : s.dependsOn.entries = []) : Descriptor where
  project := "demo"
  services := ⟨[(s.name, s)], by simp⟩
  named := by simp
  closed := by simp [Service.dependencies, Table.keys, independent]

theorem active_lone {s : Service} (independent : s.dependsOn.entries = [])
    (always : s.profiles = []) :
  Launcher.active (lone s independent) [] = .ok (lone s independent, [s.name])
  := by
  have graph : (lone s independent).graph = [(s.name, [])] := by
    simp [Descriptor.graph, lone, Service.dependencies, Table.keys, independent]
  have waves : (lone s independent).startWaves = .ok [[s.name]] := by
    rw [Descriptor.startWaves_eq_ok_iff, graph]
    simp [StartOrder.split, StartOrder.free, StartOrder.nodes, StartOrder.remove]
  have order : (lone s independent).startOrder = .ok [s.name] := by
    rw [Descriptor.startOrder, waves]
    rfl
  have enabled : (lone s independent).enabled [] = [s.name] := by
    simp [Descriptor.enabled, lone, Table.filter, Table.keys, Service.isEnabled, always]
  have kept : (lone s independent).services.filter (fun name _ => [s.name].contains name)
      = (lone s independent).services := by
    simp [lone, Table.filter]
  have chosen : (lone s independent).select [] [] = .ok (lone s independent) := by
    have met : (lone s independent).disabledDependency? [s.name] = none := by
      simp [Descriptor.disabledDependency?, lone, Service.dependencies, Table.keys, independent]
    simp only [Descriptor.select, List.isEmpty_nil, if_true, enabled, met, Descriptor.restrict,
      kept]
    exact Descriptor.make_services _
  simp [Launcher.active, order, chosen, Except.mapError, bind, Except.bind, pure, Except.pure]

/-- A web server with a health check. -/
def server (disabled : Bool) : Service where
  name := "web"
  image := "nginx"
  command := ["serve", "--quiet"]
  ports := [⟨80, some 8080, none, "tcp"⟩]
  restart := .always
  healthCheck := some {
    test := ["CMD-SHELL", "true"]
    interval := Descriptor.defaultInterval
    timeout := Descriptor.defaultInterval
    retries := 5
    startPeriod := Descriptor.noTime
    disabled }

/-- What declares the web server. -/
def serverFields (disabled : Bool) : List (Value × Value) := [
  (.str "image", .str "nginx"), (.str "command", .str "serve --quiet"),
  (.str "ports", .list [.str "8080:80"]), (.str "restart", .str "always"),
  (.str "healthcheck", .map [(.str "test", .str "true"), (.str "retries", .int 5),
    (.str "disable", .bool disabled)])]

theorem readPorts_server (disabled : Bool) :
  Descriptor.readPorts "web" (field "ports" (serverFields disabled)) = .ok (server disabled).ports
  := by
  change Descriptor.readPorts "web" ((shownWords ["8080:80"]).getD .null)
    = .ok [⟨80, some 8080, none, "tcp"⟩]
  rw [readPorts_shownWords]
  exact .cons (by decide) .nil

theorem declares_server (disabled : Bool) :
  Descriptor.Declares "web" (serverFields disabled) (server disabled)
  where
  named := rfl
  image := rfl
  command := rfl
  entrypoint := rfl
  runs := .inl rfl
  restart := Descriptor.readRestart_name "web" .always
  environment := rfl
  envFiles := ⟨[], rfl, rfl, rfl⟩
  ports := readPorts_server disabled
  healthCheck := rfl
  dependsOn := rfl
  profiles := ⟨[], rfl, rfl⟩
  labels := rfl
  workingDir := rfl
  containerName := rfl

/-- The document of the web server. -/
def serverDocument (disabled : Bool) : Value :=
  .map [(.str "services", .map [(.str "web", .map (serverFields disabled))])]

theorem read_serverDocument (disabled : Bool) :
  Descriptor.read "demo" ∅ (serverDocument disabled) = .ok (lone (server disabled) rfl, [])
  := by
  have texts : ∀ s ∈ ["services", "web", "image", "nginx", "command", "serve --quiet", "ports",
      "8080:80", "restart", "always", "healthcheck", "test", "true", "retries", "disable"],
      Inert s :=
    fun s mem => inert_of_not_mem (by revert s; decide)
  have inert : IsInert (serverDocument disabled) := by
    simp_all [serverDocument, serverFields, IsInert, EntriesInert, AllInert]
  have flat : ¬ IsNested nestingLimit (serverDocument disabled) := by
    intro nested
    have := isNested_of_le (m := 5) nested (by decide)
    simp [serverDocument, serverFields, IsNested] at this
  have services : Descriptor.readServices [(.str "web", .map (serverFields disabled))]
      = .ok (lone (server disabled) rfl).services := by
    refine Descriptor.readServices_eq_ok_iff.mpr ⟨_, (Table.ofList_entries _).symm, ?_⟩
    exact .cons ⟨rfl, Descriptor.readFields_eq_ok_iff.mpr (declares_server disabled)⟩ .nil
  have made := Descriptor.make_services (lone (server disabled) rfl)
  have short : isOverlongEntry [(.str "web", .map (serverFields disabled))] = false := by
    cases disabled <;> decide +kernel
  exact Descriptor.read_eq_ok_iff.mpr ⟨flat, _, expand_of_isInert inert ∅,
    Descriptor.writable_of_short rfl short,
    (Descriptor.ofDocument_eq_ok_iff rfl).mpr ⟨_, services, made⟩⟩

theorem lasting_server :
  (server false).Lasting
  := by
  have texts : (server false).texts
      = ["web", "nginx", "serve", "--quiet", "8080:80", "CMD-SHELL", "true"] := rfl
  constructor
  · rw [texts]
    exact fun s mem => inert_of_not_mem (by revert s; decide)
  · simp only [server, List.forall_mem_singleton]
    exact Port.readShortPort?_text_iff.mp (by decide)
  · rfl
  · rintro c ⟨⟩
    rfl
  · rfl

end Sample

/-- The normal form of the web server is read back as the web server. -/
theorem Descriptor.read_normal_server :
  read "demo" ∅ (Sample.serverDocument false) = .ok (Sample.lone (Sample.server false) rfl, [])
    ∧ Launcher.active (Sample.lone (Sample.server false) rfl) []
      = .ok (Sample.lone (Sample.server false) rfl, ["web"])
    ∧ ∀ project context, ∃ back unset,
      read project context ((Sample.lone (Sample.server false) rfl).normal ["web"])
          = .ok (back, unset)
        ∧ (Sample.lone (Sample.server false) rfl).Same back
  := by
  have parsed := Sample.read_serverDocument false
  have selected := Sample.active_lone (s := Sample.server false) rfl rfl
  refine ⟨parsed, selected, (read_normal_iff parsed selected).mpr ⟨?_, ?_⟩⟩
  · have inert : Inert "demo" := inert_of_not_mem (by decide)
    exact undemanding_iff.mpr fun context => ⟨_, interpolate_of_inert inert context⟩
  · rintro e mem
    rw [List.mem_singleton.mp mem]
    exact Sample.lasting_server

/-- The normal form of a web server whose health check is switched off is not read back as it: the
health check is switched on again. -/
theorem Descriptor.read_normal_disabled :
  read "demo" ∅ (Sample.serverDocument true) = .ok (Sample.lone (Sample.server true) rfl, [])
    ∧ Launcher.active (Sample.lone (Sample.server true) rfl) []
      = .ok (Sample.lone (Sample.server true) rfl, ["web"])
    ∧ ¬ ∃ back unset,
      read "demo" ∅ ((Sample.lone (Sample.server true) rfl).normal ["web"]) = .ok (back, unset)
        ∧ (Sample.lone (Sample.server true) rfl).Same back
  := by
  refine ⟨Sample.read_serverDocument true, Sample.active_lone rfl rfl, ?_⟩
  rintro ⟨back, unset, ok, same⟩
  have lasting :=
    lasting_of_read_normal (.refl _) ok same ("web", Sample.server true) List.mem_cons_self
  exact Bool.noConfusion (lasting.checked _ rfl)

end Muster
