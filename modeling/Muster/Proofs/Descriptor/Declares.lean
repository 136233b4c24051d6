import Muster.Descriptor.Reader
import Muster.Proofs.Descriptor.Expand
import Muster.Proofs.Descriptor.Overlong
import Muster.Proofs.StartOrder
/-!
# What a descriptor declares

A service is read field by field: `Declares` lists what each reader makes of its field.  The
services of a document are read one by one.
-/

namespace Muster.Descriptor

open Value

/-! ### Services -/

/-- The faults of the fields of a service that hold texts as they stand. -/
def textFieldFaults (entries : List (Value × Value)) (envFiles : List Value) : List FieldFault :=
  optionalTextFaults "working_dir" (field "working_dir" entries)
    ++ optionalTextFaults "container_name" (field "container_name" entries)
    ++ textFaults "env_file" envFiles

/-- The fields of a service are read one after the other. -/
theorem readFields_eq (name : String) (entries : List (Value × Value)) :
  readFields name entries =
    (readCommand (field "command" entries) >>= fun command =>
    readCommand (field "entrypoint" entries) >>= fun entrypoint =>
    if !(field "image" entries).isGiven && command.isEmpty && entrypoint.isEmpty then
      .error (.descriptor (.nothingToRun name))
    else
      readRestart name (field "restart" entries) >>= fun restart =>
      readEnvironment (field "environment" entries) >>= fun environment =>
      (field "env_file" entries).toList >>= fun envFiles =>
      readPorts name (field "ports" entries) >>= fun ports =>
      readHealthCheck name (field "healthcheck" entries) >>= fun healthCheck =>
      readDependencies name (field "depends_on" entries) >>= fun dependsOn =>
      (field "profiles" entries).toList >>= fun profiles =>
      readEnvironment (field "labels" entries) >>= fun labels =>
      if !(textFieldFaults entries envFiles).isEmpty then
        .error (.fields (textFieldFaults entries envFiles))
      else .ok {
        name, command, entrypoint, environment, ports, healthCheck, dependsOn, labels
        image := imageText (field "image" entries)
        restart := restart.1
        maxRestarts := restart.2
        workingDir := (field "working_dir" entries).toOptionalText.toOption.join
        containerName := (field "container_name" entries).toOptionalText.toOption.join
        envFiles := envFiles.filterMap fun v => v.toText.toOption
        profiles := profiles.map text })
  := rfl

/-- The service that entries declare under a name, field by field. -/
structure Declares (name : String) (entries : List (Value × Value)) (s : Service) : Prop where
  named : s.name = name
  image : s.image = imageText (field "image" entries)
  command : readCommand (field "command" entries) = .ok s.command
  entrypoint : readCommand (field "entrypoint" entries) = .ok s.entrypoint
  /-- There is something to run. -/
  runs : (field "image" entries).isGiven ∨ s.command ≠ [] ∨ s.entrypoint ≠ []
  restart : readRestart name (field "restart" entries) = .ok (s.restart, s.maxRestarts)
  environment : readEnvironment (field "environment" entries) = .ok s.environment
  envFiles : ∃ items, (field "env_file" entries).toList = .ok items
    ∧ textFaults "env_file" items = [] ∧ s.envFiles = items.filterMap fun v => v.toText.toOption
  ports : readPorts name (field "ports" entries) = .ok s.ports
  healthCheck : readHealthCheck name (field "healthcheck" entries) = .ok s.healthCheck
  dependsOn : readDependencies name (field "depends_on" entries) = .ok s.dependsOn
  profiles : ∃ items, (field "profiles" entries).toList = .ok items ∧ s.profiles = items.map text
  labels : readEnvironment (field "labels" entries) = .ok s.labels
  workingDir : (field "working_dir" entries).toOptionalText = .ok s.workingDir
  containerName : (field "container_name" entries).toOptionalText = .ok s.containerName

theorem optionalTextFaults_eq_nil_iff (name : String) {v : Value} {t : Option String} :
  optionalTextFaults name v = [] ∧ t = v.toOptionalText.toOption.join ↔ v.toOptionalText = .ok t
  := by
  rw [optionalTextFaults]
  cases v.toOptionalText with
  | error fault => simp
  | ok u => simp [Except.toOption, eq_comm]

theorem textFieldFaults_eq_nil_iff {entries : List (Value × Value)} {items : List Value} :
  textFieldFaults entries items = []
    ↔ optionalTextFaults "working_dir" (field "working_dir" entries) = []
    ∧ optionalTextFaults "container_name" (field "container_name" entries) = []
    ∧ textFaults "env_file" items = []
  := by
  rw [textFieldFaults, List.append_eq_nil_iff, List.append_eq_nil_iff, and_assoc]

/-- The service that is read is the one that is declared. -/
theorem readFields_eq_ok_iff {name : String} {entries : List (Value × Value)} {s : Service} :
  readFields name entries = .ok s ↔ Declares name entries s
  := by
  rw [readFields_eq]
  constructor
  · intro read
    obtain ⟨command, hCommand, read⟩ := bind_eq_ok_iff.mp read
    obtain ⟨entrypoint, hEntrypoint, read⟩ := bind_eq_ok_iff.mp read
    split at read
    · cases read
    · next runs =>
      obtain ⟨restart, hRestart, read⟩ := bind_eq_ok_iff.mp read
      obtain ⟨environment, hEnvironment, read⟩ := bind_eq_ok_iff.mp read
      obtain ⟨envFiles, hEnvFiles, read⟩ := bind_eq_ok_iff.mp read
      obtain ⟨ports, hPorts, read⟩ := bind_eq_ok_iff.mp read
      obtain ⟨healthCheck, hHealthCheck, read⟩ := bind_eq_ok_iff.mp read
      obtain ⟨dependsOn, hDependsOn, read⟩ := bind_eq_ok_iff.mp read
      obtain ⟨profiles, hProfiles, read⟩ := bind_eq_ok_iff.mp read
      obtain ⟨labels, hLabels, read⟩ := bind_eq_ok_iff.mp read
      split at read
      · cases read
      · next clean =>
        cases read
        obtain ⟨workingDir, containerName, files⟩ :=
          textFieldFaults_eq_nil_iff.mp (by simpa using clean)
        exact {
          named := rfl
          image := rfl
          command := hCommand
          entrypoint := hEntrypoint
          runs := by
            by_contra idle
            simp_all
          restart := hRestart
          environment := hEnvironment
          envFiles := ⟨envFiles, hEnvFiles, files, rfl⟩
          ports := hPorts
          healthCheck := hHealthCheck
          dependsOn := hDependsOn
          profiles := ⟨profiles, hProfiles, rfl⟩
          labels := hLabels
          workingDir := (optionalTextFaults_eq_nil_iff _).mp ⟨workingDir, rfl⟩
          containerName := (optionalTextFaults_eq_nil_iff _).mp ⟨containerName, rfl⟩ }
  · intro d
    obtain rfl := d.named
    obtain ⟨envFiles, hEnvFiles, files, filesEq⟩ := d.envFiles
    obtain ⟨profiles, hProfiles, profilesEq⟩ := d.profiles
    obtain ⟨workingDir, workingDirEq⟩ :=
      (optionalTextFaults_eq_nil_iff "working_dir").mpr d.workingDir
    obtain ⟨containerName, containerNameEq⟩ :=
      (optionalTextFaults_eq_nil_iff "container_name").mpr d.containerName
    have runs : ¬ (!(field "image" entries).isGiven && s.command.isEmpty
        && s.entrypoint.isEmpty) = true := by
      rcases d.runs with given | given | given <;> simp [given]
    have clean : ¬ (!(textFieldFaults entries envFiles).isEmpty) = true := by
      simp [textFieldFaults_eq_nil_iff.mpr ⟨workingDir, containerName, files⟩]
    simp only [d.command, d.entrypoint, d.restart, d.environment, hEnvFiles, d.ports, d.healthCheck,
      d.dependsOn, hProfiles, d.labels, bind, Except.bind, if_neg runs, if_neg clean, ← d.image,
      ← workingDirEq, ← containerNameEq, ← filesEq, ← profilesEq]

/-! ### Documents -/

theorem mapM_eq_ok_iff {ε α β : Type} {f : α → Except ε β} {as : List α} {bs : List β} :
  as.mapM f = .ok bs ↔ List.Forall₂ (fun a b => f a = .ok b) as bs
  := by
  induction as generalizing bs with
  | nil =>
    rw [List.mapM_nil, List.forall₂_nil_left_iff]
    exact ⟨fun same => by cases same; rfl, fun same => by rw [same]; rfl⟩
  | cons a r ih =>
    rw [List.mapM_cons, bind_eq_ok_iff, List.forall₂_cons_left_iff]
    constructor
    · rintro ⟨b, first, read⟩
      obtain ⟨others, rest, same⟩ := bind_eq_ok_iff.mp read
      cases same
      exact ⟨b, others, first, ih.mp rest, rfl⟩
    · rintro ⟨b, others, first, rest, rfl⟩
      exact ⟨b, first, bind_eq_ok_iff.mpr ⟨others, ih.mpr rest, rfl⟩⟩

/-- The services of a document are read one by one, each under the text of its key. -/
theorem readServices_eq_ok_iff {entries : List (Value × Value)} {services : Table Service} :
  readServices entries = .ok services ↔ ∃ each, services = Table.ofList each ∧ List.Forall₂
    (fun e r => r.1 = e.1.text ∧ readService e.1.text e.2 = .ok r.2) entries each
  := by
  have one (e : Value × Value) (r : String × Service) :
      (readService e.1.text e.2 >>= fun s => Except.ok (e.1.text, s)) = .ok r
        ↔ r.1 = e.1.text ∧ readService e.1.text e.2 = .ok r.2 := by
    rw [bind_eq_ok_iff]
    constructor
    · rintro ⟨s, read, same⟩
      cases same
      exact ⟨rfl, read⟩
    · rintro ⟨name, read⟩
      exact ⟨r.2, read, by rw [← name]⟩
  have read_eq : readServices entries
      = ((entries.mapM fun e => readService e.1.text e.2 >>= fun s => Except.ok (e.1.text, s)) >>=
        fun each => .ok (Table.ofList each)) := rfl
  rw [read_eq, bind_eq_ok_iff]
  simp only [mapM_eq_ok_iff, one, Except.ok.injEq]
  constructor
  · rintro ⟨each, read, rfl⟩
    exact ⟨each, rfl, read⟩
  · rintro ⟨each, rfl, read⟩
    exact ⟨each, read, rfl⟩

theorem mapError_descriptor_eq_ok_iff {α : Type} {x : Except DescriptorFault α} {a : α} :
  x.mapError Fault.descriptor = .ok a ↔ x = .ok a
  := by
  cases x with
  | error cause =>
    constructor <;> intro same <;> cases same
  | ok b =>
    constructor <;> intro same <;> cases same <;> rfl

/-- A descriptor is made of the services of its document. -/
theorem ofDocument_eq_ok_iff {project : String} {entries services : List (Value × Value)}
    {d : Descriptor} (found : field "services" entries = .map services) :
  ofDocument project (.map entries) = .ok d
    ↔ ∃ table, readServices services = .ok table ∧ make project table = .ok d
  := by
  have read : ofDocument project (.map entries)
      = (readServices services >>= fun table => (make project table).mapError .descriptor) := by
    unfold ofDocument
    simp only [pure_bind, found]
  rw [read, bind_eq_ok_iff]
  simp only [mapError_descriptor_eq_ok_iff]

theorem ofExpanded_eq_ok_iff {project : String} {document : Value} {d : Descriptor} :
  ofExpanded project document = .ok d
    ↔ Writable (written document) ∧ ofDocument project document = .ok d
  := by
  have all : (written document).any isOverlong = false ↔ Writable (written document) := by
    simp [Writable]
  rw [ofExpanded, ← all]
  cases (written document).any isOverlong <;> simp

/-- The variables of a document are put in before it is read. -/
theorem read_eq_ok_iff {project : String} {context : Table String} {document : Value}
    {d : Descriptor} {unset : List String} :
  read project context document = .ok (d, unset)
    ↔ ¬ IsNested nestingLimit document ∧ ∃ w, document.expand context = .ok (w, unset)
      ∧ Writable (written w) ∧ ofDocument project w = .ok d
  := by
  simp only [← ofExpanded_eq_ok_iff]
  rw [read, bind_eq_ok_iff]
  constructor
  · rintro ⟨⟨w, missed⟩, expanded, read⟩
    have flat := Becomes.not_isNested ⟨missed, expanded⟩
    obtain ⟨_, made, same⟩ := bind_eq_ok_iff.mp read
    cases same
    exact ⟨flat, w, cut_of_not_isNested flat ▸ expanded, made⟩
  · rintro ⟨flat, w, expanded, made⟩
    rw [cut_of_not_isNested flat]
    exact ⟨(w, unset), expanded, bind_eq_ok_iff.mpr ⟨d, made, rfl⟩⟩

theorem exists_declares_of_readService {name : String} {v : Value} {s : Service}
    (read : readService name v = .ok s) :
  ∃ entries, Declares name entries s
  := by
  rw [readService.eq_def] at read
  split at read
  · exact ⟨_, readFields_eq_ok_iff.mp read⟩
  · split at read
    · cases read
    · exact ⟨[], readFields_eq_ok_iff.mp read⟩

/-- Every service of a descriptor has been declared in its document. -/
theorem exists_declares_of_ofDocument {project : String} {document : Value} {d : Descriptor}
    (ok : ofDocument project document = .ok d) {e : String × Service}
    (mem : e ∈ d.services.entries) :
  ∃ entries, Declares e.1 entries e.2
  := by
  have without {d : Descriptor} (made : (make project ∅).mapError Fault.descriptor = .ok d)
      (mem : e ∈ d.services.entries) : ∃ entries, Declares e.1 entries e.2 := by
    rw [services_of_make (mapError_descriptor_eq_ok_iff.mp made)] at mem
    cases mem
  unfold ofDocument at ok
  split at ok
  · next entries =>
    simp only [pure_bind] at ok
    split at ok
    · next services found =>
      obtain ⟨table, read, made⟩ := bind_eq_ok_iff.mp ok
      obtain ⟨each, rfl, one⟩ := readServices_eq_ok_iff.mp read
      rw [services_of_make (mapError_descriptor_eq_ok_iff.mp made)] at mem
      obtain ⟨e', -, own, declared⟩ := exists_of_forall₂ one.flip (Table.mem_of_mem_ofList mem)
      rw [own]
      exact exists_declares_of_readService declared
    · split at ok
      · cases ok
      · exact without ok mem
  · split at ok
    · cases ok
    · exact without ok mem

end Muster.Descriptor
