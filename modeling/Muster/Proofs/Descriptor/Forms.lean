import Muster.Proofs.Descriptor.Declares
import Muster.Proofs.Descriptor.PortForms
import Muster.Proofs.Descriptor.Sound
import Muster.Proofs.Table
/-!
# Short and long forms

Variables, dependencies, ports and the test of a health check are written in a short form or in a
long one, and each form has a reader of its own.  A service in which short forms are replaced by the
long ones that say the same is read as the same service.
-/

namespace Muster

namespace Descriptor

open Value

/-! ### Replacing values -/

/-- Some values of a mapping are replaced; a relation says which value may take the place of which
one under a key. -/
def Replaced (R : String → Value → Value → Prop) :
    List (Value × Value) → List (Value × Value) → Prop :=
  List.Forall₂ fun e f => f.1 = e.1 ∧ (f.2 = e.2 ∨ ∃ key, e.1 = .str key ∧ R key e.2 f.2)

section Replaced

variable {R : String → Value → Value → Prop} {es fs : List (Value × Value)}

theorem Replaced.field?_rel (replaced : Replaced R es fs) (key : String) :
  Option.Rel (fun v w => w = v ∨ R key v w) (field? key es) (field? key fs)
  := by
  induction replaced with
  | nil => exact .none
  | @cons e f es fs here _ ih =>
    obtain ⟨k, v⟩ := e
    obtain ⟨l, w⟩ := f
    obtain ⟨rfl, value⟩ := here
    cases l with
    | str name =>
      rw [field?, field?]
      split
      · next same =>
        apply Option.Rel.some
        apply value.imp id
        rintro ⟨key', own, related⟩
        cases own
        exact same ▸ related
      · apply ih
    | _ => apply ih

/-- The value of a key either stays or is replaced. -/
theorem Replaced.field_cases (replaced : Replaced R es fs) (key : String) :
  field key fs = field key es ∨ R key (field key es) (field key fs)
  := by
  have related := replaced.field?_rel key
  rw [field, field]
  generalize field? key es = v, field? key fs = w at related
  cases related with
  | none => exact .inl rfl
  | some value => apply value

/-- A value that cannot be replaced stays. -/
theorem Replaced.field?_eq (replaced : Replaced R es fs) {key : String}
    (kept : ∀ v w, ¬ R key v w) :
  field? key fs = field? key es
  := by
  have related := replaced.field?_rel key
  generalize field? key es = v, field? key fs = w at related
  cases related with
  | none => rfl
  | some value =>
    obtain rfl | other := value
    · rfl
    · apply absurd other (kept _ _)

theorem Replaced.field_eq (replaced : Replaced R es fs) {key : String}
    (kept : ∀ v w, ¬ R key v w) :
  field key fs = field key es
  := congrArg (·.getD .null) (replaced.field?_eq kept)

end Replaced

/-! ### The forms -/

/-- A list of assignments, in which variables may come several times, and the mapping that sums it
up. -/
inductive SameVariables : Value → Value → Prop where
  | intro {assignments sums : List (String × String)}
      (names : ∀ a ∈ assignments, '=' ∉ a.1.toList) (sumsUp : Table.SumsUp assignments sums) :
    SameVariables (.list (assignments.map fun a => .str (a.1 ++ "=" ++ a.2)))
      (.map (sums.map fun e => (.str e.1, .str e.2)))

/-- The options of a dependency leave it at waiting for its health, or ask for that. -/
inductive WaitsForHealth : Value → Prop where
  | null : WaitsForHealth .null
  | silent {options : List (Value × Value)} (silent : field? "condition" options = none) :
    WaitsForHealth (.map options)
  | named {options : List (Value × Value)}
      (named : field? "condition" options = some (.str Condition.healthy.name)) :
    WaitsForHealth (.map options)

/-- A list of names, and a mapping of these names to options. -/
inductive SameDependencies : Value → Value → Prop where
  | intro {names : List String} {entries : List (Value × Value)}
      (keys : entries.map Prod.fst = names.eraseDups.map .str)
      (healthy : ∀ e ∈ entries, WaitsForHealth e.2) :
    SameDependencies (.list (names.map .str)) (.map entries)

/-- Lists of ports, some of which are written in their long form in the second one. -/
inductive SamePorts : Value → Value → Prop where
  | intro {items others : List Value}
      (each : List.Forall₂ (fun v w => w = v ∨ SamePort v w) items others) :
    SamePorts (.list items) (.list others)

/-- A test that does not say how it is run, and the same one that does. -/
inductive SameTest : Value → Value → Prop where
  | line (line : String) : SameTest (.str line) (.list [.str "CMD-SHELL", .str line])
  | words {kind : Value} {arguments : List Value}
      (bare : kind.text ∉ ["CMD", "CMD-SHELL", "NONE"]) :
    SameTest (.list (kind :: arguments)) (.list (.str "CMD" :: kind :: arguments))

/-- The short form of a health check's test is replaced by the long one. -/
inductive SameHealthCheck : Value → Value → Prop where
  | intro {es fs : List (Value × Value)}
      (replaced : Replaced (fun key v w => key = "test" ∧ SameTest v w) es fs) :
    SameHealthCheck (.map es) (.map fs)

/-- The short and the long form of a field of a service. -/
inductive SameField (key : String) (v w : Value) : Prop where
  | assignments (field : key = "environment" ∨ key = "labels") (same : SameVariables v w)
  | dependencies (field : key = "depends_on") (same : SameDependencies v w)
  | ports (field : key = "ports") (same : SamePorts v w)
  | healthCheck (field : key = "healthcheck") (same : SameHealthCheck v w)

/-! ### Reading both forms -/

theorem readVariable_assignment {name : String} (free : '=' ∉ name.toList) (value : String) :
  readVariable (.str (name ++ "=" ++ value)) = (name, value)
  := by
  have parted : Text.cut '=' (name ++ "=" ++ value).toList = some (name.toList, value.toList) := by
    apply Text.cut_eq_some_iff.mpr ⟨by simp, free⟩
  rw [readVariable, text_str, Text.cutAt, parted]
  simp

theorem SameVariables.readEnvironment_eq {v w : Value} (same : SameVariables v w) :
  readEnvironment w = readEnvironment v
  := by
  cases same with
  | @intro assignments sums names sumsUp =>
    have listed : (assignments.map fun a => Value.str (a.1 ++ "=" ++ a.2)).map readVariable
        = assignments := by
      rw [List.map_map]
      apply (List.map_congr_left _).trans (List.map_id _)
      intro a mem
      apply readVariable_assignment (names a mem)
    rw [readEnvironment, readEnvironment, listed, sumsUp.ofList_eq, List.map_map]
    congr 2
    apply List.map_id

theorem WaitsForHealth.readCondition_eq {v : Value} (waits : WaitsForHealth v) (service : String) :
  readCondition service v = .ok .healthy
  := by
  cases waits with
  | null => rfl
  | silent silent => rw [readCondition, silent]
  | named named =>
    rw [readCondition, named]
    simp

theorem SameDependencies.readDependencies_eq {v w : Value} (same : SameDependencies v w)
    (service : String) :
  readDependencies service w = readDependencies service v
  := by
  cases same with
  | @intro names entries keys healthy =>
    have each : (entries.mapM fun e => do
          let condition ← readCondition service e.2
          return (e.1.text, condition))
        = Except.ok (entries.map fun e => (e.1.text, Condition.healthy)) := by
      apply mapM_eq_ok_iff.mpr
      apply List.forall₂_map_right_iff.mpr
      apply List.forall₂_same.mpr
      intro e mem
      rw [(healthy e mem).readCondition_eq service]
      rfl
    have named : entries.map (fun e => (e.1.text, Condition.healthy))
        = names.eraseDups.map (·, .healthy) := by
      have texts := congrArg (List.map fun k : Value => (k.text, Condition.healthy)) keys
      simpa [Function.comp_def] using texts
    have long : readDependencies service (.map entries)
        = .ok (Table.ofList (names.eraseDups.map (·, .healthy))) := by
      rw [readDependencies, each, named]
      rfl
    rw [long, readDependencies, List.map_map]
    apply congrArg Except.ok
    apply Table.ofList_const_congr (eraseDups_of_nodup (Table.nodup_eraseDups names))

theorem SameTest.readTest_eq {v w : Value} (same : SameTest v w) (service : String) :
  readTest service w = readTest service v
  := by
  cases same with
  | line => rfl
  | @words kind arguments bare =>
    have other : isTestKind kind.text = false := by simpa [isTestKind, and_assoc] using bare
    simp [readTest, other]
    rfl

theorem SameHealthCheck.readHealthCheck_eq_ok_iff {v w : Value} (same : SameHealthCheck v w)
    (service : String) {check : Option HealthCheck} :
  readHealthCheck service v = .ok check ↔ readHealthCheck service w = .ok check
  := by
  cases same with
  | @intro es fs replaced =>
    have test : readTest service (field "test" fs) = readTest service (field "test" es) := by
      rcases replaced.field_cases "test" with same | ⟨-, same⟩
      · rw [same]
      · apply same.readTest_eq
    have kept {key : String} (other : key ≠ "test") : field? key fs = field? key es := by
      apply replaced.field?_eq
      rintro v w ⟨own, -⟩
      apply other own
    have retries : field? "retries" fs = field? "retries" es := kept (by decide)
    have interval : field? "interval" fs = field? "interval" es := kept (by decide)
    have timeout : field? "timeout" fs = field? "timeout" es := kept (by decide)
    have startPeriod : field? "start_period" fs = field? "start_period" es := kept (by decide)
    have disable : field? "disable" fs = field? "disable" es := kept (by decide)
    rw [readHealthCheck_map_eq_ok_iff, readHealthCheck_map_eq_ok_iff, test]
    simp only [field, retries, interval, timeout, startPeriod, disable]

theorem mapM_eq_ok_congr {ε α β : Type} {f : α → Except ε β} {as others : List α} {bs : List β}
    (each : List.Forall₂ (fun a other => ∀ b, f a = .ok b ↔ f other = .ok b) as others) :
  as.mapM f = .ok bs ↔ others.mapM f = .ok bs
  := by
  rw [mapM_eq_ok_iff, mapM_eq_ok_iff]
  induction each generalizing bs with
  | nil => rfl
  | cons here _ ih =>
    rw [List.forall₂_cons_left_iff, List.forall₂_cons_left_iff]
    simp only [here, ih]

theorem readPorts_list (service : String) (items : List Value) :
  readPorts service (.list items) = items.mapM (readPort service)
  := by
  cases items <;> rfl

theorem SamePorts.readPorts_eq_ok_iff {v w : Value} (same : SamePorts v w) (service : String)
    {ports : List Port} :
  readPorts service v = .ok ports ↔ readPorts service w = .ok ports
  := by
  cases same with
  | intro each =>
    rw [readPorts_list, readPorts_list]
    apply mapM_eq_ok_congr
    apply each.imp
    rintro v w (rfl | same) port
    · rfl
    · apply same.readPort_eq_ok_iff

/-! ### Services in both forms -/

/-- Two mappings say the same about a service, in whatever forms. -/
structure SayTheSame (name : String) (es fs : List (Value × Value)) : Prop where
  environment : readEnvironment (field "environment" es) = readEnvironment (field "environment" fs)
  labels : readEnvironment (field "labels" es) = readEnvironment (field "labels" fs)
  dependsOn : readDependencies name (field "depends_on" es)
    = readDependencies name (field "depends_on" fs)
  healthCheck : ∀ check, readHealthCheck name (field "healthcheck" es) = .ok check
    ↔ readHealthCheck name (field "healthcheck" fs) = .ok check
  ports : ∀ ports, readPorts name (field "ports" es) = .ok ports
    ↔ readPorts name (field "ports" fs) = .ok ports
  /-- All other fields have one form only. -/
  others : ∀ key ∉ ["environment", "labels", "depends_on", "healthcheck", "ports"],
    field key es = field key fs

namespace SayTheSame

variable {name : String} {es fs : List (Value × Value)} {s : Service}

theorem symm (same : SayTheSame name es fs) :
  SayTheSame name fs es
  where
  environment := same.environment.symm
  labels := same.labels.symm
  dependsOn := same.dependsOn.symm
  healthCheck check := (same.healthCheck check).symm
  ports ports := (same.ports ports).symm
  others key one := (same.others key one).symm

/-- What one of the mappings declares, the other one declares, too. -/
theorem declares (same : SayTheSame name es fs) (declares : Declares name es s) :
  Declares name fs s
  where
  named := declares.named
  image := same.others "image" (by decide) ▸ declares.image
  command := same.others "command" (by decide) ▸ declares.command
  entrypoint := same.others "entrypoint" (by decide) ▸ declares.entrypoint
  runs := same.others "image" (by decide) ▸ declares.runs
  restart := same.others "restart" (by decide) ▸ declares.restart
  environment := same.environment.symm.trans declares.environment
  envFiles := same.others "env_file" (by decide) ▸ declares.envFiles
  ports := (same.ports s.ports).mp declares.ports
  healthCheck := (same.healthCheck s.healthCheck).mp declares.healthCheck
  dependsOn := same.dependsOn.symm.trans declares.dependsOn
  profiles := same.others "profiles" (by decide) ▸ declares.profiles
  labels := same.labels.symm.trans declares.labels
  workingDir := same.others "working_dir" (by decide) ▸ declares.workingDir
  containerName := same.others "container_name" (by decide) ▸ declares.containerName

end SayTheSame

/-- Both fields that hold variables are read alike. -/
theorem readEnvironment_replaced {es fs : List (Value × Value)} (replaced : Replaced SameField es fs)
    {key : String} (own : key = "environment" ∨ key = "labels") :
  readEnvironment (field key es) = readEnvironment (field key fs)
  := by
  rcases replaced.field_cases key with same | same
  · rw [same]
  · cases same with
    | assignments _ same => apply same.readEnvironment_eq.symm
    | _ other => simp [other] at own

theorem sayTheSame_of_replaced {es fs : List (Value × Value)} (replaced : Replaced SameField es fs)
    (name : String) :
  SayTheSame name es fs
  where
  environment := readEnvironment_replaced replaced (.inl rfl)
  labels := readEnvironment_replaced replaced (.inr rfl)
  dependsOn := by
    rcases replaced.field_cases "depends_on" with same | same
    · rw [same]
    · cases same with
      | dependencies _ same => apply (same.readDependencies_eq name).symm
      | _ other => simp at other
  healthCheck check := by
    rcases replaced.field_cases "healthcheck" with same | same
    · rw [same]
    · cases same with
      | healthCheck _ same => apply same.readHealthCheck_eq_ok_iff
      | _ other => simp at other
  ports ports := by
    rcases replaced.field_cases "ports" with same | same
    · rw [same]
    · cases same with
      | ports _ same => apply same.readPorts_eq_ok_iff
      | _ other => simp at other
  others key one := by
    symm
    apply replaced.field_eq
    rintro v w same
    apply one
    cases same <;> simp_all

/-- A service in which short forms are replaced by the long ones that say the same is read as the
same service, if it is read at all. -/
theorem readService_replaced {es fs : List (Value × Value)} (replaced : Replaced SameField es fs)
    (name : String) (s : Service) :
  readService name (.map es) = .ok s ↔ readService name (.map fs) = .ok s
  := by
  have same := sayTheSame_of_replaced replaced name
  simp only [readService, readFields_eq_ok_iff]
  exact ⟨same.declares, same.symm.declares⟩

end Descriptor

/-! ### A portal in both forms -/

namespace Sample

open Value Descriptor

/-- A portal, in short forms wherever there are any. -/
def portalBriefly : List (Value × Value) := [
  (.str "image", .str "portal"),
  (.str "environment", .list [.str "MODE=a=b", .str "LEVEL=1", .str "MODE=c/d="]),
  (.str "labels", .list [.str "owner="]),
  (.str "ports", .list [.str "0.0.0.0:8080:080/tcp", .int 9000]),
  (.str "depends_on", .list [.str "db", .str "cache", .str "db"]),
  (.str "healthcheck", .map [(.str "retries", .int 5),
    (.str "test", .list [.str "probe", .str "CMD"])])]

/-- The same portal in long forms. -/
def portalAtLength : List (Value × Value) := [
  (.str "image", .str "portal"),
  (.str "environment", .map [(.str "MODE", .str "c/d="), (.str "LEVEL", .str "1")]),
  (.str "labels", .map [(.str "owner", .str "")]),
  (.str "ports", .list [
    .map [(.str "target", .int 80), (.str "published", .str "8080"),
      (.str "host_ip", .str "0.0.0.0")],
    .map [(.str "protocol", .str "tcp"), (.str "target", .int 9000)]]),
  (.str "depends_on", .map [(.str "db", .null),
    (.str "cache", .map [(.str "condition", .str "service_healthy")])]),
  (.str "healthcheck", .map [(.str "retries", .int 5),
    (.str "test", .list [.str "CMD", .str "probe", .str "CMD"])])]

/-- The portal that is declared. -/
def portal : Service where
  name := "portal"
  image := "portal"
  environment := ⟨[("MODE", "c/d="), ("LEVEL", "1")], by decide⟩
  labels := ⟨[("owner", "")], by decide⟩
  ports := [⟨80, some 8080, some "0.0.0.0", "tcp"⟩, ⟨9000, none, none, "tcp"⟩]
  dependsOn := ⟨[("db", .healthy), ("cache", .healthy)], by decide⟩
  healthCheck := some {
    test := ["CMD", "probe", "CMD"]
    interval := defaultInterval
    timeout := defaultInterval
    retries := 5
    startPeriod := noTime
    disabled := false }

theorem declares_portalBriefly :
  Declares "portal" portalBriefly portal
  where
  named := rfl
  image := rfl
  command := rfl
  entrypoint := rfl
  runs := .inl rfl
  restart := rfl
  environment := rfl
  envFiles := ⟨[], rfl, rfl, rfl⟩
  ports := by rfl
  healthCheck := rfl
  dependsOn := rfl
  profiles := ⟨[], rfl, rfl⟩
  labels := rfl
  workingDir := rfl
  containerName := rfl

theorem sameVariables_portal :
  SameVariables (field "environment" portalBriefly) (field "environment" portalAtLength)
  := by
  have sumsUp : Table.SumsUp [("MODE", "a=b"), ("LEVEL", "1"), ("MODE", "c/d=")]
      [("MODE", "c/d="), ("LEVEL", "1")] := by
    refine ⟨rfl, List.forall_mem_cons.mpr ⟨?_, List.forall_mem_singleton.mpr ?_⟩⟩
    · exact ⟨[("MODE", "a=b"), ("LEVEL", "1")], [], rfl, nofun⟩
    · exact ⟨[("MODE", "a=b")], [("MODE", "c/d=")], rfl, by decide⟩
  apply SameVariables.intro (by decide) sumsUp

theorem sameLabels_portal :
  SameVariables (field "labels" portalBriefly) (field "labels" portalAtLength)
  := by
  have sumsUp : Table.SumsUp [("owner", "")] [("owner", "")] :=
    ⟨rfl, List.forall_mem_singleton.mpr ⟨[], [], rfl, nofun⟩⟩
  apply SameVariables.intro (by decide) sumsUp

theorem samePorts_portal :
  SamePorts (field "ports" portalBriefly) (field "ports" portalAtLength)
  := by
  apply SamePorts.intro
  apply List.Forall₂.cons
  · right
    have read : PortParts.port? ⟨"080", some "8080", some "0.0.0.0", some "tcp"⟩
      = some ⟨80, some 8080, some "0.0.0.0", "tcp"⟩ := rfl
    apply SamePort.intro rfl rfl (PortParts.separable_of_port? read ?_ ?_)
    · exact ⟨⟨.int 80, rfl, .number rfl⟩, .some (.text "8080"), rfl, rfl⟩
    · rintro _ ⟨⟩
      exact ⟨by decide, nofun⟩
    · rintro _ ⟨⟩
      decide
  · apply List.Forall₂.cons _ .nil
    right
    have read : PortParts.port? ⟨"9000", none, none, none⟩ = some ⟨9000, none, none, "tcp"⟩ := rfl
    apply SamePort.intro rfl rfl (PortParts.separable_of_port? read ?_ ?_)
    · exact ⟨⟨.int 9000, rfl, .number rfl⟩, .none, rfl, rfl⟩
    · rintro _ ⟨⟩
    · rintro _ ⟨⟩

theorem sameDependencies_portal :
  SameDependencies (field "depends_on" portalBriefly) (field "depends_on" portalAtLength)
  := by
  apply @SameDependencies.intro ["db", "cache", "db"] _ rfl
  refine List.forall_mem_cons.mpr ⟨.null, List.forall_mem_singleton.mpr ?_⟩
  apply WaitsForHealth.named rfl

theorem sameHealthCheck_portal :
  SameHealthCheck (field "healthcheck" portalBriefly) (field "healthcheck" portalAtLength)
  := by
  apply SameHealthCheck.intro
  apply List.Forall₂.cons ⟨rfl, .inl rfl⟩
  apply List.Forall₂.cons ⟨rfl, .inr ⟨"test", rfl, rfl, .words (by decide)⟩⟩ .nil

theorem replaced_portal :
  Replaced SameField portalBriefly portalAtLength
  := by
  apply List.Forall₂.cons ⟨rfl, .inl rfl⟩
  apply List.Forall₂.cons ⟨rfl, .inr ⟨_, rfl, .assignments (.inl rfl) sameVariables_portal⟩⟩
  apply List.Forall₂.cons ⟨rfl, .inr ⟨_, rfl, .assignments (.inr rfl) sameLabels_portal⟩⟩
  apply List.Forall₂.cons ⟨rfl, .inr ⟨_, rfl, .ports rfl samePorts_portal⟩⟩
  apply List.Forall₂.cons ⟨rfl, .inr ⟨_, rfl, .dependencies rfl sameDependencies_portal⟩⟩
  apply List.Forall₂.cons ⟨rfl, .inr ⟨_, rfl, .healthCheck rfl sameHealthCheck_portal⟩⟩ .nil

end Sample

/-- Both forms of the portal are read as the portal. -/
theorem Descriptor.readService_replaced_portal :
  Replaced SameField Sample.portalBriefly Sample.portalAtLength
    ∧ readService "portal" (.map Sample.portalBriefly) = .ok Sample.portal
    ∧ readService "portal" (.map Sample.portalAtLength) = .ok Sample.portal
  := by
  have short : readService "portal" (.map Sample.portalBriefly) = .ok Sample.portal :=
    readFields_eq_ok_iff.mpr Sample.declares_portalBriefly
  refine ⟨Sample.replaced_portal, short, ?_⟩
  apply (readService_replaced Sample.replaced_portal "portal" Sample.portal).mp short

end Muster
