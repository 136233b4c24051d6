import Muster.Proofs.Descriptor.Shown
import Muster.Proofs.Descriptor.Sound
/-!
# Normal forms read back

The normal form of a service, with the variables of a context put in, is read field by field.
`Service.Rereads` says which service comes out: its texts are what those of the first service turn
into, but there is no field for a limit on restarts, none for a health check that is switched off,
and dependencies cannot be read at all.
-/

namespace Muster

open Value Interpolation

variable {context : Table String}

namespace Value

/-! ### Scalars -/

theorem isInert_bool (b : Bool) :
  IsInert (bool b)
  := by simp [IsInert]

theorem isInert_int (n : Int) :
  IsInert (int n)
  := by simp [IsInert]

theorem isInert_float (x : Float) :
  IsInert (float x)
  := by simp [IsInert]

theorem isInert_str {s : String} :
  IsInert (str s) ↔ Inert s
  := by rw [IsInert]

/-! ### Texts that have turned -/

theorem Turns.unique {s t u : String} (one : Turns context s t) (other : Turns context s u) :
  t = u
  := by
  obtain ⟨_, ok⟩ := one
  obtain ⟨_, ok'⟩ := other
  cases ok.symm.trans ok'
  rfl

theorem turned_unique {l k k' : List String} (one : List.Forall₂ (Turns context) l k)
    (other : List.Forall₂ (Turns context) l k') :
  k = k'
  := by
  have unique : Relator.RightUnique (Turns context) := fun _ _ _ => Turns.unique
  exact List.right_unique_forall₂' unique one other

theorem turned_iff {l k k' : List String} (turned : List.Forall₂ (Turns context) l k) :
  List.Forall₂ (Turns context) l k' ↔ k = k'
  := by
  constructor
  · exact turned_unique turned
  · rintro rfl
    exact turned

/-- What a table of texts turns into; keys that become equal are one key. -/
def TableTurns (context : Table String) (t u : Table String) : Prop :=
  ∃ fs, u = Table.ofList fs ∧ List.Forall₂
    (fun e f => Turns context e.1 f.1 ∧ Turns context e.2 f.2) t.entries fs

theorem TableTurns.unique {t u u' : Table String} (one : TableTurns context t u)
    (other : TableTurns context t u') :
  u = u'
  := by
  obtain ⟨fs, rfl, turned⟩ := one
  obtain ⟨fs', rfl, turned'⟩ := other
  have unique : Relator.RightUnique fun e f : String × String =>
      Turns context e.1 f.1 ∧ Turns context e.2 f.2 :=
    fun _ _ _ one other => Prod.ext (one.1.unique other.1) (one.2.unique other.2)
  rw [List.right_unique_forall₂' unique turned turned']

end Value

/-! ### Fields -/

namespace Descriptor

variable {l l' : List String} {t u : Table String} {w : Option Value}

theorem readCommand_eq_ok_iff (became : Option.Rel (Becomes context) (shownWords l) w) :
  readCommand (w.getD .null) = .ok l' ↔ List.Forall₂ (Turns context) l l'
  := by
  obtain ⟨k, rfl, turned⟩ := exists_of_shownWords became
  rw [readCommand_shownWords, Except.ok.injEq, turned_iff turned]

theorem textFaults_texts (name : String) (l : List String) :
  textFaults name (l.map .str) = []
  := by
  rw [textFaults, List.filterMap_eq_nil_iff]
  rintro ⟨v, i⟩ mem
  obtain ⟨s, -, rfl⟩ := List.mem_map.mp (List.fst_mem_of_mem_zipIdx mem)
  rfl

theorem envFiles_iff (became : Option.Rel (Becomes context) (shownWords l) w) :
  (∃ items, (w.getD .null).toList = .ok items ∧ textFaults "env_file" items = []
      ∧ l' = items.filterMap fun v => v.toText.toOption)
    ↔ List.Forall₂ (Turns context) l l'
  := by
  obtain ⟨k, rfl, turned⟩ := exists_of_shownWords became
  have texts : (k.map str).filterMap (fun v => v.toText.toOption) = k := by
    rw [List.filterMap_map]
    exact List.filterMap_some
  simp only [toList_shownWords, Except.ok.injEq, exists_eq_left', textFaults_texts, texts, true_and,
    turned_iff turned]
  exact eq_comm

theorem profiles_iff (became : Option.Rel (Becomes context) (shownWords l) w) :
  (∃ items, (w.getD .null).toList = .ok items ∧ l' = items.map text)
    ↔ List.Forall₂ (Turns context) l l'
  := by
  obtain ⟨k, rfl, turned⟩ := exists_of_shownWords became
  have texts : (k.map str).map text = k := by simp [Function.comp_def]
  simp only [toList_shownWords, Except.ok.injEq, exists_eq_left', texts, turned_iff turned]
  exact eq_comm

theorem forall₂_exists_iff {α β γ : Type} {R : α → β → Prop} {S : β → γ → Prop} {as : List α}
    {cs : List γ} :
  List.Forall₂ (fun a c => ∃ b, R a b ∧ S b c) as cs
    ↔ ∃ bs, List.Forall₂ R as bs ∧ List.Forall₂ S bs cs
  := by
  constructor
  · intro related
    induction related with
    | nil => exact ⟨[], .nil, .nil⟩
    | cons here _ ih =>
      obtain ⟨b, first, second⟩ := here
      obtain ⟨bs, firsts, seconds⟩ := ih
      exact ⟨b :: bs, .cons first firsts, .cons second seconds⟩
  · rintro ⟨bs, firsts, seconds⟩
    induction firsts generalizing cs with
    | nil =>
      cases seconds
      exact .nil
    | cons first _ ih =>
      cases seconds with
      | cons second seconds => exact .cons ⟨_, first, second⟩ (ih seconds)

/-- The port that the short form of a port is read as, once variables are put in. -/
def PortRereads (context : Table String) (p p' : Port) : Prop :=
  ∃ text, Turns context p.text text ∧ readShortPort? text = some p'

theorem readPorts_eq_ok_iff {service : String} {ports ports' : List Port}
    (became : Option.Rel (Becomes context) (shownWords (ports.map (·.text))) w) :
  readPorts service (w.getD .null) = .ok ports' ↔ List.Forall₂ (PortRereads context) ports ports'
  := by
  obtain ⟨k, rfl, turned⟩ := exists_of_shownWords became
  rw [readPorts_shownWords]
  constructor
  · exact fun read => forall₂_exists_iff.mpr ⟨k, List.forall₂_map_left_iff.mp turned, read⟩
  · intro reread
    obtain ⟨texts, turned', read⟩ := forall₂_exists_iff.mp reread
    rwa [turned_unique turned (List.forall₂_map_left_iff.mpr turned')]

theorem readEnvironment_eq_ok_iff (became : Option.Rel (Becomes context) (shownTable t) w) :
  readEnvironment (w.getD .null) = .ok u ↔ TableTurns context t u
  := by
  obtain ⟨fs, rfl, turned⟩ := exists_of_shownTable became
  rw [readEnvironment_shownTable, Except.ok.injEq]
  constructor
  · rintro rfl
    exact ⟨fs, rfl, turned⟩
  · exact TableTurns.unique ⟨fs, rfl, turned⟩

theorem toOptionalText_eq_ok_iff {s s' : Option String}
    (became : Option.Rel (Becomes context) (s.map .str) w) :
  (w.getD .null).toOptionalText = .ok s' ↔ Option.Rel (Turns context) s s'
  := by
  obtain ⟨r, rfl, turned⟩ := exists_of_shownText became
  rw [toOptionalText_shownText, Except.ok.injEq]
  constructor
  · rintro rfl
    exact turned
  · intro other
    cases turned with
    | none =>
      cases other
      rfl
    | some here =>
      cases other with
      | some there => rw [here.unique there]

theorem imageText_eq_iff {image image' : String}
    (became : Option.Rel (Becomes context) (shownImage image) w) :
  image' = imageText (w.getD .null) ↔ Turns context image image'
  := by
  by_cases none : image = ""
  · subst none
    cases became
    have inert : Inert "" := inert_of_not_mem (by decide)
    constructor
    · rintro rfl
      exact ⟨[], interpolate_of_inert inert context⟩
    · exact fun turns => turns.eq inert
  · rw [shownImage, showUnless, if_neg (by simpa using none)] at became
    obtain ⟨becomes⟩ := became
    obtain ⟨t, rfl, turns⟩ := becomes.of_str
    rw [Option.getD_some, imageText_str]
    constructor
    · rintro rfl
      exact turns
    · exact fun other => other.unique turns

theorem imageText_ne_empty_iff {image : String}
    (became : Option.Rel (Becomes context) (shownImage image) w) :
  (w.getD .null).isGiven = true ↔ imageText (w.getD .null) ≠ ""
  := by
  rw [shownImage, showUnless] at became
  split at became
  · cases became
    simp [isGiven, imageText]
  · obtain ⟨becomes⟩ := became
    obtain ⟨t, rfl, -⟩ := becomes.of_str
    rw [Option.getD_some, imageText_str]
    simp [isGiven]

theorem inert_name (policy : RestartPolicy) :
  Inert policy.name
  := by
  apply inert_of_not_mem
  cases policy <;> decide

theorem readRestart_name (service : String) (policy : RestartPolicy) :
  readRestart service (.str policy.name) = .ok (policy, 0)
  := by
  cases policy <;> rfl

theorem readRestart_eq_ok_iff {service : String} {policy policy' : RestartPolicy} {limit : Int}
    (became : Option.Rel (Becomes context) (showUnless (policy == .never) (.str policy.name)) w) :
  readRestart service (w.getD .null) = .ok (policy', limit) ↔ policy' = policy ∧ limit = 0
  := by
  have read : readRestart service (w.getD .null) = .ok (policy, 0) := by
    rw [showUnless] at became
    split at became
    · next same =>
      cases became
      rw [eq_of_beq same]
      rfl
    · obtain ⟨becomes⟩ := became
      rw [becomes.eq (isInert_str.mpr (inert_name policy))]
      exact readRestart_name service policy
  rw [read, Except.ok.injEq, Prod.mk.injEq]
  exact and_congr eq_comm eq_comm

/-- Dependencies are read back only where there are none. -/
theorem readDependencies_eq_ok_iff {service : String} {conditions conditions' : Table Condition}
    (became : Option.Rel (Becomes context) (shownTable (conditions.map Condition.name)) w) :
  readDependencies service (w.getD .null) = .ok conditions'
    ↔ conditions.entries = [] ∧ conditions'.entries = []
  := by
  constructor
  · intro read
    obtain ⟨fs, rfl, turned⟩ := exists_of_shownTable became
    -- The options that are written are names of conditions, which no variable changes.
    have given : ∀ e ∈ (Table.ofList fs).entries, e.2 ≠ "" := by
      intro f mem
      obtain ⟨e, mem', -, turns⟩ := exists_of_forall₂ turned.flip (Table.mem_of_mem_ofList mem)
      obtain ⟨c, -, rfl⟩ := List.mem_map.mp mem'
      have free : '$' ∉ c.2.name.toList ∧ c.2.name ≠ "" := by cases c.2 <;> decide
      rw [turns.eq (inert_of_not_mem free.1)]
      exact free.2
    have none := readDependencies_shownTable given read
    rw [Table.entries_ofList_eq_nil_iff] at none
    subst none
    rw [List.forall₂_nil_right_iff, Table.map, List.map_eq_nil_iff] at turned
    cases read
    exact ⟨turned, rfl⟩
  · rintro ⟨none, none'⟩
    have hidden : shownTable (conditions.map Condition.name) = .none := by
      simp [shownTable, showUnless, Table.map, none]
    rw [hidden] at became
    cases became
    have same : conditions' = ∅ := by
      rw [← Table.ofList_entries conditions', none']
      rfl
    rw [same]
    rfl

end Descriptor

/-! ### Health checks -/

theorem Descriptor.readTest_eq_ok_iff {service : String} {l test : List String} {w : Option Value}
    (became : Option.Rel (Becomes context) (shownWords l) w) :
  Descriptor.readTest service (w.getD .null) = .ok test ↔ ∃ l', List.Forall₂ (Turns context) l l'
    ∧ test = if l'.head?.all Descriptor.isTestKind then l' else "CMD" :: l'
  := by
  obtain ⟨k, rfl, turned⟩ := exists_of_shownWords became
  rw [readTest_shownWords, Except.ok.injEq]
  constructor
  · rintro rfl
    exact ⟨k, turned, rfl⟩
  · rintro ⟨l', turned', rfl⟩
    rw [turned_unique turned turned']

/-- A time that is read back: one that counts as the default is not written. -/
def settled (default x : Float) : Float :=
  if x == default then default else x

/-- The health check that a normal form is read as, once variables are put in.  Its test says how
it is run. -/
structure HealthCheck.Rereads (context : Table String) (c c' : HealthCheck) : Prop where
  test : ∃ l, List.Forall₂ (Turns context) c.test l
    ∧ c'.test = if l.head?.all Descriptor.isTestKind then l else "CMD" :: l
  interval : c'.interval = settled Descriptor.defaultInterval c.interval
  timeout : c'.timeout = settled Descriptor.defaultInterval c.timeout
  retries : c'.retries = c.retries
  startPeriod : c'.startPeriod = settled Descriptor.noTime c.startPeriod
  /-- No field switches the check off. -/
  disabled : c'.disabled = false

namespace Descriptor

theorem ofValue_showUnless {default x : Float} {w : Option Value}
    (became : Option.Rel (Becomes context) (showUnless (x == default) (.float x)) w) :
  Duration.ofValue default (w.getD .null) = .ok (settled default x)
  := by
  rw [settled]
  rw [showUnless] at became
  split at became
  · next same =>
    cases became
    rw [if_pos same]
    rfl
  · next other =>
    obtain ⟨becomes⟩ := became
    rw [if_neg other, becomes.eq (isInert_float x)]
    rfl

theorem readRetries_showUnless {service : String} {n : Int} {w : Option Value}
    (became : Option.Rel (Becomes context) (showUnless (n == defaultRetries) (.int n)) w) :
  readRetries service (w.getD (.int defaultRetries)) = .ok n
  := by
  rw [showUnless] at became
  split at became
  · next same =>
    cases became
    rw [beq_iff_eq.mp same]
    rfl
  · obtain ⟨becomes⟩ := became
    rw [becomes.eq (isInert_int n)]
    rfl

theorem readHealthCheck_eq_ok_iff {service : String} {c c' : Option HealthCheck} {w : Option Value}
    (became : Option.Rel (Becomes context) (c.map HealthCheck.normal) w) :
  readHealthCheck service (w.getD .null) = .ok c' ↔ Option.Rel (HealthCheck.Rereads context) c c'
  := by
  cases c with
  | none =>
    cases became
    change Except.ok none = Except.ok c' ↔ _
    rw [Except.ok.injEq, eq_comm]
    constructor
    · rintro rfl
      exact .none
    · intro same
      cases same
      rfl
  | some c =>
    obtain ⟨becomes⟩ := became
    rw [HealthCheck.normal_eq] at becomes
    obtain ⟨entries, rfl, fields⟩ := becomes.of_fields c.nodup_keys_shown c.inert_keys_shown
    have test := fields.shown "test" (shownWords c.test) (by simp [HealthCheck.shown])
    have interval := fields.shown "interval"
      (showUnless (c.interval == defaultInterval) (.float c.interval)) (by simp [HealthCheck.shown])
    have timeout := fields.shown "timeout"
      (showUnless (c.timeout == defaultInterval) (.float c.timeout)) (by simp [HealthCheck.shown])
    have retries := fields.shown "retries"
      (showUnless (c.retries == defaultRetries) (.int c.retries)) (by simp [HealthCheck.shown])
    have startPeriod := fields.shown "start_period"
      (showUnless (c.startPeriod == noTime) (.float c.startPeriod)) (by simp [HealthCheck.shown])
    have disable := fields.missing "disable" (by simp [HealthCheck.shown])
    simp only [Option.getD_some, readHealthCheck_map_eq_ok_iff, field, readTest_eq_ok_iff test,
      ofValue_showUnless interval, ofValue_showUnless timeout, ofValue_showUnless startPeriod,
      readRetries_showUnless retries, disable, Except.ok.injEq]
    constructor
    · rintro ⟨c', rfl, test, retries, interval, timeout, startPeriod, disabled⟩
      exact .some ⟨test, interval.symm, timeout.symm, retries.symm, startPeriod.symm, disabled⟩
    · intro reread
      cases reread with
      | @some _ c' r =>
        exact ⟨c', rfl, r.test, r.retries.symm, r.interval.symm, r.timeout.symm, r.startPeriod.symm,
          r.disabled⟩

end Descriptor

/-! ### Services -/

namespace Service

/-- The service that a normal form is read as, once variables are put in. -/
structure Rereads (context : Table String) (s s' : Service) : Prop where
  image : Turns context s.image s'.image
  command : List.Forall₂ (Turns context) s.command s'.command
  entrypoint : List.Forall₂ (Turns context) s.entrypoint s'.entrypoint
  /-- There still is something to run. -/
  runs : s'.image ≠ "" ∨ s'.command ≠ [] ∨ s'.entrypoint ≠ []
  workingDir : Option.Rel (Turns context) s.workingDir s'.workingDir
  containerName : Option.Rel (Turns context) s.containerName s'.containerName
  environment : TableTurns context s.environment s'.environment
  envFiles : List.Forall₂ (Turns context) s.envFiles s'.envFiles
  ports : List.Forall₂ (Descriptor.PortRereads context) s.ports s'.ports
  restart : s'.restart = s.restart
  /-- There is no field for a limit. -/
  maxRestarts : s'.maxRestarts = 0
  healthCheck : Option.Rel (HealthCheck.Rereads context) s.healthCheck s'.healthCheck
  /-- Dependencies are not read back. -/
  independent : s.dependsOn.entries = [] ∧ s'.dependsOn.entries = []
  profiles : List.Forall₂ (Turns context) s.profiles s'.profiles
  labels : TableTurns context s.labels s'.labels

/-- What the fields of a normal form declare after variables have been put in. -/
theorem declares_iff_rereads {s s' : Service} {name : String} {entries : List (Value × Value)}
    (fields : FieldsBecome context s.shown entries) :
  Descriptor.Declares name entries s' ↔ s'.name = name ∧ s.Rereads context s'
  := by
  have image := fields.shown "image" (shownImage s.image) (by simp [shown])
  have command := fields.shown "command" (shownWords s.command) (by simp [shown])
  have entrypoint := fields.shown "entrypoint" (shownWords s.entrypoint) (by simp [shown])
  have workingDir := fields.shown "working_dir" (s.workingDir.map .str) (by simp [shown])
  have containerName := fields.shown "container_name" (s.containerName.map .str) (by simp [shown])
  have environment := fields.shown "environment" (shownTable s.environment) (by simp [shown])
  have envFiles := fields.shown "env_file" (shownWords s.envFiles) (by simp [shown])
  have ports := fields.shown "ports" (shownWords (s.ports.map (·.text))) (by simp [shown])
  have restart := fields.shown "restart" (showUnless (s.restart == .never) (.str s.restart.name))
    (by simp [shown])
  have healthCheck := fields.shown "healthcheck" (s.healthCheck.map HealthCheck.normal)
    (by simp [shown])
  have dependsOn := fields.shown "depends_on" (shownTable (s.dependsOn.map Condition.name))
    (by simp [shown])
  have profiles := fields.shown "profiles" (shownWords s.profiles) (by simp [shown])
  have labels := fields.shown "labels" (shownTable s.labels) (by simp [shown])
  constructor
  · intro d
    refine ⟨d.named, ?_⟩
    exact {
      image := (Descriptor.imageText_eq_iff image).mp d.image
      command := (Descriptor.readCommand_eq_ok_iff command).mp d.command
      entrypoint := (Descriptor.readCommand_eq_ok_iff entrypoint).mp d.entrypoint
      runs := d.runs.imp_left fun given => by
        rw [d.image]
        exact (Descriptor.imageText_ne_empty_iff image).mp given
      workingDir := (Descriptor.toOptionalText_eq_ok_iff workingDir).mp d.workingDir
      containerName := (Descriptor.toOptionalText_eq_ok_iff containerName).mp d.containerName
      environment := (Descriptor.readEnvironment_eq_ok_iff environment).mp d.environment
      envFiles := (Descriptor.envFiles_iff envFiles).mp d.envFiles
      ports := (Descriptor.readPorts_eq_ok_iff ports).mp d.ports
      restart := ((Descriptor.readRestart_eq_ok_iff restart).mp d.restart).1
      maxRestarts := ((Descriptor.readRestart_eq_ok_iff restart).mp d.restart).2
      healthCheck := (Descriptor.readHealthCheck_eq_ok_iff healthCheck).mp d.healthCheck
      independent := (Descriptor.readDependencies_eq_ok_iff dependsOn).mp d.dependsOn
      profiles := (Descriptor.profiles_iff profiles).mp d.profiles
      labels := (Descriptor.readEnvironment_eq_ok_iff labels).mp d.labels }
  · rintro ⟨named, r⟩
    have hImage := (Descriptor.imageText_eq_iff image).mpr r.image
    exact {
      named := named
      image := hImage
      command := (Descriptor.readCommand_eq_ok_iff command).mpr r.command
      entrypoint := (Descriptor.readCommand_eq_ok_iff entrypoint).mpr r.entrypoint
      runs := r.runs.imp_left fun given => by
        rw [hImage] at given
        exact (Descriptor.imageText_ne_empty_iff image).mpr given
      restart := (Descriptor.readRestart_eq_ok_iff restart).mpr ⟨r.restart, r.maxRestarts⟩
      environment := (Descriptor.readEnvironment_eq_ok_iff environment).mpr r.environment
      envFiles := (Descriptor.envFiles_iff envFiles).mpr r.envFiles
      ports := (Descriptor.readPorts_eq_ok_iff ports).mpr r.ports
      healthCheck := (Descriptor.readHealthCheck_eq_ok_iff healthCheck).mpr r.healthCheck
      dependsOn := (Descriptor.readDependencies_eq_ok_iff dependsOn).mpr r.independent
      profiles := (Descriptor.profiles_iff profiles).mpr r.profiles
      labels := (Descriptor.readEnvironment_eq_ok_iff labels).mpr r.labels
      workingDir := (Descriptor.toOptionalText_eq_ok_iff workingDir).mpr r.workingDir
      containerName := (Descriptor.toOptionalText_eq_ok_iff containerName).mpr r.containerName }

/-- The normal form of a service, with variables put in, is read as the service it rereads as. -/
theorem readService_eq_ok_iff {s s' : Service} {name : String} {w : Value}
    (becomes : Becomes context s.normal w) :
  Descriptor.readService name w = .ok s' ↔ s'.name = name ∧ s.Rereads context s'
  := by
  rw [normal_eq] at becomes
  obtain ⟨entries, rfl, fields⟩ := becomes.of_fields s.nodup_keys_shown s.inert_keys_shown
  rw [Descriptor.readService, Descriptor.readFields_eq_ok_iff, declares_iff_rereads fields]

end Service

end Muster
