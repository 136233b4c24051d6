import Muster.Proofs.Descriptor.Reread
import Muster.Proofs.Descriptor.Sound
/-!
# Services that last

A service lasts if its normal form is read back as the same service, whatever the variables are.
For that its texts have to be inert and its ports legible, and it may have no limit on restarts, no
health check that is switched off and no dependencies.
-/

namespace Muster

open Value Interpolation

variable {context : Table String}

/-! ### Sameness -/

/-- Whether two times are the same: a zero has two signs. -/
def SameTime (x y : Float) : Prop :=
  x = y ∨ (x == y) = true

theorem sameTime_settled (default x : Float) :
  SameTime x (settled default x)
  := by
  rw [settled]
  split
  · next same => exact .inr same
  · exact .inl rfl

/-- Health checks with the same fields. -/
structure HealthCheck.Same (c c' : HealthCheck) : Prop where
  test : c'.test = c.test
  interval : SameTime c.interval c'.interval
  timeout : SameTime c.timeout c'.timeout
  retries : c'.retries = c.retries
  startPeriod : SameTime c.startPeriod c'.startPeriod
  disabled : c'.disabled = c.disabled

namespace Service

/-- Services with the same fields; their tables hold the same under every key. -/
structure Same (s s' : Service) : Prop where
  name : s'.name = s.name
  image : s'.image = s.image
  command : s'.command = s.command
  entrypoint : s'.entrypoint = s.entrypoint
  workingDir : s'.workingDir = s.workingDir
  containerName : s'.containerName = s.containerName
  environment : ∀ key, s'.environment.get? key = s.environment.get? key
  envFiles : s'.envFiles = s.envFiles
  ports : s'.ports = s.ports
  restart : s'.restart = s.restart
  maxRestarts : s'.maxRestarts = s.maxRestarts
  healthCheck : Option.Rel HealthCheck.Same s.healthCheck s'.healthCheck
  dependsOn : ∀ key, s'.dependsOn.get? key = s.dependsOn.get? key
  profiles : s'.profiles = s.profiles
  labels : ∀ key, s'.labels.get? key = s.labels.get? key

/-- The texts of a service, as they stand in its normal form. -/
def texts (s : Service) : List String :=
  s.name :: s.image :: s.command ++ s.entrypoint ++ s.workingDir.toList ++ s.containerName.toList
    ++ s.environment.keys ++ s.environment.values ++ s.envFiles ++ s.ports.map (·.text)
    ++ s.healthCheck.toList.flatMap (·.test) ++ s.profiles ++ s.labels.keys ++ s.labels.values

theorem forall_mem_texts_iff {s : Service} {P : String → Prop} :
  (∀ text ∈ s.texts, P text)
    ↔ P s.name ∧ P s.image ∧ (∀ text ∈ s.command, P text) ∧ (∀ text ∈ s.entrypoint, P text)
      ∧ (∀ text ∈ s.workingDir.toList, P text) ∧ (∀ text ∈ s.containerName.toList, P text)
      ∧ (∀ text ∈ s.environment.keys, P text) ∧ (∀ text ∈ s.environment.values, P text)
      ∧ (∀ text ∈ s.envFiles, P text) ∧ (∀ text ∈ s.ports.map (·.text), P text)
      ∧ (∀ text ∈ s.healthCheck.toList.flatMap (·.test), P text)
      ∧ (∀ text ∈ s.profiles, P text) ∧ (∀ text ∈ s.labels.keys, P text)
      ∧ ∀ text ∈ s.labels.values, P text
  := by
  simp only [texts, List.cons_append, List.append_assoc, List.forall_mem_cons,
    List.forall_mem_append]

/-- What a service has to be for its normal form to be read back as it. -/
structure Lasting (s : Service) : Prop where
  inert : ∀ text ∈ s.texts, Inert text
  legible : ∀ p ∈ s.ports, p.IsLegible
  unlimited : s.maxRestarts = 0
  checked : ∀ c, s.healthCheck = some c → c.disabled = false
  independent : s.dependsOn.entries = []

end Service

/-! ### What lasts is inert -/

namespace Value

theorem inert_of_turned_option {t : Option String} (turned : Option.Rel (Turns ∅) t t) :
  ∀ s ∈ t.toList, Inert s
  := by
  cases t with
  | none => simp
  | some s =>
    obtain ⟨turns⟩ := turned
    simpa using turns.inert

/-- Where no variable is set, a table that turns into what holds the same is inert. -/
theorem inert_of_tableTurns {t u : Table String} (turned : TableTurns ∅ t u)
    (same : ∀ key, u.get? key = t.get? key) :
  (∀ s ∈ t.keys, Inert s) ∧ ∀ s ∈ t.values, Inert s
  := by
  obtain ⟨fs, rfl, turned⟩ := turned
  have kept : ∀ key ∈ t.keys, key ∈ (Table.ofList fs).keys := by
    intro key mem
    rwa [← Table.contains_iff, Table.contains, same, ← Table.contains, Table.contains_iff]
  obtain ⟨keys, -, values⟩ := Table.inert_of_turned turned kept
  refine ⟨keys, fun s mem => ?_⟩
  obtain ⟨⟨key, value⟩, mem', rfl⟩ := List.mem_map.mp mem
  have found := Table.get?_eq_some_iff.mpr mem'
  exact (values key value value found ((same key).trans found)).inert

end Value

theorem Port.legible_of_rereads {p : Port} (rereads : Descriptor.PortRereads ∅ p p) :
  Inert p.text ∧ p.IsLegible
  := by
  obtain ⟨text, turns, read⟩ := rereads
  rcases turns.inert_or_shorter with ⟨inert, rfl⟩ | shorter
  · exact ⟨inert, Port.readShortPort?_text_iff.mp read⟩
  · -- What is shorter than the short form of a port is no text for it.
    exact (Nat.not_lt.mpr (Port.length_text_le read) shorter).elim

namespace HealthCheck

theorem inert_of_rereads {c c' : HealthCheck} (rereads : c.Rereads ∅ c') (same : c.Same c') :
  (∀ s ∈ c.test, Inert s) ∧ c.disabled = false
  := by
  refine ⟨?_, same.disabled ▸ rereads.disabled⟩
  obtain ⟨l, turned, test⟩ := rereads.test
  rw [same.test] at test
  split at test
  · rw [← test] at turned
    exact inert_of_turned turned
  · -- A test that has got a word in front is longer than it was.
    have := turned.length_eq
    rw [test, List.length_cons] at this
    omega

end HealthCheck

namespace Service

variable {s s' : Service}

/-- A service lasts if, where no variable is set, its normal form is read back as the service. -/
theorem lasting_of_rereads (name : Inert s.name) (rereads : s.Rereads ∅ s') (same : s.Same s') :
  s.Lasting
  := by
  have image : Turns ∅ s.image s.image := same.image ▸ rereads.image
  have command : List.Forall₂ (Turns ∅) s.command s.command := same.command ▸ rereads.command
  have entrypoint : List.Forall₂ (Turns ∅) s.entrypoint s.entrypoint :=
    same.entrypoint ▸ rereads.entrypoint
  have workingDir : Option.Rel (Turns ∅) s.workingDir s.workingDir :=
    same.workingDir ▸ rereads.workingDir
  have containerName : Option.Rel (Turns ∅) s.containerName s.containerName :=
    same.containerName ▸ rereads.containerName
  have envFiles : List.Forall₂ (Turns ∅) s.envFiles s.envFiles := same.envFiles ▸ rereads.envFiles
  have ports : List.Forall₂ (Descriptor.PortRereads ∅) s.ports s.ports :=
    same.ports ▸ rereads.ports
  have profiles : List.Forall₂ (Turns ∅) s.profiles s.profiles := same.profiles ▸ rereads.profiles
  have environment := inert_of_tableTurns rereads.environment same.environment
  have labels := inert_of_tableTurns rereads.labels same.labels
  have legible : ∀ p ∈ s.ports, Inert p.text ∧ p.IsLegible :=
    fun p mem => Port.legible_of_rereads (List.forall₂_same.mp ports p mem)
  have check : ∀ c, s.healthCheck = some c → (∀ s ∈ c.test, Inert s) ∧ c.disabled = false := by
    intro c found
    have both := same.healthCheck
    have reread := rereads.healthCheck
    rw [found] at both reread
    generalize s'.healthCheck = back at both reread
    cases reread with
    | some reread =>
      cases both with
      | some both => exact HealthCheck.inert_of_rereads reread both
  refine ⟨?_, fun p mem => (legible p mem).2, ?_, fun c found => (check c found).2,
    rereads.independent.1⟩
  · have tests : ∀ text ∈ s.healthCheck.toList.flatMap (·.test), Inert text := by
      intro text mem
      obtain ⟨c, found, mem⟩ := List.mem_flatMap.mp mem
      exact (check c (Option.mem_toList.mp found)).1 text mem
    have shortForms : ∀ text ∈ s.ports.map (·.text), Inert text := by
      simpa using fun p mem => (legible p mem).1
    exact forall_mem_texts_iff.mpr ⟨name, image.inert, inert_of_turned command,
      inert_of_turned entrypoint, inert_of_turned_option workingDir,
      inert_of_turned_option containerName, environment.1, environment.2, inert_of_turned envFiles,
      shortForms, tests, inert_of_turned profiles, labels.1, labels.2⟩
  · rw [← same.maxRestarts, rereads.maxRestarts]

end Service

/-! ### What is inert lasts -/

namespace Value

theorem Turns.refl {s : String} (inert : Inert s) :
  Turns context s s
  := ⟨[], interpolate_of_inert inert context⟩

theorem turned_refl {l : List String} (inert : ∀ s ∈ l, Inert s) :
  List.Forall₂ (Turns context) l l
  := List.forall₂_same.mpr fun s mem => Turns.refl (inert s mem)

theorem turned_option_refl {t : Option String} (inert : ∀ s ∈ t.toList, Inert s) :
  Option.Rel (Turns context) t t
  := by
  cases t with
  | none => exact .none
  | some s => exact .some (Turns.refl (inert s (by simp)))

theorem TableTurns.refl {t : Table String} (keys : ∀ s ∈ t.keys, Inert s)
    (values : ∀ s ∈ t.values, Inert s) :
  TableTurns context t t
  := by
  refine ⟨t.entries, t.ofList_entries.symm, List.forall₂_same.mpr fun e mem => ⟨?_, ?_⟩⟩
  · exact Turns.refl (keys e.1 (List.mem_map_of_mem mem))
  · exact Turns.refl (values e.2 (List.mem_map_of_mem mem))

theorem allInert_iff {items : List Value} :
  AllInert items ↔ ∀ v ∈ items, IsInert v
  := by
  induction items with
  | nil => simp [AllInert]
  | cons v r ih => rw [AllInert, ih, List.forall_mem_cons]

theorem entriesInert_iff {entries : List (Value × Value)} :
  EntriesInert entries ↔ ∀ e ∈ entries, IsInert e.1 ∧ IsInert e.2
  := by
  induction entries with
  | nil => simp [EntriesInert]
  | cons e r ih => rw [EntriesInert, ih, List.forall_mem_cons, and_assoc]

theorem isInert_textList {l : List String} (inert : ∀ s ∈ l, Inert s) :
  IsInert (textList l)
  := by
  rw [textList, IsInert, allInert_iff]
  simpa [isInert_str] using inert

/-- Distinct inert keys with inert values make an inert mapping. -/
theorem isInert_keyed {es : List (String × Value)} (distinct : (es.map Prod.fst).Nodup)
    (inert : ∀ e ∈ es, Inert e.1 ∧ IsInert e.2) :
  IsInert (map (es.map keyed))
  := by
  rw [IsInert, entriesInert_iff, List.pairwise_map]
  constructor
  · intro e mem
    obtain ⟨e', mem', rfl⟩ := List.mem_map.mp mem
    exact ⟨isInert_str.mpr (inert e' mem').1, (inert e' mem').2⟩
  · rw [List.Nodup, List.pairwise_map] at distinct
    exact distinct.imp fun other => by simpa [keyed] using other

theorem isInert_textTable {t : Table String} (keys : ∀ s ∈ t.keys, Inert s)
    (values : ∀ s ∈ t.values, Inert s) :
  IsInert (textTable t)
  := by
  rw [entries_textTable]
  apply isInert_keyed (t.map str).nodup
  intro e mem
  obtain ⟨e', mem', rfl⟩ := List.mem_map.mp mem
  have value := values e'.2 (List.mem_map_of_mem mem')
  exact ⟨keys e'.1 (List.mem_map_of_mem mem'), isInert_str.mpr value⟩

/-- Fields are inert if what they show is. -/
theorem isInert_present {fields : List (String × Option Value)}
    (distinct : (fields.map Prod.fst).Nodup) (keys : ∀ key ∈ fields.map Prod.fst, Inert key)
    (values : ∀ e ∈ fields, ∀ v, e.2 = some v → IsInert v) :
  IsInert (map ((present fields).map keyed))
  := by
  have sublist := keys_present_sublist fields
  apply isInert_keyed (distinct.sublist sublist)
  intro e mem
  refine ⟨keys e.1 (sublist.subset (List.mem_map_of_mem mem)), ?_⟩
  obtain ⟨f, mem', found⟩ := List.mem_filterMap.mp mem
  obtain ⟨v, shown, rfl⟩ := Option.map_eq_some_iff.mp found
  exact values f mem' v shown

theorem isInert_of_showUnless {default : Bool} {v w : Value} (inert : IsInert v)
    (shown : showUnless default v = some w) :
  IsInert w
  := by
  rw [showUnless] at shown
  split at shown
  · cases shown
  · cases shown
    exact inert

theorem isInert_of_map_str {t : Option String} {v : Value} (inert : ∀ s ∈ t.toList, Inert s)
    (shown : t.map str = some v) :
  IsInert v
  := by
  obtain ⟨s, rfl, rfl⟩ := Option.map_eq_some_iff.mp shown
  exact isInert_str.mpr (inert s (by simp))

end Value

theorem HealthCheck.isInert_normal {c : HealthCheck} (inert : ∀ s ∈ c.test, Inert s) :
  IsInert c.normal
  := by
  rw [normal_eq]
  apply isInert_present c.nodup_keys_shown c.inert_keys_shown
  simp only [shown, List.forall_mem_cons]
  exact ⟨fun _ => isInert_of_showUnless (isInert_textList inert),
    fun _ => isInert_of_showUnless (isInert_float _),
    fun _ => isInert_of_showUnless (isInert_float _),
    fun _ => isInert_of_showUnless (isInert_int _),
    fun _ => isInert_of_showUnless (isInert_float _),
    fun _ => isInert_of_showUnless (isInert_bool _), by simp⟩

/-- A health check with its times as they are read back. -/
def HealthCheck.settled (c : HealthCheck) : HealthCheck :=
  { c with
    interval := Muster.settled Descriptor.defaultInterval c.interval
    timeout := Muster.settled Descriptor.defaultInterval c.timeout
    startPeriod := Muster.settled Descriptor.noTime c.startPeriod }

theorem HealthCheck.same_settled (c : HealthCheck) :
  c.Same c.settled
  := ⟨rfl, sameTime_settled .., sameTime_settled .., rfl, sameTime_settled .., rfl⟩

namespace Service

/-- A service with the times of its health check as they are read back. -/
def settled (s : Service) : Service :=
  { s with healthCheck := s.healthCheck.map HealthCheck.settled }

theorem same_settled (s : Service) :
  s.Same s.settled
  := by
  have check : Option.Rel HealthCheck.Same s.healthCheck s.settled.healthCheck := by
    rw [settled]
    cases s.healthCheck with
    | none => exact .none
    | some c => exact .some c.same_settled
  exact ⟨rfl, rfl, rfl, rfl, rfl, rfl, fun _ => rfl, rfl, rfl, rfl, rfl, check, fun _ => rfl, rfl,
    fun _ => rfl⟩

variable {s : Service}

theorem Lasting.isInert_normal (lasting : s.Lasting) :
  IsInert s.normal
  := by
  obtain ⟨_, image, command, entrypoint, workingDir, containerName, environment, environmentValues,
    envFiles, ports, tests, profiles, labels, labelValues⟩ := forall_mem_texts_iff.mp lasting.inert
  have check (v : Value) (shown : s.healthCheck.map HealthCheck.normal = some v) : IsInert v := by
    obtain ⟨c, found, rfl⟩ := Option.map_eq_some_iff.mp shown
    exact HealthCheck.isInert_normal fun text mem =>
      tests text (List.mem_flatMap.mpr ⟨c, Option.mem_toList.mpr found, mem⟩)
  have dependsOn (v : Value) (shown : shownTable (s.dependsOn.map Condition.name) = some v) :
      IsInert v := by
    simp [shownTable, showUnless, Table.map, lasting.independent] at shown
  rw [normal_eq]
  apply isInert_present s.nodup_keys_shown s.inert_keys_shown
  simp only [shown, List.forall_mem_cons]
  exact ⟨fun _ => isInert_of_showUnless (isInert_str.mpr image),
    fun _ => isInert_of_showUnless (isInert_textList command),
    fun _ => isInert_of_showUnless (isInert_textList entrypoint),
    fun _ => isInert_of_map_str workingDir, fun _ => isInert_of_map_str containerName,
    fun _ => isInert_of_showUnless (isInert_textTable environment environmentValues),
    fun _ => isInert_of_showUnless (isInert_textList envFiles),
    fun _ => isInert_of_showUnless (isInert_textList ports),
    fun _ => isInert_of_showUnless (isInert_str.mpr (Descriptor.inert_name _)),
    fun _ => isInert_of_showUnless (isInert_int _), check, dependsOn,
    fun _ => isInert_of_showUnless (isInert_textList profiles),
    fun _ => isInert_of_showUnless (isInert_textTable labels labelValues), by simp⟩

/-- A service that lasts is read back from its normal form. -/
theorem Lasting.rereads (lasting : s.Lasting) (sound : s.Sound) :
  s.Rereads context s.settled
  := by
  obtain ⟨_, image, command, entrypoint, workingDir, containerName, environment, environmentValues,
    envFiles, ports, tests, profiles, labels, labelValues⟩ := forall_mem_texts_iff.mp lasting.inert
  have portRereads : ∀ p ∈ s.ports, Descriptor.PortRereads context p p := fun p mem =>
    ⟨p.text, Turns.refl (ports p.text (List.mem_map_of_mem mem)),
      Port.readShortPort?_text_iff.mpr (lasting.legible p mem)⟩
  have checkRereads :
      Option.Rel (HealthCheck.Rereads context) s.healthCheck s.settled.healthCheck := by
    cases found : s.healthCheck with
    | none =>
      rw [settled, found]
      exact .none
    | some c =>
      have inert : ∀ text ∈ c.test, Inert text := fun text mem =>
        tests text (List.mem_flatMap.mpr ⟨c, Option.mem_toList.mpr found, mem⟩)
      rw [settled, found]
      exact .some {
        test := ⟨c.test, turned_refl inert, (if_pos (sound.kinds c found)).symm⟩
        interval := rfl
        timeout := rfl
        retries := rfl
        startPeriod := rfl
        disabled := lasting.checked c found }
  exact {
    image := Turns.refl image
    command := turned_refl command
    entrypoint := turned_refl entrypoint
    runs := sound.runs
    workingDir := turned_option_refl workingDir
    containerName := turned_option_refl containerName
    environment := TableTurns.refl environment environmentValues
    envFiles := turned_refl envFiles
    ports := List.forall₂_same.mpr portRereads
    restart := rfl
    maxRestarts := lasting.unlimited
    healthCheck := checkRereads
    independent := ⟨lasting.independent, lasting.independent⟩
    profiles := turned_refl profiles
    labels := TableTurns.refl labels labelValues }

end Service

end Muster
