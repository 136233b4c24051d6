import Muster.Proofs.Descriptor.Declares
import Muster.Proofs.Descriptor.Port
/-!
# What a normal form shows

A normal form is a mapping of fields, each of which may say nothing.  When variables are put into
it, every field becomes what its own value becomes.  Each way to show a field is given here with
what its reader makes of it.
-/

namespace Muster

open Interpolation

namespace Table

theorem write_ne_nil {α : Type} (key : String) (value : α) (es : List (String × α)) :
  write key value es ≠ []
  := by
  intro none
  have keys := keys_write key value es
  rw [none] at keys
  split at keys
  · next mem =>
    rw [← keys] at mem
    cases mem
  · simp at keys

theorem ofList_entries {α : Type} (t : Table α) :
  ofList t.entries = t
  := eq_of_entries (entries_ofList t.nodup)

/-- Only of no entries at all is the empty table made. -/
theorem entries_ofList_eq_nil_iff {α : Type} {es : List (String × α)} :
  (ofList es).entries = [] ↔ es = []
  := by
  have grown (later : List (String × α)) (t : Table α) (given : t.entries ≠ []) :
      (t.insertAll later).entries ≠ [] := by
    induction later generalizing t with
    | nil => exact given
    | cons e r ih => exact ih (t.insert e.1 e.2) (write_ne_nil e.1 e.2 t.entries)
  cases es with
  | nil => exact ⟨fun _ => rfl, fun _ => rfl⟩
  | cons e r =>
    have given : (ofList (e :: r)).entries ≠ [] :=
      grown r (empty.insert e.1 e.2) (write_ne_nil e.1 e.2 [])
    exact ⟨fun none => (given none).elim, nofun⟩

end Table

namespace Value

variable {context : Table String}

/-! ### Fields -/

/-- What a field says that is left out where it has its default. -/
def showUnless (default : Bool) (v : Value) : Option Value :=
  if default then none else some v

/-- The fields that say something. -/
def present (fields : List (String × Option Value)) : List (String × Value) :=
  fields.filterMap fun e => e.2.map (e.1, ·)

theorem present_cons (key : String) (v : Option Value) (r : List (String × Option Value)) :
  present ((key, v) :: r) = v.toList.map (key, ·) ++ present r
  := by
  cases v <;> rfl

theorem keys_present_sublist (fields : List (String × Option Value)) :
  ((present fields).map Prod.fst).Sublist (fields.map Prod.fst)
  := by
  induction fields with
  | nil => exact .slnil
  | cons e r ih =>
    obtain ⟨key, v⟩ := e
    rw [present_cons]
    cases v with
    | none => exact ih.cons key
    | some v => exact ih.cons_cons key

theorem lookup_present_of_not_mem {fields : List (String × Option Value)} {key : String}
    (absent : key ∉ fields.map Prod.fst) :
  Table.lookup key (present fields) = none
  := by
  rw [← Option.not_isSome_iff_eq_none, Table.lookup_isSome_iff]
  exact fun mem => absent ((keys_present_sublist fields).subset mem)

theorem lookup_present {fields : List (String × Option Value)} {key : String} {v : Option Value}
    (distinct : (fields.map Prod.fst).Nodup) (mem : (key, v) ∈ fields) :
  Table.lookup key (present fields) = v
  := by
  induction fields with
  | nil => cases mem
  | cons e r ih =>
    obtain ⟨k, u⟩ := e
    obtain ⟨new, others⟩ := List.nodup_cons.mp distinct
    rw [present_cons]
    rcases List.mem_cons.mp mem with same | later
    · cases same
      cases v with
      | none => exact lookup_present_of_not_mem new
      | some v => exact if_pos rfl
    · have other : k ≠ key := by
        rintro rfl
        exact new (List.mem_map.mpr ⟨_, later, rfl⟩)
      cases u with
      | none => exact ih others later
      | some u => exact (if_neg other).trans (ih others later)

theorem field?_keyed (key : String) (es : List (String × Value)) :
  field? key (es.map keyed) = Table.lookup key es
  := by
  induction es with
  | nil => rfl
  | cons e r ih => simp only [List.map_cons, keyed, field?, Table.lookup, ih]

/-- Entries with inert keys keep their keys. -/
theorem Becomes.of_inert_keys {es : List (String × Value)} {w : Value}
    (distinct : (es.map Prod.fst).Nodup) (inert : ∀ e ∈ es, Inert e.1)
    (becomes : Becomes context (map (es.map keyed)) w) :
  ∃ fs, w = map (fs.map keyed)
    ∧ List.Forall₂ (fun e f => f.1 = e.1 ∧ Becomes context e.2 f.2) es fs
  := by
  obtain ⟨fs, rfl, turned⟩ := becomes.of_keyed
  have kept : List.Forall₂ (fun e f => f.1 = e.1 ∧ Becomes context e.2 f.2) es fs := by
    refine ((List.forall₂_and_left es fs).mpr ⟨inert, turned⟩).imp ?_
    exact fun _ _ here => ⟨here.2.1.eq here.1, here.2.2⟩
  have keys : fs.map Prod.fst = es.map Prod.fst := by
    rw [← List.forall₂_eq_eq_eq, List.forall₂_map_left_iff, List.forall₂_map_right_iff]
    exact kept.flip.imp fun _ _ here => here.1
  exact ⟨fs, by rw [Table.entries_ofList (keys ▸ distinct)], kept⟩

/-- What fields become: each of them what its own value becomes. -/
structure FieldsBecome (context : Table String) (fields : List (String × Option Value))
    (entries : List (Value × Value)) : Prop where
  shown : ∀ key v, (key, v) ∈ fields → Option.Rel (Becomes context) v (field? key entries)
  missing : ∀ key, key ∉ fields.map Prod.fst → field? key entries = none

/-- A mapping of fields becomes a mapping in which each field becomes what its own value does. -/
theorem Becomes.of_fields {fields : List (String × Option Value)} {w : Value}
    (distinct : (fields.map Prod.fst).Nodup) (inert : ∀ key ∈ fields.map Prod.fst, Inert key)
    (becomes : Becomes context (map ((present fields).map keyed)) w) :
  ∃ entries, w = map entries ∧ FieldsBecome context fields entries
  := by
  have sublist := keys_present_sublist fields
  have looked {es fs : List (String × Value)} (key : String)
      (kept : List.Forall₂ (fun e f => f.1 = e.1 ∧ Becomes context e.2 f.2) es fs) :
      Option.Rel (Becomes context) (Table.lookup key es) (Table.lookup key fs) := by
    induction kept with
    | nil => exact .none
    | @cons e f _ _ here _ ih =>
      rw [Table.lookup.eq_def, Table.lookup.eq_def]
      simp only [here.1]
      split
      · exact .some here.2
      · exact ih
  obtain ⟨fs, rfl, kept⟩ := becomes.of_inert_keys (distinct.sublist sublist)
    fun e mem => inert e.1 (sublist.subset (List.mem_map_of_mem mem))
  refine ⟨_, rfl, ?_, ?_⟩
  · intro key v mem
    rw [field?_keyed, ← lookup_present distinct mem]
    exact looked key kept
  · intro key absent
    have hidden := looked key kept
    rw [lookup_present_of_not_mem absent] at hidden
    rw [field?_keyed]
    generalize Table.lookup key fs = found at hidden
    cases hidden
    rfl

/-! ### Words -/

/-- Words, shown if there are any. -/
def shownWords (l : List String) : Option Value :=
  showUnless l.isEmpty (textList l)

theorem exists_of_shownWords {l : List String} {w : Option Value}
    (became : Option.Rel (Becomes context) (shownWords l) w) :
  ∃ l', w = shownWords l' ∧ List.Forall₂ (Turns context) l l'
  := by
  cases l with
  | nil =>
    cases became
    exact ⟨[], rfl, .nil⟩
  | cons s r =>
    obtain ⟨becomes⟩ := became
    obtain ⟨l', rfl, turned⟩ := becomes.of_textList
    cases turned with
    | cons here later => exact ⟨_, rfl, .cons here later⟩

theorem readCommand_shownWords (l : List String) :
  Descriptor.readCommand ((shownWords l).getD null) = .ok l
  := by
  cases l with
  | nil => rfl
  | cons s r =>
    change Except.ok (((s :: r).map str).map text) = _
    simp [Function.comp_def]

theorem toList_shownWords (l : List String) :
  ((shownWords l).getD null).toList = .ok (l.map str)
  := by
  cases l <;> rfl

theorem readTest_shownWords (service : String) (l : List String) :
  Descriptor.readTest service ((shownWords l).getD null)
    = .ok (if l.head?.all Descriptor.isTestKind then l else "CMD" :: l)
  := by
  cases l with
  | nil => rfl
  | cons kind r =>
    have texts : (r.map str).map text = r := by simp [Function.comp_def]
    simp only [shownWords, showUnless, List.isEmpty_cons, Bool.false_eq_true, if_false,
      Option.getD_some, textList, List.map_cons, Descriptor.readTest, text_str, texts]
    rfl

theorem readPorts_shownWords (service : String) (l : List String) (ports : List Port) :
  Descriptor.readPorts service ((shownWords l).getD null) = .ok ports
    ↔ List.Forall₂ (fun text p => Descriptor.readShortPort? text = some p) l ports
  := by
  have one (text : String) (p : Port) :
      Descriptor.readPort service (str text) = .ok p ↔ Descriptor.readShortPort? text = some p := by
    change (Descriptor.readShortPort? text).elim (Except.error _) Except.ok = Except.ok p ↔ _
    cases Descriptor.readShortPort? text <;> simp
  cases l with
  | nil =>
    change Except.ok [] = Except.ok ports ↔ _
    simp [eq_comm]
  | cons text r =>
    change List.mapM (Descriptor.readPort service) ((text :: r).map str) = .ok ports ↔ _
    rw [Descriptor.mapM_eq_ok_iff, List.forall₂_map_left_iff]
    simp only [one]

/-! ### Tables of texts -/

/-- A table of texts, shown if it has entries. -/
def shownTable (t : Table String) : Option Value :=
  showUnless t.entries.isEmpty (textTable t)

theorem exists_of_shownTable {t : Table String} {w : Option Value}
    (became : Option.Rel (Becomes context) (shownTable t) w) :
  ∃ fs, w = shownTable (Table.ofList fs) ∧ List.Forall₂
    (fun e f => Turns context e.1 f.1 ∧ Turns context e.2 f.2) t.entries fs
  := by
  rw [shownTable] at became
  cases entries : t.entries with
  | nil =>
    rw [entries] at became
    cases became
    exact ⟨[], rfl, .nil⟩
  | cons e r =>
    rw [entries] at became
    obtain ⟨becomes⟩ := became
    obtain ⟨fs, rfl, turned⟩ := becomes.of_textTable
    rw [entries] at turned
    have given : (Table.ofList fs).entries ≠ [] := by
      rw [Ne, Table.entries_ofList_eq_nil_iff]
      rintro rfl
      cases turned
    exact ⟨fs, (if_neg (by simpa using given)).symm, turned⟩

theorem readEnvironment_shownTable (t : Table String) :
  Descriptor.readEnvironment ((shownTable t).getD null) = .ok t
  := by
  rw [shownTable, showUnless]
  split
  · next none =>
    have same : t = .ofList [] := by rw [← List.isEmpty_iff.mp none, Table.ofList_entries]
    rw [same]
    rfl
  · have texts : (t.entries.map fun e => (str e.1, str e.2)).map
        (fun e => (e.1.text, Descriptor.variableText e.2)) = t.entries := by
      simp [Function.comp_def, Descriptor.variableText]
    rw [Option.getD_some, textTable, Descriptor.readEnvironment, texts, Table.ofList_entries]

/-- Dependencies with a text for their options are not read. -/
theorem readDependencies_shownTable {service : String} {t : Table String} {u : Table Condition}
    (given : ∀ e ∈ t.entries, e.2 ≠ "")
    (read : Descriptor.readDependencies service ((shownTable t).getD null) = .ok u) :
  t.entries = []
  := by
  rw [shownTable, showUnless] at read
  split at read
  · next none => exact List.isEmpty_iff.mp none
  · rw [Option.getD_some, textTable, Descriptor.readDependencies] at read
    obtain ⟨conditions, each, -⟩ := bind_eq_ok_iff.mp read
    rw [Descriptor.mapM_eq_ok_iff, List.forall₂_map_left_iff] at each
    cases entries : t.entries with
    | nil => rfl
    | cons e r =>
      rw [entries] at each given
      cases each with
      | cons here _ =>
        obtain ⟨condition, options, -⟩ := bind_eq_ok_iff.mp here
        have text : (str e.2).isGiven = true := by simpa [isGiven] using given e (by simp)
        simp [Descriptor.readCondition, text] at options

/-! ### Texts -/

theorem exists_of_shownText {t : Option String} {w : Option Value}
    (became : Option.Rel (Becomes context) (t.map str) w) :
  ∃ t', w = t'.map str ∧ Option.Rel (Turns context) t t'
  := by
  cases t with
  | none =>
    cases became
    exact ⟨none, rfl, .none⟩
  | some s =>
    obtain ⟨becomes⟩ := became
    obtain ⟨s', rfl, turns⟩ := becomes.of_str
    exact ⟨some s', rfl, .some turns⟩

theorem toOptionalText_shownText (t : Option String) :
  ((t.map str).getD null).toOptionalText = .ok t
  := by
  cases t <;> rfl

/-- An image, shown if there is one. -/
def shownImage (image : String) : Option Value :=
  showUnless (image == "") (str image)

theorem imageText_str (s : String) :
  Descriptor.imageText (str s) = s
  := by
  by_cases none : s = ""
  · subst none
    rfl
  · rw [Descriptor.imageText, if_pos (by simpa [isGiven] using none)]
    rfl

/-! ### How deeply fields are nested -/

theorem not_isNested_textList (l : List String) :
  ¬ IsNested 1 (textList l)
  := by
  rintro ⟨v, mem, nested⟩
  obtain ⟨s, -, rfl⟩ := List.mem_map.mp mem
  exact nested

theorem not_isNested_textTable (t : Table String) :
  ¬ IsNested 1 (textTable t)
  := by
  rintro ⟨v, mem, nested⟩
  obtain ⟨e, -, rfl⟩ := List.mem_map.mp mem
  exact nested.elim id id

theorem not_isNested_keyed {n : Nat} {es : List (String × Value)}
    (flat : ∀ e ∈ es, ¬ IsNested n e.2) :
  ¬ IsNested (n + 1) (map (es.map keyed))
  := by
  rintro ⟨_, among, nested⟩
  obtain ⟨e, mem, rfl⟩ := List.mem_map.mp among
  rcases nested with key | value
  · cases n <;> exact key
  · exact flat e mem value

/-- A mapping of fields is nested once more than they are. -/
theorem not_isNested_fields {n : Nat} {fields : List (String × Option Value)}
    (flat : ∀ f ∈ fields, ∀ v ∈ f.2, ¬ IsNested n v) :
  ¬ IsNested (n + 1) (map ((present fields).map keyed))
  := by
  apply not_isNested_keyed
  intro e among
  obtain ⟨f, mem, shown⟩ := List.mem_filterMap.mp among
  obtain ⟨v, given, rfl⟩ := Option.map_eq_some_iff.mp shown
  exact flat f mem v given

theorem not_isNested_shown {n : Nat} {default : Bool} {w : Value} (flat : ¬ IsNested n w) :
  ∀ v ∈ showUnless default w, ¬ IsNested n v
  := by
  cases default
  · rintro _ ⟨⟩
    exact flat
  · exact nofun

theorem not_isNested_map {α : Type} {n : Nat} {f : α → Value} (flat : ∀ a, ¬ IsNested n (f a))
    (o : Option α) :
  ∀ v ∈ o.map f, ¬ IsNested n v
  := by
  intro v given
  obtain ⟨a, -, rfl⟩ := Option.map_eq_some_iff.mp given
  exact flat a

/-! ### What fields write out -/

theorem isOverlong_textList (l : List String) :
  isOverlong (textList l) = false
  := by
  apply isOverlongAny_eq_false_iff.mpr
  intro v mem
  obtain ⟨s, -, rfl⟩ := List.mem_map.mp mem
  rfl

theorem isOverlong_textTable (t : Table String) :
  isOverlong (textTable t) = false
  := by
  apply isOverlongEntry_eq_false_iff.mpr
  intro e mem
  obtain ⟨e, -, rfl⟩ := List.mem_map.mp mem
  exact ⟨rfl, rfl⟩

theorem isOverlong_shown {default : Bool} {w : Value} (short : isOverlong w = false) :
  ∀ v ∈ showUnless default w, isOverlong v = false
  := by
  cases default
  · rintro _ ⟨⟩
    exact short
  · exact nofun

/-- A field that is found is one of those that are shown. -/
theorem isOverlong_present {fields : List (String × Option Value)} {key : String}
    (short : ∀ f ∈ fields, f.1 = key → ∀ v ∈ f.2, isOverlong v = false) :
  isOverlong (field key ((present fields).map keyed)) = false
  := by
  rw [field]
  cases found : field? key ((present fields).map keyed) with
  | none => rfl
  | some v =>
    obtain ⟨e, among, same⟩ := List.mem_map.mp (field?_mem found)
    cases same
    obtain ⟨f, mem, shown⟩ := List.mem_filterMap.mp among
    obtain ⟨v, given, rfl⟩ := Option.map_eq_some_iff.mp shown
    exact short f mem rfl v given

end Value

/-! ### Health checks -/

open Value

theorem entryUnless_eq (default : Bool) (name : String) (v : Value) :
  entryUnless default name v = ((showUnless default v).toList.map (name, ·)).map keyed
  := by
  cases default <;> rfl

namespace HealthCheck

/-- What the normal form of a health check shows. -/
def shown (c : HealthCheck) : List (String × Option Value) := [
  ("test", shownWords c.test),
  ("interval", showUnless (c.interval == Descriptor.defaultInterval) (.float c.interval)),
  ("timeout", showUnless (c.timeout == Descriptor.defaultInterval) (.float c.timeout)),
  ("retries", showUnless (c.retries == Descriptor.defaultRetries) (.int c.retries)),
  ("start_period", showUnless (c.startPeriod == Descriptor.noTime) (.float c.startPeriod)),
  ("disabled", showUnless (!c.disabled) (.bool c.disabled))]

theorem normal_eq (c : HealthCheck) :
  c.normal = .map ((present c.shown).map keyed)
  := by
  simp only [normal, shown, present_cons, entryUnless_eq, List.map_append, List.append_assoc,
    shownWords]
  simp [present]

theorem nodup_keys_shown (c : HealthCheck) :
  (c.shown.map Prod.fst).Nodup
  := by
  change ["test", "interval", "timeout", "retries", "start_period", "disabled"].Nodup
  decide

theorem inert_keys_shown (c : HealthCheck) :
  ∀ key ∈ c.shown.map Prod.fst, Inert key
  := by
  have free : ∀ key ∈ ["test", "interval", "timeout", "retries", "start_period", "disabled"],
      '$' ∉ key.toList := by decide
  exact fun key mem => inert_of_not_mem (free key mem)

theorem not_isNested_normal (c : HealthCheck) :
  ¬ IsNested 2 c.normal
  := by
  rw [normal_eq]
  apply not_isNested_fields
  simp only [shown, List.forall_mem_cons]
  have float (x : Float) : ¬ IsNested 1 (.float x) := id
  have int (n : Int) : ¬ IsNested 1 (.int n) := id
  have bool (b : Bool) : ¬ IsNested 1 (.bool b) := id
  exact ⟨not_isNested_shown (not_isNested_textList _), not_isNested_shown (float _),
    not_isNested_shown (float _), not_isNested_shown (int _), not_isNested_shown (float _),
    not_isNested_shown (bool _), List.forall_mem_nil _⟩

/-- The number of runs of a health check is not written out. -/
theorem writable_normal (c : HealthCheck) :
  Writable (Descriptor.writtenCheck c.normal)
  := by
  rw [normal_eq]
  apply Descriptor.writable_writtenCheck
  intro key among
  apply isOverlong_present
  simp only [shown, List.forall_mem_cons]
  refine ⟨fun _ => isOverlong_shown (isOverlong_textList _), fun _ => isOverlong_shown rfl,
    fun _ => isOverlong_shown rfl, ?_, fun _ => isOverlong_shown rfl,
    fun _ => isOverlong_shown rfl, List.forall_mem_nil _⟩
  rintro rfl
  exact absurd among (by decide)

end HealthCheck

/-! ### Services -/

namespace Service

/-- What the normal form of a service shows. -/
def shown (s : Service) : List (String × Option Value) := [
  ("image", shownImage s.image),
  ("command", shownWords s.command),
  ("entrypoint", shownWords s.entrypoint),
  ("working_dir", s.workingDir.map .str),
  ("container_name", s.containerName.map .str),
  ("environment", shownTable s.environment),
  ("env_file", shownWords s.envFiles),
  ("ports", shownWords (s.ports.map (·.text))),
  ("restart", showUnless (s.restart == .never) (.str s.restart.name)),
  ("max_restarts", showUnless (s.maxRestarts == 0) (.int s.maxRestarts)),
  ("healthcheck", s.healthCheck.map HealthCheck.normal),
  ("depends_on", shownTable (s.dependsOn.map Condition.name)),
  ("profiles", shownWords s.profiles),
  ("labels", shownTable s.labels)]

theorem optionalEntry_eq (name : String) (v : Option String) :
  optionalEntry name v = ((v.map str).toList.map (name, ·)).map keyed
  := by
  cases v <;> rfl

theorem normal_eq (s : Service) :
  s.normal = .map ((present s.shown).map keyed)
  := by
  have check : s.healthCheck.toList.map (fun c => (str "healthcheck", c.normal))
      = ((s.healthCheck.map HealthCheck.normal).toList.map ("healthcheck", ·)).map keyed := by
    cases s.healthCheck <;> rfl
  simp only [normal, normalEntries, shown, present_cons, entryUnless_eq, optionalEntry_eq, check,
    List.map_append, List.append_assoc, shownWords, shownTable, shownImage, List.isEmpty_map,
    Table.map]
  simp [present]

/-- The fields of services that normal forms show. -/
def shownKeys : List String :=
  ["image", "command", "entrypoint", "working_dir", "container_name", "environment", "env_file",
    "ports", "restart", "max_restarts", "healthcheck", "depends_on", "profiles", "labels"]

theorem nodup_keys_shown (s : Service) :
  (s.shown.map Prod.fst).Nodup
  := by
  change shownKeys.Nodup
  decide

theorem inert_keys_shown (s : Service) :
  ∀ key ∈ s.shown.map Prod.fst, Inert key
  := by
  have free : ∀ key ∈ shownKeys, '$' ∉ key.toList := by decide
  exact fun key mem => inert_of_not_mem (free key mem)

theorem not_isNested_normal (s : Service) :
  ¬ IsNested 3 s.normal
  := by
  rw [normal_eq]
  apply not_isNested_fields
  simp only [shown, List.forall_mem_cons]
  have str (t : String) : ¬ IsNested 2 (.str t) := id
  have int (n : Int) : ¬ IsNested 2 (.int n) := id
  have words (l : List String) : ∀ v ∈ shownWords l, ¬ IsNested 2 v :=
    not_isNested_shown fun nested => not_isNested_textList l (isNested_of_le nested (Nat.le_succ 1))
  have table (t : Table String) : ∀ v ∈ shownTable t, ¬ IsNested 2 v :=
    not_isNested_shown fun nested => not_isNested_textTable t (isNested_of_le nested (Nat.le_succ 1))
  exact ⟨not_isNested_shown (str _), words _, words _, not_isNested_map str _,
    not_isNested_map str _, table _, words _, words _, not_isNested_shown (str _),
    not_isNested_shown (int _), not_isNested_map HealthCheck.not_isNested_normal _, table _,
    words _, table _, List.forall_mem_nil _⟩

/-- What is written out of a normal form is what it has as texts. -/
theorem writable_normal (s : Service) (name : String) :
  Writable (Descriptor.writtenEntry (.str name, s.normal))
  := by
  have words (l : List String) : ∀ v ∈ shownWords l, isOverlong v = false :=
    isOverlong_shown (isOverlong_textList l)
  have table (t : Table String) : ∀ v ∈ shownTable t, isOverlong v = false :=
    isOverlong_shown (isOverlong_textTable t)
  have text (o : Option String) : ∀ v ∈ o.map str, isOverlong v = false := by
    intro v given
    obtain ⟨t, -, rfl⟩ := Option.map_eq_some_iff.mp given
    rfl
  apply Descriptor.writable_writtenEntry rfl
  intro entries same
  rw [normal_eq] at same
  cases same
  apply Descriptor.writable_writtenFields
  · intro key among
    apply isOverlong_present
    simp only [shown, List.forall_mem_cons]
    refine ⟨fun _ => isOverlong_shown rfl, fun _ => words _, fun _ => words _, fun _ => text _,
      fun _ => text _, fun _ => table _, fun _ => words _, fun _ => words _,
      fun _ => isOverlong_shown rfl, ?_, ?_, fun _ => table _, fun _ => words _,
      fun _ => table _, List.forall_mem_nil _⟩
    all_goals
      rintro rfl
      exact absurd among (by decide)
  · have check : field? "healthcheck" ((present s.shown).map keyed)
        = s.healthCheck.map HealthCheck.normal := by
      rw [field?_keyed]
      exact lookup_present s.nodup_keys_shown (by simp [shown])
    rw [field, check]
    cases s.healthCheck with
    | none => exact .nil
    | some c => exact c.writable_normal

end Service

end Muster
