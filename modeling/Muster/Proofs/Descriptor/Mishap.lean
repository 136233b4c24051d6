import Muster.Proofs.Descriptor.Accounted
import Muster.Proofs.Descriptor.Declares
/-!
# How reading a descriptor fails

For every reader of a descriptor there is a description of the values at which a mishap happens,
and a proof that its other failures are refusals.
-/

namespace Muster.Descriptor

open Value

/-! ### The fields of a service -/

/-- What happens to a command: its line ends inside quotes or after a backslash, or it is neither a
line nor a list of words. -/
inductive Mishap.Command : Value → Fault → Prop where
  | line {line : String} {fault : Fault} : Shell.words line = .error fault →
      Command (.str line) fault
  | bare {v : Value} : IsBare v → v ≠ .null → Command v .wrongType

theorem accounted_readCommand (v : Value) :
  Accounted (readCommand v) (Mishap.Command v)
  := by
  rw [readCommand.eq_def]
  split
  · exact .of_safe (by rintro _ ⟨⟩; contradiction) (.ok _)
  · next line =>
    constructor
    · intro fault failure
      exact .inr (.line failure)
    · rintro fault (failure | ⟨⟨⟩⟩)
      exact ⟨fault, failure⟩
  · next given other =>
    apply ((accounted_members v).map _).congr
    intro fault
    constructor
    · rintro ⟨bare, rfl⟩
      exact .bare bare given
    · rintro (_ | ⟨bare, _⟩)
      · exact (other _ rfl).elim
      · exact ⟨bare, rfl⟩

theorem accounted_readRestart (service : String) (v : Value) :
  Accounted (readRestart service v) fun _ => False
  := by
  simp only [readRestart]
  repeat' split
  all_goals first
    | exact .ok _
    | exact .refused _
    | skip
  next word _ => cases policyOfWord? (Text.strip _) <;> first | exact .refused _ | exact .ok _

theorem accounted_readEnvironment (v : Value) :
  Accounted (readEnvironment v) fun _ => False
  := by
  cases v <;> first | exact .ok _ | exact .refused _

/-- What happens to a number of a port. -/
theorem accounted_portNumber {v : Value} (bad : DescriptorFault) :
  Accounted
    (match v.toInt with
      | .error .badValue => Except.error (.descriptor bad)
      | result => result)
    (Mishap.Number v)
  := by
  constructor
  · intro fault failure
    split at failure
    · cases failure
      exact .inl ⟨bad, rfl⟩
    · next good =>
      rcases toInt_error_cases failure with rfl | happens
      · exact (good failure).elim
      · exact .inr happens
  · intro fault happens
    rw [toInt_of_mishap happens]
    cases happens <;> exact ⟨_, rfl⟩

/-- What happens to the long form of a port. -/
inductive Mishap.Port (entries : List (Value × Value)) : Fault → Prop where
  | target {v : Value} {fault : Fault} : field? "target" entries = some v → Number v fault →
      Port entries fault
  | published {fault : Fault} : (field? "target" entries).isSome →
      field "published" entries ≠ .null → Number (field "published" entries) fault →
      Port entries fault

theorem accounted_readLongPort (service : String) (entries : List (Value × Value)) :
  Accounted (readLongPort service entries) (Mishap.Port entries)
  := by
  simp only [readLongPort]
  split
  · exact .refused _
  · next target some =>
    apply ((accounted_portNumber _).andThen fun container _ =>
      (?_ : Accounted _ fun fault =>
        field "published" entries ≠ .null ∧ Mishap.Number (field "published" entries) fault)).congr
    · intro fault
      constructor
      · rintro (happens | ⟨given, happens⟩)
        · exact .target some happens
        · exact .published (some ▸ rfl) given happens
      · rintro (⟨same, happens⟩ | ⟨_, given, happens⟩)
        · cases some.symm.trans same
          exact .inl happens
        · exact .inr ⟨given, happens⟩
    · split
      · next null =>
        refine .of_safe (by simp [null]) (Accounted.of_ok ?_)
        split
        · exact .ok _
        · exact .refused _
      · next given =>
        apply (((accounted_portNumber _).map _).andThen fun host _ =>
          (?_ : Accounted _ fun _ => False)).congr
        · intro fault
          rw [or_false]
          exact (and_iff_right given).symm
        · split
          · exact .ok _
          · exact .refused _

/-- What happens to the ports: they have no members, or it happens to one of them. -/
inductive Mishap.Ports (v : Value) : Fault → Prop where
  | bare : IsBare v → v.isGiven → Ports v .wrongType
  | port {items : List Value} {entries : List (Value × Value)} {fault : Fault} :
      v.members = .ok items → .map entries ∈ items → Port entries fault → Ports v fault

theorem accounted_readPort (service : String) (v : Value) :
  Accounted (readPort service v) fun fault =>
    ∃ entries, v = .map entries ∧ Mishap.Port entries fault
  := by
  rw [readPort.eq_def]
  split
  · next entries =>
    apply (accounted_readLongPort service entries).congr
    simp
  · next other =>
    cases readShortPort? v.text
    · exact .refused _
    · exact .of_safe (fun _ ⟨entries, same, _⟩ => other entries same) (.ok _)

theorem accounted_readPorts (service : String) (v : Value) :
  Accounted (readPorts service v) (Mishap.Ports v)
  := by
  rw [readPorts]
  split
  · next given =>
    apply ((accounted_members v).bind fun items _ => .mapM (accounted_readPort service) items).congr
    intro fault
    constructor
    · rintro (⟨bare, rfl⟩ | ⟨items, members, _, member, entries, rfl, happens⟩)
      · exact .bare bare given
      · exact .port members member happens
    · rintro (⟨bare, _⟩ | ⟨members, member, happens⟩)
      · exact .inl ⟨bare, rfl⟩
      · exact .inr ⟨_, members, _, member, _, rfl, happens⟩
  · next missing =>
    refine .of_safe ?_ (.ok _)
    rintro _ (⟨_, given⟩ | ⟨members, member, _⟩)
    · exact missing given
    · rw [members_of_missing missing members] at member
      cases member

/-- What happens to a health check: the number of its runs is infinite, or one of its times is out
of range. -/
inductive Mishap.Check : Value → Fault → Prop where
  | retries {entries : List (Value × Value)} {v : Value} : field? "retries" entries = some v →
      IsInfinite v → Check (.map entries) .overflow
  | time {entries : List (Value × Value)} {key : String} :
      key ∈ ["interval", "timeout", "start_period"] → IsHuge (field key entries) →
      Check (.map entries) .overflow

theorem accounted_readTest (service : String) (v : Value) :
  Accounted (readTest service v) fun _ => False
  := by
  rw [readTest.eq_def]
  split
  · exact .ok _
  · exact .ok _
  · split <;> exact .ok _
  · exact .refused _

theorem accounted_readRetries (service : String) (v : Value) :
  Accounted (readRetries service v) fun fault => IsInfinite v ∧ fault = .overflow
  := by
  rw [readRetries]
  cases read : v.toInt with
  | ok n =>
    refine .of_safe ?_ (.ok n)
    rintro _ ⟨infinite, _⟩
    cases read.symm.trans (toInt_of_mishap (.infinite infinite))
  | error fault =>
    rcases toInt_error_cases read with rfl | none | infinite
    · exact .refused _
    · exact .refused _
    · exact (Accounted.failed _).congr fun _ => (and_iff_right ‹_›).symm

theorem accounted_duration (default : Float) (v : Value) :
  Accounted (Duration.ofValue default v) fun fault => IsHuge v ∧ fault = .overflow
  := by
  rw [Duration.ofValue.eq_def]
  split
  · exact .of_safe (by simp [IsHuge]) (.ok _)
  · exact .refused _
  · exact .of_safe (by simp [IsHuge]) (.ok _)
  · next n =>
    split
    · next x some => exact .of_safe (by simp [IsHuge, some]) (.ok _)
    · next none => exact (Accounted.failed _).congr fun _ => (and_iff_right none).symm
  · next whole =>
    have small : ¬ IsHuge v := by
      intro huge
      cases v <;> first | exact huge | exact whole _ rfl
    split
    · exact .of_safe (fun _ ⟨huge, _⟩ => small huge) (.ok _)
    · exact .refused _

theorem accounted_readHealthCheck (service : String) (v : Value) :
  Accounted (readHealthCheck service v) (Mishap.Check v)
  := by
  rw [readHealthCheck.eq_def]
  split
  · exact .of_safe (by rintro _ ⟨⟩) (.ok none)
  · next entries =>
    apply ((accounted_readTest service _).andThen fun test _ =>
      (accounted_readRetries service _).andThen fun retries _ =>
      (accounted_duration _ _).andThen fun interval _ =>
      (accounted_duration _ _).andThen fun timeout _ =>
      (accounted_duration _ _).andThen fun startPeriod _ => .ok _).congr
    intro fault
    constructor
    · rintro (⟨⟨⟩⟩ | ⟨infinite, rfl⟩ | ⟨huge, rfl⟩ | ⟨huge, rfl⟩ | ⟨huge, rfl⟩ | ⟨⟨⟩⟩)
      · cases retries : field? "retries" entries with
        | none => simp [retries, IsInfinite] at infinite
        | some v => exact .retries retries (by simpa [retries] using infinite)
      · exact .time (by simp) huge
      · exact .time (by simp) huge
      · exact .time (by simp) huge
    · rintro (⟨retries, infinite⟩ | ⟨key, huge⟩)
      · exact .inr (.inl ⟨by simpa [retries] using infinite, rfl⟩)
      · simp only [List.mem_cons, List.not_mem_nil, or_false] at key
        rcases key with rfl | rfl | rfl
        · exact .inr (.inr (.inl ⟨huge, rfl⟩))
        · exact .inr (.inr (.inr (.inl ⟨huge, rfl⟩)))
        · exact .inr (.inr (.inr (.inr (.inl ⟨huge, rfl⟩))))
  · exact .refused _

/-- What happens to the dependencies: the options of one of them are no mapping. -/
inductive Mishap.Dependencies : Value → Fault → Prop where
  | options {entries : List (Value × Value)} {dependency options : Value} :
      (dependency, options) ∈ entries → options.isGiven → (∀ settings, options ≠ .map settings) →
      Dependencies (.map entries) .noAttribute

theorem accounted_readCondition (service : String) (options : Value) :
  Accounted (readCondition service options) fun fault =>
    (options.isGiven ∧ ∀ settings, options ≠ .map settings) ∧ fault = .noAttribute
  := by
  rw [readCondition.eq_def]
  split
  · refine .of_safe (by simp) ?_
    split
    · exact .ok _
    · next word _ =>
      cases Condition.ofName? word
      · exact .refused _
      · exact .ok _
    · exact .refused _
  · next other =>
    split
    · next given => exact (Accounted.failed _).congr fun _ => (and_iff_right ⟨given, other⟩).symm
    · next missing => exact .of_safe (fun _ ⟨⟨given, _⟩, _⟩ => missing given) (.ok _)

theorem accounted_readDependencies (service : String) (v : Value) :
  Accounted (readDependencies service v) (Mishap.Dependencies v)
  := by
  rw [readDependencies.eq_def]
  split
  · exact .of_safe (by rintro _ ⟨⟩) (.ok _)
  · exact .of_safe (by rintro _ ⟨⟩) (.ok _)
  · next entries =>
    apply ((Accounted.mapM (fun e => (accounted_readCondition service e.2).andThen fun _ _ => .ok _)
      entries).andThen fun _ _ => .ok _).congr
    intro fault
    constructor
    · rintro (⟨e, member, (⟨⟨given, other⟩, rfl⟩ | ⟨⟨⟩⟩)⟩ | ⟨⟨⟩⟩)
      exact .options member given other
    · rintro ⟨member, given, other⟩
      exact .inl ⟨_, member, .inl ⟨⟨given, other⟩, rfl⟩⟩
  · exact .refused _

/-- What happens to the texts: one of them is no text. -/
inductive Mishap.Texts (entries : List (Value × Value)) : Fault → Prop where
  | texts {envFiles : List Value} : (field "env_file" entries).toList = .ok envFiles →
      textFieldFaults entries envFiles ≠ [] →
      Texts entries (.fields (textFieldFaults entries envFiles))

theorem accounted_texts {entries : List (Value × Value)} {envFiles : List Value} (s : Service)
    (same : (field "env_file" entries).toList = .ok envFiles) :
  Accounted
    (if (!(textFieldFaults entries envFiles).isEmpty) = true then
      Except.error (Fault.fields (textFieldFaults entries envFiles))
    else .ok s)
    (Mishap.Texts entries)
  := by
  split
  · next found =>
    apply (Accounted.failed _).congr
    intro fault
    constructor
    · rintro rfl
      exact .texts same (by simpa using found)
    · rintro ⟨same', _⟩
      cases same.symm.trans same'
      rfl
  · next clean =>
    refine .of_safe ?_ (.ok s)
    rintro _ ⟨same', found⟩
    cases same.symm.trans same'
    exact clean (by simpa using found)

/-- What happens to a service. -/
inductive Mishap.Service (entries : List (Value × Value)) : Fault → Prop where
  | command {key : String} {fault : Fault} : key ∈ ["command", "entrypoint"] →
      Command (field key entries) fault → Service entries fault
  | list {key : String} : key ∈ ["env_file", "profiles"] → IsOdd (field key entries) →
      Service entries .wrongType
  | ports {fault : Fault} : Ports (field "ports" entries) fault → Service entries fault
  | check {fault : Fault} : Check (field "healthcheck" entries) fault → Service entries fault
  | dependencies {fault : Fault} : Dependencies (field "depends_on" entries) fault →
      Service entries fault
  | texts {fault : Fault} : Texts entries fault → Service entries fault

theorem accounted_readFields (name : String) (entries : List (Value × Value)) :
  Accounted (readFields name entries) (Mishap.Service entries)
  := by
  rw [readFields_eq]
  apply ((accounted_readCommand _).andThen fun command _ =>
    (accounted_readCommand _).andThen fun entrypoint _ =>
    Accounted.refusedIf _ _ <|
    (accounted_readRestart name _).andThen fun restart _ =>
    (accounted_readEnvironment _).andThen fun environment _ =>
    (accounted_toList _).andThen fun envFiles same =>
    (accounted_readPorts name _).andThen fun ports _ =>
    (accounted_readHealthCheck name _).andThen fun healthCheck _ =>
    (accounted_readDependencies name _).andThen fun dependsOn _ =>
    (accounted_toList _).andThen fun profiles _ =>
    (accounted_readEnvironment _).andThen fun labels _ =>
    accounted_texts _ same).congr
  intro fault
  simp only [false_or]
  constructor
  · rintro (happens | happens | ⟨odd, rfl⟩ | happens | happens | happens | ⟨odd, rfl⟩ | happens)
    · exact .command (by simp) happens
    · exact .command (by simp) happens
    · exact .list (by simp) odd
    · exact .ports happens
    · exact .check happens
    · exact .dependencies happens
    · exact .list (by simp) odd
    · exact .texts happens
  · rintro (⟨key, happens⟩ | ⟨key, odd⟩ | happens | happens | happens | happens)
    · simp only [List.mem_cons, List.not_mem_nil, or_false] at key
      rcases key with rfl | rfl <;> simp [happens]
    · simp only [List.mem_cons, List.not_mem_nil, or_false] at key
      rcases key with rfl | rfl <;> simp [odd]
    all_goals simp [happens]

/-! ### Documents -/

/-- Nothing happens to a service whose mapping is empty. -/
theorem Mishap.Service.not_nil {fault : Fault} :
  ¬ Mishap.Service [] fault
  := by
  rintro (⟨_, happens⟩ | ⟨_, odd⟩ | happens | happens | happens | ⟨same, found⟩)
  · rcases happens with _ | ⟨_, given⟩
    exact given rfl
  · exact odd
  · rcases happens with ⟨_, given⟩ | ⟨members, _⟩
    · cases given
    · cases members
  · cases happens
  · cases happens
  · cases same
    exact found rfl

/-- What happens to the services: it happens to one of them. -/
inductive Mishap.Services : Value → Fault → Prop where
  | service {services : List (Value × Value)} {name : Value} {entries : List (Value × Value)}
      {fault : Fault} : (name, .map entries) ∈ services → Service entries fault →
      Services (.map services) fault

theorem Mishap.Services.exists_map {v : Value} {fault : Fault} (happens : Mishap.Services v fault) :
  ∃ services, v = .map services
  := by
  cases happens
  exact ⟨_, rfl⟩

theorem accounted_readService (name : String) (v : Value) :
  Accounted (readService name v) fun fault =>
    ∃ entries, v = .map entries ∧ Mishap.Service entries fault
  := by
  rw [readService.eq_def]
  split
  · next entries =>
    apply (accounted_readFields name entries).congr
    simp
  · next other =>
    apply Accounted.refusedIf
    apply (accounted_readFields name []).congr
    intro fault
    constructor
    · exact fun happens => (Mishap.Service.not_nil happens).elim
    · rintro ⟨entries, same, -⟩
      exact (other entries same).elim

theorem accounted_readServices (entries : List (Value × Value)) :
  Accounted (readServices entries) (Mishap.Services (.map entries))
  := by
  have steps := (Accounted.mapM (fun e => (accounted_readService e.1.text e.2).andThen fun s _ =>
    .ok (e.1.text, s)) entries).andThen fun services _ => .ok (Table.ofList services)
  apply Accounted.congr (x := readServices entries) steps
  intro fault
  constructor
  · rintro (⟨e, member, ⟨fields, same, happens⟩ | ⟨⟨⟩⟩⟩ | ⟨⟨⟩⟩)
    rw [show e = (e.1, .map fields) from Prod.ext rfl same] at member
    exact .service member happens
  · rintro ⟨member, happens⟩
    exact .inl ⟨_, member, .inl ⟨_, rfl, happens⟩⟩

/-- What happens to a document while the services are read that it declares. -/
inductive Mishap.Declared : Value → Fault → Prop where
  | services {entries : List (Value × Value)} {fault : Fault} :
      Services (field "services" entries) fault → Declared (.map entries) fault

/-- What happens to a document whose variables have been put in: a number in it cannot be written
out, or it happens to what it declares. -/
inductive Mishap.Expanded (document : Value) : Fault → Prop where
  | overlong {v : Value} : v ∈ written document → isOverlong v → Expanded document .badValue
  | declared {fault : Fault} : Declared document fault → Expanded document fault

theorem accounted_make (project : String) (services : Table Service) :
  Accounted ((make project services).mapError .descriptor) fun _ => False
  := by
  cases make project services
  · exact .refused _
  · exact .ok _

theorem accounted_ofDocument (project : String) (document : Value) :
  Accounted (ofDocument project document) (Mishap.Declared document)
  := by
  unfold ofDocument
  split
  · next entries =>
    apply Accounted.congr (?_ : Accounted _ (Mishap.Services (field "services" entries)))
    · intro fault
      constructor
      · exact .services
      · rintro ⟨happens⟩
        exact happens
    · simp only [pure_bind]
      split
      · next services same =>
        rw [same]
        apply ((accounted_readServices _).andThen fun _ _ => accounted_make project _).congr
        simp
      · next other =>
        apply Accounted.refusedIf .servicesNotMapping
        refine .of_safe ?_ (accounted_make project ∅)
        intro fault happens
        obtain ⟨services, same⟩ := happens.exists_map
        exact other services same
  · next other =>
    apply Accounted.refusedIf .notMapping
    refine .of_safe ?_ (accounted_make project ∅)
    rintro _ ⟨⟩
    exact other _ rfl

theorem accounted_ofExpanded (project : String) (document : Value) :
  Accounted (ofExpanded project document) (Mishap.Expanded document)
  := by
  apply ((accounted_ofDocument project document).failedIf .badValue
    ((written document).any isOverlong)).congr
  intro fault
  rw [List.any_eq_true]
  constructor
  · rintro (⟨⟨v, mem, long⟩, rfl⟩ | happens)
    · exact .overlong mem long
    · exact .declared happens
  · rintro (⟨mem, long⟩ | happens)
    · exact .inl ⟨⟨_, mem, long⟩, rfl⟩
    · exact .inr happens

mutual

/-- Whether a value contains itself. -/
def isEndless : Value → Bool
  | .loop _ => true
  | .list items => isEndlessAny items
  | .map entries => isEndlessEntry entries
  | _ => false

/-- Whether a member of a list contains itself. -/
def isEndlessAny : List Value → Bool
  | [] => false
  | v :: r => isEndless v || isEndlessAny r

/-- Whether a key or a value of a mapping contains itself. -/
def isEndlessEntry : List (Value × Value) → Bool
  | [] => false
  | (k, v) :: r => isEndless k || isEndless v || isEndlessEntry r

end

mutual

theorem accounted_expand (context : Table String) (v : Value) :
  Accounted (v.expand context) fun fault => isEndless v ∧ fault = .tooDeep
  := by
  cases v with
  | str s =>
    rw [expand, expandText]
    split
    · exact .of_safe (by simp [isEndless]) (.ok _)
    · exact .refused _
  | list items =>
    rw [expand, isEndless]
    apply ((accounted_expandItems context items).andThen fun _ _ => .ok _).congr
    simp
  | map entries =>
    rw [expand, isEndless]
    apply ((accounted_expandEntries context entries).andThen fun _ _ => .ok _).congr
    simp
  | loop =>
    rw [expand, isEndless]
    apply (Accounted.failed _).congr
    simp
  | _ => exact .of_safe (by simp [isEndless]) (.ok _)

theorem accounted_expandItems (context : Table String) (items : List Value) :
  Accounted (expandItems context items) fun fault => isEndlessAny items ∧ fault = .tooDeep
  := by
  cases items with
  | nil => exact .of_safe (by simp [isEndlessAny]) (.ok _)
  | cons v r =>
    rw [expandItems, isEndlessAny]
    apply ((accounted_expand context v).andThen fun _ _ =>
      (accounted_expandItems context r).andThen fun _ _ => .ok _).congr
    intro fault
    rw [Bool.or_eq_true]
    grind

theorem accounted_expandEntries (context : Table String) (entries : List (Value × Value)) :
  Accounted (expandEntries context entries) fun fault => isEndlessEntry entries ∧ fault = .tooDeep
  := by
  cases entries with
  | nil => exact .of_safe (by simp [isEndlessEntry]) (.ok _)
  | cons e r =>
    obtain ⟨k, v⟩ := e
    rw [expandEntries, isEndlessEntry]
    apply ((accounted_expand context k).andThen fun _ _ =>
      (accounted_expand context v).andThen fun _ _ =>
      (accounted_expandEntries context r).andThen fun _ _ => .ok _).congr
    intro fault
    rw [Bool.or_eq_true, Bool.or_eq_true]
    grind

end

/-- What happens to a document under the variables of a context. -/
inductive Mishap.Document (context : Table String) (document : Value) : Fault → Prop where
  | endless : isEndless document → Document context document .tooDeep
  | deep : IsNested nestingLimit document → Document context document .tooDeep
  | expanded {v : Value} {unset : List String} {fault : Fault} :
      document.expand context = .ok (v, unset) → Expanded v fault → Document context document fault

/-- The expansion of a document that is nested too deeply is refused, or it comes to its limit. -/
theorem expand_of_isNested {document : Value} (nested : IsNested nestingLimit document)
    (context : Table String) :
  ∃ fault, (document.cut nestingLimit).expand context = .error fault
    ∧ ((∃ cause, fault = .descriptor cause) ∨ fault = .tooDeep)
  := by
  cases expanded : (document.cut nestingLimit).expand context with
  | ok a => exact absurd nested (Becomes.not_isNested ⟨a.2, expanded⟩)
  | error fault =>
    exact ⟨fault, rfl, ((accounted_expand context _).of_error fault expanded).imp_right And.right⟩

/-- Reading any document under any variables gives a descriptor, or it is refused with a fault of
the descriptor, or a mishap happens to the document.  Where a mishap is to happen, no descriptor is
read. -/
theorem accounted_read (project : String) (context : Table String) (document : Value) :
  Accounted (read project context document) (Mishap.Document context document)
  := by
  by_cases nested : IsNested nestingLimit document
  · obtain ⟨fault, failed, why⟩ := expand_of_isNested nested context
    have stopped : read project context document = .error fault := by
      rw [read, failed]
      rfl
    rw [stopped]
    constructor
    · rintro _ ⟨⟩
      apply why.imp_right
      rintro rfl
      exact .deep nested
    · exact fun _ _ => ⟨fault, rfl⟩
  · have steps := (accounted_expand context document).bind fun expanded _ =>
      (accounted_ofExpanded project expanded.1).andThen fun descriptor _ =>
        .ok (descriptor, expanded.2)
    rw [read, cut_of_not_isNested nested]
    apply Accounted.congr steps
    intro fault
    constructor
    · rintro (⟨endless, rfl⟩ | ⟨expanded, ok, happens | ⟨⟨⟩⟩⟩)
      · exact .endless endless
      · exact .expanded ok happens
    · rintro (endless | deep | ⟨ok, happens⟩)
      · exact .inl ⟨endless, rfl⟩
      · exact absurd deep nested
      · exact .inr ⟨_, ok, .inl happens⟩

end Muster.Descriptor

namespace Muster

open Value Interpolation

/-- A service whose command is a number. -/
def Sample.numbered : Value :=
  .map [(.str "services",
    .map [(.str "web", .map [(.str "image", .str "nginx"), (.str "command", .int 5)])])]

/-- A command that is a number is not refused as a fault of the descriptor. -/
theorem Descriptor.read_numbered :
  Descriptor.read "default" ∅ Sample.numbered = .error .wrongType
    ∧ ∀ cause, Fault.wrongType ≠ .descriptor cause
  := by
  have texts : ∀ s ∈ ["services", "web", "image", "nginx", "command"], Inert s :=
    fun s member => inert_of_not_mem (by revert s; decide)
  have inert : IsInert Sample.numbered := by
    simp_all [Sample.numbered, IsInert, EntriesInert]
  have flat : ¬ IsNested nestingLimit Sample.numbered := by
    intro nested
    have := isNested_of_le (m := 3) nested (by decide)
    simp [Sample.numbered, IsNested] at this
  refine ⟨?_, nofun⟩
  rw [Descriptor.read, cut_of_not_isNested flat, expand_of_isInert inert]
  rfl

end Muster
