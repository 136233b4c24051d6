import Muster.Proofs.Descriptor.Normal
import Muster.Proofs.Interpolation.Segments
import Muster.Proofs.Table
/-!
# The entries of a document and its services

A document names its services by keys, and a service goes by the text of what its key becomes.
Two things can make one name of several keys: texts that differ become equal when variables are
put in, and keys that are no texts read like others that are.  The entries of one name leave one
service behind, so a descriptor has a service for every entry exactly when the names differ.
-/

namespace Muster

theorem map_eq_of_forall₂ {α β γ : Type} {R : α → β → Prop} {f : α → γ} {g : β → γ} {as : List α}
    {bs : List β} (related : List.Forall₂ R as bs) (same : ∀ a b, R a b → f a = g b) :
  as.map f = bs.map g
  := by
  rw [← List.forall₂_eq_eq_eq, List.forall₂_map_left_iff, List.forall₂_map_right_iff]
  exact related.imp same

/-- What holds of any two members of a list in their order goes over to the members that they are
related to. -/
theorem pairwise_of_forall₂ {α β : Type} {R : α → β → Prop} {S : α → α → Prop} {T : β → β → Prop}
    {as : List α} {bs : List β} (related : List.Forall₂ R as bs)
    (carries : ∀ a b c d, R a c → R b d → S a b → T c d) (pairwise : as.Pairwise S) :
  bs.Pairwise T
  := by
  induction related with
  | nil => exact .nil
  | cons here related ih =>
    obtain ⟨first, others⟩ := List.pairwise_cons.mp pairwise
    refine .cons (fun d mem => ?_) (ih others)
    obtain ⟨b, mem, there⟩ := Value.exists_of_forall₂ related.flip mem
    exact carries _ _ _ _ here there (first b mem)

theorem forall₂_trans {α β γ : Type} {R : α → β → Prop} {S : β → γ → Prop} {T : α → γ → Prop}
    {as : List α} {bs : List β} {cs : List γ} (first : List.Forall₂ R as bs)
    (second : List.Forall₂ S bs cs) (join : ∀ a b c, R a b → S b c → T a c) :
  List.Forall₂ T as cs
  := by
  induction first generalizing cs with
  | nil =>
    cases second
    exact .nil
  | cons here _ ih =>
    cases second with
    | cons there rest => exact .cons (join _ _ _ here there) (ih rest)

namespace Value

open Interpolation

variable {context : Table String} {k l k' l' v w : Value} {entries others : List (Value × Value)}

/-! ### Keys that become equal -/

/-- A value that holds no text and no other value. -/
def IsPlain : Value → Prop
  | str _ | list _ | map _ | loop _ => False
  | _ => True

theorem isPlain_of_number? {x : Int × Nat} (found : k.number? = some x) :
  k.IsPlain
  := by
  cases k with
  | str | list | map | loop => cases found
  | _ => trivial

/-- One key is equal to another only if both are the same text, or neither is a text. -/
theorem cases_of_sameKey (same : k.sameKey l = true) :
  (∃ s, k = str s ∧ l = str s) ∨ k.IsPlain ∧ l.IsPlain
  := by
  rw [sameKey.eq_def] at same
  split at same
  · next found found' => exact .inr ⟨isPlain_of_number? found, isPlain_of_number? found'⟩
  · cases same
  · cases same
  · split at same
    · exact .inr ⟨trivial, trivial⟩
    · exact .inr ⟨trivial, trivial⟩
    · exact .inl ⟨_, rfl, by rw [eq_of_beq same]⟩
    · exact .inr ⟨trivial, trivial⟩
    · exact .inr ⟨trivial, trivial⟩
    · exact .inr ⟨trivial, trivial⟩
    · cases same

theorem Becomes.eq_of_isPlain (becomes : Becomes context v w) (plain : w.IsPlain) :
  w = v
  := by
  cases v with
  | str s =>
    obtain ⟨t, rfl, -⟩ := becomes.of_str
    exact plain.elim
  | list items =>
    obtain ⟨others, rfl, -⟩ := becomes.of_list
    exact plain.elim
  | map entries =>
    obtain ⟨others, rfl, -⟩ := becomes.of_map
    exact plain.elim
  | loop =>
    obtain ⟨unset, ok⟩ := becomes
    cases ok
  | _ =>
    obtain ⟨unset, ok⟩ := becomes
    cases ok
    rfl

theorem Becomes.unique (one : Becomes context v w) {w' : Value} (two : Becomes context v w') :
  w = w'
  := by
  obtain ⟨unset, one⟩ := one
  obtain ⟨unset', two⟩ := two
  cases one.symm.trans two
  rfl

/-- Different keys that become equal become the same text. -/
theorem text_eq_of_sameKey (differ : k.sameKey l = false) (first : Becomes context k k')
    (second : Becomes context l l') (same : k'.sameKey l' = true) :
  k'.text = l'.text
  := by
  rcases cases_of_sameKey same with ⟨s, rfl, rfl⟩ | ⟨plain, plain'⟩
  · rfl
  · rw [first.eq_of_isPlain plain, second.eq_of_isPlain plain', differ] at same
    cases same

/-! ### Entries under one key -/

/-- The texts of the keys of a list of entries. -/
def keyTexts (entries : List (Value × Value)) : List String :=
  (entries.map Prod.fst).map text

theorem keyTexts_append (entries others : List (Value × Value)) :
  keyTexts (entries ++ others) = keyTexts entries ++ keyTexts others
  := by
  simp [keyTexts]

/-- The entries that are left when entries are written one after the other. -/
def writeAll (later earlier : List (Value × Value)) : List (Value × Value) :=
  later.foldl (fun acc e => writeKey e.1 e.2 acc) earlier

/-- Keys are equal only if they read alike. -/
def ReadAlike (keys : List Value) : Prop :=
  keys.Pairwise fun k l => k.sameKey l = true → k.text = l.text

theorem writeKey_cases (key value : Value) (entries : List (Value × Value)) :
  ((∃ e ∈ entries, e.1.sameKey key = true)
      ∧ (writeKey key value entries).map Prod.fst = entries.map Prod.fst)
    ∨ (writeKey key value entries).map Prod.fst = entries.map Prod.fst ++ [key]
  := by
  induction entries with
  | nil => exact .inr rfl
  | cons e r ih =>
    obtain ⟨k, v⟩ := e
    rw [writeKey]
    split
    · next same => exact .inl ⟨⟨_, List.mem_cons_self, same⟩, rfl⟩
    · simp only [List.map_cons, List.cons_append, List.cons.injEq, true_and]
      rcases ih with ⟨⟨e, mem, same⟩, kept⟩ | added
      · exact .inl ⟨⟨e, List.mem_cons_of_mem _ mem, same⟩, kept⟩
      · exact .inr added

theorem mem_of_mem_writeKey {key value : Value} {e : Value × Value}
    (mem : e ∈ writeKey key value entries) :
  e ∈ entries ∨ e.2 = value ∧ (e.1 = key
    ∨ e.1.sameKey key = true ∧ ∃ old, (e.1, old) ∈ entries)
  := by
  induction entries with
  | nil =>
    obtain rfl := List.mem_singleton.mp mem
    exact .inr ⟨rfl, .inl rfl⟩
  | cons first r ih =>
    obtain ⟨k, v⟩ := first
    rw [writeKey] at mem
    split at mem
    · next same =>
      rcases List.mem_cons.mp mem with rfl | later
      · exact .inr ⟨rfl, .inr ⟨same, v, List.mem_cons_self⟩⟩
      · exact .inl (List.mem_cons_of_mem _ later)
    · rcases List.mem_cons.mp mem with rfl | later
      · exact .inl List.mem_cons_self
      · rcases ih later with old | ⟨own, new | ⟨same, old, mem⟩⟩
        · exact .inl (List.mem_cons_of_mem _ old)
        · exact .inr ⟨own, .inl new⟩
        · exact .inr ⟨own, .inr ⟨same, old, List.mem_cons_of_mem _ mem⟩⟩

section WriteAll

variable {e : Value × Value} {earlier later : List (Value × Value)}

/-- Writing an entry keeps the texts of the keys, or adds a new one at the end. -/
theorem ReadAlike.write_cases (alike : ReadAlike ((earlier ++ e :: later).map Prod.fst)) :
  (e.1.text ∈ keyTexts earlier
      ∧ (writeKey e.1 e.2 earlier).map Prod.fst = earlier.map Prod.fst)
    ∨ (writeKey e.1 e.2 earlier).map Prod.fst = earlier.map Prod.fst ++ [e.1]
  := by
  rcases writeKey_cases e.1 e.2 earlier with ⟨⟨old, mem, same⟩, kept⟩ | added
  · rw [ReadAlike, List.map_append, List.pairwise_append] at alike
    refine .inl ⟨?_, kept⟩
    rw [← alike.2.2 old.1 (List.mem_map_of_mem mem) e.1 (by simp) same]
    exact List.mem_map_of_mem (List.mem_map_of_mem mem)
  · exact .inr added

theorem ReadAlike.write (alike : ReadAlike ((earlier ++ e :: later).map Prod.fst)) :
  ReadAlike ((writeKey e.1 e.2 earlier ++ later).map Prod.fst)
  := by
  have whole : (earlier ++ e :: later).map Prod.fst
      = earlier.map Prod.fst ++ e.1 :: later.map Prod.fst := by simp
  rw [whole] at alike
  rw [List.map_append]
  rcases writeKey_cases e.1 e.2 earlier with ⟨-, kept⟩ | added
  · rw [kept]
    exact alike.sublist ((List.sublist_cons_self ..).append_left _)
  · rwa [added, List.append_assoc, List.singleton_append]

/-- Entries that are written one after the other leave the texts of their keys behind, each at its
first place. -/
theorem eraseDups_keyTexts_writeAll (alike : ReadAlike ((earlier ++ later).map Prod.fst)) :
  (keyTexts (writeAll later earlier)).eraseDups = (keyTexts (earlier ++ later)).eraseDups
  := by
  induction later generalizing earlier with
  | nil => rw [List.append_nil, writeAll, List.foldl_nil]
  | cons e r ih =>
    rw [writeAll, List.foldl_cons, ← writeAll, ih alike.write, keyTexts_append, keyTexts_append]
    have first : keyTexts (e :: r) = e.1.text :: keyTexts r := rfl
    rcases alike.write_cases with ⟨old, kept⟩ | added
    · rw [first, eraseDups_append_cons old]
      simp only [keyTexts, kept]
    · rw [first, keyTexts, added, List.map_append, List.append_assoc]
      rfl

/-- Every entry that is left has its value from an entry whose key reads like its own. -/
theorem exists_of_mem_writeAll (alike : ReadAlike ((earlier ++ later).map Prod.fst))
    (mem : e ∈ writeAll later earlier) :
  ∃ f ∈ earlier ++ later, f.2 = e.2 ∧ f.1.text = e.1.text
  := by
  induction later generalizing earlier with
  | nil => exact ⟨e, by simpa [writeAll] using mem, rfl, rfl⟩
  | cons first r ih =>
    rw [writeAll, List.foldl_cons, ← writeAll] at mem
    obtain ⟨f, mem, value, key⟩ := ih alike.write mem
    rcases List.mem_append.mp mem with written | late
    · rcases mem_of_mem_writeKey written with old | ⟨own, new | ⟨same, old, held⟩⟩
      · exact ⟨f, List.mem_append_left _ old, value, key⟩
      · exact ⟨first, by simp, by rw [← own, value], by rw [← key, new]⟩
      · rw [ReadAlike, List.map_append, List.pairwise_append] at alike
        have read := alike.2.2 f.1 (List.mem_map.mpr ⟨_, held, rfl⟩) first.1 (by simp) same
        exact ⟨first, by simp, by rw [← own, value], by rw [← read, key]⟩
    · exact ⟨f, List.mem_append_right _ (List.mem_cons_of_mem _ late), value, key⟩

end WriteAll

/-! ### The mapping of services -/

/-- Whether a key is a given text. -/
def isText (key : String) : Value → Bool
  | str s => s == key
  | _ => false

/-- Whether a key becomes a given text when variables are put in. -/
def becomesText (context : Table String) (key : String) : Value → Bool
  | str s =>
    match interpolate context s with
    | .ok e => e.text == key
    | .error _ => false
  | _ => false

/-- The value of the last entry whose key satisfies a test. -/
def lastUnder? (p : Value → Bool) : List (Value × Value) → Option Value
  | [] => none
  | (k, v) :: r => (lastUnder? p r).or (if p k then some v else none)

theorem isText_iff {key : String} :
  isText key k = true ↔ k = str key
  := by
  cases k with
  | str s => simp [isText]
  | _ => exact ⟨nofun, nofun⟩

theorem isText_eq (becomes : Becomes context k k') (key : String) :
  isText key k' = becomesText context key k
  := by
  cases k with
  | str s =>
    obtain ⟨t, rfl, unset, turned⟩ := becomes.of_str
    simp [isText, becomesText, turned]
  | list items =>
    obtain ⟨others, rfl, -⟩ := becomes.of_list
    rfl
  | map entries =>
    obtain ⟨others, rfl, -⟩ := becomes.of_map
    rfl
  | loop =>
    obtain ⟨unset, ok⟩ := becomes
    cases ok
  | _ =>
    obtain ⟨unset, ok⟩ := becomes
    cases ok
    rfl

theorem field?_cons (key : String) (k v : Value) (r : List (Value × Value)) :
  field? key ((k, v) :: r) = if isText key k then some v else field? key r
  := by
  cases k with
  | str s => simp [field?, isText]
  | _ => rfl

/-- An entry that has been written is found under its key. -/
theorem field?_writeKey (key : String) (k v : Value) (entries : List (Value × Value)) :
  field? key (writeKey k v entries) = if isText key k then some v else field? key entries
  := by
  induction entries with
  | nil => rw [writeKey, field?_cons]
  | cons e r ih =>
    obtain ⟨first, old⟩ := e
    rw [writeKey]
    split
    · next same =>
      have agree : isText key first = isText key k := by
        rw [Bool.eq_iff_iff, isText_iff, isText_iff]
        rcases cases_of_sameKey same with ⟨s, rfl, rfl⟩ | ⟨plain, plain'⟩
        · rfl
        · constructor
          · rintro rfl
            exact plain.elim
          · rintro rfl
            exact plain'.elim
      rw [field?_cons, field?_cons, agree]
      split <;> rfl
    · next differ =>
      rw [field?_cons, field?_cons, ih]
      by_cases own : isText key k = true
      · have other : isText key first = false := by
          by_contra both
          have both : isText key first = true := by simpa using both
          rw [isText_iff.mp own, isText_iff.mp both, sameKey_str] at differ
          simp at differ
        simp [own, other]
      · simp [own]

/-- Of entries that have been written one after the other the last one under a key is found. -/
theorem field?_writeAll (key : String) (later earlier : List (Value × Value)) :
  field? key (writeAll later earlier) = (lastUnder? (isText key) later).or (field? key earlier)
  := by
  induction later generalizing earlier with
  | nil => rfl
  | cons e r ih =>
    rw [writeAll, List.foldl_cons, ← writeAll, ih, field?_writeKey, lastUnder?, Option.or_assoc]
    split <;> rfl

/-- The last entry whose key becomes a text is the last one with this text as its key. -/
theorem lastUnder?_becomes (key : String) (became : List.Forall₂
    (fun e f => Becomes context e.1 f.1 ∧ Becomes context e.2 f.2) entries others) :
  Option.Rel (Becomes context) (lastUnder? (becomesText context key) entries)
    (lastUnder? (isText key) others)
  := by
  induction became with
  | nil => exact .none
  | cons here _ ih =>
    rw [lastUnder?, lastUnder?, isText_eq here.1]
    generalize lastUnder? (becomesText context key) _ = last at ih
    generalize lastUnder? (isText key) _ = last' at ih
    cases ih with
    | some found => exact .some found
    | none =>
      rw [Option.none_or, Option.none_or]
      split
      · exact .some here.2
      · exact .none

theorem becomes_getD {one two : Option Value} (became : Option.Rel (Becomes context) one two) :
  Becomes context (one.getD null) (two.getD null)
  := by
  cases became with
  | some became => exact became
  | none => exact ⟨[], rfl⟩

/-- The entries of a mapping; other values have none. -/
def entriesOf : Value → List (Value × Value)
  | map entries => entries
  | _ => []

theorem entriesOf_of_not_map (other : ∀ entries, v ≠ map entries) :
  entriesOf v = []
  := by
  cases v with
  | map entries => exact absurd rfl (other entries)
  | _ => rfl

/-- The entries of a value become entries that are written one after the other. -/
theorem entriesOf_becomes (becomes : Becomes context v w) :
  ∃ others, entriesOf w = writeAll others [] ∧ List.Forall₂
    (fun e f => Becomes context e.1 f.1 ∧ Becomes context e.2 f.2) (entriesOf v) others
  := by
  cases v with
  | str s =>
    obtain ⟨t, rfl, -⟩ := becomes.of_str
    exact ⟨[], rfl, .nil⟩
  | list items =>
    obtain ⟨others, rfl, -⟩ := becomes.of_list
    exact ⟨[], rfl, .nil⟩
  | map entries =>
    obtain ⟨others, rfl, became⟩ := becomes.of_map
    exact ⟨others, rfl, became⟩
  | loop =>
    obtain ⟨unset, ok⟩ := becomes
    cases ok
  | _ =>
    obtain ⟨unset, ok⟩ := becomes
    cases ok
    exact ⟨[], rfl, .nil⟩

end Value

namespace Descriptor

open Value

variable {project : String} {context : Table String} {document w : Value} {d : Descriptor}

/-- The entries of the mapping that declares the services of a document.  Where several keys
become the one that services stand under, the last of them counts. -/
def serviceEntries (context : Table String) (document : Value) : List (Value × Value) :=
  entriesOf ((lastUnder? (becomesText context "services") (entriesOf document)).getD .null)

/-- The name that an entry gives to a service when the variables have been put in. -/
def NamedUnder (context : Table String) (e : Value × Value) (name : String) : Prop :=
  ∃ k, Becomes context e.1 k ∧ name = k.text

/-- A service has been read from an entry and stands under the name that the entry gives it. -/
def ReadFrom (context : Table String) (e : Value × Value) (r : String × Service) : Prop :=
  NamedUnder context e r.1 ∧ ∃ v, Becomes context e.2 v ∧ readService r.1 v = .ok r.2

/-- An entry gives one name. -/
theorem rightUnique_namedUnder :
  Relator.RightUnique (NamedUnder context)
  := by
  rintro e _ _ ⟨k, becomes, rfl⟩ ⟨k', becomes', rfl⟩
  rw [becomes.unique becomes']

/-- The mapping of services is what remains of the entries when the variables have been put in. -/
theorem services_becomes (becomes : Becomes context document w) :
  ∃ others, entriesOf (field "services" (entriesOf w)) = writeAll others [] ∧ List.Forall₂
    (fun e f => Becomes context e.1 f.1 ∧ Becomes context e.2 f.2)
    (serviceEntries context document) others
  := by
  obtain ⟨all, written, became⟩ := entriesOf_becomes becomes
  have last := lastUnder?_becomes "services" became
  have found : field "services" (entriesOf w)
      = (lastUnder? (isText "services") all).getD .null := by
    rw [field, written, field?_writeAll, field?, Option.or_none]
  rw [serviceEntries, found]
  apply entriesOf_becomes (becomes_getD last)

/-- A descriptor has the services that are read from the mapping of services. -/
theorem readServices_of_ofDocument (ok : ofDocument project w = .ok d) :
  readServices (entriesOf (field "services" (entriesOf w))) = .ok d.services
  := by
  have made {table : Table Service}
      (ok : (make project table).mapError Fault.descriptor = .ok d) : d.services = table :=
    services_of_make (mapError_descriptor_eq_ok_iff.mp ok)
  unfold ofDocument at ok
  split at ok
  · next entries =>
    simp only [pure_bind] at ok
    rw [entriesOf]
    split at ok
    · next services found =>
      obtain ⟨table, read, ok⟩ := bind_eq_ok_iff.mp ok
      rw [found, entriesOf, read, made ok]
    · next other =>
      rw [entriesOf_of_not_map other]
      split at ok
      · cases ok
      · rw [made ok]
        rfl
  · next other =>
    rw [entriesOf_of_not_map other]
    split at ok
    · cases ok
    · have ok : (make project ∅).mapError Fault.descriptor = .ok d := ok
      rw [made ok]
      rfl

/-- The services of a descriptor, when what the entries have become is known. -/
theorem services_of_written {others : List (Value × Value)}
    (alike : ReadAlike (others.map Prod.fst))
    (read : readServices (writeAll others []) = .ok d.services) :
  d.names = (keyTexts others).eraseDups
    ∧ ∀ r ∈ d.services.entries, ∃ f ∈ others, r.1 = f.1.text ∧ readService r.1 f.2 = .ok r.2
  := by
  have alike : ReadAlike (([] ++ others).map Prod.fst) := alike
  obtain ⟨each, same, one⟩ := readServices_eq_ok_iff.mp read
  constructor
  · have texts : keyTexts (writeAll others []) = each.map Prod.fst := by
      rw [keyTexts, List.map_map]
      exact map_eq_of_forall₂ one fun _ _ here => here.1.symm
    rw [names, same, Table.keys_ofList, ← texts, eraseDups_keyTexts_writeAll alike,
      List.nil_append]
  · intro r mem
    rw [same] at mem
    obtain ⟨e, mem, name, read⟩ := exists_of_forall₂ one.flip (Table.mem_of_mem_ofList mem)
    obtain ⟨f, mem, value, key⟩ := exists_of_mem_writeAll alike mem
    exact ⟨f, mem, by rw [name, key], by rw [name, value, read]⟩

/-- Entries whose keys read differently leave a service each behind, in their order. -/
theorem services_of_nodup {others : List (Value × Value)} (alike : ReadAlike (others.map Prod.fst))
    (nodup : (keyTexts others).Nodup)
    (read : readServices (writeAll others []) = .ok d.services) :
  List.Forall₂ (fun f r => r.1 = f.1.text ∧ readService f.1.text f.2 = .ok r.2) others
    d.services.entries
  := by
  have distinct : others.Pairwise fun a b => a.1.sameKey b.1 = false := by
    rw [ReadAlike, List.pairwise_map] at alike
    rw [keyTexts, List.map_map, List.Nodup, List.pairwise_map] at nodup
    refine (alike.and nodup).imp fun ⟨alike, differ⟩ => ?_
    by_contra same
    apply differ (alike (by simpa using same))
  have written : writeAll others [] = others := by
    have := ofEntries_of_distinct distinct
    exact Value.map.inj this
  obtain ⟨each, same, one⟩ := readServices_eq_ok_iff.mp read
  rw [written] at one
  have texts : keyTexts others = each.map Prod.fst := by
    rw [keyTexts, List.map_map]
    exact map_eq_of_forall₂ one fun _ _ here => here.1.symm
  rwa [same, Table.entries_ofList (texts ▸ nodup)]

/-- Every service of a descriptor is read from an entry of the mapping of services that gives it
its name, and every name that an entry gives belongs to one service, in the order in which the
names are first given.  So there is a service for each entry exactly when no two entries give the
same name; this depends on the values of the variables, and on keys that are no texts. -/
theorem names_of_read {unset : List String} (ok : read project context document = .ok (d, unset))
    (distinct : (serviceEntries context document).Pairwise fun a b => a.1.sameKey b.1 = false) :
  ∃ names, List.Forall₂ (NamedUnder context) (serviceEntries context document) names
    ∧ d.names = names.eraseDups
    ∧ (∀ r ∈ d.services.entries, ∃ e ∈ serviceEntries context document, ReadFrom context e r)
    ∧ (List.Forall₂ (ReadFrom context) (serviceEntries context document) d.services.entries
      ↔ names.Nodup)
  := by
  obtain ⟨-, w, expanded, -, declared⟩ := read_eq_ok_iff.mp ok
  obtain ⟨others, written, became⟩ := services_becomes ⟨unset, expanded⟩
  have read : readServices (writeAll others []) = .ok d.services :=
    written ▸ readServices_of_ofDocument declared
  have alike : ReadAlike (others.map Prod.fst) := by
    rw [ReadAlike, List.pairwise_map]
    refine pairwise_of_forall₂ became (fun a b c d first second differ same => ?_) distinct
    exact text_eq_of_sameKey differ first.1 second.1 same
  obtain ⟨listed, each⟩ := services_of_written alike read
  have named : List.Forall₂ (NamedUnder context) (serviceEntries context document)
      (keyTexts others) := by
    rw [keyTexts, List.map_map, List.forall₂_map_right_iff]
    exact became.imp fun _ _ here => ⟨_, here.1, rfl⟩
  refine ⟨keyTexts others, named, listed, ?_, ?_, ?_⟩
  · intro r mem
    obtain ⟨f, mem, name, service⟩ := each r mem
    obtain ⟨e, mem, key, value⟩ := exists_of_forall₂ became.flip mem
    exact ⟨e, mem, ⟨_, key, name⟩, _, value, service⟩
  · intro one
    have names : List.Forall₂ (NamedUnder context) (serviceEntries context document) d.names := by
      rw [names, Table.keys, List.forall₂_map_right_iff]
      exact one.imp fun _ _ here => here.1
    rw [List.right_unique_forall₂' rightUnique_namedUnder named names]
    exact d.services.nodup_keys
  · intro nodup
    refine forall₂_trans became (services_of_nodup alike nodup read) fun e f r here there => ?_
    exact ⟨⟨_, here.1, there.1⟩, _, here.2, there.1 ▸ there.2⟩

end Descriptor

/-! ### Two shops -/

namespace Sample

open Interpolation Value Descriptor

/-- The names of two shops. -/
def signs (blue green : String) : Table String :=
  ⟨[("BLUE", blue), ("GREEN", green)], by simp⟩

/-- What declares a service of which only the image is given. -/
def pulling (image : String) : Value :=
  .map [(.str "image", .str image)]

/-- A service of which only the image is given. -/
def pulled (name image : String) : Service where
  name
  image

theorem readService_pulling (name : String) {image : String} (given : image ≠ "") :
  readService name (pulling image) = .ok (pulled name image)
  := by
  have given : (image != "") = true := by simpa using given
  refine readFields_eq_ok_iff.mpr ?_
  exact {
    named := rfl
    image := by simp [imageText, field, field?, isGiven, given, pulled]
    command := rfl
    entrypoint := rfl
    runs := .inl (by simpa [field, field?, isGiven] using given)
    restart := rfl
    environment := rfl
    envFiles := ⟨[], rfl, rfl, rfl⟩
    ports := rfl
    healthCheck := rfl
    dependsOn := rfl
    profiles := ⟨[], rfl, rfl⟩
    labels := rfl
    workingDir := rfl
    containerName := rfl }

/-- The entries of two shops, each under a variable. -/
def shopEntries : List (Value × Value) :=
  [(.str "$\x7bBLUE\x7d", pulling "shop:1"), (.str "$\x7bGREEN\x7d", pulling "shop:2")]

/-- A document with the two shops. -/
def shops : Value :=
  .map [(.str "services", .map shopEntries)]

variable {blue green : String}

theorem turns_signs :
  interpolate (signs blue green) "$\x7bBLUE\x7d" = .ok (.ofText blue)
    ∧ interpolate (signs blue green) "$\x7bGREEN\x7d" = .ok (.ofText green)
  := by
  have braced (name : List Char) (isName : IsName name) :=
    interpolate_braced (signs blue green) isName
  exact ⟨braced "BLUE".toList (by decide), braced "GREEN".toList (by decide)⟩

theorem serviceEntries_shops (blue green : String) :
  serviceEntries (signs blue green) shops = shopEntries
  := by
  have inert : Inert "services" := inert_of_not_mem (by decide)
  simp [serviceEntries, shops, entriesOf, lastUnder?, becomesText, interpolate_of_inert inert,
    Expansion.ofText]

theorem distinct_shopEntries :
  shopEntries.Pairwise fun a b => a.1.sameKey b.1 = false
  := by
  simp [shopEntries]

theorem expand_shops :
  shops.expand (signs blue green) = .ok (.map [(.str "services",
    ofEntries [(.str blue, pulling "shop:1"), (.str green, pulling "shop:2")])], [])
  := by
  have texts : ∀ s ∈ ["services", "image", "shop:1", "shop:2"], Inert s :=
    fun s mem => inert_of_not_mem (by revert s; decide)
  have inert : IsInert (.str "services") ∧ IsInert (pulling "shop:1")
      ∧ IsInert (pulling "shop:2") := by
    simp_all [pulling, IsInert, EntriesInert]
  obtain ⟨key, first, second⟩ := inert
  have single (v : Value) : ofEntries [(.str "services", v)] = .map [(.str "services", v)] := rfl
  rw [shops, expand, expandEntries, expand_of_isInert key, expand, shopEntries]
  simp only [expandEntries, expand_of_isInert first, expand_of_isInert second]
  simp only [expand, expandText, turns_signs, bind, Except.bind, pure, Except.pure, single]
  rfl

theorem read_shops {d : Descriptor} (services : readServices (entriesOf (ofEntries
    [(.str blue, pulling "shop:1"), (.str green, pulling "shop:2")])) = .ok d.services) :
  Descriptor.read d.project (signs blue green) shops = .ok (d, [])
  := by
  have flat : ¬ IsNested nestingLimit shops := by
    intro nested
    have := isNested_of_le (m := 3) nested (by decide)
    simp [shops, shopEntries, pulling, IsNested] at this
  have short : isOverlongEntry (entriesOf (ofEntries
      [(.str blue, pulling "shop:1"), (.str green, pulling "shop:2")])) = false := by
    by_cases same : blue = green <;>
      simp [same, entriesOf, ofEntries, writeKey, isOverlongEntry, isOverlong, pulling]
  exact read_eq_ok_iff.mpr ⟨flat, _, expand_shops, writable_of_short rfl short,
    (ofDocument_eq_ok_iff rfl).mpr ⟨_, services, make_services d⟩⟩

/-- The stack of the two shops under different names. -/
def street : Descriptor where
  project := "demo"
  services := ⟨[("shop", pulled "shop" "shop:1"), ("store", pulled "store" "shop:2")], by decide⟩
  named := by simp [pulled]
  closed := by decide

end Sample

namespace Descriptor

open Sample Interpolation Value

/-- Two shops with different names are two services. -/
theorem names_of_read_street :
  read "demo" (signs "shop" "store") shops = .ok (street, [])
    ∧ (serviceEntries (signs "shop" "store") shops).Pairwise (fun a b => a.1.sameKey b.1 = false)
    ∧ List.Forall₂ (ReadFrom (signs "shop" "store")) (serviceEntries (signs "shop" "store") shops)
      street.services.entries
  := by
  have services : readServices (entriesOf (ofEntries
      [(.str "shop", pulling "shop:1"), (.str "store", pulling "shop:2")]))
        = .ok street.services := by
    refine readServices_eq_ok_iff.mpr ⟨_, (Table.ofList_entries _).symm, ?_⟩
    exact .cons ⟨rfl, readService_pulling _ (by decide)⟩
      (.cons ⟨rfl, readService_pulling _ (by decide)⟩ .nil)
  have parsed : read "demo" (signs "shop" "store") shops = .ok (street, []) :=
    read_shops (d := street) services
  have distinct := serviceEntries_shops "shop" "store" ▸ distinct_shopEntries
  obtain ⟨names, named, -, -, one⟩ := names_of_read parsed distinct
  refine ⟨parsed, distinct, one.mpr ?_⟩
  have known : List.Forall₂ (NamedUnder (signs "shop" "store"))
      (serviceEntries (signs "shop" "store") shops) ["shop", "store"] := by
    rw [serviceEntries_shops]
    have becomes {s t : String} (turns : interpolate (signs "shop" "store") s = .ok (.ofText t)) :
        Becomes (signs "shop" "store") (.str s) (.str t) :=
      ⟨[], by rw [expand, expandText, turns]; rfl⟩
    exact .cons ⟨_, becomes turns_signs.1, rfl⟩ (.cons ⟨_, becomes turns_signs.2, rfl⟩ .nil)
  rw [List.right_unique_forall₂' rightUnique_namedUnder named known]
  decide

/-- Two shops that get one name are one service, which has the image of the second. -/
theorem read_merged_shops :
  read "demo" (signs "shop" "shop") shops = .ok (lone (pulled "shop" "shop:2") rfl, [])
    ∧ (serviceEntries (signs "shop" "shop") shops).length = 2
    ∧ ¬ List.Forall₂ (ReadFrom (signs "shop" "shop")) (serviceEntries (signs "shop" "shop") shops)
      (lone (pulled "shop" "shop:2") rfl).services.entries
  := by
  have services : readServices (entriesOf (ofEntries
      [(.str "shop", pulling "shop:1"), (.str "shop", pulling "shop:2")]))
        = .ok (lone (pulled "shop" "shop:2") rfl).services := by
    refine readServices_eq_ok_iff.mpr ⟨_, (Table.ofList_entries _).symm, ?_⟩
    exact .cons ⟨rfl, readService_pulling _ (by decide)⟩ .nil
  refine ⟨read_shops (d := lone (pulled "shop" "shop:2") rfl) services,
    by rw [serviceEntries_shops]; rfl, fun one => ?_⟩
  have := one.length_eq
  rw [serviceEntries_shops] at this
  cases this

end Descriptor

end Muster
