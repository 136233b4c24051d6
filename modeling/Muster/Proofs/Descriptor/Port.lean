import Muster.Descriptor.Fields
import Muster.Proofs.Numeral
/-!
# Ports in writing

The short form of a port says everything about it, unless its address is empty, stands without a
host port, or holds a sign that cuts the short form in another place.  No other text for a port is
shorter than its short form.
-/

namespace Muster

open Text Decimal

/-! ### Cutting texts -/

namespace Text

variable {sep : Char} {a b cs : List Char}

theorem splitOn_of_not_mem (free : sep ∉ cs) :
  splitOn sep cs = [cs]
  := by
  induction cs with
  | nil => rfl
  | cons c r ih =>
    rw [List.mem_cons, not_or] at free
    rw [splitOn, if_neg (Ne.symm free.1), ih free.2]

theorem splitOn_append (free : sep ∉ a) :
  splitOn sep (a ++ sep :: b) = a :: splitOn sep b
  := by
  induction a with
  | nil => rw [List.nil_append, splitOn, if_pos rfl]
  | cons c r ih =>
    rw [List.mem_cons, not_or] at free
    rw [List.cons_append, splitOn, if_neg (Ne.symm free.1), ih free.2]

theorem cutLast_eq_some_iff :
  cutLast sep cs = some (a, b) ↔ cs = a ++ sep :: b ∧ sep ∉ b
  := by
  rw [cutLast, Option.map_eq_some_iff]
  constructor
  · rintro ⟨⟨x, y⟩, found, same⟩
    obtain ⟨rfl, rfl⟩ := Prod.mk.inj same
    obtain ⟨reversed, free⟩ := cut_eq_some_iff.mp found
    refine ⟨?_, by simpa using free⟩
    rw [← List.reverse_reverse cs, reversed]
    simp
  · rintro ⟨rfl, free⟩
    refine ⟨(b.reverse, a.reverse), cut_eq_some_iff.mpr ⟨by simp, by simpa using free⟩, by simp⟩

theorem cutLast_eq_none_iff :
  cutLast sep cs = none ↔ sep ∉ cs
  := by
  rw [cutLast, Option.map_eq_none_iff, cut_eq_none_iff, List.mem_reverse]

end Text

/-! ### Spellings -/

namespace Port

/-- The texts that stand for a port with a protocol, as they are written before the protocol. -/
inductive Spelling (protocol : String) : List Char → Port → Prop where
  | container {c : List Char} {n : Int} : ':' ∉ c → intOfText? (String.ofList c) = some n →
      Spelling protocol c ⟨n, none, none, protocol⟩
  | host {h c : List Char} {m n : Int} : ':' ∉ h → ':' ∉ c →
      intOfText? (String.ofList h) = some m → intOfText? (String.ofList c) = some n →
      Spelling protocol (h ++ ':' :: c) ⟨n, some m, none, protocol⟩
  /-- The host port after an address may be left out. -/
  | free {a c : List Char} {n : Int} : ':' ∉ a → ':' ∉ c → intOfText? (String.ofList c) = some n →
      Spelling protocol (a ++ ':' :: ':' :: c) ⟨n, none, some (String.ofList a), protocol⟩
  | address {a h c : List Char} {m n : Int} : ':' ∉ a → ':' ∉ h → ':' ∉ c → h ≠ [] →
      intOfText? (String.ofList h) = some m → intOfText? (String.ofList c) = some n →
      Spelling protocol (a ++ ':' :: (h ++ ':' :: c)) ⟨n, some m, some (String.ofList a), protocol⟩

theorem spelling_of_portOfText? {protocol text : String} {p : Port}
    (read : Descriptor.portOfText? protocol text = some p) :
  Spelling protocol text.toList p
  := by
  have whole := intercalate_splitOn ':' text.toList
  have free : ∀ part ∈ splitOn ':' text.toList, ':' ∉ part := fun part => not_mem_of_mem_splitOn
  rw [Descriptor.portOfText?, split] at read
  generalize splitOn ':' text.toList = parts at whole free read
  rcases parts with _ | ⟨x, _ | ⟨y, _ | ⟨z, _ | ⟨_, _⟩⟩⟩⟩
  · simp at read
  · simp only [List.map_cons, List.map_nil, Option.bind_eq_bind, Option.bind_eq_some_iff,
      Option.pure_def, Option.some.injEq] at read
    obtain ⟨n, container, rfl⟩ := read
    rw [show text.toList = x by simpa using whole.symm]
    exact .container (free x (by simp)) container
  · simp only [List.map_cons, List.map_nil, Option.bind_eq_bind, Option.bind_eq_some_iff,
      Option.pure_def, Option.some.injEq] at read
    obtain ⟨n, container, m, host, rfl⟩ := read
    rw [show text.toList = x ++ ':' :: y by simpa using whole.symm]
    exact .host (free x (by simp)) (free y (by simp)) host container
  · simp only [List.map_cons, List.map_nil] at read
    rw [show text.toList = x ++ ':' :: (y ++ ':' :: z) by simpa using whole.symm]
    by_cases missing : y = []
    · subst missing
      simp only [String.ofList_nil, if_true, Option.bind_eq_bind, Option.bind_some,
        Option.bind_eq_some_iff, Option.pure_def, Option.some.injEq] at read
      obtain ⟨n, container, rfl⟩ := read
      exact .free (free x (by simp)) (free z (by simp)) container
    · have given : String.ofList y ≠ "" := by simpa using missing
      simp only [if_neg given, Option.bind_eq_bind, Option.bind_eq_some_iff, Option.map_eq_some_iff,
        Option.pure_def, Option.some.injEq] at read
      obtain ⟨_, ⟨m, host, rfl⟩, n, container, rfl⟩ := read
      exact .address (free x (by simp)) (free y (by simp)) (free z (by simp)) missing host container
  · simp at read

theorem portOfText?_of_spelling {protocol text : String} {p : Port}
    (spelling : Spelling protocol text.toList p) :
  Descriptor.portOfText? protocol text = some p
  := by
  rw [Descriptor.portOfText?, split]
  generalize text.toList = cs at spelling
  cases spelling with
  | container free container =>
    rw [splitOn_of_not_mem free]
    simp [container]
  | host freeHost freeContainer host container =>
    rw [splitOn_append freeHost, splitOn_of_not_mem freeContainer]
    simp [host, container]
  | free freeAddress freeContainer container =>
    rw [splitOn_append freeAddress, splitOn, if_pos rfl, splitOn_of_not_mem freeContainer]
    simp [container]
  | address freeAddress freeHost freeContainer given host container =>
    rw [splitOn_append freeAddress, splitOn_append freeHost, splitOn_of_not_mem freeContainer]
    simp [given, host, container]

/-! ### The short form -/

/-- The short form of a port without its protocol. -/
def front (p : Port) : List Char :=
  (match p.hostIp with
    | some address => if address = "" then [] else address.toList ++ [':']
    | none => [])
  ++ (match p.host with
    | some host => (toString host).toList ++ [':']
    | none => [])
  ++ (toString p.container).toList

theorem toList_text (p : Port) :
  p.text.toList
    = p.front ++ if p.protocol = defaultProtocol then [] else '/' :: p.protocol.toList
  := by
  obtain ⟨container, host, hostIp, protocol⟩ := p
  rw [text, front]
  cases host <;> cases hostIp <;> simp only [] <;> split <;> (try split) <;> simp

variable {p : Port} {protocol text : String} {cs : List Char}

theorem length_written_le {cs : List Char} {n : Int}
    (read : intOfText? (String.ofList cs) = some n) :
  (toString n).toList.length ≤ cs.length
  := by
  have := length_toString_le read
  rwa [String.length_ofList, ← String.length_toList] at this

theorem Spelling.protocol_eq (spelling : Spelling protocol cs p) :
  p.protocol = protocol
  := by
  cases spelling <;> rfl

/-- No spelling of a port is shorter than its short form. -/
theorem Spelling.length_front_le (spelling : Spelling protocol cs p) :
  p.front.length ≤ cs.length
  := by
  cases spelling with
  | container _ container => simpa [front] using length_written_le container
  | host _ _ host container =>
    have := length_written_le host
    have := length_written_le container
    simp only [front, List.length_append, List.length_cons, List.length_nil]
    omega
  | free _ _ container =>
    have := length_written_le container
    simp only [front]
    split
    all_goals
      simp only [String.toList_ofList, List.length_append, List.length_cons, List.length_nil]
      omega
  | address _ _ _ _ host container =>
    have := length_written_le host
    have := length_written_le container
    simp only [front]
    split
    all_goals
      simp only [String.toList_ofList, List.length_append, List.length_cons, List.length_nil]
      omega

/-- What is read as a port is a spelling of it, perhaps with the protocol behind it. -/
theorem readShortPort?_eq_some_iff :
  Descriptor.readShortPort? text = some p
    ↔ ('/' ∉ text.toList ∧ Spelling defaultProtocol text.toList p)
      ∨ ∃ cs, text.toList = cs ++ '/' :: p.protocol.toList ∧ '/' ∉ p.protocol.toList
        ∧ Spelling p.protocol cs p
  := by
  rw [Descriptor.readShortPort?, cutAtLast]
  cases found : cutLast '/' text.toList with
  | none =>
    have free := cutLast_eq_none_iff.mp found
    constructor
    · intro read
      exact .inl ⟨free, spelling_of_portOfText? read⟩
    · rintro (⟨_, spelling⟩ | ⟨cs, whole, _⟩)
      · exact portOfText?_of_spelling spelling
      · simp [whole] at free
  | some parts =>
    obtain ⟨a, b⟩ := parts
    obtain ⟨whole, free⟩ := cutLast_eq_some_iff.mp found
    constructor
    · intro read
      have spelling := spelling_of_portOfText? read
      rw [String.toList_ofList] at spelling
      have protocol : p.protocol.toList = b := by rw [spelling.protocol_eq, String.toList_ofList]
      refine .inr ⟨a, by rw [whole, protocol], by rwa [protocol], ?_⟩
      rwa [spelling.protocol_eq]
    · rintro (⟨free, _⟩ | ⟨cs, whole', free', spelling⟩)
      · simp [whole] at free
      · have same := found.symm.trans (cutLast_eq_some_iff.mpr ⟨whole', free'⟩)
        simp only [Option.some.injEq, Prod.mk.injEq] at same
        obtain ⟨rfl, rfl⟩ := same
        apply portOfText?_of_spelling
        rwa [String.toList_ofList, String.ofList_toList]

/-- No text for a port is shorter than its short form. -/
theorem length_text_le (read : Descriptor.readShortPort? text = some p) :
  p.text.length ≤ text.length
  := by
  rw [← String.length_toList, ← String.length_toList, toList_text, List.length_append]
  rcases readShortPort?_eq_some_iff.mp read with ⟨_, spelling⟩ | ⟨cs, whole, _, spelling⟩
  · have := spelling.length_front_le
    rw [if_pos spelling.protocol_eq]
    simpa using this
  · have := spelling.length_front_le
    rw [whole, List.length_append]
    split <;> simp only [List.length_cons, List.length_nil] <;> omega

/-- A port whose short form says everything about it. -/
structure IsLegible (p : Port) : Prop where
  container : Fits p.container
  host : ∀ host, p.host = some host → Fits host
  protocol : '/' ∉ p.protocol.toList
  /-- An address is not empty, and stands before a host port. -/
  address : ∀ address, p.hostIp = some address → address ≠ "" ∧ p.host ≠ none
    ∧ ':' ∉ address.toList ∧ (p.protocol = defaultProtocol → '/' ∉ address.toList)

theorem append_cons_inj {x y h c : List Char} (same : x ++ ':' :: y = h ++ ':' :: c)
    (left : x.length ≤ h.length) (right : y.length ≤ c.length) :
  x = h ∧ y = c
  := by
  have lengths := congrArg List.length same
  simp only [List.length_append, List.length_cons] at lengths
  obtain ⟨rfl, rest⟩ := List.append_inj same (by omega)
  exact ⟨rfl, (List.cons.inj rest).2⟩

theorem fits_of_written {cs : List Char} {n : Int} (same : (toString n).toList = cs)
    (read : intOfText? (String.ofList cs) = some n) :
  Fits n
  := by
  rw [← same, String.ofList_toList] at read
  exact intOfText?_toString_iff.mp read

/-- A port whose short form, without the protocol, spells it. -/
theorem fits_of_spelling_front (spelling : Spelling p.protocol p.front p) :
  Fits p.container ∧ (∀ host, p.host = some host → Fits host)
    ∧ ∀ address, p.hostIp = some address → address ≠ "" ∧ p.host ≠ none ∧ ':' ∉ address.toList
  := by
  obtain ⟨container, host, hostIp, protocol⟩ := p
  generalize same : front ⟨container, host, hostIp, protocol⟩ = cs at spelling
  cases spelling with
  | container _ container =>
    exact ⟨fits_of_written (by simpa [front] using same) container, by simp, by simp⟩
  | host _ _ host container =>
    obtain ⟨left, right⟩ := append_cons_inj (by simpa [front] using same) (length_written_le host)
      (length_written_le container)
    refine ⟨fits_of_written right container, ?_, by simp⟩
    rintro _ ⟨⟩
    exact fits_of_written left host
  | @free a c _ _ _ container =>
    have := length_written_le container
    have lengths := congrArg List.length same
    simp only [front] at lengths
    split at lengths
    all_goals
      simp only [String.toList_ofList, List.length_append, List.length_cons, List.length_nil]
        at lengths
      omega
  | @address a h c _ _ freeAddress _ _ _ host container =>
    by_cases empty : String.ofList a = ""
    · have := length_written_le host
      have := length_written_le container
      have lengths := congrArg List.length same
      simp only [front, if_pos empty, List.length_append, List.length_cons, List.length_nil]
        at lengths
      omega
    · obtain ⟨left, right⟩ := append_cons_inj (by simpa [front, empty] using same)
        (length_written_le host) (length_written_le container)
      refine ⟨fits_of_written right container, ?_, ?_⟩
      · rintro _ ⟨⟩
        exact fits_of_written left host
      · rintro _ ⟨⟩
        exact ⟨empty, by simp, by simpa using freeAddress⟩

theorem not_mem_written {c : Char} (sign : c ≠ '-') (letter : c.isDigit = false) (n : Int) :
  c ∉ (toString n).toList
  := by
  intro member
  rcases eq_or_isDigit_of_mem member with rfl | digit
  · exact sign rfl
  · rw [letter] at digit
    cases digit

/-- A slash stands before the protocol only in the address. -/
theorem slash_mem_front_iff :
  '/' ∈ p.front ↔ ∃ address, p.hostIp = some address ∧ '/' ∈ address.toList
  := by
  have absent (n : Int) : '/' ∉ (toString n).toList := not_mem_written (by decide) (by decide) n
  obtain ⟨container, host, hostIp, protocol⟩ := p
  rw [front]
  cases hostIp with
  | none => cases host <;> simp [absent, -Int.toString_eq_repr]
  | some address =>
    by_cases empty : address = ""
    · cases host <;> simp [absent, empty, -Int.toString_eq_repr]
    · cases host <;> simp [absent, empty, -Int.toString_eq_repr]

/-- A legible port is spelled by its short form without the protocol. -/
theorem IsLegible.spelling_front (legible : p.IsLegible) :
  Spelling p.protocol p.front p
  := by
  have free (n : Int) : ':' ∉ (toString n).toList := not_mem_written (by decide) (by decide) n
  have read {n : Int} (fits : Fits n) :
      intOfText? (String.ofList (toString n).toList) = some n := by
    rw [String.ofList_toList]
    exact intOfText?_toString_iff.mpr fits
  obtain ⟨container, host, hostIp, protocol⟩ := p
  have last := read legible.container
  cases hostIp with
  | none =>
    cases host with
    | none => exact .container (free container) last
    | some host =>
      have spelling : Spelling protocol _ _ :=
        .host (free host) (free container) (read (legible.host host rfl)) last
      simpa [front] using spelling
  | some address =>
    obtain ⟨given, published, colon, -⟩ := legible.address address rfl
    cases host with
    | none => exact (published rfl).elim
    | some host =>
      have spelling : Spelling protocol _ _ :=
        .address colon (free host) (free container) (toList_toString_ne_nil host)
          (read (legible.host host rfl)) last
      simpa [front, given] using spelling

/-- The short form of a port is read as the port exactly when the port is legible. -/
theorem readShortPort?_text_iff :
  Descriptor.readShortPort? p.text = some p ↔ p.IsLegible
  := by
  rw [readShortPort?_eq_some_iff, toList_text]
  constructor
  · rintro (⟨slash, spelling⟩ | ⟨cs, whole, slash, spelling⟩)
    · have standard := spelling.protocol_eq
      rw [if_pos standard, List.append_nil] at slash spelling
      rw [← standard] at spelling
      obtain ⟨container, host, address⟩ := fits_of_spelling_front spelling
      refine ⟨container, host, by rw [standard]; decide, ?_⟩
      intro a same
      obtain ⟨given, published, colon⟩ := address a same
      refine ⟨given, published, colon, fun _ member => ?_⟩
      exact slash (slash_mem_front_iff.mpr ⟨a, same, member⟩)
    · have other : p.protocol ≠ defaultProtocol := by
        -- Without a protocol the short form is too short to hold one.
        intro standard
        have := spelling.length_front_le
        have lengths := congrArg List.length whole
        simp only [if_pos standard, List.length_append, List.length_cons, List.length_nil]
          at lengths
        omega
      rw [if_neg other] at whole
      rw [← List.append_cancel_right whole] at spelling
      obtain ⟨container, host, address⟩ := fits_of_spelling_front spelling
      refine ⟨container, host, slash, ?_⟩
      intro a same
      obtain ⟨given, published, colon⟩ := address a same
      exact ⟨given, published, colon, fun standard => (other standard).elim⟩
  · intro legible
    have spelling := legible.spelling_front
    by_cases standard : p.protocol = defaultProtocol
    · rw [if_pos standard, List.append_nil]
      refine .inl ⟨?_, standard ▸ spelling⟩
      intro member
      obtain ⟨a, same, member⟩ := slash_mem_front_iff.mp member
      exact (legible.address a same).2.2.2 standard member
    · rw [if_neg standard]
      exact .inr ⟨p.front, rfl, legible.protocol, spelling⟩

end Port

end Muster
