import Muster.Proofs.Descriptor.PortText
/-!
# The two forms of a port

A published port is written as a text, in which colons and a slash stand between its parts, or as a
mapping, in which every part stands under its own name.  The two forms of a port are read alike: as
the same port, or as none because a number is no number.
-/

namespace Muster

open Text Decimal

namespace Descriptor

open Value

/-- The parts that the short form of a port is put together of, as they are written. -/
structure PortParts where
  container : String
  host : Option String := none
  address : Option String := none
  protocol : Option String := none

namespace PortParts

/-- The short form before the protocol.  The host port after an address may be left out. -/
def front (p : PortParts) : String :=
  match p.address, p.host with
  | none, none => p.container
  | none, some host => host ++ ":" ++ p.container
  | some address, host => address ++ ":" ++ host.getD "" ++ ":" ++ p.container

/-- The short form. -/
def text (p : PortParts) : String :=
  match p.protocol with
  | none => p.front
  | some protocol => p.front ++ "/" ++ protocol

/-- The signs that stand between the parts of the short form stand nowhere else in it. -/
structure Separable (p : PortParts) : Prop where
  container : ':' ∉ p.container.toList
  host : ∀ host, p.host = some host → ':' ∉ host.toList
  /-- A host port after an address that is not left out is not empty either. -/
  address : ∀ address, p.address = some address → ':' ∉ address.toList ∧ p.host ≠ some ""
  protocol : ∀ protocol, p.protocol = some protocol → '/' ∉ protocol.toList
  front : p.protocol = none → '/' ∉ p.front.toList

end PortParts

/-- A value of the long form stands for the number that a text of the short form stands for: it is
the text, or the number itself. -/
inductive SameNumber : String → Value → Prop where
  | text (t : String) : SameNumber t (.str t)
  | number {t : String} {n : Int} (read : intOfText? t = some n) : SameNumber t (.int n)

/-- A value of the long form stands for a host port, or for none. -/
inductive SameHost : Option String → Value → Prop where
  | none : SameHost none .null
  | some {host : String} {v : Value} (same : SameNumber host v) : SameHost (some host) v

/-- The entries of the long form say part by part what the short form says. -/
structure PortParts.SpeltOut (p : PortParts) (entries : List (Value × Value)) : Prop where
  target : ∃ v, field? "target" entries = some v ∧ SameNumber p.container v
  published : SameHost p.host (field "published" entries)
  address : field "host_ip" entries = (p.address.map .str).getD .null
  protocol : (field? "protocol" entries).getD (.str Port.defaultProtocol)
    = .str (p.protocol.getD Port.defaultProtocol)

/-- The short form of a port, which need not be written as a text, and its long form. -/
inductive SamePort : Value → Value → Prop where
  | intro {p : PortParts} {v : Value} {entries : List (Value × Value)} (scalar : v.isScalar = true)
      (short : v.text = p.text) (separable : p.Separable) (long : p.SpeltOut entries) :
    SamePort v (.map entries)

/-! ### Reading the parts -/

/-- The number of a host port, if there is one. -/
def hostNumber? : Option String → Option (Option Int)
  | none => some none
  | some host => (intOfText? host).map some

/-- The port that its parts stand for. -/
def PortParts.port? (p : PortParts) : Option Port := do
  let container ← intOfText? p.container
  let host ← hostNumber? p.host
  return ⟨container, host, p.address, p.protocol.getD Port.defaultProtocol⟩

theorem split_colon_of_free {s : String} (free : ':' ∉ s.toList) :
  split ':' s = [s]
  := by
  rw [split, splitOn_of_not_mem free, List.map_singleton, String.ofList_toList]

theorem split_colon_append {s t : String} (free : ':' ∉ s.toList) :
  split ':' (s ++ ":" ++ t) = s :: split ':' t
  := by
  have chars : (s ++ ":" ++ t).toList = s.toList ++ ':' :: t.toList := by simp
  rw [split, chars, splitOn_append free, List.map_cons, String.ofList_toList]
  rfl

/-- The short form before the protocol is read as the port of its parts. -/
theorem PortParts.Separable.portOfText?_front {p : PortParts} (separable : p.Separable) :
  portOfText? (p.protocol.getD Port.defaultProtocol) p.front = p.port?
  := by
  obtain ⟨container, host, address, protocol⟩ := p
  have last : split ':' container = [container] := split_colon_of_free separable.container
  rw [portOfText?, PortParts.front, port?]
  cases address with
  | none =>
    cases host with
    | none => simp [last, hostNumber?]
    | some host =>
      have between := split_colon_append (t := container) (separable.host host rfl)
      simp only [between, last, hostNumber?]
      cases intOfText? host <;> cases intOfText? container <;> rfl
  | some address =>
    obtain ⟨free, given⟩ := separable.address address rfl
    have parts : split ':' (address ++ ":" ++ host.getD "" ++ ":" ++ container)
        = [address, host.getD "", container] := by
      have inner : ':' ∉ (host.getD "").toList := by
        cases host with
        | none => simp
        | some host => apply separable.host host rfl
      have grouped : address ++ ":" ++ host.getD "" ++ ":" ++ container
          = address ++ ":" ++ (host.getD "" ++ ":" ++ container) := by simp [String.append_assoc]
      rw [grouped, split_colon_append free, split_colon_append inner, last]
    simp only [parts]
    -- After an address the host port is read first; a port comes out only if both numbers are read.
    cases host with
    | none => cases intOfText? container <;> rfl
    | some host =>
      have written : host ≠ "" := fun empty => given (congrArg some empty)
      simp only [Option.getD_some, if_neg written, hostNumber?]
      cases intOfText? host <;> cases intOfText? container <;> rfl

theorem PortParts.Separable.readShortPort?_text {p : PortParts} (separable : p.Separable) :
  readShortPort? p.text = p.port?
  := by
  rw [← separable.portOfText?_front, readShortPort?, cutAtLast, text]
  cases given : p.protocol with
  | none =>
    have plain : cutLast '/' p.front.toList = none :=
      cutLast_eq_none_iff.mpr (separable.front given)
    rw [plain]
    rfl
  | some protocol =>
    have parted : cutLast '/' (p.front ++ "/" ++ protocol).toList
        = some (p.front.toList, protocol.toList) := by
      apply cutLast_eq_some_iff.mpr ⟨by simp, separable.protocol protocol given⟩
    simp only [parted, Option.map_some, String.ofList_toList]
    rfl

theorem SameNumber.toInt_eq {t : String} {v : Value} (same : SameNumber t v) :
  v.toInt = (intOfText? t).elim (.error .badValue) .ok
  := by
  cases same with
  | text => rfl
  | number read =>
    rw [read]
    rfl

/-- The long form is read as the port of the parts that it spells out. -/
theorem PortParts.SpeltOut.readLongPort_eq_ok_iff {p : PortParts} {entries : List (Value × Value)}
    (spelt : p.SpeltOut entries) (service : String) {port : Port} :
  readLongPort service entries = .ok port ↔ p.port? = some port
  := by
  obtain ⟨target, found, number⟩ := spelt.target
  have published := spelt.published
  have address : toOptionalText ((p.address.map str).getD null) = .ok p.address := by
    cases p.address <;> rfl
  simp only [readLongPort, found, number.toInt_eq, spelt.address, address, spelt.protocol, toText,
    port?]
  generalize p.host = host, field "published" entries = v at published
  cases published with
  | none => cases intOfText? p.container <;> simp [bind, Except.bind, hostNumber?]
  | @some host v same =>
    cases same with
    | text =>
      cases intOfText? p.container <;> cases read : intOfText? host <;>
        simp [bind, Except.bind, hostNumber?, toInt, read, Except.map]
    | number read =>
      cases intOfText? p.container <;>
        simp [bind, Except.bind, hostNumber?, toInt, read, Except.map]

theorem readPort_eq_ok_iff_of_isScalar {v : Value} (scalar : v.isScalar = true) (service : String)
    {port : Port} :
  readPort service v = .ok port ↔ readShortPort? v.text = some port
  := by
  have short : readPort service v
      = (readShortPort? v.text).elim (.error (.descriptor (.badPort service v))) .ok := by
    cases v with
    | map => cases scalar
    | _ => rfl
  rw [short]
  cases readShortPort? v.text <;> simp

/-- The two forms of a port are read alike. -/
theorem SamePort.readPort_eq_ok_iff {v w : Value} (same : SamePort v w) (service : String)
    {port : Port} :
  readPort service v = .ok port ↔ readPort service w = .ok port
  := by
  cases same with
  | intro scalar short separable long =>
    rw [readPort_eq_ok_iff_of_isScalar scalar, short, separable.readShortPort?_text, readPort,
      long.readLongPort_eq_ok_iff]

/-- When the parts stand for a port, there are no signs in its numbers that could cut the short form
in another place, so that it depends on the address and on the protocol only. -/
theorem PortParts.separable_of_port? {p : PortParts} {port : Port} (read : p.port? = some port)
    (address : ∀ address, p.address = some address →
      ':' ∉ address.toList ∧ (p.protocol = none → '/' ∉ address.toList))
    (protocol : ∀ protocol, p.protocol = some protocol → '/' ∉ protocol.toList) :
  p.Separable
  := by
  obtain ⟨n, container, read⟩ := Option.bind_eq_some_iff.mp read
  obtain ⟨m, host, -⟩ := Option.bind_eq_some_iff.mp read
  have number {h : String} (given : p.host = some h) : ∃ m, intOfText? h = some m := by
    rw [given] at host
    obtain ⟨m, read, -⟩ := Option.map_eq_some_iff.mp host
    exact ⟨m, read⟩
  have colon : isNumeralSign ':' = false := by decide
  have slash : isNumeralSign '/' = false := by decide
  have hostFree {c : Char} (other : isNumeralSign c = false) :
      ∀ h, p.host = some h → c ∉ h.toList := by
    intro h given
    obtain ⟨m, read⟩ := number given
    apply not_mem_of_intOfText? read other
  refine ⟨not_mem_of_intOfText? container colon, hostFree colon, ?_, protocol, ?_⟩
  · intro a given
    refine ⟨(address a given).1, fun empty => ?_⟩
    obtain ⟨m, read⟩ := number empty
    cases read
  · intro none
    have last := not_mem_of_intOfText? container slash
    have before : '/' ∉ (p.host.getD "").toList := by
      cases given : p.host with
      | none => simp
      | some h => apply hostFree slash h given
    rw [PortParts.front]
    split
    · apply last
    · next h _ given =>
      rw [given] at before
      simpa using ⟨before, last⟩
    · next a given =>
      simpa using ⟨(address a given).2 none, before, last⟩

end Descriptor

end Muster
