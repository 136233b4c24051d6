import Muster.Proofs.Descriptor.Port
/-!
# The short form of a port that has been read

A port that has been read from a text has numbers that fit into a numeral and an address without a
colon.  So its short form is read as the same port, unless the short form leaves out what tells its
address apart: an empty address is not written, an address without a host port is written in the
place of one, and a slash in an address cuts off a protocol that is not written.
-/

namespace Muster

namespace Port

open Text Decimal Descriptor

variable {p : Port} {protocol text service : String} {cs : List Char}

theorem Spelling.fits_container (spelling : Spelling protocol cs p) :
  Fits p.container
  := by
  cases spelling with
  | container _ read | host _ _ _ read | free _ _ read | address _ _ _ _ _ read =>
    apply fits_of_intOfText? read

theorem Spelling.fits_host (spelling : Spelling protocol cs p) {host : Int}
    (given : p.host = some host) :
  Fits host
  := by
  cases spelling with
  | container | free => cases given
  | host _ _ read _ | address _ _ _ _ read _ =>
    cases given
    apply fits_of_intOfText? read

theorem Spelling.colon_not_mem (spelling : Spelling protocol cs p) {address : String}
    (given : p.hostIp = some address) :
  ':' ∉ address.toList
  := by
  cases spelling with
  | container | host => cases given
  | free free | address free =>
    cases given
    rwa [String.toList_ofList]

/-- A text for a port spells it with its protocol, which has no slash in it. -/
theorem exists_spelling (read : readShortPort? text = some p) :
  '/' ∉ p.protocol.toList ∧ ∃ cs, Spelling p.protocol cs p
  := by
  rcases readShortPort?_eq_some_iff.mp read with ⟨-, spelling⟩ | ⟨cs, -, free, spelling⟩
  · rw [spelling.protocol_eq]
    exact ⟨by decide, _, spelling⟩
  · exact ⟨free, cs, spelling⟩

/-- The address of a port, if it has one, is told apart in its short form: it is not empty, a host
port stands after it, and where no protocol is written there is no slash in it. -/
def AddressTold (p : Port) : Prop :=
  ∀ address, p.hostIp = some address → address ≠ "" ∧ p.host ≠ none
    ∧ (p.protocol = defaultProtocol → '/' ∉ address.toList)

theorem isLegible_iff_of_read (read : readShortPort? text = some p) :
  p.IsLegible ↔ p.AddressTold
  := by
  obtain ⟨slash, cs, spelling⟩ := exists_spelling read
  constructor
  · intro legible address given
    obtain ⟨some, published, -, free⟩ := legible.address address given
    exact ⟨some, published, free⟩
  · intro told
    refine ⟨spelling.fits_container, fun _ => spelling.fits_host, slash, fun address given => ?_⟩
    obtain ⟨some, published, free⟩ := told address given
    exact ⟨some, published, spelling.colon_not_mem given, free⟩

theorem readPort_str_eq_ok_iff :
  readPort service (.str text) = .ok p ↔ readShortPort? text = some p
  := by
  rw [readPort, Value.text_str]
  · cases readShortPort? text <;> simp
  · nofun

/-- The short form of a port that has been read from a text is read as the same port exactly when
its address is told apart in it. -/
theorem readPort_text_iff (read : readPort service (.str text) = .ok p) :
  readPort service (.str p.text) = .ok p ↔ p.AddressTold
  := by
  rw [readPort_str_eq_ok_iff] at read ⊢
  rw [readShortPort?_text_iff, isLegible_iff_of_read read]

end Port

/-! ### A resolver in a network -/

namespace Sample

/-- The port of a resolver, published at the addresses of a network. -/
def resolver (protocol : String) : Port where
  container := 53
  host := some 53
  hostIp := some "10.0.0.0/8"
  protocol

end Sample

/-- With a protocol that is written the slash in the address does no harm; otherwise it does. -/
theorem Port.readPort_text_iff_resolver :
  Descriptor.readPort "dns" (.str "10.0.0.0/8:53:053/udp") = .ok (Sample.resolver "udp")
    ∧ Descriptor.readPort "dns" (.str (Sample.resolver "udp").text) = .ok (Sample.resolver "udp")
    ∧ Descriptor.readPort "dns" (.str "10.0.0.0/8:53:053/tcp") = .ok (Sample.resolver "tcp")
    ∧ Descriptor.readPort "dns" (.str (Sample.resolver "tcp").text) ≠ .ok (Sample.resolver "tcp")
  := by
  have udp : Descriptor.readPort "dns" (.str "10.0.0.0/8:53:053/udp")
      = .ok (Sample.resolver "udp") := readPort_str_eq_ok_iff.mpr (by decide +kernel)
  have tcp : Descriptor.readPort "dns" (.str "10.0.0.0/8:53:053/tcp")
      = .ok (Sample.resolver "tcp") := readPort_str_eq_ok_iff.mpr (by decide +kernel)
  refine ⟨udp, ?_, tcp, ?_⟩
  · apply (readPort_text_iff udp).mpr
    rintro _ ⟨⟩
    exact ⟨by decide, by decide, fun standard => absurd standard (by decide)⟩
  · rw [ne_eq, readPort_text_iff tcp]
    intro told
    apply (told _ rfl).2.2 rfl
    decide

/-- A port with an address and no host port is not read from its short form. -/
theorem Port.not_readPort_text_of_free :
  ¬ ∀ (service text : String) (p : Port), Descriptor.readPort service (.str text) = .ok p →
    Descriptor.readPort service (.str p.text) = .ok p
  := by
  intro law
  have read : Descriptor.readPort "web" (.str "127.0.0.1::80")
      = .ok ⟨80, none, some "127.0.0.1", "tcp"⟩ := readPort_str_eq_ok_iff.mpr (by decide +kernel)
  have again := readPort_str_eq_ok_iff.mp (law _ _ _ read)
  revert again
  decide +kernel

end Muster
