import Muster.Proofs.Container.Renewal
import Muster.Proofs.Container.Sparing
import Muster.Proofs.Descriptor.Port
/-!
# The ports that a start publishes

A start writes what the ports of a service are published as under their container ports and
protocols.  Of several ports that share both, the engine is told of the last alone; so every port is
published as it is declared exactly when ports that share both are published at one place.
-/

namespace Muster

namespace Port

/-- The container port and the protocol of a port, as an engine writes them. -/
def key (port : Port) : String :=
  toString port.container ++ "/" ++ port.protocol

open Decimal

/-- Ports that share their container port and their protocol. -/
def Shares (a b : Port) : Prop :=
  a.container = b.container ∧ a.protocol = b.protocol
deriving Decidable

/-- The last of some ports that share theirs with a port. -/
def IsLast (ports : List Port) (port last : Port) : Prop :=
  last.Shares port
    ∧ ∃ earlier later, ports = earlier ++ last :: later ∧ ∀ other ∈ later, ¬ other.Shares port

variable {a b port last : Port} {ports : List Port}

theorem cut_key (port : Port) :
  Text.cut '/' port.key.toList = some ((toString port.container).toList, port.protocol.toList)
  := by
  apply Text.cut_eq_some_iff.mpr
  constructor
  · simp [key, -Int.toString_eq_repr]
  · exact not_mem_written (by decide) (by decide) port.container

/-- No two container ports with their protocols are written alike. -/
theorem key_eq_key_iff :
  a.key = b.key ↔ a.Shares b
  := by
  constructor
  · intro same
    have cuts : some _ = some _ := a.cut_key.symm.trans (same ▸ b.cut_key)
    simp only [Option.some.injEq, Prod.mk.injEq, String.toList_inj] at cuts
    apply cuts.imp_left
    exact toString_int_inj.mp
  · rintro ⟨container, protocol⟩
    rw [key, key, container, protocol]

theorem isLast_iff :
  IsLast ports port last ↔ ports.reverse.find? (·.Shares port) = some last
  := by
  rw [List.find?_eq_some_iff_append]
  constructor
  · rintro ⟨shares, earlier, later, rfl, others⟩
    exact ⟨by simpa using shares, later.reverse, earlier.reverse, by simp, by simpa using others⟩
  · rintro ⟨shares, later, earlier, split, others⟩
    refine ⟨by simpa using shares, earlier.reverse, later.reverse, ?_, by simpa using others⟩
    rw [← ports.reverse_reverse, split]
    simp

theorem exists_isLast (mem : port ∈ ports) :
  ∃ last, IsLast ports port last
  := by
  simp only [isLast_iff, ← Option.isSome_iff_exists, List.find?_isSome, List.mem_reverse]
  exact ⟨port, mem, by simp [Shares]⟩

theorem IsLast.mem (isLast : IsLast ports port last) :
  last ∈ ports
  := by
  obtain ⟨-, earlier, later, rfl, -⟩ := isLast
  simp

end Port

namespace Project

open Engine

variable {p : Project} {s : Service} {e : Engine} {spec : ContainerSpec}

/-- Under a container port and a protocol stands what the last port with both is published as. -/
theorem get?_bindings {port last : Port} (isLast : Port.IsLast s.ports port last) :
  (bindings s).get? port.key = some (binding last)
  := by
  apply (Table.get?_ofList_map s.ports Port.key binding port.key).trans
  simp only [Port.key_eq_key_iff]
  rw [Port.isLast_iff.mp isLast, Option.map_some]

/-- A start makes no container but with the ports of its service. -/
theorem ports_of_made (made : .createContainer spec ∈ madeBy (p.start s) e) :
  spec.ports = bindings s
  := by
  obtain ⟨calls, added, own⟩ := (sparing_start (p := p) (List.mem_singleton_self s) e).calls
  rw [madeBy, added, List.drop_left] at made
  cases own _ made with
  | createContainer mem =>
    rw [List.mem_singleton.mp mem]
    rfl

/-- A start that makes a container tells the engine of the last port with each container port and
protocol.  So every port is published at its place exactly when ports that share container port and
protocol are declared for one place. -/
theorem ports_kept_iff (made : .createContainer spec ∈ madeBy (p.start s) e) :
  (∀ port ∈ s.ports, ∃ last, Port.IsLast s.ports port last
      ∧ spec.ports.get? port.key = some (binding last))
    ∧ ((∀ port ∈ s.ports, (spec.ports.get? port.key).map (·.place) = some port.place)
      ↔ ∀ a ∈ s.ports, ∀ b ∈ s.ports, a.Shares b → a.place = b.place)
  := by
  rw [ports_of_made made]
  constructor
  · intro port mem
    obtain ⟨last, isLast⟩ := Port.exists_isLast mem
    use last, isLast
    exact get?_bindings isLast
  constructor
  · intro kept a memA b memB shares
    have same := (kept a memA).symm.trans (Port.key_eq_key_iff.mpr shares ▸ kept b memB)
    exact Option.some.inj same
  · intro agree port mem
    obtain ⟨last, isLast⟩ := Port.exists_isLast mem
    rw [get?_bindings isLast, Option.map_some, place_binding]
    rw [agree last isLast.mem port mem isLast.1]

end Project

/-! ### The ports of a proxy -/

namespace Sample

/-- The proxy with some ports. -/
def proxyWith (ports : List Port) : Service :=
  { proxy with ports }

/-- A start of the proxy makes a container, whatever its ports are. -/
theorem exists_made (ports : List Port) :
  ∃ spec, .createContainer spec ∈ Engine.madeBy (demo.start (proxyWith ports)) cluttered
  := by
  obtain ⟨environment, merged, -⟩ :
      ∃ environment, demo.environment (proxyWith ports) = .ok environment ∧ _ :=
    Project.exists_environment nofun
  have named : (proxyWith ports).image ≠ "" := show proxy.image ≠ "" by decide
  obtain ⟨_, -, made, -⟩ := Project.run_start named merged obliges_cluttered
  use demo.containerSpec (proxyWith ports) environment
  rw [made]
  simp [Project.callsForStart, Project.callsForLaunch]

/-- Two ports of the host for one container port. -/
def twofold : List Port :=
  [⟨80, some 8080, none, "tcp"⟩, ⟨80, some 8081, none, "tcp"⟩]

end Sample

/-- One container port is published under two protocols, and both are kept. -/
theorem Project.ports_kept_iff_protocols :
  ∃ spec, .createContainer spec ∈ Engine.madeBy (Sample.demo.start (Sample.proxyWith
      [⟨443, some 8443, none, "tcp"⟩, ⟨443, some 8444, some "127.0.0.1", "udp"⟩])) Sample.cluttered
    ∧ (spec.ports.get? "443/tcp").map (·.place) = some ("", some 8443)
    ∧ (spec.ports.get? "443/udp").map (·.place) = some ("127.0.0.1", some 8444)
  := by
  obtain ⟨spec, made⟩ := Sample.exists_made
    [⟨443, some 8443, none, "tcp"⟩, ⟨443, some 8444, some "127.0.0.1", "udp"⟩]
  have kept := (Project.ports_kept_iff made).2.mpr (by decide)
  use spec, made
  constructor
  · exact kept ⟨443, some 8443, none, "tcp"⟩ (by decide)
  · exact kept ⟨443, some 8444, some "127.0.0.1", "udp"⟩ (by decide)

/-- Where one container port is published twice, one of the two is lost. -/
theorem Project.not_ports_kept_twofold :
  ¬ ∀ (p : Project) (s : Service) (e : Engine) (spec : ContainerSpec),
    .createContainer spec ∈ Engine.madeBy (p.start s) e →
    ∀ port ∈ s.ports, (spec.ports.get? port.key).map (·.place) = some port.place
  := by
  intro law
  obtain ⟨spec, made⟩ := Sample.exists_made Sample.twofold
  have first := law _ _ _ _ made ⟨80, some 8080, none, "tcp"⟩ (by decide)
  rw [Project.ports_of_made made] at first
  revert first
  decide

end Muster
