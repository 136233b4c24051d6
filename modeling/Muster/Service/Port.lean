/-!
# Published ports

A container port made reachable from the host.  `Port.text` is its short written form.
-/

namespace Muster

/-- A container port and what it is published as. -/
structure Port where
  container : Int
  host : Option Int
  hostIp : Option String
  protocol : String
deriving Repr, DecidableEq

/-- The protocol of a port that names none. -/
def Port.defaultProtocol : String := "tcp"

/-- The short form of a port: `address:host:container/protocol`, where the parts that say
nothing are left out. -/
def Port.text (port : Port) : String :=
  let text := toString port.container
  let text := match port.host with
    | some host => toString host ++ ":" ++ text
    | none => text
  let text := match port.hostIp with
    | some address => if address = "" then text else address ++ ":" ++ text
    | none => text
  if port.protocol = defaultProtocol then text else text ++ "/" ++ port.protocol

end Muster
