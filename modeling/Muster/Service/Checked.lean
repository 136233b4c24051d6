import Muster.Checked
import Muster.Descriptor.Fields
/-!
# Services from checked fields

Services, ports and health checks made from the values of their fields, as against those that
a descriptor declares in its own words.
-/

namespace Muster

open Value

/-- A port from the values of its fields. -/
def Port.check (entries : List (Value × Value)) : Checked Port :=
  Port.mk <$> required entries "container" checkInt
    <*> optional entries "host" none (checkOptional checkInt)
    <*> optional entries "host_ip" none (checkOptional checkText)
    <*> optional entries "protocol" defaultProtocol checkText

/-- A health check from the values of its fields. -/
def HealthCheck.check (entries : List (Value × Value)) : Checked HealthCheck :=
  HealthCheck.mk <$> optional entries "test" [] (checkList checkText)
    <*> optional entries "interval" Descriptor.defaultInterval checkFloat
    <*> optional entries "timeout" Descriptor.defaultInterval checkFloat
    <*> optional entries "retries" Descriptor.defaultRetries checkInt
    <*> optional entries "start_period" Descriptor.noTime checkFloat
    <*> optional entries "disabled" false checkBool

/-- A service from the values of its fields. -/
def Service.check (entries : List (Value × Value)) : Checked Service :=
  Service.mk <$> required entries "name" checkText
    <*> optional entries "image" "" checkText
    <*> optional entries "command" [] (checkList checkText)
    <*> optional entries "entrypoint" [] (checkList checkText)
    <*> optional entries "working_dir" none (checkOptional checkText)
    <*> optional entries "container_name" none (checkOptional checkText)
    <*> optional entries "environment" ∅ (checkTable checkText)
    <*> optional entries "env_file" [] (checkList checkText)
    <*> optional entries "ports" [] (checkList (checkRecord Port.check))
    <*> optional entries "restart" .never (checkName RestartPolicy.ofName?)
    <*> optional entries "max_restarts" 0 checkInt
    <*> optional entries "healthcheck" none (checkOptional (checkRecord HealthCheck.check))
    <*> optional entries "depends_on" ∅ (checkTable (checkName Condition.ofName?))
    <*> optional entries "profiles" [] (checkList checkText)
    <*> optional entries "labels" ∅ (checkTable checkText)

/-- A descriptor from the fields of its services, each under a key. -/
def Descriptor.check (project : String) (services : Table Value) :
    Except Fault Descriptor := do
  let checked := Checked.all
    (fun e => (fun s => (e.1, s)) <$> ((checkRecord Service.check e.2).under e.1).under "services")
    services.entries
  let services ← checked.result
  (make project (Table.ofList services)).mapError .descriptor

end Muster
