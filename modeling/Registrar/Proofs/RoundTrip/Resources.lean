import Registrar.Proofs.RoundTrip.Fields
import Registrar.Resource.Registration
/-!
# Specifications and statuses come back

Whatever a specification or a status holds, it is read back from what was written of it. The proofs
go along the lists of members, in the order in which they are written.
-/

set_option autoImplicit false

namespace Registrar

open Json (Reads Restores)

namespace ServiceReference

theorem reads_members (service : ServiceReference) :
    Reads readField (["namespace", "name"] ++ ["port"]) {}
      ([("namespace", .string service.namespaceName), ("name", .string service.name)] ++
        Json.member? "port" (service.port.map .ofInt32))
      (⟨some service.namespaceName, some service.name, service.port⟩ : Draft) := by
  refine .append (.cons rfl (.cons rfl (.nil _))) ?_
  exact .member? service.port (fun (draft : Draft) port => { draft with port := port })
    (fun port _ => taken _ (Json.restores_int32 port)) rfl

theorem read_toJson (service : ServiceReference) :
    (read service.toJson : Decoded ServiceReference) = .ok service :=
  Json.toRecord_of_reads service.reads_members (by decide) rfl

end ServiceReference

namespace RegistrationSpec

theorem reads_members (spec : RegistrationSpec) :
    Reads readField
      (["service"] ++ ["group", "version"] ++ ["insecureSkipTlsVerify"] ++ ["caBundle"] ++
        ["groupPriorityMinimum", "versionPriority"]) {}
      (Json.member? "service" (spec.service.map ServiceReference.toJson) ++
        [("group", .string spec.group), ("version", .string spec.version)] ++
        (if spec.insecureSkipTlsVerify then [("insecureSkipTlsVerify", .bool true)] else []) ++
        Json.member? "caBundle" (spec.caBundle.map .string) ++
        [("groupPriorityMinimum", .ofInt32 spec.groupPriorityMinimum),
          ("versionPriority", .ofInt32 spec.versionPriority)])
      ({ service := spec.service
         group := some spec.group
         version := some spec.version
         insecureSkipTlsVerify := if spec.insecureSkipTlsVerify then some true else none
         caBundle := spec.caBundle
         groupPriorityMinimum := some spec.groupPriorityMinimum
         versionPriority := some spec.versionPriority } : Draft) := by
  exact .append (.append (.append (.append
    (.member? spec.service (fun (draft : Draft) service => { draft with service := service })
      (fun service _ => taken _ (Json.restores_of_read Json.noConfusion service.read_toJson)) rfl)
    (.cons rfl (.cons rfl (.nil _))))
    (.flag _ (fun (draft : Draft) flag => { draft with insecureSkipTlsVerify := flag }) rfl rfl))
    (.member? spec.caBundle (fun (draft : Draft) bundle => { draft with caBundle := bundle })
      (fun bundle _ => rfl) rfl))
    (.cons (taken _ (Json.toInt32_ofInt32 _)) (.cons (taken _ (Json.toInt32_ofInt32 _)) (.nil _)))

theorem read_toJson (spec : RegistrationSpec) :
    (read spec.toJson : Decoded RegistrationSpec) = .ok spec := by
  refine Json.toRecord_of_reads spec.reads_members (by decide) ?_
  obtain ⟨service, group, version, flag, bundle, groupPriority, versionPriority⟩ := spec
  cases flag <;> rfl

end RegistrationSpec

namespace ServedCondition

theorem ofJson_toJson (condition : ServedCondition) : ofJson condition.toJson = .ok condition := by
  obtain ⟨type, status, lastTransitionTime, reason, message⟩ := condition
  cases status <;> cases lastTransitionTime <;> rfl

end ServedCondition

theorem RegistrationStatus.ofJson_toJson (status : RegistrationStatus) :
    ofJson status.toJson = .ok status := by
  have taken : readField "conditions" (.array (status.conditions.map ServedCondition.toJson)) none =
      .ok (some status.conditions) :=
    congrArg (Except.map some) (Json.toList_array_map ServedCondition.ofJson_toJson _)
  exact Json.toRecord_of_reads (.cons taken (.nil _)) (by decide) rfl

theorem OperatorStatus.ofJson_toJson (status : OperatorStatus) :
    ofJson status.toJson = .ok status :=
  ofJson_members (List.forall_mem_nil _) status

end Registrar
