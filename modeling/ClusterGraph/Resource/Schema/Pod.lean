import ClusterGraph.Resource.Schema.Volume

/-!
# ClusterGraph.Resource.Schema.Pod

**Shapes of pods and of all they are made of.**
-/

namespace ClusterGraph
namespace Schema

/-! ### Containers -/

/-- The fields of a handler or of a probe: `exec`, `httpGet` and `tcpSocket`. -/
def actions : List (String × Shape) :=
  [ ("exec", .record [("command", texts)]),
    ("httpGet",
      .record ([("httpHeaders", .list (textRecord ["name", "value"])), ("port", .int32OrText)]
        ++ all .text ["host", "path", "scheme"])),
    ("tcpSocket", .record [("host", .text), ("port", .int32OrText)]) ]

/-- A handler under `postStart` or `preStop`. -/
def lifecycleHandler : Shape :=
  .record (("sleep", .record [("seconds", .int64)]) :: actions)

/-- A `Probe` of a container. -/
def probe : Shape :=
  .record (
    actions
      ++ [("grpc", .record [("port", .int32), ("service", .text)]),
          ("terminationGracePeriodSeconds", .int64)]
      ++ all .int32 ["failureThreshold", "initialDelaySeconds", "periodSeconds",
          "successThreshold", "timeoutSeconds"])

/-- A `ConfigMapKeySelector` or a `SecretKeySelector`. -/
def keySelector : Shape :=
  .record (("optional", .flag) :: all .text ["key", "name"])

/-- A `ConfigMapEnvSource` or a `SecretEnvSource`. -/
def mapReference : Shape :=
  .record [("name", .text), ("optional", .flag)]

/-- An entry of `env`. -/
def environmentVariable : Shape :=
  .record (
    ("valueFrom",
      .record
        [ ("configMapKeyRef", keySelector),
          ("fieldRef", textRecord ["apiVersion", "fieldPath"]),
          ("resourceFieldRef", textRecord ["containerName", "divisor", "resource"]),
          ("secretKeyRef", keySelector) ])
      :: all .text ["name", "value"])

/-- An entry of `envFrom`. -/
def environmentSource : Shape :=
  .record [("configMapRef", mapReference), ("prefix", .text), ("secretRef", mapReference)]

/-- The fields that the `securityContext` of a container and that of a pod have in common. -/
def commonSecurity : List (String × Shape) :=
  [ ("appArmorProfile", textRecord ["localhostProfile", "type"]),
    ("runAsGroup", .int64), ("runAsNonRoot", .flag), ("runAsUser", .int64),
    ("seLinuxOptions", textRecord ["level", "role", "type", "user"]),
    ("seccompProfile", textRecord ["localhostProfile", "type"]),
    ("windowsOptions",
      .record (("hostProcess", .flag)
        :: all .text ["gmsaCredentialSpec", "gmsaCredentialSpecName", "runAsUserName"])) ]

/-- The fields that a `container` and an `ephemeralContainer` have in common. -/
def containerFields : List (String × Shape) :=
  all .text ["image", "imagePullPolicy", "name", "restartPolicy", "terminationMessagePath",
      "terminationMessagePolicy", "workingDir"]
    ++ all texts ["args", "command"]
    ++ all .flag ["stdin", "stdinOnce", "tty"]
    ++ all probe ["livenessProbe", "readinessProbe", "startupProbe"]
    ++ [ ("env", .list environmentVariable),
      ("envFrom", .list environmentSource),
      ("lifecycle", .record (all lifecycleHandler ["postStart", "preStop"])),
      ("ports",
        .list (.record (all .int32 ["containerPort", "hostPort"]
          ++ all .text ["hostIP", "name", "protocol"]))),
      ("resizePolicy", .list (textRecord ["resourceName", "restartPolicy"])),
      ("resources", resources),
      ("securityContext",
        .record (commonSecurity
          ++ all .flag ["allowPrivilegeEscalation", "privileged", "readOnlyRootFilesystem"]
          ++ [("capabilities", .record (all texts ["add", "drop"])), ("procMount", .text)])),
      ("volumeDevices", .list (textRecord ["devicePath", "name"])),
      ("volumeMounts",
        .list (.record (("readOnly", .flag)
          :: all .text ["mountPath", "mountPropagation", "name", "recursiveReadOnly", "subPath",
            "subPathExpr"]))) ]

/-- An entry of `containers` or `initContainers`. -/
def container : Shape :=
  .record containerFields

/-- A container that is put into a running pod; only such a one may name a `targetContainerName`. -/
def ephemeralContainer : Shape :=
  .record (("targetContainerName", .text) :: containerFields)

/-! ### Placement -/

/-- A `PodAffinityTerm`. -/
def podAffinityTerm : Shape :=
  .record (
    all labelSelector ["labelSelector", "namespaceSelector"]
      ++ all texts ["matchLabelKeys", "mismatchLabelKeys", "namespaces"]
      ++ [("topologyKey", .text)])

/-- A `podAffinity` or a `podAntiAffinity`. -/
def podAffinity : Shape :=
  .record
    [ ("preferredDuringSchedulingIgnoredDuringExecution",
        .list (.record [("podAffinityTerm", podAffinityTerm), ("weight", .int32)])),
      ("requiredDuringSchedulingIgnoredDuringExecution", .list podAffinityTerm) ]

/-- The `affinity` of a pod. -/
def affinity : Shape :=
  .record
    [ ("nodeAffinity",
        .record
          [ ("preferredDuringSchedulingIgnoredDuringExecution",
              .list (.record [("preference", nodeSelectorTerm), ("weight", .int32)])),
            ("requiredDuringSchedulingIgnoredDuringExecution", nodeSelector) ]),
      ("podAffinity", podAffinity),
      ("podAntiAffinity", podAffinity) ]

/-- An entry of `topologySpreadConstraints`. -/
def spreadConstraint : Shape :=
  .record (
    all .int32 ["maxSkew", "minDomains"]
      ++ [("labelSelector", labelSelector), ("matchLabelKeys", texts)]
      ++ all .text ["nodeAffinityPolicy", "nodeTaintsPolicy", "topologyKey", "whenUnsatisfiable"])

/-! ### Pods -/

/-- A `PodSpec`. -/
def podSpec : Shape :=
  .record (
    all .text ["dnsPolicy", "hostname", "nodeName", "preemptionPolicy", "priorityClassName",
        "restartPolicy", "runtimeClassName", "schedulerName", "serviceAccount",
        "serviceAccountName", "subdomain"]
      ++ all .flag ["automountServiceAccountToken", "enableServiceLinks", "hostIPC",
        "hostNetwork", "hostPID", "hostUsers", "setHostnameAsFQDN", "shareProcessNamespace"]
      ++ all .int64 ["activeDeadlineSeconds", "terminationGracePeriodSeconds"]
      ++ all (.list container) ["containers", "initContainers"]
      ++ all textMap ["nodeSelector", "overhead"]
      ++ [ ("affinity", affinity),
        ("dnsConfig",
          .record (("options", .list (textRecord ["name", "value"]))
            :: all texts ["nameservers", "searches"])),
        ("ephemeralContainers", .list ephemeralContainer),
        ("hostAliases", .list (.record [("hostnames", texts), ("ip", .text)])),
        ("imagePullSecrets", .list localReference),
        ("os", textRecord ["name"]),
        ("priority", .int32),
        ("readinessGates", .list (textRecord ["conditionType"])),
        ("resourceClaims",
          .list (.record [("name", .text),
            ("source", textRecord ["resourceClaimName", "resourceClaimTemplateName"])])),
        ("schedulingGates", .list (textRecord ["name"])),
        ("securityContext",
          .record (commonSecurity
            ++ [("fsGroup", .int64), ("fsGroupChangePolicy", .text),
                ("supplementalGroups", .list .int64),
                ("sysctls", .list (textRecord ["name", "value"]))])),
        ("tolerations",
          .list (.record (("tolerationSeconds", .int64)
            :: all .text ["effect", "key", "operator", "value"]))),
        ("topologySpreadConstraints", .list spreadConstraint),
        ("volumes", .list volume) ])

/-- A `ContainerState`. -/
def containerState : Shape :=
  .record
    [ ("running", .record [("startedAt", .instant)]),
      ("terminated",
        .record (all .int32 ["exitCode", "signal"] ++ all .instant ["finishedAt", "startedAt"]
          ++ all .text ["containerID", "message", "reason"])),
      ("waiting", textRecord ["message", "reason"]) ]

/-- An entry of `containerStatuses`. Its `restartCount` is an `int32`, and so is a summand of the
sum over a pod. -/
def containerStatus : Shape :=
  .record (
    all .text ["containerID", "image", "imageID", "name"]
      ++ all .flag ["ready", "started"]
      ++ all containerState ["lastState", "state"]
      ++ [ ("allocatedResources", textMap), ("resources", resources), ("restartCount", .int32),
        ("volumeMounts",
          .list (.record (("readOnly", .flag)
            :: all .text ["mountPath", "name", "recursiveReadOnly"]))) ])

/-- A `PodStatus`. -/
def podStatus : Shape :=
  .record (
    all .text ["hostIP", "message", "nominatedNodeName", "phase", "podIP", "qosClass", "reason",
        "resize"]
      ++ all (.list containerStatus) ["containerStatuses", "ephemeralContainerStatuses",
        "initContainerStatuses"]
      ++ all (.list (textRecord ["ip"])) ["hostIPs", "podIPs"]
      ++ [ ("conditions", conditions ["lastProbeTime", "lastTransitionTime"]),
        ("resourceClaimStatuses", .list (textRecord ["name", "resourceClaimName"])),
        ("startTime", .instant) ])

/-- A `Pod`. -/
def pod : Shape :=
  object Kind.pod.type [("spec", podSpec), ("status", podStatus)]

/-- The `template` of a workload. -/
def podTemplate : Shape :=
  .record [("metadata", objectMeta), ("spec", podSpec)]

end Schema
end ClusterGraph
