import ClusterGraph.Resource.Schema.Pod

/-!
# ClusterGraph.Resource.Schema.Objects

**The shapes of the objects of every watched kind that the API itself defines.**
-/

namespace ClusterGraph
namespace Schema

/-! ### The cluster -/

def namespace_ : Shape :=
  object Kind.namespace_.type
    [ ("spec", .record [("finalizers", texts)]),
      ("status", .record [("conditions", conditions ["lastTransitionTime"]), ("phase", .text)]) ]

/-- A `NodeConfigSource`, in the spec and in the status of a node. -/
def nodeConfigSource : Shape :=
  .record [("configMap",
    textRecord ["kubeletConfigKey", "name", "namespace", "resourceVersion", "uid"])]

def node : Shape :=
  object Kind.node.type
    [ ("spec",
        .record (all .text ["externalID", "podCIDR", "providerID"]
          ++ [ ("configSource", nodeConfigSource), ("podCIDRs", texts),
            ("taints", .list (.record (("timeAdded", .instant)
              :: all .text ["effect", "key", "value"]))),
            ("unschedulable", .flag) ])),
      ("status",
        .record (all textMap ["allocatable", "capacity"]
          ++ [ ("addresses", .list (textRecord ["address", "type"])),
            ("conditions", conditions ["lastHeartbeatTime", "lastTransitionTime"]),
            ("config",
              .record (("error", .text)
                :: all nodeConfigSource ["active", "assigned", "lastKnownGood"])),
            ("daemonEndpoints", .record [("kubeletEndpoint", .record [("Port", .int32)])]),
            ("images", .list (.record [("names", texts), ("sizeBytes", .int64)])),
            ("nodeInfo",
              textRecord ["architecture", "bootID", "containerRuntimeVersion", "kernelVersion",
                "kubeProxyVersion", "kubeletVersion", "machineID", "operatingSystem", "osImage",
                "systemUUID"]),
            ("phase", .text),
            ("runtimeHandlers",
              .list (.record [("features", .record [("recursiveReadOnlyMounts", .flag)]),
                ("name", .text)])),
            ("volumesAttached", .list (textRecord ["devicePath", "name"])),
            ("volumesInUse", texts) ])) ]

def event : Shape :=
  object Kind.event.type (
    all .text ["action", "message", "reason", "reportingComponent", "reportingInstance", "type"]
      ++ all .instant ["eventTime", "firstTimestamp", "lastTimestamp"]
      ++ all objectReference ["involvedObject", "related"]
      ++ [ ("count", .int32),
        ("series", .record [("count", .int32), ("lastObservedTime", .instant)]),
        ("source", textRecord ["component", "host"]) ])

/-! ### Workloads -/

/-- The `rollingUpdate` of a workload. -/
def rollingUpdate : Shape :=
  .record (all .int32OrText ["maxSurge", "maxUnavailable"])

def deployment : Shape :=
  object Kind.deployment.type
    [ ("spec",
        .record (
          all .int32 ["minReadySeconds", "progressDeadlineSeconds", "replicas",
              "revisionHistoryLimit"]
            ++ [ ("paused", .flag), ("selector", labelSelector),
              ("strategy", .record [("rollingUpdate", rollingUpdate), ("type", .text)]),
              ("template", podTemplate) ])),
      ("status",
        .record (
          all .int32 ["availableReplicas", "collisionCount", "readyReplicas", "replicas",
              "unavailableReplicas", "updatedReplicas"]
            ++ [ ("conditions", conditions ["lastTransitionTime", "lastUpdateTime"]),
              ("observedGeneration", .int64) ])) ]

def replicaSet : Shape :=
  object Kind.replicaSet.type
    [ ("spec",
        .record (all .int32 ["minReadySeconds", "replicas"]
          ++ [("selector", labelSelector), ("template", podTemplate)])),
      ("status",
        .record (
          all .int32 ["availableReplicas", "fullyLabeledReplicas", "readyReplicas", "replicas"]
            ++ [ ("conditions", conditions ["lastTransitionTime"]),
              ("observedGeneration", .int64) ])) ]

def statefulSet : Shape :=
  object Kind.statefulSet.type
    [ ("spec",
        .record (
          all .int32 ["minReadySeconds", "replicas", "revisionHistoryLimit"]
            ++ all .text ["podManagementPolicy", "serviceName"]
            ++ [ ("ordinals", .record [("start", .int32)]),
              ("persistentVolumeClaimRetentionPolicy", textRecord ["whenDeleted", "whenScaled"]),
              ("selector", labelSelector), ("template", podTemplate),
              ("updateStrategy",
                .record [ ("rollingUpdate",
                    .record [("maxUnavailable", .int32OrText), ("partition", .int32)]),
                  ("type", .text) ]),
              ("volumeClaimTemplates", .list persistentVolumeClaim) ])),
      ("status",
        .record (
          all .int32 ["availableReplicas", "collisionCount", "currentReplicas", "readyReplicas",
              "replicas", "updatedReplicas"]
            ++ all .text ["currentRevision", "updateRevision"]
            ++ [ ("conditions", conditions ["lastTransitionTime"]),
              ("observedGeneration", .int64) ])) ]

def daemonSet : Shape :=
  object Kind.daemonSet.type
    [ ("spec",
        .record (all .int32 ["minReadySeconds", "revisionHistoryLimit"]
          ++ [ ("selector", labelSelector), ("template", podTemplate),
            ("updateStrategy", .record [("rollingUpdate", rollingUpdate), ("type", .text)]) ])),
      ("status",
        .record (
          all .int32 ["collisionCount", "currentNumberScheduled", "desiredNumberScheduled",
              "numberAvailable", "numberMisscheduled", "numberReady", "numberUnavailable",
              "updatedNumberScheduled"]
            ++ [ ("conditions", conditions ["lastTransitionTime"]),
              ("observedGeneration", .int64) ])) ]

/-- The `podFailurePolicy` of a job. -/
def podFailurePolicy : Shape :=
  .record [("rules", .list (.record
    [ ("action", .text),
      ("onExitCodes",
        .record (("values", .list .int32) :: all .text ["containerName", "operator"])),
      ("onPodConditions", .list (textRecord ["status", "type"])) ]))]

/-- A `JobSpec`, in a job and in the `jobTemplate` of a cron job. -/
def jobSpec : Shape :=
  .record (
    all .int32 ["backoffLimit", "backoffLimitPerIndex", "completions", "maxFailedIndexes",
        "parallelism", "ttlSecondsAfterFinished"]
      ++ all .flag ["manualSelector", "suspend"]
      ++ all .text ["completionMode", "managedBy", "podReplacementPolicy"]
      ++ [ ("activeDeadlineSeconds", .int64), ("podFailurePolicy", podFailurePolicy),
        ("selector", labelSelector),
        ("successPolicy",
          .record [("rules",
            .list (.record [("succeededCount", .int32), ("succeededIndexes", .text)]))]),
        ("template", podTemplate) ])

def job : Shape :=
  object Kind.job.type
    [ ("spec", jobSpec),
      ("status",
        .record (
          all .int32 ["active", "failed", "ready", "succeeded", "terminating"]
            ++ all .text ["completedIndexes", "failedIndexes"]
            ++ all .instant ["completionTime", "startTime"]
            ++ [ ("conditions", conditions ["lastProbeTime", "lastTransitionTime"]),
              ("uncountedTerminatedPods", .record (all texts ["failed", "succeeded"])) ])) ]

def cronJob : Shape :=
  object Kind.cronJob.type
    [ ("spec",
        .record (
          all .int32 ["failedJobsHistoryLimit", "successfulJobsHistoryLimit"]
            ++ all .text ["concurrencyPolicy", "schedule", "timeZone"]
            ++ [ ("jobTemplate", .record [("metadata", objectMeta), ("spec", jobSpec)]),
              ("startingDeadlineSeconds", .int64), ("suspend", .flag) ])),
      ("status",
        .record (("active", .list objectReference)
          :: all .instant ["lastScheduleTime", "lastSuccessfulTime"])) ]

/-! ### Network -/

/-- An entry of the `ports` of a service. Its `port` is written back as 0 if it is absent. -/
def servicePort : Shape :=
  .record (
    all .text ["appProtocol", "name", "protocol"]
      ++ [("nodePort", .int32), ("port", .always (.int 0) .int32), ("targetPort", .int32OrText)])

/-- The `ports` in the status of a load balancer. -/
def portStatus : Shape :=
  .list (.record (("port", .int32) :: all .text ["error", "protocol"]))

def service : Shape :=
  object Kind.service.type
    [ ("spec",
        .record (
          all .text ["clusterIP", "externalName", "externalTrafficPolicy", "internalTrafficPolicy",
              "ipFamilyPolicy", "loadBalancerClass", "loadBalancerIP", "sessionAffinity",
              "trafficDistribution", "type"]
            ++ all texts ["clusterIPs", "externalIPs", "ipFamilies", "loadBalancerSourceRanges"]
            ++ all .flag ["allocateLoadBalancerNodePorts", "publishNotReadyAddresses"]
            ++ [ ("healthCheckNodePort", .int32), ("ports", .list servicePort),
              ("selector", textMap),
              ("sessionAffinityConfig",
                .record [("clientIP", .record [("timeoutSeconds", .int32)])]) ])),
      ("status",
        .record
          [ ("conditions",
              .list (.record ([("lastTransitionTime", .instant), ("observedGeneration", .int64)]
                ++ all .text ["message", "reason", "status", "type"]))),
            ("loadBalancer",
              .record [("ingress", .list (.record (("ports", portStatus)
                :: all .text ["hostname", "ip", "ipMode"])))]) ]) ]

/-- A backend of an ingress. -/
def ingressBackend : Shape :=
  .record
    [ ("resource", textRecord ["apiGroup", "kind", "name"]),
      ("service",
        .record [("name", .text), ("port", .record [("name", .text), ("number", .int32)])]) ]

def ingress : Shape :=
  object Kind.ingress.type
    [ ("spec",
        .record
          [ ("defaultBackend", ingressBackend), ("ingressClassName", .text),
            ("rules",
              .list (.record
                [ ("host", .text),
                  ("http",
                    .record [("paths", .list (.record (("backend", ingressBackend)
                      :: all .text ["path", "pathType"])))]) ])),
            ("tls", .list (.record [("hosts", texts), ("secretName", .text)])) ]),
      ("status",
        .record [("loadBalancer",
          .record [("ingress", .list (.record (("ports", portStatus)
            :: all .text ["hostname", "ip"])))])]) ]

/-! ### Configuration -/

def configMap : Shape :=
  object Kind.configMap.type
    [("binaryData", .map .bytes), ("data", textMap), ("immutable", .flag)]

def secret : Shape :=
  object Kind.secret.type
    [("data", .map .bytes), ("immutable", .flag), ("stringData", textMap), ("type", .text)]

/-! ### Autoscaling -/

/-- The rules by which an autoscaler may go up or down, in its `behavior`. -/
def scalingRules : Shape :=
  .record
    [ ("policies", .list (.record (("type", .text) :: all .int32 ["periodSeconds", "value"]))),
      ("selectPolicy", .text), ("stabilizationWindowSeconds", .int32) ]

/-- A `MetricTarget` or a `MetricValueStatus`: what the value of a metric is to be, or is. -/
def metricValue : Shape :=
  .record (("averageUtilization", .int32) :: all .text ["averageValue", "type", "value"])

/-- A `MetricIdentifier`. -/
def metricIdentifier : Shape :=
  .record [("name", .text), ("selector", labelSelector)]

/-- The metrics of an autoscaler, which have the value under `key`: `target` in the spec, `current`
in the status. -/
def metrics (key : String) : Shape :=
  .list (.record
    [ ("type", .text),
      ("containerResource", .record ((key, metricValue) :: all .text ["container", "name"])),
      ("external", .record [("metric", metricIdentifier), (key, metricValue)]),
      ("object",
        .record [("describedObject", scaleReference), ("metric", metricIdentifier),
          (key, metricValue)]),
      ("pods", .record [("metric", metricIdentifier), (key, metricValue)]),
      ("resource", .record [("name", .text), (key, metricValue)]) ])

def horizontalPodAutoscaler : Shape :=
  object Kind.horizontalPodAutoscaler.type
    [ ("spec",
        .record
          [ ("behavior", .record (all scalingRules ["scaleDown", "scaleUp"])),
            ("maxReplicas", .int32), ("metrics", metrics "target"), ("minReplicas", .int32),
            ("scaleTargetRef", scaleReference) ]),
      ("status",
        .record (all .int32 ["currentReplicas", "desiredReplicas"]
          ++ [ ("conditions", conditions ["lastTransitionTime"]),
            ("currentMetrics", metrics "current"), ("lastScaleTime", .instant),
            ("observedGeneration", .int64) ])) ]

end Schema
end ClusterGraph
