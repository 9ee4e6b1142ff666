import ClusterApi.Bootstrap.InitLock
import ClusterApi.MachineDeployment.Surge
import ClusterApi.Topology.VersionSkew
import ClusterApi.Clusterctl.OwnerReferences
import ClusterApi.ControlPlane.UpToDate
import ClusterApi.MachineDeployment.OnDelete
import ClusterApi.MachineDeployment.ScaleDownBudget
import ClusterApi.Machine.DrainErrors
import ClusterApi.Machine.Eviction
import ClusterApi.ControlPlane.SizeBounds
import ClusterApi.ControlPlane.Leadership
import ClusterApi.ControlPlane.PreTerminateHook
import ClusterApi.ControlPlane.CoreDNS
import ClusterApi.MachineHealthCheck.Recovery
import ClusterApi.ClusterResourceSet.EventMapper
import ClusterApi.ClusterResourceSet.ResourcesApplied
import ClusterApi.Topology.VariableValue
import ClusterApi.MachinePool.NodeRefs
import ClusterApi.MachineSet.DeletePolicy
import ClusterApi.Conditions.AggregateOrder
import ClusterApi.ControlPlane.FailureDomains
import ClusterApi.MachineDeployment.ProportionalScaling
import ClusterApi.MachineSet.Orphans
import ClusterApi.MachineSet.Preflight
import ClusterApi.MachineSet.Reentrance
import ClusterApi.ControlPlane.RetryLimits
import ClusterApi.Topology.TemplatesInUse
import ClusterApi.Topology.TemplateRotation
import ClusterApi.Clusterctl.UpgradePlans
import ClusterApi.ControlPlane.Admission
import ClusterApi.MachineDeployment.UpToDateCondition
import ClusterApi.Util.FilterIntent
import ClusterApi.Conditions.Setter
import ClusterApi.Util.BuildOrder
import ClusterApi.MachineHealthCheck.NextCheck
import ClusterApi.Topology.StableControlPlane
import ClusterApi.Topology.UpgradeHooks
