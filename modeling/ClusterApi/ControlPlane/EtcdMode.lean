import ClusterApi.ControlPlane.Webhook
import ClusterApi.Foundation.Runs

namespace ClusterApi.ControlPlane.Webhook

open Foundation Bootstrap Util List

/-!
# Whether etcd is managed

The controller treats a control plane with an external etcd differently from
one whose etcd it manages, so the webhook must not let an update turn one into
the other.  A section for a local or an external etcd, once there, cannot be
taken away: its removal shows in the merge patch by a path that is not allowed.
And the two sections are compared with each other.

An object with neither section has a managed etcd too.  From there nothing
stands in the way of an external etcd.
-/

/-- A write to a stored object.  The status is written on its own. -/
inductive Request
  | update (requested : KubeadmControlPlane)
  | updateStatus (status : Fields)

/-- The object stored by a write, if it is accepted.  An update keeps the stored status. -/
def handle (library : Library) (stored : KubeadmControlPlane) : Request → Option KubeadmControlPlane
  | .update requested => update library stored { requested with status := stored.status }
  | .updateStatus status => some { stored with status }

def hasLocalEtcd (kcp : KubeadmControlPlane) : Bool :=
  kcp.spec.kubeadmConfigSpec.clusterConfiguration.any fun configuration => configuration.etcd.localEtcd.isSome

/-- The object says where its etcd is. -/
def HasEtcdSection (kcp : KubeadmControlPlane) : Prop := hasLocalEtcd kcp ∨ externalEtcdConfigured kcp.spec

/-- No version passes for an update of this one: its numbers do not fit into 64 bits, or the first minor
version out of reach wraps around to the lowest version there is. -/
def VersionFrozen (version : String) : Prop :=
  ∀ parsed, parseMajorMinorPatch version = .ok parsed → .release parsed.major (parsed.minor + 2) 0 ≤ Version.release 0 0 0

/-- After every sequence of accepted writes etcd is managed exactly if it was at the start. -/
def KeepsEtcdMode (library : Library) (created : KubeadmControlPlane) : Prop :=
  ∀ requests final, execute (handle library) created requests = some final → isEtcdManaged final = isEtcdManaged created

theorem isEtcdManaged_eq (kcp : KubeadmControlPlane) : isEtcdManaged kcp = !externalEtcdConfigured kcp.spec := by
  rw [isEtcdManaged, externalEtcdConfigured]
  cases kcp.spec.kubeadmConfigSpec.clusterConfiguration with
  | none => rfl
  | some configuration => exact (Option.not_isSome configuration.etcd.external).symm

/-! ## Inverting the validation -/

section Inversion

variable {library : Library} {kcp oldK newK stored requested next : KubeadmControlPlane}

theorem stored_iff {valid : KubeadmControlPlane → Prop} [DecidablePred valid] :
    (if valid kcp then some kcp else none) = some next ↔ valid next ∧ next = kcp := by
  rw [Option.ite_none_right_eq_some, Option.some_inj]
  constructor
  · rintro ⟨isValid, rfl⟩
    exact ⟨isValid, rfl⟩
  · rintro ⟨isValid, rfl⟩
    exact ⟨isValid, rfl⟩

theorem create_eq_some : create library kcp = some next ↔ validateCreate library next = [] ∧ next = default kcp :=
  @stored_iff (default kcp) next (fun object => validateCreate library object = []) _

theorem update_eq_some :
    update library stored requested = some next ↔ validateUpdate library stored next = [] ∧ next = default requested :=
  @stored_iff (default requested) next (fun object => validateUpdate library stored object = []) _

theorem validateUpdate_eq_nil : validateUpdate library oldK newK = [] ↔
    validateKubeadmControlPlaneSpec library newK.spec newK.metadata.namespaceName = [] ∧
    forbiddenChanges library.encoders oldK newK = [] ∧ validateVersion oldK newK = [] ∧
    validateClusterConfiguration oldK.spec.kubeadmConfigSpec.clusterConfiguration
      newK.spec.kubeadmConfigSpec.clusterConfiguration = [] ∧
    validateCoreDNSVersion library oldK newK = [] ∧
    newK.spec.kubeadmConfigSpec.validate library.ignitionEnabled (specPath ++ ".kubeadmConfigSpec") = [] := by
  simp only [validateUpdate, append_eq_nil_iff, and_assoc]

/-- The loop over the paths of a patch passes this one. -/
def MayChange (path : List String) : Prop := path = [] ∨ allowed path

instance (path : List String) : Decidable (MayChange path) := inferInstanceAs (Decidable (_ ∨ _))

theorem forbiddenChanges_eq_nil {encoders : Encoders} : forbiddenChanges encoders oldK newK = [] ↔
    ∀ path ∈ (Fields.mergePatch (toJson encoders oldK) (toJson encoders newK)).paths [], MayChange path := by
  simp only [forbiddenChanges, MayChange, filterMap_eq_nil_iff, ite_eq_left_iff, reduceCtorEq, imp_false, not_not]

theorem not_external_of_local {old new : ClusterConfiguration}
    (valid : validateClusterConfiguration (some old) (some new) = []) (wasLocal : old.etcd.localEtcd.isSome) :
    new.etcd.external.isSome = false := by
  simp only [validateClusterConfiguration, append_eq_nil_iff, ite_eq_right_iff, cons_ne_nil,
    imp_false, not_and, Bool.not_eq_true] at valid
  by_contra isExternal
  rw [Bool.not_eq_false] at isExternal
  have wasNotLocal := valid.2.1 isExternal
  rw [wasLocal] at wasNotLocal
  cases wasNotLocal

end Inversion

/-! ## What is gone shows in the patch -/

section Shown

variable {encoders : Encoders} {oldK newK : KubeadmControlPlane} {path : List String}

theorem distinct_etcdFields (etcd : Etcd) : ((etcdFields encoders etcd).map Prod.fst).Nodup := by
  simp [etcdFields]

theorem distinct_clusterConfigurationFields (configuration : ClusterConfiguration) :
    ((clusterConfigurationFields encoders configuration).map Prod.fst).Nodup := by
  simp [clusterConfigurationFields]

theorem distinct_kubeadmConfigSpecFields (spec : KubeadmConfigSpec) :
    ((kubeadmConfigSpecFields encoders spec).map Prod.fst).Nodup := by
  simp [kubeadmConfigSpecFields, otherConfigFields]

theorem distinct_specFields (spec : KubeadmControlPlaneSpec) : ((specFields encoders spec).map Prod.fst).Nodup := by
  simp [specFields, specFieldsBefore, specFieldsBehind]

theorem distinct_kubeadmControlPlaneFields (kcp : KubeadmControlPlane) :
    ((kubeadmControlPlaneFields encoders kcp).map Prod.fst).Nodup := by
  simp [kubeadmControlPlaneFields]

theorem shown_of_kubeadmConfigSpec
    (shown : path ∈ (Fields.mergePatch (.ofList (kubeadmConfigSpecFields encoders oldK.spec.kubeadmConfigSpec))
      (.ofList (kubeadmConfigSpecFields encoders newK.spec.kubeadmConfigSpec))).paths []) :
    "spec" :: "kubeadmConfigSpec" :: path ∈
      (Fields.mergePatch (toJson encoders oldK) (toJson encoders newK)).paths [] := by
  have inSpec : "kubeadmConfigSpec" :: path ∈ (Fields.mergePatch (.ofList (specFields encoders oldK.spec))
      (.ofList (specFields encoders newK.spec))).paths [] := by
    refine Fields.mem_paths_of_nested shown (distinct_specFields _) (distinct_kubeadmConfigSpecFields _) ?_ ?_ ?_
    · rfl
    · exact mem_append_right _ mem_cons_self
    · exact mem_append_right _ mem_cons_self
  refine Fields.mem_paths_of_nested inSpec (distinct_kubeadmControlPlaneFields _) (distinct_specFields _) ?_ ?_ ?_
  · rfl
  · exact mem_append_right _ mem_cons_self
  · exact mem_append_right _ mem_cons_self

theorem shown_of_etcd {old new : ClusterConfiguration}
    (before : oldK.spec.kubeadmConfigSpec.clusterConfiguration = some old)
    (after : newK.spec.kubeadmConfigSpec.clusterConfiguration = some new)
    (shown : path ∈ (Fields.mergePatch (.ofList (etcdFields encoders old.etcd))
      (.ofList (etcdFields encoders new.etcd))).paths []) :
    "spec" :: "kubeadmConfigSpec" :: "clusterConfiguration" :: "etcd" :: path ∈
      (Fields.mergePatch (toJson encoders oldK) (toJson encoders newK)).paths [] := by
  have inConfiguration : "etcd" :: path ∈
      (Fields.mergePatch (.ofList (clusterConfigurationFields encoders old))
        (.ofList (clusterConfigurationFields encoders new))).paths [] := by
    refine Fields.mem_paths_of_nested shown (distinct_clusterConfigurationFields _) (distinct_etcdFields _) ?_ ?_ ?_
    · rfl
    · exact mem_append_right _ mem_cons_self
    · exact mem_append_right _ mem_cons_self
  apply shown_of_kubeadmConfigSpec
  refine Fields.mem_paths_of_nested inConfiguration (distinct_kubeadmConfigSpecFields _)
    (distinct_clusterConfigurationFields _) ?_ ?_ ?_
  · rfl
  · rw [kubeadmConfigSpecFields, before]
    exact mem_cons_self
  · rw [kubeadmConfigSpecFields, after]
    exact mem_cons_self

end Shown

/-! ## A section stays -/

section Stays

variable {encoders : Encoders} {oldK newK : KubeadmControlPlane} {old : ClusterConfiguration}

theorem clusterConfiguration_stays (unforbidden : forbiddenChanges encoders oldK newK = [])
    (before : oldK.spec.kubeadmConfigSpec.clusterConfiguration = some old) :
    ∃ new, newK.spec.kubeadmConfigSpec.clusterConfiguration = some new := by
  cases after : newK.spec.kubeadmConfigSpec.clusterConfiguration with
  | some new => exact ⟨new, rfl⟩
  | none =>
    have gone : ["clusterConfiguration"] ∈
        (Fields.mergePatch (.ofList (kubeadmConfigSpecFields encoders oldK.spec.kubeadmConfigSpec))
          (.ofList (kubeadmConfigSpecFields encoders newK.spec.kubeadmConfigSpec))).paths [] := by
      refine Fields.mem_paths_of_deleted (clusterConfiguration encoders old)
        (distinct_kubeadmConfigSpecFields _) ?_ ?_ ?_
      · rfl
      · rw [kubeadmConfigSpecFields, before]
        exact mem_cons_self
      · rw [kubeadmConfigSpecFields, after]
        exact mem_cons_self
    have notAllowed : ¬ MayChange ["spec", "kubeadmConfigSpec", "clusterConfiguration"] := by decide
    exact absurd (forbiddenChanges_eq_nil.mp unforbidden _ (shown_of_kubeadmConfigSpec gone)) notAllowed

variable {new : ClusterConfiguration}

variable (unforbidden : forbiddenChanges encoders oldK newK = [])
  (before : oldK.spec.kubeadmConfigSpec.clusterConfiguration = some old)
  (after : newK.spec.kubeadmConfigSpec.clusterConfiguration = some new)
include unforbidden before after

theorem etcdField_stays {key : String} {value : Json}
    (notAllowed : ¬ MayChange ["spec", "kubeadmConfigSpec", "clusterConfiguration", "etcd", key])
    (was : (key, some value) ∈ etcdFields encoders old.etcd) : (key, none) ∉ etcdFields encoders new.etcd := by
  intro gone
  have shown := shown_of_etcd before after (Fields.mem_paths_of_deleted value (distinct_etcdFields _) rfl was gone)
  exact notAllowed (forbiddenChanges_eq_nil.mp unforbidden _ shown)

theorem localEtcd_stays (wasLocal : old.etcd.localEtcd.isSome) : new.etcd.localEtcd.isSome := by
  by_contra gone
  rw [Option.not_isSome_iff_eq_none] at gone
  rcases Option.isSome_iff_exists.mp wasLocal with ⟨etcd, isEtcd⟩
  have was : ("local", some (localEtcd encoders etcd)) ∈ etcdFields encoders old.etcd := by simp [etcdFields, isEtcd]
  apply etcdField_stays unforbidden before after (by decide) was
  simp [etcdFields, gone]

theorem external_stays (wasExternal : old.etcd.external.isSome) : new.etcd.external.isSome := by
  by_contra gone
  rw [Option.not_isSome_iff_eq_none] at gone
  rcases Option.isSome_iff_exists.mp wasExternal with ⟨etcd, isEtcd⟩
  have was : ("external", some (externalEtcd etcd)) ∈ etcdFields encoders old.etcd := by simp [etcdFields, isEtcd]
  apply etcdField_stays unforbidden before after (by decide) was
  simp [etcdFields, gone]

end Stays

theorem handle_keepsSection {library : Library} {stored next : KubeadmControlPlane} {request : Request}
    (accepted : handle library stored request = some next) (hasSection : HasEtcdSection stored) :
    HasEtcdSection next ∧ isEtcdManaged next = isEtcdManaged stored := by
  cases request with
  | updateStatus =>
    cases accepted
    exact ⟨hasSection, rfl⟩
  | update =>
    rcases validateUpdate_eq_nil.mp (update_eq_some.mp accepted).1 with ⟨-, unforbidden, -, valid, -⟩
    rw [isEtcdManaged_eq, isEtcdManaged_eq]
    cases before : stored.spec.kubeadmConfigSpec.clusterConfiguration with
    | none => simp [HasEtcdSection, hasLocalEtcd, externalEtcdConfigured, before] at hasSection
    | some old =>
      rcases clusterConfiguration_stays unforbidden before with ⟨_, after⟩
      simp only [HasEtcdSection, hasLocalEtcd, externalEtcdConfigured, before, after, Option.any_some] at hasSection ⊢
      by_cases wasExternal : old.etcd.external.isSome
      · have isExternal := external_stays unforbidden before after wasExternal
        exact ⟨.inr isExternal, by rw [isExternal, wasExternal]⟩
      · have wasLocal := hasSection.resolve_right wasExternal
        have isLocal := localEtcd_stays unforbidden before after wasLocal
        rw [before, after] at valid
        refine ⟨.inl isLocal, ?_⟩
        rw [not_external_of_local valid wasLocal, Bool.eq_false_iff.mpr wasExternal]

/-! ## A frozen version -/

theorem release_zero_le {text : String} {parsed : Version}
    (isParsed : parseMajorMinorPatch text = .ok parsed) : Version.release 0 0 0 ≤ parsed := by
  rw [parseMajorMinorPatch] at isParsed
  split_ifs at isParsed
  by_contra below
  rcases Version.not_release_le.mp below with impossible | ⟨-, impossible | ⟨-, -, isPre⟩⟩
  · exact UInt64.not_lt_zero impossible
  · exact UInt64.not_lt_zero impossible
  · exact isPre (parseMajorMinorPatchTolerant_pre isParsed)

theorem validateVersion_of_frozen {oldK newK : KubeadmControlPlane}
    (frozen : VersionFrozen oldK.spec.version) : validateVersion oldK newK ≠ [] := by
  rw [validateVersion]
  split
  case h_1 => exact cons_ne_nil _ _
  case h_2 fromVersion isFrom =>
    split
    case h_1 => exact cons_ne_nil _ _
    case h_2 toVersion isTo =>
      have outOfReach : .release fromVersion.major (fromVersion.minor + 2) 0 ≤ toVersion :=
        (frozen fromVersion isFrom).trans (release_zero_le isTo)
      split
      · exact cons_ne_nil _ _
      · exact append_ne_nil_of_left_ne_nil (cons_ne_nil _ _) _

theorem handle_of_frozen {library : Library} {stored next : KubeadmControlPlane} {request : Request}
    (frozen : VersionFrozen stored.spec.version) (accepted : handle library stored request = some next) :
    next.spec = stored.spec := by
  cases request with
  | updateStatus =>
    cases accepted
    rfl
  | update =>
    rcases validateUpdate_eq_nil.mp (update_eq_some.mp accepted).1 with ⟨-, -, validVersion, -⟩
    exact absurd validVersion (validateVersion_of_frozen frozen)

/-! ## Moving to an external etcd -/

def lowestVersion : String := "v0.0.0"

/-- Add an external etcd to what is there.  The version goes down to the lowest one, which passes whenever
any version does. -/
def moveToExternalEtcd (external : ExternalEtcd) (kcp : KubeadmControlPlane) : KubeadmControlPlane :=
  { kcp with
    spec := { kcp.spec with
      version := lowestVersion
      kubeadmConfigSpec := { kcp.spec.kubeadmConfigSpec with
        clusterConfiguration := some { kcp.spec.kubeadmConfigSpec.clusterConfiguration.getD {} with
          etcd := { external := some external } } } } }

section Moving

variable {library : Library} {kcp : KubeadmControlPlane} (external : ExternalEtcd)

theorem moveToExternalEtcd_spec {namespaceName : String}
    (valid : validateKubeadmControlPlaneSpec library kcp.spec namespaceName = []) :
    validateKubeadmControlPlaneSpec library (moveToExternalEtcd external kcp).spec namespaceName = [] := by
  simp only [validateKubeadmControlPlaneSpec, append_eq_nil_iff] at valid ⊢
  rcases valid with ⟨⟨⟨⟨⟨⟨replicas, reference⟩, objectMeta⟩, -⟩, rolloutBefore⟩, strategy⟩, naming⟩
  refine ⟨⟨⟨⟨⟨⟨?_, reference⟩, objectMeta⟩, ?_⟩, rolloutBefore⟩, strategy⟩, naming⟩
  · -- an even number of replicas is refused for a managed etcd only
    rw [validateReplicas, append_eq_nil_iff] at replicas ⊢
    exact ⟨replicas.1, rfl⟩
  · have valid : kubeSemver lowestVersion = true := by decide
    rw [moveToExternalEtcd, valid]
    rfl

theorem moveToExternalEtcd_version (notFrozen : ¬ VersionFrozen kcp.spec.version) :
    validateVersion kcp (moveToExternalEtcd external kcp) = [] := by
  rw [VersionFrozen] at notFrozen
  push Not at notFrozen
  rcases notFrozen with ⟨_, isParsed, inReach⟩
  have lowest : parseMajorMinorPatch (moveToExternalEtcd external kcp).spec.version = .ok (.release 0 0 0) := by
    change parseMajorMinorPatch lowestVersion = _
    decide +kernel
  have old : ¬ Version.release 1 22 0 ≤ Version.release 0 0 0 := by decide
  have other : (Version.release 0 0 0).compare (.release 1 19 0) ≠ 0 := by decide
  simp only [validateVersion, isParsed, lowest, inReach, old, other, and_false, false_and, if_false, append_nil]

theorem moveToExternalEtcd_coreDNS
    (valid : validateClusterConfiguration none kcp.spec.kubeadmConfigSpec.clusterConfiguration = []) :
    validateCoreDNSVersion library kcp (moveToExternalEtcd external kcp) = [] := by
  cases configuration : kcp.spec.kubeadmConfigSpec.clusterConfiguration with
  | none => simp [validateCoreDNSVersion, configuration, moveToExternalEtcd]
  | some old =>
    rw [configuration] at valid
    simp only [validateClusterConfiguration, append_eq_nil_iff] at valid
    rcases valid with ⟨⟨⟨⟨-, parses⟩, -⟩, -⟩, -⟩
    simp only [moveToExternalEtcd, validateCoreDNSVersion, configuration, Option.getD_some, or_self]
    by_cases noTag : old.dns.imageTag = ""
    · rw [if_pos noTag]
    · rw [if_neg noTag] at parses ⊢
      cases isParsed : parseMajorMinorPatchTolerant old.dns.imageTag with
      | error => simp [isParsed] at parses
      | ok => simp [Version.compare_eq_zero.mpr rfl]

variable {encoders : Encoders}

theorem unchanged_within {allowed : List String → Prop} (entries : List (String × Option Json)) :
    Forall₂ (Fields.FieldWithin allowed) entries entries :=
  forall₂_same.mpr fun entry _ => .same entry

theorem externalEtcd_within :
    Fields.FieldWithin (fun path => MayChange ("spec" :: "kubeadmConfigSpec" :: "clusterConfiguration" :: "etcd" :: path))
      ("external", none) ("external", some (externalEtcd external)) := by
  have fields : (Fields.fieldPatch "external" none (some (externalEtcd external))).paths [] =
      [["external", "endpoints"], ["external", "caFile"], ["external", "certFile"], ["external", "keyFile"]] := by
    rcases external with ⟨_ | _, _, _, _⟩
    · rfl
    · rfl
  refine ⟨rfl, ?_⟩
  rw [fields]
  decide

theorem clusterConfiguration_within (noSection : ¬ HasEtcdSection kcp) :
    Fields.FieldWithin (fun path => MayChange ("spec" :: "kubeadmConfigSpec" :: path))
      ("clusterConfiguration",
        kcp.spec.kubeadmConfigSpec.clusterConfiguration.map (clusterConfiguration encoders))
      ("clusterConfiguration",
        (moveToExternalEtcd external kcp).spec.kubeadmConfigSpec.clusterConfiguration.map
          (clusterConfiguration encoders)) := by
  cases configuration : kcp.spec.kubeadmConfigSpec.clusterConfiguration with
  | none =>
    -- a configuration with nothing else in it has no other leaves
    have leaves : (Fields.fieldPatch "clusterConfiguration" none
        (some (clusterConfiguration encoders { etcd := { external := some external } }))).paths [] =
        [["clusterConfiguration", "etcd", "external", "endpoints"], ["clusterConfiguration", "etcd", "external", "caFile"],
          ["clusterConfiguration", "etcd", "external", "certFile"],
          ["clusterConfiguration", "etcd", "external", "keyFile"]] := by
      rcases external with ⟨_ | _, _, _, _⟩
      · rfl
      · rfl
    refine ⟨rfl, ?_⟩
    simp only [moveToExternalEtcd, configuration, Option.getD_none, Option.map_none, Option.map_some]
    rw [leaves]
    decide
  | some =>
    simp only [HasEtcdSection, hasLocalEtcd, externalEtcdConfigured, configuration, Option.any_some,
      not_or, Option.not_isSome_iff_eq_none] at noSection
    simp only [moveToExternalEtcd, configuration, Option.getD_some, Option.map_some]
    apply Fields.FieldWithin.nested _ (distinct_clusterConfigurationFields _)
    refine .cons (.same _) (.cons (.same _) (.cons ?_ (unchanged_within _)))
    apply Fields.FieldWithin.nested _ (distinct_etcdFields _)
    rw [etcdFields, noSection.1, noSection.2]
    exact .cons (.same _) (.cons (externalEtcd_within external) .nil)

theorem moveToExternalEtcd_changes (noSection : ¬ HasEtcdSection kcp) :
    forbiddenChanges encoders kcp (moveToExternalEtcd external kcp) = [] := by
  rw [forbiddenChanges_eq_nil]
  refine Fields.mergePatch_within (distinct_kubeadmControlPlaneFields _) ?_
  refine .cons (.same _) (.cons (.nested _ (distinct_specFields _) ?_) (unchanged_within _))
  refine .cons (.same _) (.cons ?_ (.cons (.same _) (.cons (.nested _ (distinct_kubeadmConfigSpecFields _) ?_)
    (unchanged_within _))))
  · refine ⟨rfl, fun path shown => ?_⟩
    rw [Fields.fieldPatch_scalar shown]
    have mayChange : MayChange ["spec", "version"] := by decide
    exact mayChange
  · exact .cons (clusterConfiguration_within external noSection) (unchanged_within _)

theorem moveToExternalEtcd_accepted {created : KubeadmControlPlane} (accepted : create library kcp = some created)
    (noSection : ¬ HasEtcdSection created) (notFrozen : ¬ VersionFrozen created.spec.version) :
    handle library created (.update (moveToExternalEtcd external kcp)) =
      some (moveToExternalEtcd external created) := by
  rcases create_eq_some.mp accepted with ⟨valid, isDefault⟩
  simp only [validateCreate, append_eq_nil_iff] at valid
  rcases valid with ⟨⟨validSpec, validConfiguration⟩, validConfig⟩
  have sameStatus : { moveToExternalEtcd external kcp with status := created.status } = moveToExternalEtcd external kcp := by
    rw [isDefault]
    rfl
  apply update_eq_some.mpr
  refine ⟨validateUpdate_eq_nil.mpr ⟨?_, ?_, ?_, ?_, ?_, ?_⟩, ?_⟩
  · exact moveToExternalEtcd_spec external validSpec
  · exact moveToExternalEtcd_changes external noSection
  · exact moveToExternalEtcd_version external notFrozen
  · cases configuration : created.spec.kubeadmConfigSpec.clusterConfiguration with
    | none => simp [moveToExternalEtcd, configuration, validateClusterConfiguration, imageTagIsValid]
    | some =>
      rw [configuration] at validConfiguration
      simp only [HasEtcdSection, hasLocalEtcd, configuration, Option.any_some, not_or, Bool.not_eq_true] at noSection
      simp only [validateClusterConfiguration, append_eq_nil_iff] at validConfiguration
      simp only [moveToExternalEtcd, configuration, Option.getD_some, validateClusterConfiguration,
        validConfiguration.1.1.1, noSection.1, Option.isSome_none, Bool.false_eq_true, false_and, and_false, if_false,
        append_nil]
  · exact moveToExternalEtcd_coreDNS external validConfiguration
  · exact validConfig
  · have startsWithV : lowestVersion.toList.head? = some 'v' := by decide
    rw [isDefault]
    simp only [default, defaultKubeadmControlPlaneSpec, moveToExternalEtcd, startsWithV, if_true]
    rfl

end Moving

/-! ## The mode of etcd -/

variable {created final : KubeadmControlPlane} {requests : List Request} {library : Library}

theorem execute_keepsSection (hasSection : HasEtcdSection created)
    (executed : execute (handle library) created requests = some final) :
    HasEtcdSection final ∧ isEtcdManaged final = isEtcdManaged created := by
  have rule := @execute_invariant_of_step _ _ (handle library)
    (fun state => HasEtcdSection state ∧ isEtcdManaged state = isEtcdManaged created)
  apply rule ?_ ⟨hasSection, rfl⟩ executed
  rintro state _ _ ⟨stateHas, sameMode⟩ taken
  rcases handle_keepsSection taken stateHas with ⟨nextHas, keptMode⟩
  exact ⟨nextHas, keptMode.trans sameMode⟩

theorem execute_of_frozen (frozen : VersionFrozen created.spec.version)
    (executed : execute (handle library) created requests = some final) : final.spec = created.spec := by
  have rule := @execute_invariant_of_step _ _ (handle library) (fun state => state.spec = created.spec)
  apply rule ?_ rfl executed
  intro _ _ _ sameSpec taken
  rw [← sameSpec] at frozen
  exact (handle_of_frozen frozen taken).trans sameSpec

/-- The mode of etcd is kept by every sequence of accepted writes exactly if the object was created with a
section for etcd, or in a version that no update passes. -/
theorem create_keepsEtcdMode {library : Library} {kcp created : KubeadmControlPlane}
    (accepted : create library kcp = some created) :
    KeepsEtcdMode library created ↔ HasEtcdSection created ∨ VersionFrozen created.spec.version := by
  constructor
  · intro keeps
    by_contra neither
    rw [not_or] at neither
    have moved := moveToExternalEtcd_accepted {} accepted neither.1 neither.2
    have sameMode := keeps [.update (moveToExternalEtcd {} kcp)] _ (execute_cons_eq_some.mpr ⟨_, moved, rfl⟩)
    have wasManaged : isEtcdManaged created = true := by
      rw [isEtcdManaged_eq, Bool.not_eq_true', Bool.eq_false_iff]
      exact fun isExternal => neither.1 (.inr isExternal)
    rw [wasManaged] at sameMode
    cases sameMode
  · rintro (hasSection | frozen) requests final executed
    · exact (execute_keepsSection hasSection executed).2
    · rw [isEtcdManaged, isEtcdManaged, execute_of_frozen frozen executed]

def plainLibrary : Library where
  encoders :=
    { time := integer, duration := integer, intOrString := fun _ => .scalar "surge", extraVolumes := fun _ => .scalar "[]"
      extraEnvs := fun _ => .scalar "[]", initConfiguration := fun _ => .object .nil
      joinConfiguration := fun _ => .object .nil, files := fun _ => .scalar "[]", diskSetup := fun _ => .object .nil
      mounts := fun _ => .scalar "[]", users := fun _ => .scalar "[]", ntp := fun _ => .object .nil
      ignition := fun _ => .object .nil }
  validateLabels := fun _ _ => []
  validateAnnotations := fun _ _ => []
  generateName := .ok
  isDNS1123Subdomain := fun _ => []
  intValue
    | .int value => value
    | _ => 0
  validUpMigration := fun _ _ => none
  ignitionEnabled := false

def threeReplicas (clusterConfiguration : Option ClusterConfiguration) : KubeadmControlPlane where
  metadata := { name := "control-plane", namespaceName := "default" }
  spec :=
    { replicas := some 3
      version := "v1.30.0"
      machineTemplate :=
        { infrastructureRef :=
            { kind := "DockerMachineTemplate", namespaceName := "default", name := "control-plane"
              apiVersion := "infrastructure.cluster.x-k8s.io/v1beta1" } }
      kubeadmConfigSpec := { clusterConfiguration, format := "cloud-config" }
      rolloutStrategy := some { type := "RollingUpdate", rollingUpdate := some { maxSurge := some (.int 1) } } }

def externalEtcdConfiguration : ClusterConfiguration where
  etcd := { external := some { endpoints := some ["127.0.0.1"], caFile := "/etc/kubernetes/pki/etcd/ca.crt"
                               certFile := "/etc/kubernetes/pki/apiserver-etcd-client.crt"
                               keyFile := "/etc/kubernetes/pki/apiserver-etcd-client.key" } }

theorem localEtcd_keepsEtcdMode :
    create plainLibrary (threeReplicas (some { etcd := { localEtcd := some {} } })) =
        some (threeReplicas (some { etcd := { localEtcd := some {} } })) ∧
      KeepsEtcdMode plainLibrary (threeReplicas (some { etcd := { localEtcd := some {} } })) := by
  have accepted : create plainLibrary (threeReplicas (some { etcd := { localEtcd := some {} } })) =
      some (threeReplicas (some { etcd := { localEtcd := some {} } })) := by decide +kernel
  exact ⟨accepted, (create_keepsEtcdMode accepted).mpr (.inl (.inl rfl))⟩

/-- A control plane is created without a ClusterConfiguration, and so with a managed etcd.  An update then adds
a ClusterConfiguration with an external etcd. -/
theorem missingConfiguration_becomesExternal :
    create plainLibrary (threeReplicas none) = some (threeReplicas none) ∧
      execute (handle plainLibrary) (threeReplicas none) [.update (threeReplicas (some externalEtcdConfiguration))] =
        some (threeReplicas (some externalEtcdConfiguration)) ∧
      isEtcdManaged (threeReplicas none) = true ∧
      isEtcdManaged (threeReplicas (some externalEtcdConfiguration)) = false := by
  decide +kernel

end ClusterApi.ControlPlane.Webhook
