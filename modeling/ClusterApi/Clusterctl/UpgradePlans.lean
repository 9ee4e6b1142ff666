import ClusterApi.Foundation.Fallible
import ClusterApi.Foundation.Keyed
import ClusterApi.Util.Errors
import Mathlib.Data.List.Sort

namespace ClusterApi.Clusterctl.UpgradePlans

open Foundation Fallible List

/-!
# Plans for the upgrade of a management cluster

The metadata of a provider says which release series support which API version
of Cluster API, the contract.  `plan` offers an upgrade plan for each contract,
`applyPlan` upgrades all providers to the latest releases of one contract, and
`applyCustomPlan` upgrades chosen providers to chosen versions.

An entry of the inventory is stored under the instance name of its provider.
The library for versions is a parameter.  All that is asked of it is that it
reads the tag of a version back and does not read the empty text.  The check of
the contract of the management cluster that `ApplyUpgrade` makes before all this
is left out.
-/

/-! ## Versions and release series -/

structure Version where
  major : Nat
  minor : Nat
  patch : Nat
  preRelease : String := ""
  buildMetadata : String := ""
  deriving DecidableEq

structure VersionLibrary where
  parseSemantic : String → Except String Version
  toText : Version → String
  lessThan : Version → Version → Bool
  /-- Sort by `lessThan`; versions that differ in their build part may come in any order. -/
  sort : List Version → List Version
  parseSemantic_tag : ∀ text version,
    parseSemantic text = .ok version → parseSemantic ("v" ++ toText version) = .ok version
  parseSemantic_empty : ∀ version, parseSemantic "" ≠ .ok version
  sort_perm : ∀ versions, (sort versions).Perm versions

namespace VersionLibrary

variable (library : VersionLibrary)

def versionTag : Option Version → String
  | none => ""
  | some version => "v" ++ library.toText version

/-- The loops keep the latest version that they have seen. -/
def later (latest : Option Version) (version : Version) : Option Version :=
  match latest with
  | none => some version
  | some latest => if library.lessThan latest version then some version else some latest

def latest (versions : List Version) : Option Version := versions.foldl library.later none

/-- Of two releases that differ, every third one is on the far side of one of them.  Pre-releases need not be
ordered. -/
structure Ordered : Prop where
  asymm : ∀ first second, first.preRelease = "" → second.preRelease = "" →
    library.lessThan first second = true → library.lessThan second first = false
  between : ∀ first middle second, first.preRelease = "" → middle.preRelease = "" → second.preRelease = "" →
    library.lessThan first second = true → library.lessThan first middle = true ∨ library.lessThan middle second = true

end VersionLibrary

structure ReleaseSeries where
  major : Nat
  minor : Nat
  contract : String
  deriving DecidableEq

def ReleaseSeries.key (series : ReleaseSeries) : Nat × Nat := (series.major, series.minor)

/-- No two release series have the same major and minor number. -/
structure Metadata where
  releaseSeries : List ReleaseSeries
  distinct : (releaseSeries.map ReleaseSeries.key).Nodup

def Metadata.getReleaseSeriesForVersion (metadata : Metadata) (version : Version) : Option ReleaseSeries :=
  metadata.releaseSeries.find? fun series => version.major = series.major ∧ version.minor = series.minor

def Metadata.sorted (metadata : Metadata) : Metadata where
  releaseSeries := metadata.releaseSeries.insertionSort fun first second =>
    first.major < second.major ∨ first.major = second.major ∧ first.minor ≤ second.minor
  distinct := ((List.perm_insertionSort _ _).map _).nodup_iff.mpr metadata.distinct

/-! ## Providers -/

inductive ProviderType
  | core
  | bootstrap
  | controlPlane
  | infrastructure
  | ipam
  | runtimeExtension
  | addon
  | unknown
  deriving DecidableEq

def manifestLabel (name : String) : ProviderType → String
  | .bootstrap => "bootstrap-" ++ name
  | .controlPlane => "control-plane-" ++ name
  | .infrastructure => "infrastructure-" ++ name
  | .ipam => "ipam-" ++ name
  | .runtimeExtension => "runtime-extension-" ++ name
  | .addon => "addon-" ++ name
  | .core | .unknown => name

structure Provider where
  namespaceName : String
  providerName : String
  type : ProviderType
  version : String
  deriving DecidableEq

def Provider.instanceName (provider : Provider) : String :=
  provider.namespaceName ++ "/" ++ manifestLabel provider.providerName provider.type

abbrev Inventory := Keyed Provider Provider.instanceName

def filterCore (inventory : Inventory) : List Provider :=
  inventory.list.filter fun provider => provider.type = .core

structure UpgradeItem where
  provider : Provider
  nextVersion : String
  deriving DecidableEq

def UpgradeItem.instanceName (item : UpgradeItem) : String := item.provider.instanceName

structure UpgradePlan where
  contract : String
  providers : List UpgradeItem
  deriving DecidableEq

/-- Some provider has no version to go to. -/
def UpgradePlan.isPartialUpgrade (plan : UpgradePlan) : Bool := plan.providers.any fun item => item.nextVersion = ""

/-- What a provider repository answers. -/
structure Repository where
  versions : Except String (List String)
  /-- The metadata of the release with a tag. -/
  metadata : String → Except String Metadata

/-- What an upgrade can ask. -/
structure Upgrader where
  library : VersionLibrary
  inventory : Except String Inventory
  repository : String → ProviderType → Except String Repository

/-- `clusterv1.GroupVersion.Version`. -/
def currentContractVersion : String := "v1beta1"

/-! ## What is known about a provider -/

structure UpgradeInfo where
  metadata : Metadata
  currentVersion : Version
  currentContract : String
  nextVersions : List Version

def newUpgradeInfo (library : VersionLibrary) (metadata : Metadata) (currentVersion : Version)
    (nextVersions : List Version) : UpgradeInfo where
  metadata := metadata.sorted
  currentVersion := currentVersion
  currentContract := ((metadata.sorted.getReleaseSeriesForVersion currentVersion).map ReleaseSeries.contract).getD ""
  nextVersions := library.sort nextVersions

/-- The contracts of the series that are not older than the current version, in order. -/
def UpgradeInfo.getContractsForUpgrade (info : UpgradeInfo) : List String :=
  let series := info.metadata.releaseSeries.filter fun series =>
    ¬ (info.currentVersion.major > series.major ∨
      info.currentVersion.major = series.major ∧ info.currentVersion.minor > series.minor)
  (series.map ReleaseSeries.contract).dedup.insertionSort (· ≤ ·)

/-- A release of the series that is not a pre-release. -/
def ReleaseSeries.offers (series : ReleaseSeries) (version : Version) : Bool :=
  ¬ (version.major ≠ series.major ∨ version.minor ≠ series.minor ∨ version.preRelease ≠ "")

def UpgradeInfo.getLatestNextVersion (library : VersionLibrary) (info : UpgradeInfo)
    (contract : String) : Option Version :=
  info.metadata.releaseSeries.foldl (fun latest series =>
    if series.contract ≠ contract then latest
    else info.nextVersions.foldl (fun latest nextVersion =>
      if series.offers nextVersion then library.later latest nextVersion else latest) latest) none

namespace Upgrader

variable (upgrader : Upgrader)

/-- The available versions of a provider, and the metadata of the latest one. -/
def getLatestMetadata (provider : Provider) : Except String (List (String × Version) × Metadata) := do
  let repository ← upgrader.repository provider.providerName provider.type
  let repositoryVersions ← repository.versions
  demand (repositoryVersions ≠ [])
    ("failed to get available versions for the " ++ provider.instanceName ++ " provider")
  let available ← repositoryVersions.mapM fun text => do
    let version ← (upgrader.library.parseSemantic text).mapError
      (wrap ("failed to parse available version for the " ++ provider.instanceName ++ " provider"))
    pure (text, version)
  let metadata ← repository.metadata (upgrader.library.versionTag (upgrader.library.latest (available.map Prod.snd)))
  pure (available, metadata)

/-- The versions after the current one; all of them need a release series. -/
def getNextVersions (provider : Provider) (metadata : Metadata) (currentVersion : Version)
    (available : List (String × Version)) : Except String (List Version) :=
  (available.filter fun entry => upgrader.library.lessThan currentVersion entry.2).mapM fun entry => do
    demand (metadata.getReleaseSeriesForVersion entry.2).isSome
      ("invalid provider metadata: version " ++ entry.1 ++ " (one of the available versions) for the provider " ++
        provider.instanceName ++ " does not match any release series")
    pure entry.2

def getUpgradeInfo (provider : Provider) : Except String UpgradeInfo := do
  let (available, metadata) ← upgrader.getLatestMetadata provider
  let currentVersion ← (upgrader.library.parseSemantic provider.version).mapError
    (wrap ("failed to parse current version for the " ++ provider.instanceName ++ " provider"))
  demand (metadata.getReleaseSeriesForVersion currentVersion).isSome
    ("invalid provider metadata: version " ++ provider.version ++ " (the current version) for the provider " ++
      provider.instanceName ++ " does not match any release series")
  let nextVersions ← upgrader.getNextVersions provider metadata currentVersion available
  pure (newUpgradeInfo upgrader.library metadata currentVersion nextVersions)

def getProviderContractByVersion (provider : Provider) (targetVersion : String) : Except String String := do
  let targetSemVersion ← (upgrader.library.parseSemantic targetVersion).mapError
    (wrap ("failed to parse target version for the " ++ provider.instanceName ++ " provider"))
  let upgradeInfo ← upgrader.getUpgradeInfo provider
  match upgradeInfo.metadata.getReleaseSeriesForVersion targetSemVersion with
  | none => .error ("invalid target version: version " ++ targetVersion ++ " for the provider " ++
      provider.instanceName ++ " does not match any release series")
  | some releaseSeries => pure releaseSeries.contract

/-! ## Plans -/

def getUpgradePlan (providers : List Provider) (contract : String) : Except String UpgradePlan := do
  let items ← providers.mapM fun provider => do
    let info ← upgrader.getUpgradeInfo provider
    pure (⟨provider, upgrader.library.versionTag (info.getLatestNextVersion upgrader.library contract)⟩ : UpgradeItem)
  pure ⟨contract, items⟩

def getCoreProvider (inventory : Inventory) : Except String Provider :=
  match filterCore inventory with
  | [core] => pure core
  | several => .error ("invalid management cluster: there should a core provider, found " ++ toString several.length)

def plan : Except String (List UpgradePlan) := do
  let inventory ← upgrader.inventory
  let coreProvider ← getCoreProvider inventory
  let coreUpgradeInfo ← upgrader.getUpgradeInfo coreProvider
  let plans ← coreUpgradeInfo.getContractsForUpgrade.mapM (upgrader.getUpgradePlan inventory.list)
  -- All providers are required to change the contract at the same time.
  pure (plans.filter fun plan => ¬ (plan.isPartialUpgrade ∧ coreUpgradeInfo.currentContract ≠ plan.contract))

def unsupported (contract : String) : String :=
  "current version of clusterctl could only upgrade to " ++ currentContractVersion ++ " contract, requested " ++
    contract

/-- The plan that `ApplyPlan` hands to `doUpgrade`. -/
def applyPlan (contract : String) : Except String UpgradePlan := do
  demand (contract = currentContractVersion) (unsupported contract)
  let inventory ← upgrader.inventory
  upgrader.getUpgradePlan inventory.list contract

/-- The version that the core provider will have. -/
def targetCoreProviderVersion (coreProvider : Provider) (items : List UpgradeItem) : String :=
  match items.find? fun item => item.instanceName = coreProvider.instanceName with
  | none => coreProvider.version
  | some item => item.nextVersion

/-- An item of a custom plan has to support the contract of the management cluster. -/
def checkItem (inventory : Inventory) (targetContract : String) (item : UpgradeItem) : Except String UpgradeItem :=
  match inventory.find? item.instanceName with
  | none => .error ("unable to complete that upgrade: the provider " ++ item.instanceName ++
      " in not part of the management cluster")
  | some provider => do
    let contract ← upgrader.getProviderContractByVersion provider item.nextVersion
    demand (contract = targetContract)
      ("unable to complete that upgrade: the target version for the provider " ++ item.instanceName ++
        " supports the " ++ contract ++
        " API Version of Cluster API (contract), while the management cluster is using " ++ targetContract)
    pure item

/-- A provider that is not upgraded must not lag behind. -/
def checkLagging (targetContract : String) (provider : Provider) : Except String PUnit := do
  let contract ← upgrader.getProviderContractByVersion provider provider.version
  demand (contract = targetContract)
    ("unable to complete that upgrade: the provider " ++ provider.instanceName ++ " supports the " ++ contract ++
      " API Version of Cluster API (contract), while the management cluster is being updated to " ++ targetContract ++
      ". Please include the " ++ provider.instanceName ++ " provider in the upgrade")

def createCustomPlan (items : List UpgradeItem) : Except String UpgradePlan := do
  let inventory ← upgrader.inventory
  let coreProvider ← getCoreProvider inventory
  let targetContract ← upgrader.getProviderContractByVersion coreProvider
    (targetCoreProviderVersion coreProvider items)
  demand (targetContract = currentContractVersion) (unsupported targetContract)
  let providers ← items.mapM (upgrader.checkItem inventory targetContract)
  let others := inventory.list.filter fun provider => provider.instanceName ∉ items.map UpgradeItem.instanceName
  let _ ← others.mapM (upgrader.checkLagging targetContract)
  pure ⟨targetContract, providers⟩

/-- The plan that `ApplyCustomPlan` hands to `doUpgrade`. -/
def applyCustomPlan (items : List UpgradeItem) : Except String UpgradePlan := upgrader.createCustomPlan items

end Upgrader

/-! ## The upgrade -/

/-- What is asked for: all providers, or chosen ones. -/
inductive Request
  | contract (contract : String)
  | custom (items : List UpgradeItem)

def Upgrader.handedPlan (upgrader : Upgrader) : Request → Except String UpgradePlan
  | .contract contract => upgrader.applyPlan contract
  | .custom items => upgrader.applyCustomPlan items

/-- The provider gets its next version, if there is one. -/
def upgradeProvider (inventory : Inventory) (item : UpgradeItem) : Inventory :=
  if item.nextVersion = "" then inventory
  else inventory.update item.instanceName (fun provider => { provider with version := item.nextVersion }) fun _ => rfl

/-- The inventory after an upgrade of the items in this order. -/
def doUpgrade (inventory : Inventory) (items : List UpgradeItem) : Inventory := items.foldl upgradeProvider inventory

/-! ## The contract of a provider -/

namespace Upgrader

variable (upgrader : Upgrader)

/-- The version of the provider belongs to a release series of the contract. -/
def Supports (contract : String) (provider : Provider) : Prop :=
  ∃ available metadata version series, upgrader.getLatestMetadata provider = .ok
    (available, metadata) ∧ upgrader.library.parseSemantic provider.version = .ok version ∧
      metadata.getReleaseSeriesForVersion version = some series ∧ series.contract = contract

/-- There is a newer release of the contract, and not only a pre-release. -/
def HasRelease (contract : String) (provider : Provider) : Prop :=
  ∃ available metadata currentVersion, upgrader.getLatestMetadata provider = .ok
    (available, metadata) ∧ upgrader.library.parseSemantic provider.version = .ok currentVersion ∧
      ∃ entry ∈ available, upgrader.library.lessThan currentVersion entry.2 = true ∧
        ∃ series ∈ metadata.releaseSeries, series.contract = contract ∧ series.offers entry.2 = true

/-- The versions that the repository of the provider lists, and the metadata that it has for the latest of them. -/
def Publishes (provider : Provider) (texts : List String) (metadata : Metadata) : Prop :=
  ∃ repository versions, upgrader.repository provider.providerName provider.type = .ok repository ∧
    repository.versions = .ok texts ∧
    Forall₂ (fun text version => upgrader.library.parseSemantic text = .ok version) texts versions ∧
      repository.metadata (upgrader.library.versionTag (upgrader.library.latest versions)) = .ok metadata

/-- The repository lists the version, which is newer than the current one, in a release series of the contract, and
not a pre-release. -/
structure Offers (contract : String) (provider : Provider) (version : Version) : Prop where
  newer : ∃ currentVersion, upgrader.library.parseSemantic provider.version = .ok currentVersion ∧
    upgrader.library.lessThan currentVersion version = true
  released : version.preRelease = ""
  listed : ∃ texts metadata, upgrader.Publishes provider texts metadata ∧
    (∃ text ∈ texts, upgrader.library.parseSemantic text = .ok version) ∧
      ∃ series ∈ metadata.releaseSeries,
        series.contract = contract ∧ version.major = series.major ∧ version.minor = series.minor

/-- After the upgrade, whatever order it takes, all providers support the contract of the plan. -/
def Consistent (inventory : Inventory) (plan : UpgradePlan) : Prop :=
  ∀ order, order.Perm plan.providers → ∀ provider ∈ doUpgrade inventory order,
    upgrader.Supports plan.contract provider

/-- What an upgrade of all providers relies on; a custom plan is checked. -/
def CanFollow (inventory : Inventory) : Request → Prop
  | .contract contract => ∀ provider ∈ inventory,
      upgrader.Supports contract provider ∨ upgrader.HasRelease contract provider
  | .custom _ => True

end Upgrader

variable {series : ReleaseSeries} {metadata : Metadata}

theorem Metadata.getReleaseSeriesForVersion_eq_some {version : Version} :
    metadata.getReleaseSeriesForVersion version = some series ↔
      series ∈ metadata.releaseSeries ∧ version.major = series.major ∧ version.minor = series.minor := by
  unfold Metadata.getReleaseSeriesForVersion
  constructor
  · intro isFound
    have numbers := find?_some isFound
    exact ⟨mem_of_find?_eq_some isFound, of_decide_eq_true numbers⟩
  · rintro ⟨inside, numbers⟩
    cases isFound : metadata.releaseSeries.find? fun series =>
        version.major = series.major ∧ version.minor = series.minor with
    | none =>
      have different := find?_eq_none.mp isFound series inside
      exact absurd (decide_eq_true numbers) different
    | some other =>
      have otherNumbers := find?_some isFound
      rw [decide_eq_true_eq, numbers.1, numbers.2] at otherNumbers
      have sameKey : other.key = series.key := Prod.ext otherNumbers.1.symm otherNumbers.2.symm
      rw [inj_on_of_nodup_map metadata.distinct (mem_of_find?_eq_some isFound) inside sameKey]

theorem Metadata.mem_sorted :
    series ∈ metadata.sorted.releaseSeries ↔ series ∈ metadata.releaseSeries := (perm_insertionSort _ _).mem_iff

theorem Metadata.getReleaseSeriesForVersion_sorted (metadata : Metadata) (version : Version) :
    metadata.sorted.getReleaseSeriesForVersion version = metadata.getReleaseSeriesForVersion version := by
  ext series
  rw [Metadata.getReleaseSeriesForVersion_eq_some, Metadata.getReleaseSeriesForVersion_eq_some, Metadata.mem_sorted]

/-! ## The latest release of a contract -/

section

variable {library : VersionLibrary} {versions : List Version} {start : Option Version} {latest : Version}

theorem VersionLibrary.foldl_later_none (isNone : versions.foldl library.later start = none) :
    start = none ∧ versions = [] := by
  induction versions generalizing start with
  | nil => exact ⟨isNone, rfl⟩
  | cons _ _ ih =>
    have first := (ih isNone).1
    unfold VersionLibrary.later at first
    split at first
    · cases first
    · split_ifs at first

theorem VersionLibrary.foldl_later_some (isSome : versions.foldl library.later start = some latest) :
    start = some latest ∨ latest ∈ versions := by
  induction versions generalizing start with
  | nil => exact .inl isSome
  | cons _ _ ih =>
    rcases ih isSome with first | inside
    · unfold VersionLibrary.later at first
      split at first
      · cases first
        exact .inr mem_cons_self
      · split_ifs at first
        · cases first
          exact .inr mem_cons_self
        · exact .inl first
    · exact .inr (mem_cons_of_mem _ inside)

theorem VersionLibrary.Ordered.foldl_later (ordered : library.Ordered)
    (released : ∀ version, start = some version ∨ version ∈ versions → version.preRelease = "")
    (isSome : versions.foldl library.later start = some latest) :
    ∀ version, start = some version ∨ version ∈ versions → library.lessThan latest version = false := by
  have latestReleased : latest.preRelease = "" := released latest (foldl_later_some isSome)
  induction versions generalizing start with
  | nil =>
    have asymm := ordered.asymm latest latest
    grind
  | cons next _ ih =>
    have kept : ∀ version, library.later start next = some version → start = some version ∨ version = next := by
      unfold VersionLibrary.later
      grind
    have rest := ih (by grind) isSome
    have between (version middle : Version) := ordered.between latest middle version
    have asymm (version : Version) := ordered.asymm version next
    unfold VersionLibrary.later at rest
    grind

/-- The versions that `getLatestNextVersion` looks at. -/
def UpgradeInfo.candidates (info : UpgradeInfo) (contract : String) : List Version :=
  info.metadata.releaseSeries.flatMap fun series =>
    if series.contract ≠ contract then [] else info.nextVersions.filter series.offers

theorem UpgradeInfo.getLatestNextVersion_eq (info : UpgradeInfo) (contract : String) :
    info.getLatestNextVersion library contract = library.latest (info.candidates contract) := by
  unfold UpgradeInfo.getLatestNextVersion VersionLibrary.latest UpgradeInfo.candidates
  rw [foldl_flatMap]
  congr 1
  funext latest series
  split_ifs
  · rfl
  · rw [foldl_filter]

theorem UpgradeInfo.mem_candidates {info : UpgradeInfo} {contract : String} {version : Version} :
    version ∈ info.candidates contract ↔
      ∃ series ∈ info.metadata.releaseSeries, series.contract = contract ∧
        version ∈ info.nextVersions ∧ series.offers version = true := by
  unfold UpgradeInfo.candidates
  rw [mem_flatMap]
  apply exists_congr
  intro _
  apply and_congr_right
  intro _
  split_ifs with other
  · simp only [not_mem_nil, false_iff, not_and]
    exact fun same => absurd same other
  · rw [mem_filter]
    exact ⟨fun inside => ⟨not_not.mp other, inside⟩, And.right⟩

section

variable {info : UpgradeInfo} {contract : String}

theorem UpgradeInfo.candidates_eq_nil (isNone : info.getLatestNextVersion library contract = none) :
    info.candidates contract = [] := by
  rw [info.getLatestNextVersion_eq contract] at isNone
  exact (VersionLibrary.foldl_later_none isNone).2

theorem UpgradeInfo.latest_mem_candidates (isSome : info.getLatestNextVersion library contract = some latest) :
    latest ∈ info.candidates contract := by
  rw [info.getLatestNextVersion_eq contract] at isSome
  exact (VersionLibrary.foldl_later_some isSome).resolve_left nofun

end

end

section

variable {upgrader : Upgrader} {provider : Provider} {contract : String} {info : UpgradeInfo}

section

variable {available : List (String × Version)} {metadata : Metadata}
  (isOk : upgrader.getLatestMetadata provider = .ok (available, metadata))
include isOk

theorem Upgrader.getLatestMetadata_spec :
    (∀ entry ∈ available, upgrader.library.parseSemantic entry.1 = .ok entry.2) ∧
      upgrader.Publishes provider (available.map Prod.fst) metadata := by
  rcases bind_eq_ok.mp isOk with ⟨repository, isRepository, isOk⟩
  rcases bind_eq_ok.mp isOk with ⟨texts, isTexts, isOk⟩
  rcases bind_eq_ok.mp isOk with ⟨_, _, isOk⟩
  rcases bind_eq_ok.mp isOk with ⟨_, isParsed, isOk⟩
  rcases bind_eq_ok.mp isOk with ⟨_, isMetadata, isOk⟩
  cases isOk
  have paired : Forall₂ (fun text (entry : String × Version) =>
      entry.1 = text ∧ upgrader.library.parseSemantic text = .ok entry.2) texts available := by
    refine (paired_of_mapM isParsed).imp fun text entry isEntry => ?_
    rcases bind_eq_ok.mp isEntry with ⟨_, isVersion, isEntry⟩
    cases isEntry
    exact ⟨rfl, mapError_eq_ok.mp isVersion⟩
  have isTextsOf : available.map Prod.fst = texts :=
    forall₂_eq_eq_eq ▸ forall₂_map_left_iff.mpr (paired.flip.imp fun _ _ isEntry => isEntry.1)
  constructor
  · intro entry inside
    rcases exists_of_mem_paired paired inside with ⟨_, _, rfl, parsed⟩
    exact parsed
  · refine ⟨repository, available.map Prod.snd, isRepository, isTextsOf ▸ isTexts, ?_, isMetadata⟩
    rw [isTextsOf]
    exact forall₂_map_right_iff.mpr (paired.imp fun _ _ isEntry => isEntry.2)

theorem Upgrader.publishes_iff {texts : List String} {other : Metadata} :
    upgrader.Publishes provider texts other ↔ texts = available.map Prod.fst ∧ other = metadata := by
  constructor
  · rintro ⟨_, versions, isRepository, isTexts, isParsed, isMetadata⟩
    rcases (getLatestMetadata_spec isOk).2 with ⟨_, others, isRepository', isTexts', isParsed', isMetadata'⟩
    cases isRepository.symm.trans isRepository'
    cases isTexts.symm.trans isTexts'
    have same : versions = others :=
      right_unique_forall₂' (fun _ _ _ first second => Except.ok.inj (first.symm.trans second)) isParsed isParsed'
    cases same
    cases isMetadata.symm.trans isMetadata'
    exact ⟨rfl, rfl⟩
  · rintro ⟨rfl, rfl⟩
    exact (getLatestMetadata_spec isOk).2

end

section

variable (isOk : upgrader.getUpgradeInfo provider = .ok info)
include isOk

theorem Upgrader.getUpgradeInfo_spec :
    ∃ available metadata currentVersion, upgrader.getLatestMetadata provider = .ok (available, metadata) ∧
      upgrader.library.parseSemantic provider.version = .ok currentVersion ∧ info.metadata =
        metadata.sorted ∧ ∀ version, version ∈ info.nextVersions ↔
          ∃ entry ∈ available, upgrader.library.lessThan currentVersion entry.2 = true ∧ entry.2 = version := by
  rcases bind_eq_ok.mp isOk with ⟨⟨available, metadata⟩, isLatest, isOk⟩
  rcases bind_eq_ok.mp isOk with ⟨currentVersion, isCurrent, isOk⟩
  rcases bind_eq_ok.mp isOk with ⟨_, _, isOk⟩
  rcases bind_eq_ok.mp isOk with ⟨nextVersions, isNext, isOk⟩
  cases isOk
  refine ⟨available, metadata, currentVersion, isLatest, mapError_eq_ok.mp isCurrent, rfl, ?_⟩
  intro version
  have sorted : version ∈ upgrader.library.sort nextVersions ↔ version ∈ nextVersions :=
    (upgrader.library.sort_perm nextVersions).mem_iff
  refine sorted.trans ?_
  rcases mem_of_mapM isNext with ⟨hasResult, hasEntry⟩
  constructor
  · intro inside
    rcases hasEntry version inside with ⟨entry, isEntry, isResult⟩
    rcases bind_eq_ok.mp isResult with ⟨_, _, isVersion⟩
    cases isVersion
    exact ⟨entry, (mem_filter.mp isEntry).1, (mem_filter.mp isEntry).2, rfl⟩
  · rintro ⟨entry, inside, newer, rfl⟩
    rcases hasResult entry (mem_filter.mpr ⟨inside, newer⟩) with ⟨_, isResult, isOk⟩
    rcases bind_eq_ok.mp isOk with ⟨_, _, isVersion⟩
    cases isVersion
    exact isResult

theorem Upgrader.offers_iff {version : Version} :
    upgrader.Offers contract provider version ↔ version ∈ info.candidates contract := by
  rcases getUpgradeInfo_spec isOk with ⟨available, metadata, currentVersion, isLatest, isCurrent, isSorted, isNext⟩
  have parsed := (getLatestMetadata_spec isLatest).1
  rw [UpgradeInfo.mem_candidates, isSorted, isNext]
  simp only [ReleaseSeries.offers, decide_eq_true_eq, not_or, not_not]
  constructor
  · rintro ⟨⟨_, isCurrent', newer⟩, released, _, _, publishes, ⟨text, isText, isVersion⟩,
      series, isSeries, supports, sameMajor, sameMinor⟩
    cases isCurrent.symm.trans isCurrent'
    rcases (publishes_iff isLatest).mp publishes with ⟨rfl, rfl⟩
    rcases mem_map.mp isText with ⟨entry, inside, rfl⟩
    cases (parsed entry inside).symm.trans isVersion
    exact ⟨series, Metadata.mem_sorted.mpr isSeries, supports, ⟨entry, inside, newer, rfl⟩, sameMajor, sameMinor,
      released⟩
  · rintro ⟨series, isSeries, supports, ⟨entry, inside, newer, rfl⟩, sameMajor, sameMinor, released⟩
    exact ⟨⟨currentVersion, isCurrent, newer⟩, released, _, _, (publishes_iff isLatest).mpr ⟨rfl, rfl⟩,
      ⟨entry.1, mem_map_of_mem inside, parsed entry inside⟩,
      series, Metadata.mem_sorted.mp isSeries, supports, sameMajor, sameMinor⟩

theorem Upgrader.hasRelease_iff :
    upgrader.HasRelease contract provider ↔ ∃ version, version ∈ info.candidates contract := by
  rcases getUpgradeInfo_spec isOk with ⟨available, metadata, currentVersion, isLatest, isCurrent, isSorted, isNext⟩
  simp only [UpgradeInfo.mem_candidates, isSorted, isNext]
  constructor
  · rintro ⟨_, _, _, isLatest', isCurrent', entry, inside, newer, series, isSeries, supports, offers⟩
    cases isLatest.symm.trans isLatest'
    cases isCurrent.symm.trans isCurrent'
    exact ⟨entry.2, series, Metadata.mem_sorted.mpr isSeries, supports, ⟨entry, inside, newer, rfl⟩, offers⟩
  · rintro ⟨_, series, isSeries, supports, ⟨entry, inside, newer, rfl⟩, offers⟩
    exact ⟨available, metadata, currentVersion, isLatest, isCurrent, entry, inside, newer, series,
      Metadata.mem_sorted.mp isSeries, supports, offers⟩

theorem Upgrader.not_hasRelease (isNone : info.getLatestNextVersion upgrader.library contract = none) :
    ¬ upgrader.HasRelease contract provider := by
  rw [hasRelease_iff isOk, UpgradeInfo.candidates_eq_nil isNone]
  simp

variable {version : Version} (isSome : info.getLatestNextVersion upgrader.library contract = some version)
include isSome

theorem Upgrader.latest_supports :
    upgrader.HasRelease contract provider ∧
      upgrader.Supports contract { provider with version := "v" ++ upgrader.library.toText version } := by
  have inside := UpgradeInfo.latest_mem_candidates isSome
  refine ⟨(hasRelease_iff isOk).mpr ⟨version, inside⟩, ?_⟩
  rcases getUpgradeInfo_spec isOk with ⟨available, metadata, currentVersion, isLatest, isCurrent, isSorted, isNext⟩
  rw [UpgradeInfo.mem_candidates, isSorted, isNext] at inside
  rcases inside with ⟨series, isSeries, supports, ⟨entry, isEntry, newer, rfl⟩, offers⟩
  refine ⟨available, metadata, entry.2, series, isLatest, ?_, ?_, supports⟩
  · exact upgrader.library.parseSemantic_tag entry.1 entry.2 ((getLatestMetadata_spec isLatest).1 entry isEntry)
  · simp only [ReleaseSeries.offers, decide_eq_true_eq, not_or, not_not] at offers
    rcases offers with ⟨sameMajor, sameMinor, _⟩
    exact Metadata.getReleaseSeriesForVersion_eq_some.mpr ⟨Metadata.mem_sorted.mp isSeries, sameMajor, sameMinor⟩

end

theorem Upgrader.supports_of_getProviderContractByVersion {target : String}
    (isOk : upgrader.getProviderContractByVersion provider target = .ok contract) :
    upgrader.Supports contract { provider with version := target } := by
  unfold Upgrader.getProviderContractByVersion at isOk
  rcases bind_eq_ok.mp isOk with ⟨version, isVersion, isOk⟩
  rcases bind_eq_ok.mp isOk with ⟨_, isInfo, isOk⟩
  rcases getUpgradeInfo_spec isInfo with ⟨available, metadata, _, isLatest, _, isSorted, _⟩
  rw [isSorted, Metadata.getReleaseSeriesForVersion_sorted] at isOk
  split at isOk
  · cases isOk
  · rename_i series isSeries
    cases isOk
    exact ⟨available, metadata, version, series, isLatest, mapError_eq_ok.mp isVersion, isSeries, rfl⟩

end

/-! ## The inventory after an upgrade -/

section

variable {inventory : Inventory} {items : List UpgradeItem}

/-- Every provider of the new inventory was there before, and has its old version or that of an item. -/
theorem mem_doUpgrade {upgraded : Provider} (inside : upgraded ∈ doUpgrade inventory items) :
    ∃ provider ∈ inventory,
      (upgraded = provider ∧ ∀ item ∈ items, item.instanceName = provider.instanceName → item.nextVersion = "") ∨
        ∃ item ∈ items, item.instanceName = provider.instanceName ∧ item.nextVersion ≠ "" ∧
          upgraded = { provider with version := item.nextVersion } := by
  induction items generalizing inventory with
  | nil => exact ⟨upgraded, inside, .inl ⟨rfl, forall_mem_nil _⟩⟩
  | cons item _ ih =>
    rcases ih inside with ⟨between, isBetween, result⟩
    unfold upgradeProvider at isBetween
    split_ifs at isBetween with noVersion
    · refine ⟨between, isBetween, ?_⟩
      rcases result with ⟨rfl, unchanged⟩ | ⟨later, isLater, result⟩
      · exact .inl ⟨rfl, forall_mem_cons.mpr ⟨fun _ => noVersion, unchanged⟩⟩
      · exact .inr ⟨later, mem_cons_of_mem _ isLater, result⟩
    · rcases Keyed.mem_update.mp isBetween with ⟨isBefore, different⟩ | ⟨before, isBefore, same, rfl⟩
      · refine ⟨between, isBefore, ?_⟩
        rcases result with ⟨rfl, unchanged⟩ | ⟨later, isLater, result⟩
        · refine .inl ⟨rfl, forall_mem_cons.mpr ⟨fun same => ?_, unchanged⟩⟩
          exact absurd same.symm different
        · exact .inr ⟨later, mem_cons_of_mem _ isLater, result⟩
      · refine ⟨before, isBefore, .inr ?_⟩
        rcases result with ⟨rfl, _⟩ | ⟨later, isLater, result⟩
        · exact ⟨item, mem_cons_self, same.symm, noVersion, rfl⟩
        · exact ⟨later, mem_cons_of_mem _ isLater, result⟩

theorem mem_doUpgrade_of_unchanged {provider : Provider} (inside : provider ∈ inventory)
    (unchanged : ∀ item ∈ items, item.instanceName = provider.instanceName → item.nextVersion = "") :
    provider ∈ doUpgrade inventory items := by
  induction items generalizing inventory with
  | nil => exact inside
  | cons _ _ ih =>
    rcases forall_mem_cons.mp unchanged with ⟨first, later⟩
    apply ih _ later
    unfold upgradeProvider
    split_ifs with noVersion
    · exact inside
    · refine Keyed.mem_update.mpr (.inl ⟨inside, fun same => ?_⟩)
      exact noVersion (first same.symm)

end

/-! ## The plans that are handed over -/

section

variable {upgrader : Upgrader} {inventory : Inventory} {plan : UpgradePlan} {contract : String}
  {items : List UpgradeItem}

theorem Upgrader.getUpgradePlan_paired {providers : List Provider}
    (isOk : upgrader.getUpgradePlan providers contract = .ok plan) :
    plan.contract = contract ∧ Forall₂ (fun provider item => ∃ info, upgrader.getUpgradeInfo provider = .ok info ∧
      item = ⟨provider, upgrader.library.versionTag (info.getLatestNextVersion upgrader.library contract)⟩)
        providers plan.providers := by
  rcases bind_eq_ok.mp isOk with ⟨_, isItems, isOk⟩
  cases isOk
  refine ⟨rfl, (paired_of_mapM isItems).imp fun provider item isItem => ?_⟩
  rcases bind_eq_ok.mp isItem with ⟨info, isInfo, isItem⟩
  cases isItem
  exact ⟨info, isInfo, rfl⟩

section

variable (isOk : upgrader.getUpgradePlan inventory.list contract = .ok plan)
include isOk

theorem Upgrader.getUpgradePlan_spec :
    plan.contract = contract ∧ ∀ provider ∈ inventory,
      ∃ info, upgrader.getUpgradeInfo provider = .ok info ∧
        (∃ item ∈ plan.providers, item.instanceName = provider.instanceName) ∧
          ∀ item ∈ plan.providers, item.instanceName = provider.instanceName →
            item.nextVersion = upgrader.library.versionTag (info.getLatestNextVersion upgrader.library contract) := by
  rcases getUpgradePlan_paired isOk with ⟨isContract, paired⟩
  refine ⟨isContract, fun provider inside => ?_⟩
  rcases exists_of_mem_paired paired.flip inside with ⟨_, isItem, info, isInfo, rfl⟩
  refine ⟨info, isInfo, ⟨_, isItem, rfl⟩, fun other isOther named => ?_⟩
  rcases exists_of_mem_paired paired isOther with ⟨otherProvider, isProvider, _, isOtherInfo, rfl⟩
  rw [Keyed.eq_of_key_eq isProvider inside named, isInfo] at isOtherInfo
  cases isOtherInfo
  rfl

/-- A plan of the latest releases keeps the providers together exactly if those without a release support the
contract. -/
theorem Upgrader.consistent_getUpgradePlan :
    upgrader.Consistent inventory plan ↔
      ∀ provider ∈ inventory, upgrader.Supports contract provider ∨ upgrader.HasRelease contract provider := by
  rcases getUpgradePlan_spec isOk with ⟨rfl, known⟩
  constructor
  · intro consistent provider inside
    rcases known provider inside with ⟨info, isInfo, _, isItem⟩
    cases latest : info.getLatestNextVersion upgrader.library plan.contract with
    | some => exact .inr (latest_supports isInfo latest).1
    | none =>
      left
      apply consistent plan.providers (Perm.refl _)
      apply mem_doUpgrade_of_unchanged inside
      intro item isInside named
      rw [isItem item isInside named, latest]
      rfl
  · intro follows _ isOrder upgraded inside
    rcases mem_doUpgrade inside with ⟨provider, isProvider, result⟩
    rcases known provider isProvider with ⟨info, isInfo, ⟨item, isInside, named⟩, isItem⟩
    cases latest : info.getLatestNextVersion upgrader.library plan.contract with
    | none =>
      rw [latest] at isItem
      rcases result with ⟨rfl, _⟩ | ⟨other, isOther, otherNamed, hasVersion, _⟩
      · exact (follows upgraded isProvider).resolve_right (not_hasRelease isInfo latest)
      · exact absurd (isItem other (isOrder.mem_iff.mp isOther) otherNamed) hasVersion
    | some =>
      rw [latest] at isItem
      rcases result with ⟨_, unchanged⟩ | ⟨other, isOther, otherNamed, _, rfl⟩
      · have isEmpty := unchanged item (isOrder.mem_iff.mpr isInside) named
        rw [isItem item isInside named] at isEmpty
        exact absurd (String.append_eq_empty_iff.mp isEmpty).1 (by decide)
      · rw [isItem other (isOrder.mem_iff.mp isOther) otherNamed]
        exact (latest_supports isInfo latest).2

end

section

variable (listed : upgrader.inventory = .ok inventory) (isOk : upgrader.createCustomPlan items = .ok plan)
include listed isOk

theorem Upgrader.createCustomPlan_spec :
    (∀ item ∈ plan.providers, ∃ provider, inventory.find? item.instanceName = some provider ∧
      upgrader.getProviderContractByVersion provider item.nextVersion = .ok plan.contract) ∧
      ∀ provider ∈ inventory, (∀ item ∈ plan.providers, item.instanceName ≠ provider.instanceName) →
        upgrader.getProviderContractByVersion provider provider.version = .ok plan.contract := by
  unfold Upgrader.createCustomPlan at isOk
  rw [listed] at isOk
  rcases bind_eq_ok.mp isOk with ⟨_, isInventory, isOk⟩
  cases isInventory
  rcases bind_eq_ok.mp isOk with ⟨_, _, isOk⟩
  rcases bind_eq_ok.mp isOk with ⟨targetContract, _, isOk⟩
  rcases bind_eq_ok.mp isOk with ⟨_, _, isOk⟩
  rcases bind_eq_ok.mp isOk with ⟨_, isProviders, isOk⟩
  rcases bind_eq_ok.mp isOk with ⟨_, isLagging, isOk⟩
  cases isOk
  have checked : ∀ item result, upgrader.checkItem inventory targetContract item = .ok result →
      result = item ∧ ∃ provider, inventory.find? item.instanceName = some provider ∧
        upgrader.getProviderContractByVersion provider item.nextVersion = .ok targetContract := by
    intro item result isResult
    unfold Upgrader.checkItem at isResult
    split at isResult
    · cases isResult
    · rename_i provider isProvider
      rcases bind_eq_ok.mp isResult with ⟨found, isContract, isResult⟩
      rcases bind_eq_ok.mp isResult with ⟨_, same, isResult⟩
      cases isResult
      rw [of_decide_eq_true (demand_eq_ok.mp same)] at isContract
      exact ⟨rfl, provider, isProvider, isContract⟩
  constructor
  · intro item inside
    rcases (mem_of_mapM isProviders).2 item inside with ⟨asked, _, isResult⟩
    rcases checked asked item isResult with ⟨rfl, isChecked⟩
    exact isChecked
  · intro provider inside notUpgraded
    have isOther : provider ∈ inventory.list.filter fun provider =>
        provider.instanceName ∉ items.map UpgradeItem.instanceName := by
      refine mem_filter.mpr ⟨inside, decide_eq_true fun isNamed => ?_⟩
      rcases mem_map.mp isNamed with ⟨item, isItem, named⟩
      rcases (mem_of_mapM isProviders).1 item isItem with ⟨result, isResult, isOk⟩
      rw [(checked item result isOk).1] at isResult
      exact notUpgraded item isResult named
    rcases (mem_of_mapM isLagging).1 provider isOther with ⟨_, _, isOk⟩
    rcases bind_eq_ok.mp isOk with ⟨_, isContract, same⟩
    rw [of_decide_eq_true (demand_eq_ok.mp same)] at isContract
    exact isContract

theorem Upgrader.consistent_createCustomPlan : upgrader.Consistent inventory plan := by
  rcases createCustomPlan_spec listed isOk with ⟨isItem, isOther⟩
  intro _ isOrder upgraded inside
  rcases mem_doUpgrade inside with ⟨provider, isProvider, ⟨rfl, unchanged⟩ | ⟨item, isInside, named, _, rfl⟩⟩
  · apply supports_of_getProviderContractByVersion (isOther upgraded isProvider _)
    -- The contract of an empty version is never found.
    intro item isInside named
    rcases isItem item isInside with ⟨_, _, isContract⟩
    rw [unchanged item (isOrder.mem_iff.mpr isInside) named] at isContract
    rcases bind_eq_ok.mp isContract with ⟨version, isVersion, _⟩
    exact upgrader.library.parseSemantic_empty version (mapError_eq_ok.mp isVersion)
  · rcases isItem item (isOrder.mem_iff.mp isInside) with ⟨found, isFound, isContract⟩
    have same : found = provider :=
      Keyed.eq_of_key_eq (Keyed.find?_eq_some.mp isFound).1 isProvider ((Keyed.find?_eq_some.mp isFound).2.trans named)
    rw [same] at isContract
    exact supports_of_getProviderContractByVersion isContract

end

variable {plans : List UpgradePlan} {info : UpgradeInfo}

theorem Upgrader.plan_spec (isOk : upgrader.plan = .ok plans) (offered : plan ∈ plans) :
    ∃ inventory coreProvider info, upgrader.inventory = .ok inventory ∧ getCoreProvider inventory = .ok coreProvider ∧
      upgrader.getUpgradeInfo coreProvider = .ok info ∧ upgrader.getUpgradePlan inventory.list plan.contract = .ok plan ∧
        ¬ (plan.isPartialUpgrade ∧ info.currentContract ≠ plan.contract) := by
  unfold Upgrader.plan at isOk
  rcases bind_eq_ok.mp isOk with ⟨inventory, listed, isOk⟩
  rcases bind_eq_ok.mp isOk with ⟨coreProvider, isCore, isOk⟩
  rcases bind_eq_ok.mp isOk with ⟨info, isInfo, isOk⟩
  rcases bind_eq_ok.mp isOk with ⟨_, isAll, isOk⟩
  cases isOk
  rcases mem_filter.mp offered with ⟨inside, isWhole⟩
  rcases (mem_of_mapM isAll).2 plan inside with ⟨contract, _, isPlan⟩
  obtain rfl := (getUpgradePlan_paired isPlan).1
  exact ⟨inventory, coreProvider, info, listed, isCore, isInfo, isPlan, of_decide_eq_true isWhole⟩

/-- A plan that changes the contract is only offered if it keeps the providers together. -/
theorem Upgrader.plan_changesContract {coreProvider : Provider} (isOk : upgrader.plan = .ok plans)
    (listed : upgrader.inventory = .ok inventory) (isCore : getCoreProvider inventory = .ok coreProvider)
    (isInfo : upgrader.getUpgradeInfo coreProvider = .ok info) (offered : plan ∈ plans)
    (changes : info.currentContract ≠ plan.contract) : upgrader.Consistent inventory plan := by
  rcases plan_spec isOk offered with ⟨_, _, _, listed', isCore', isInfo', isPlan, isWhole⟩
  cases listed.symm.trans listed'
  cases isCore.symm.trans isCore'
  cases isInfo.symm.trans isInfo'
  apply (consistent_getUpgradePlan isPlan).mpr
  intro provider isProvider
  rcases (getUpgradePlan_spec isPlan).2 provider isProvider with ⟨found, isFound, ⟨item, isItem, named⟩, next⟩
  cases latest : found.getLatestNextVersion upgrader.library plan.contract with
  | some => exact .inr (latest_supports isFound latest).1
  | none =>
    have isPartial : plan.isPartialUpgrade = true := by
      refine any_eq_true.mpr ⟨item, isItem, decide_eq_true ?_⟩
      rw [next item isItem named, latest]
      rfl
    exact absurd ⟨isPartial, changes⟩ isWhole

/-- The text is the tag of the greatest version that is offered, and empty if none is. -/
def Upgrader.Best (upgrader : Upgrader) (contract : String) (provider : Provider) (next : String) : Prop :=
  next = "" ∧ (∀ version, ¬ upgrader.Offers contract provider version) ∨
    ∃ best, next = "v" ++ upgrader.library.toText best ∧ upgrader.Offers contract provider best ∧
      ∀ version, upgrader.Offers contract provider version → upgrader.library.lessThan best version = false

theorem Upgrader.best_latest (ordered : upgrader.library.Ordered) {provider : Provider}
    (isInfo : upgrader.getUpgradeInfo provider = .ok info) :
    upgrader.Best contract provider
      (upgrader.library.versionTag (info.getLatestNextVersion upgrader.library contract)) := by
  cases isLatest : info.getLatestNextVersion upgrader.library contract with
  | none =>
    refine .inl ⟨rfl, fun version => ?_⟩
    rw [offers_iff isInfo, UpgradeInfo.candidates_eq_nil isLatest]
    exact not_mem_nil
  | some best =>
    have isBest := (offers_iff isInfo).mpr (UpgradeInfo.latest_mem_candidates isLatest)
    refine .inr ⟨best, rfl, isBest, fun version offers => ?_⟩
    rw [info.getLatestNextVersion_eq contract] at isLatest
    refine ordered.foldl_later (fun other inside => ?_) isLatest version (.inr ((offers_iff isInfo).mp offers))
    exact ((offers_iff isInfo).mpr (inside.resolve_left nofun)).released

/-- Every plan has every provider of the inventory once, with its best version, and all of them have one if the plan
changes the contract. -/
theorem Upgrader.plan_best (upgrader : Upgrader) (ordered : upgrader.library.Ordered) (plans : List UpgradePlan)
    (isOk : upgrader.plan = .ok plans) (plan : UpgradePlan) (offered : plan ∈ plans) :
    ∃ inventory coreProvider info, upgrader.inventory = .ok inventory ∧ getCoreProvider inventory =
      .ok coreProvider ∧ upgrader.getUpgradeInfo coreProvider = .ok info ∧
        plan.providers.map UpgradeItem.provider = inventory.list ∧
          (∀ item ∈ plan.providers, upgrader.Best plan.contract item.provider item.nextVersion) ∧
            (info.currentContract ≠ plan.contract → ∀ item ∈ plan.providers, item.nextVersion ≠ "") := by
  rcases plan_spec isOk offered with ⟨inventory, coreProvider, info, listed, isCore, isInfo, isPlan, isWhole⟩
  have paired := (getUpgradePlan_paired isPlan).2
  refine ⟨inventory, coreProvider, info, listed, isCore, isInfo, ?_, fun item isItem => ?_, fun changes item isItem => ?_⟩
  · have same : Forall₂ (fun item provider => item.provider = provider) plan.providers inventory.list :=
      paired.flip.imp fun item provider ⟨_, _, isItem⟩ => congrArg UpgradeItem.provider isItem
    exact forall₂_eq_eq_eq ▸ forall₂_map_left_iff.mpr same
  · rcases exists_of_mem_paired paired isItem with ⟨_, _, _, isFound, rfl⟩
    exact best_latest ordered isFound
  · intro isEmpty
    exact isWhole ⟨any_eq_true.mpr ⟨item, isItem, decide_eq_true isEmpty⟩, changes⟩

/-- A plan that is handed over keeps the providers together exactly if all providers can follow. -/
theorem handedPlan_consistent_iff (upgrader : Upgrader) (inventory : Inventory)
    (listed : upgrader.inventory = .ok inventory) (request : Request) (plan : UpgradePlan)
    (handed : upgrader.handedPlan request = .ok plan) :
    upgrader.Consistent inventory plan ↔ upgrader.CanFollow inventory request := by
  cases request with
  | contract =>
    rcases bind_eq_ok.mp handed with ⟨_, _, isPlan⟩
    rw [listed] at isPlan
    rcases bind_eq_ok.mp isPlan with ⟨_, isInventory, isPlan⟩
    cases isInventory
    exact Upgrader.consistent_getUpgradePlan isPlan
  | custom =>
    constructor
    · exact fun _ => trivial
    · exact fun _ => Upgrader.consistent_createCustomPlan listed handed

end

/-! ## Two management clusters -/

def precedes (first second : Version) : Bool :=
  first.major < second.major ∨ first.major = second.major ∧
    (first.minor < second.minor ∨ first.minor = second.minor ∧ first.patch < second.patch)

def numbers (version : Version) : String :=
  toString version.major ++ "." ++ toString version.minor ++ "." ++ toString version.patch

def knows (releases : List Version) : VersionLibrary where
  parseSemantic text :=
    match releases.find? fun version => "v" ++ numbers version = text with
    | none => .error ("could not parse " ++ quote text ++ " as version")
    | some version => .ok version
  toText := numbers
  lessThan := precedes
  sort versions := versions.insertionSort fun first second => precedes second first = false
  parseSemantic_tag text version isVersion := by
    split at isVersion
    · cases isVersion
    · rename_i found isFound
      cases isVersion
      have isText := List.find?_some isFound
      rw [decide_eq_true_eq] at isText
      rw [isText, isFound]
  parseSemantic_empty version isVersion := by
    split at isVersion
    · cases isVersion
    · rename_i found isFound
      have isEmpty := List.find?_some isFound
      rw [decide_eq_true_eq, String.append_eq_empty_iff] at isEmpty
      exact absurd isEmpty.1 (by decide)
  sort_perm _ := List.perm_insertionSort _ _

def twoProviders : Inventory where
  list := [⟨"capi-system", "cluster-api", .core, "v0.4.0"⟩, ⟨"capa-system", "aws", .infrastructure, "v0.7.0"⟩]
  distinct := by decide

def managementCluster (versions : List String) : Upgrader where
  library := knows [⟨0, 4, 0, "", ""⟩, ⟨1, 0, 0, "", ""⟩, ⟨0, 7, 0, "", ""⟩, ⟨1, 1, 0, "", ""⟩]
  inventory := .ok twoProviders
  repository
    | _, .core => .ok
        { versions := .ok ["v0.4.0", "v1.0.0"]
          metadata := fun _ => .ok ⟨[⟨0, 4, "v1alpha4"⟩, ⟨1, 0, "v1beta1"⟩], by decide⟩ }
    | _, _ => .ok
        { versions := .ok versions
          metadata := fun _ => .ok ⟨[⟨0, 7, "v1alpha4"⟩, ⟨1, 1, "v1beta1"⟩], by decide⟩ }

/-- Both providers change the contract. -/
theorem handedPlan_consistent_both :
    ∃ plan, (managementCluster ["v0.7.0", "v1.1.0"]).handedPlan (.contract "v1beta1") = .ok plan ∧
      (managementCluster ["v0.7.0", "v1.1.0"]).Consistent twoProviders plan := by
  refine ⟨_, rfl, (handedPlan_consistent_iff _ twoProviders rfl (.contract "v1beta1") _ rfl).mpr ?_⟩
  intro _ inside
  right
  rcases mem_cons.mp inside with rfl | inside
  · exact ⟨_, _, _, rfl, rfl, ("v1.0.0", ⟨1, 0, 0, "", ""⟩), by decide, rfl, ⟨1, 0, "v1beta1"⟩, by decide, rfl, rfl⟩
  · rw [mem_singleton.mp inside]
    exact ⟨_, _, _, rfl, rfl, ("v1.1.0", ⟨1, 1, 0, "", ""⟩), by decide, rfl, ⟨1, 1, "v1beta1"⟩, by decide, rfl, rfl⟩

/-- The plan for the old contract has no versions, and the one for the new contract has both. -/
theorem plan_best_both :
    let upgrader := managementCluster ["v0.7.0", "v1.1.0"]
    ∃ plans, upgrader.plan = .ok plans ∧
      plans.map (fun plan => plan.providers.map UpgradeItem.nextVersion) = [["", ""], ["v1.0.0", "v1.1.0"]] ∧
      ∀ plan ∈ plans, plan.providers.map UpgradeItem.provider = twoProviders.list ∧
        ∀ item ∈ plan.providers, upgrader.Best plan.contract item.provider item.nextVersion := by
  refine ⟨_, rfl, by decide +kernel, fun plan offered => ?_⟩
  have ordered : (managementCluster ["v0.7.0", "v1.1.0"]).library.Ordered := by
    constructor
    all_goals simp only [managementCluster, knows, precedes, decide_eq_true_eq, decide_eq_false_iff_not]
    all_goals omega
  rcases Upgrader.plan_best _ ordered _ rfl plan offered with ⟨_, _, _, listed, _, _, providers, best, _⟩
  cases listed
  exact ⟨providers, best⟩

theorem plan_changesContract_both :
    ∃ plans, (managementCluster ["v0.7.0", "v1.1.0"]).plan = .ok plans ∧
      ∃ plan ∈ plans, plan.contract = "v1beta1" ∧
        (managementCluster ["v0.7.0", "v1.1.0"]).Consistent twoProviders plan := by
  refine ⟨_, rfl, _, mem_cons_of_mem _ mem_cons_self, rfl, ?_⟩
  exact Upgrader.plan_changesContract rfl rfl rfl rfl (mem_cons_of_mem _ mem_cons_self) (by decide)

/-- The infrastructure provider has no release of the new contract and is left behind.  `plan` does not offer this. -/
theorem applyPlan_leaves_behind :
    (filterCore twoProviders).length = 1 ∧
      ∃ plan plans, (managementCluster ["v0.7.0"]).applyPlan "v1beta1" = .ok plan ∧
        (managementCluster ["v0.7.0"]).plan = .ok plans ∧ plan ∉ plans ∧
          ¬ (managementCluster ["v0.7.0"]).Consistent twoProviders plan := by
  refine ⟨rfl, _, _, rfl, rfl, by decide, ?_⟩
  intro consistent
  have behind : (managementCluster ["v0.7.0"]).Supports "v1beta1"
      ⟨"capa-system", "aws", .infrastructure, "v0.7.0"⟩ := by
    apply consistent _ (List.Perm.refl _)
    apply mem_doUpgrade_of_unchanged
    · exact mem_cons_of_mem _ mem_cons_self
    · decide
  rcases behind with ⟨_, _, _, _, isLatest, isVersion, isSeries, supports⟩
  cases isLatest
  cases isVersion
  cases isSeries
  exact absurd supports (by decide)

end ClusterApi.Clusterctl.UpgradePlans
