import ClusterApi.ClusterResourceSet.Apply

namespace ClusterApi.ClusterResourceSet

open List

/-!
# From a Cluster to its ClusterResourceSets

An event of a Cluster is mapped to the ClusterResourceSets that select it.  A
selector that is invalid or empty selects nothing; but the mapper then drops
the requests for all other ClusterResourceSets as well.  And it makes requests
for a Cluster that is being deleted, which is never selected.

The conversion of a label selector is a parameter.  Its result is a list of
requirements.
-/

structure LabelledCluster (Labels : Type) extends Cluster where
  «namespace» : String := "default"
  labels : Labels
  deriving DecidableEq

structure Request where
  «namespace» : String
  name : String

def Crs.request (crs : Crs) : Request := ⟨crs.namespace, crs.name⟩

section Mapper

variable {Labels : Type} (asSelector : Crs → Except String (List (Labels → Bool)))

def getClustersByClusterResourceSetSelector (clusters : List (LabelledCluster Labels)) (crs : Crs) :
    Except String (List (LabelledCluster Labels)) :=
  match asSelector crs with
  | .error error => .error (wrap "unable to convert selector" error)
  | .ok selector =>
    if selector.isEmpty then .ok []
    else
      let clusterList := clusters.filter fun cluster =>
        cluster.namespace = crs.namespace && selector.all fun requirement => requirement cluster.labels
      .ok (clusterList.filter fun cluster => !cluster.deleting)

def mapperLoop (cluster : LabelledCluster Labels) : List Request → List Crs → List Request
  | result, [] => result
  | result, rs :: rest =>
    match asSelector rs with
    | .error _ => []
    | .ok selector =>
      if selector.isEmpty then []
      else if !(selector.all fun requirement => requirement cluster.labels) then mapperLoop cluster result rest
      else mapperLoop cluster (result ++ [rs.request]) rest

def clusterToClusterResourceSet (resourceList : Except String (List Crs))
    (cluster : LabelledCluster Labels) : List Request :=
  match resourceList with
  | .error _ => []
  | .ok items => mapperLoop asSelector cluster [] (items.filter fun rs => rs.namespace = cluster.namespace)

/-! ## Both directions -/

/-- The selector is valid and not empty. -/
def Usable (crs : Crs) : Bool :=
  match asSelector crs with
  | .error _ => false
  | .ok selector => !selector.isEmpty

def SelectorMatches (cluster : LabelledCluster Labels) (crs : Crs) : Bool :=
  match asSelector crs with
  | .error _ => false
  | .ok selector => !selector.isEmpty && selector.all fun requirement => requirement cluster.labels

variable {asSelector}

theorem mapperLoop_eq (cluster : LabelledCluster Labels) (result : List Request)
    (items : List Crs) : mapperLoop asSelector cluster result items =
      if items.all (Usable asSelector) then
        result ++ (items.filter (SelectorMatches asSelector cluster)).map Crs.request
      else [] := by
  induction items generalizing result with
  | nil => simp [mapperLoop]
  | cons rs rest ih =>
    cases converted : asSelector rs with
    | error => simp [mapperLoop, Usable, converted]
    | ok selector =>
      by_cases isEmpty : selector = []
      · simp [mapperLoop, Usable, converted, isEmpty]
      · cases hit : selector.all fun requirement => requirement cluster.labels <;>
          simp [mapperLoop, Usable, SelectorMatches, converted, isEmpty, hit, ih]

variable [DecidableEq Labels] {clusters : List (LabelledCluster Labels)} {cluster : LabelledCluster Labels}

def Selects (asSelector : Crs → Except String (List (Labels → Bool)))
    (clusters : List (LabelledCluster Labels)) (cluster : LabelledCluster Labels) (crs : Crs) : Bool :=
  match getClustersByClusterResourceSetSelector asSelector clusters crs with
  | .error _ => false
  | .ok selected => cluster ∈ selected

theorem selects_eq (present : cluster ∈ clusters) {crs : Crs}
    (sameNamespace : crs.namespace = cluster.namespace) : Selects asSelector clusters cluster crs =
      (!cluster.deleting && SelectorMatches asSelector cluster crs) := by
  simp only [Selects, getClustersByClusterResourceSetSelector, SelectorMatches]
  cases asSelector crs with
  | error => simp
  | ok selector =>
    cases selector with
    | nil => simp
    | cons =>
      rw [Bool.eq_iff_iff]
      simp [present, sameNamespace]

/-- There is one request for each ClusterResourceSet that selects the Cluster, and no other request. -/
def MissesNone (asSelector : Crs → Except String (List (Labels → Bool)))
    (clusters : List (LabelledCluster Labels)) (items : List Crs) (cluster : LabelledCluster Labels) : Prop :=
  (clusterToClusterResourceSet asSelector (.ok items) cluster).Perm
    ((items.filter (Selects asSelector clusters cluster)).map Crs.request)

/-- The mapper is right if no selector matches, or if all are usable just when the Cluster is not being deleted. -/
theorem missesNone_iff (items : List Crs) (present : cluster ∈ clusters)
    (inNamespace : ∀ crs ∈ items, crs.namespace = cluster.namespace) :
    MissesNone asSelector clusters items cluster ↔
      (∀ crs ∈ items, SelectorMatches asSelector cluster crs = false) ∨
        ((∀ crs ∈ items, Usable asSelector crs = true) ↔ cluster.deleting = false) := by
  have listed : (items.filter fun rs => rs.namespace = cluster.namespace) = items := by
    simpa [filter_eq_self] using inNamespace
  have selected : items.filter (Selects asSelector clusters cluster) =
      items.filter fun crs => !cluster.deleting && SelectorMatches asSelector cluster crs :=
    filter_congr fun crs member => selects_eq present (inNamespace crs member)
  have noneMatches : items.filter (SelectorMatches asSelector cluster) = [] ↔
      ∀ crs ∈ items, SelectorMatches asSelector cluster crs = false := by
    simp [filter_eq_nil_iff]
  rw [← noneMatches, MissesNone, clusterToClusterResourceSet, listed, selected, mapperLoop_eq, ← all_eq_true]
  cases items.all (Usable asSelector) <;> cases cluster.deleting <;>
    simp [nil_perm, perm_nil]

end Mapper

def byLabel (crs : Crs) : Except String (List (String → Bool)) :=
  if crs.name = "broken" then .error "invalid operator" else .ok [fun label => label = crs.uid]

def labelledCluster : LabelledCluster String := { name := "workload", labels := "production" }

def cniSet : Crs := { name := "cni", uid := "production", resources := [] }

theorem usableSelectors_missNone : MissesNone byLabel [labelledCluster] [cniSet] labelledCluster :=
  (missesNone_iff [cniSet] (by decide) (by decide)).mpr (.inr (by decide))

/-- A ClusterResourceSet with an invalid selector hides another one. -/
theorem invalidSelector_hides :
    Selects byLabel [labelledCluster] labelledCluster cniSet = true ∧
      clusterToClusterResourceSet byLabel (.ok [cniSet, { cniSet with name := "broken" }]) labelledCluster = [] := by
  decide

end ClusterApi.ClusterResourceSet
