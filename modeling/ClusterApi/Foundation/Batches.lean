import Mathlib.Data.List.Basic

namespace ClusterApi.Foundation

/-!
# Batches of retried jobs

A script is a list of batches, and a batch is a list of jobs that are done
one after the other.  A job is tried a bounded number of times.  When all
its tries fail, the script either stops, or goes on with the rest of the
batch and stops at its end.

The script is taken try by try, so that a run may end anywhere.  What a job
does to the data, and whether it succeeds, is a parameter.
-/

universe u v w

namespace Batches

open List

structure Batch (Job : Type u) where
  jobs : List Job
  /-- The first job that fails stops the script. -/
  failFast : Bool

/-- How far a script has come. -/
structure Progress (Job : Type u) (Data : Type v) where
  data : Data
  /-- The rest of the current batch, and the batches after it. -/
  remaining : List (Batch Job)
  /-- The jobs that have succeeded. -/
  finished : List Job := []
  tries : Nat := 0
  /-- A job of the current batch has failed. -/
  collected : Bool := false
  stopped : Bool := false

inductive Event (Calls : Type w)
  /-- Try the next job. -/
  | attempt (calls : Calls)
  /-- End a batch that has no job left. -/
  | endBatch

variable {Job : Type u} {Data : Type v} {Calls : Type w}

/-- Begin a script. -/
def start (script : List (Batch Job)) (data : Data) : Progress Job Data := { data := data, remaining := script }

/-- Whether the script has come to its end without an error. -/
def Progress.succeeded (progress : Progress Job Data) : Bool := progress.remaining.isEmpty && !progress.stopped

/-- What follows a try of the current job. -/
def afterTry (limit : Nat) (progress : Progress Job Data) (job : Job) (jobs : List Job)
    (failFast : Bool) (rest : List (Batch Job)) : Data × Bool → Progress Job Data
  | (data, true) =>
    { progress with data, remaining := ⟨jobs, failFast⟩ :: rest, finished := job :: progress.finished, tries := 0 }
  | (data, false) =>
    if progress.tries + 1 < limit then { progress with data, tries := progress.tries + 1 }
    else if failFast then { progress with data, stopped := true }
    else { progress with data, remaining := ⟨jobs, failFast⟩ :: rest, tries := 0, collected := true }

def step (perform : Job → Calls → Data → Data × Bool) (limit : Nat) (progress : Progress Job Data) :
    Event Calls → Option (Progress Job Data)
  | .attempt calls =>
    match progress.stopped, progress.remaining with
    | false, ⟨job :: jobs, failFast⟩ :: rest =>
      some (afterTry limit progress job jobs failFast rest (perform job calls progress.data))
    | _, _ => none
  | .endBatch =>
    match progress.stopped, progress.remaining with
    | false, ⟨[], _⟩ :: rest =>
      if progress.collected then some { progress with stopped := true } else some { progress with remaining := rest }
    | _, _ => none

/-- The job that the next try is about. -/
def Progress.current (progress : Progress Job Data) : Option Job :=
  match progress.stopped, progress.remaining with
  | false, ⟨job :: _, _⟩ :: _ => some job
  | _, _ => none

def Current (progress : Progress Job Data) (job : Job) : Prop :=
  progress.stopped = false ∧ ∃ jobs failFast rest, progress.remaining = ⟨job :: jobs, failFast⟩ :: rest

theorem Current.current_eq {progress : Progress Job Data} {job : Job}
    (current : Current progress job) : progress.current = some job := by
  rcases current with ⟨running, _, _, _, remaining⟩
  rw [Progress.current, running, remaining]

/-! ## What a step does -/

/-- A step tries the current job, or leaves the data and the finished jobs alone. -/
inductive Stepped (perform : Job → Calls → Data → Data × Bool) (progress : Progress Job Data)
    (event : Event Calls) (next : Progress Job Data) : Prop
  | tried (job : Job) (calls : Calls) (isAttempt : event = .attempt calls)
      (current : Current progress job) (data : next.data = (perform job calls progress.data).1)
      (finished : next.finished = progress.finished ∨
        next.finished = job :: progress.finished ∧ (perform job calls progress.data).2 = true)
  | idle (data : next.data = progress.data) (finished : next.finished = progress.finished)

variable {perform : Job → Calls → Data → Data × Bool} {limit : Nat} {progress next : Progress Job Data}

theorem step_attempt {calls : Calls} (taken : step perform limit progress (.attempt calls) = some next) :
    ∃ job jobs failFast rest, progress.stopped = false ∧
      progress.remaining = ⟨job :: jobs, failFast⟩ :: rest ∧
      next = afterTry limit progress job jobs failFast rest (perform job calls progress.data) := by
  simp only [step] at taken
  split at taken
  · next job jobs failFast rest stopped remaining =>
    exact ⟨job, jobs, failFast, rest, stopped, remaining, (Option.some.inj taken).symm⟩
  · cases taken

theorem afterTry_effect (job : Job) (jobs : List Job) (failFast : Bool) (rest : List (Batch Job))
    (result : Data × Bool) :
    (afterTry limit progress job jobs failFast rest result).data = result.1 ∧
      ((afterTry limit progress job jobs failFast rest result).finished = progress.finished ∨
        (afterTry limit progress job jobs failFast rest result).finished =
          job :: progress.finished ∧ result.2 = true) := by
  rcases result with ⟨_, succeeds⟩
  cases succeeds with
  | true => exact ⟨rfl, .inr ⟨rfl, rfl⟩⟩
  | false =>
    simp only [afterTry]
    split
    · exact ⟨rfl, .inl rfl⟩
    · split <;> exact ⟨rfl, .inl rfl⟩

theorem step_endBatch (taken : step perform limit progress .endBatch = some next) :
    ∃ failFast rest, progress.remaining = ⟨[], failFast⟩ :: rest ∧
      (progress.collected = true ∧ next = { progress with stopped := true } ∨
        progress.collected = false ∧ next = { progress with remaining := rest }) := by
  simp only [step] at taken
  split at taken
  · next failFast rest stopped remaining =>
    refine ⟨failFast, rest, remaining, ?_⟩
    split at taken
    · next collected => exact .inl ⟨collected, (Option.some.inj taken).symm⟩
    · next clean => exact .inr ⟨by simpa using clean, (Option.some.inj taken).symm⟩
  · cases taken

theorem stepped_of_step {event : Event Calls} (taken : step perform limit progress event = some next) :
    Stepped perform progress event next := by
  cases event with
  | attempt calls =>
    rcases step_attempt taken with ⟨job, jobs, failFast, rest, running, remaining, rfl⟩
    rcases afterTry_effect job jobs failFast rest _ with ⟨data, finished⟩
    exact .tried job calls rfl ⟨running, jobs, failFast, rest, remaining⟩ data finished
  | endBatch =>
    rcases step_endBatch taken with ⟨_, _, _, ⟨_, rfl⟩ | ⟨_, rfl⟩⟩
    · exact .idle rfl rfl
    · exact .idle rfl rfl

/-! ## What has been done when a job is reached -/

/-- The script has been followed: the batches before the current one are
finished, and so is the first part of the current one, unless a job of it has failed.
Nothing that comes later is finished. -/
def Follows (script : List (Batch Job)) (progress : Progress Job Data) : Prop :=
  ∃ before, (∀ batch ∈ before, ∀ job ∈ batch.jobs, job ∈ progress.finished) ∧
    match progress.remaining with
    | [] => script = before
    | current :: rest => ∃ front, script = before ++ ⟨front ++ current.jobs, current.failFast⟩ :: rest ∧
        (progress.collected = false → ∀ job ∈ front, job ∈ progress.finished) ∧
        ∀ job ∈ progress.finished, job ∈ before.flatMap Batch.jobs ++ front

theorem follows_start (script : List (Batch Job)) (data : Data) : Follows script (start script data) := by
  refine ⟨[], by simp, ?_⟩
  cases script with
  | nil => rfl
  | cons => exact ⟨[], by simp, by simp, by simp [start]⟩

variable {script : List (Batch Job)} {job : Job}

section

variable (follows : Follows script progress)
include follows

theorem Follows.of_same (remaining : next.remaining = progress.remaining) (finished : next.finished = progress.finished)
    (collected : next.collected = progress.collected) : Follows script next := by
  unfold Follows
  rw [remaining, finished, collected]
  exact follows

theorem Follows.step {event : Event Calls} (taken : step perform limit progress event = some next) :
    Follows script next := by
  rcases follows with ⟨before, done, position⟩
  cases event with
  | attempt calls =>
    rcases step_attempt taken with ⟨job, jobs, failFast, rest, _, remaining, rfl⟩
    rw [remaining] at position
    rcases position with ⟨front, script_eq, clean, passed⟩
    have advanced : script = before ++ ⟨front ++ [job] ++ jobs, failFast⟩ :: rest := by
      rw [script_eq, append_assoc, singleton_append]
    rcases perform job calls progress.data with ⟨_, succeeds⟩
    cases succeeds with
    | true =>
      refine ⟨before, fun batch batchMember other member => ?_, front ++ [job], advanced, ?_, ?_⟩
      · exact mem_cons_of_mem _ (done batch batchMember other member)
      · intro collected other member
        rcases mem_append.mp member with old | last
        · exact mem_cons_of_mem _ (clean collected other old)
        · rw [mem_singleton.mp last]
          exact mem_cons_self
      · intro other member
        rw [← append_assoc]
        rcases mem_cons.mp member with rfl | old
        · exact mem_append_right _ mem_cons_self
        · exact mem_append_left _ (passed other old)
    | false =>
      have here : Follows script progress := by
        refine ⟨before, done, ?_⟩
        rw [remaining]
        exact ⟨front, script_eq, clean, passed⟩
      simp only [afterTry]
      split
      · exact here.of_same rfl rfl rfl
      · split
        · exact here.of_same rfl rfl rfl
        · refine ⟨before, done, front ++ [job], advanced, fun collected => absurd collected (by simp), ?_⟩
          intro other member
          rw [← append_assoc]
          exact mem_append_left _ (passed other member)
  | endBatch =>
    rcases step_endBatch taken with ⟨failFast, _, remaining, ⟨_, rfl⟩ | ⟨collected, rfl⟩⟩
    · exact ⟨before, done, position⟩
    · rw [remaining] at position
      rcases position with ⟨front, script_eq, clean, passed⟩
      rw [append_nil] at script_eq
      refine ⟨before ++ [⟨front, failFast⟩], fun batch batchMember job member => ?_, ?_⟩
      · rcases mem_append.mp batchMember with old | last
        · exact done batch old job member
        · rw [mem_singleton.mp last] at member
          exact clean collected job member
      · dsimp only
        split
        · exact script_eq
        · refine ⟨[], by rw [script_eq]; simp, by simp, fun job member => ?_⟩
          simpa using passed job member

theorem Follows.current_mem (current : Current progress job) : ∃ batch ∈ script, job ∈ batch.jobs := by
  rcases follows with ⟨_, _, position⟩
  rcases current with ⟨_, _, _, _, remaining⟩
  rw [remaining] at position
  rcases position with ⟨_, script_eq, _⟩
  exact ⟨_, script_eq ▸ mem_append_right _ mem_cons_self, by simp⟩

/-- A job that stands in the script only once is not finished when its turn comes. -/
theorem Follows.current_not_finished (current : Current progress job)
    (once : (script.flatMap Batch.jobs).Pairwise fun earlier later => earlier = job → later ≠ job) :
    job ∉ progress.finished := by
  intro finished
  rcases follows with ⟨before, _, position⟩
  rcases current with ⟨_, _, _, _, remaining⟩
  rw [remaining] at position
  rcases position with ⟨front, rfl, _, passed⟩
  rw [flatMap_append, flatMap_cons, append_assoc, ← append_assoc, pairwise_append] at once
  exact once.2.2 job (passed job finished) job (by simp) rfl rfl

end

theorem Follows.finished_before {earlier later : List (Batch Job)} (follows : Follows (earlier ++ later) progress)
    (current : Current progress job) (notEarlier : ∀ batch ∈ earlier, job ∉ batch.jobs) :
    ∀ batch ∈ earlier, ∀ other ∈ batch.jobs, other ∈ progress.finished := by
  rcases follows with ⟨_, done, position⟩
  rcases current with ⟨_, _, _, _, remaining⟩
  rw [remaining] at position
  rcases position with ⟨_, script_eq, _⟩
  rcases append_eq_append_iff.mp script_eq with ⟨more, beforeEq, _⟩ | ⟨more, earlierEq, restEq⟩
  · intro batch member
    exact done batch (beforeEq ▸ mem_append_left _ member)
  · cases more with
    | nil =>
      rw [append_nil] at earlierEq
      exact earlierEq ▸ done
    | cons batch =>
      -- The current batch would belong to the first part.
      have same := (cons.inj restEq).1
      have inEarlier : batch ∈ earlier := earlierEq ▸ (by simp)
      refine absurd ?_ (notEarlier batch inEarlier)
      rw [← same]
      simp

end Batches
end ClusterApi.Foundation
