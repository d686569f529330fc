import Enrolment.Json.Record
/-!
Work to be done later. A queue records single jobs and chains of jobs in the order they came; a
chain is one entry, whose jobs run one after another.
-/
namespace Enrolment

inductive Job where
  | directoryRefresh
  | rotateSenderCertificate
  | scheduleSignedPreKeyRotation
  | scheduleDirectoryRefresh
  | refreshAttributes
  | storageSync
  deriving DecidableEq, Inhabited, Repr

namespace Job

def all : List Job :=
  [directoryRefresh, rotateSenderCertificate, scheduleSignedPreKeyRotation, scheduleDirectoryRefresh,
    refreshAttributes, storageSync]

def name : Job → String
  | directoryRefresh => "directory_refresh"
  | rotateSenderCertificate => "rotate_sender_certificate"
  | scheduleSignedPreKeyRotation => "schedule_signed_pre_key_rotation"
  | scheduleDirectoryRefresh => "schedule_directory_refresh"
  | refreshAttributes => "refresh_attributes"
  | storageSync => "storage_sync"

def toJson (j : Job) : Json := .str j.name

def ofJson? : Json → Option Job := Json.asVariant? (all.map fun j => (j.name, j))

end Job

structure JobSpec where
  job : Job
  maxAttempts : UInt32
  /-- In milliseconds. -/
  retryInterval : Nat
  deriving DecidableEq, Inhabited

/-- The usual policy: ten attempts, half a minute apart. -/
def Job.spec (job : Job) : JobSpec := ⟨job, 10, 30000⟩

inductive QueueEntry where
  | single (spec : JobSpec)
  | chain (specs : List JobSpec)
  deriving DecidableEq, Inhabited

namespace QueueEntry

def specs : QueueEntry → List JobSpec
  | single spec => [spec]
  | chain specs => specs

def jobs (e : QueueEntry) : List Job := e.specs.map (·.job)

def map (f : JobSpec → JobSpec) : QueueEntry → QueueEntry
  | single spec => single (f spec)
  | chain specs => chain (specs.map f)

end QueueEntry

abbrev JobQueue := List QueueEntry

namespace JobQueue

def enqueue (q : JobQueue) (spec : JobSpec) : JobQueue := q ++ [.single spec]

/-- A chain without jobs is no entry. -/
def enqueueChain (q : JobQueue) (specs : List JobSpec) : JobQueue :=
  if specs.isEmpty then q else q ++ [.chain specs]

def update (q : JobQueue) (f : JobSpec → JobSpec) : JobQueue := q.map (QueueEntry.map f)

def specs (q : JobQueue) : List JobSpec := q.flatMap QueueEntry.specs

def chains (q : JobQueue) : List (List Job) :=
  q.filterMap fun
    | .chain specs => some (specs.map (·.job))
    | .single _ => none

def countOf (q : JobQueue) (job : Job) : Nat := (q.specs.filter (·.job = job)).length

end JobQueue
end Enrolment
