import Enrolment.Client.Installation
import Enrolment.Proofs.Plan.Trace
/-!
What was asked of a client's surroundings, and what they answered. The journal of a run is all that
the account service saw of it.
-/
namespace Enrolment.Client

abbrev Journal := List (Plan.Exchange effects)

structure Upload where
  content : Service.PreKeyUpload
  accepted : Bool
  deriving DecidableEq, Inhabited

def lastAccepted? (uploads : List Upload) : Option Service.PreKeyUpload :=
  (uploads.filter (·.accepted)).getLast?.map (·.content)

theorem lastAccepted?_append (uploads : List Upload) (content : Service.PreKeyUpload) :
    lastAccepted? (uploads ++ [⟨content, true⟩]) = some content := by
  simp [lastAccepted?]

namespace Journal

def upload? (space : Namespace) : Plan.Exchange effects → Option Upload
  | ⟨.service (.publish target content _), answer⟩ =>
    if target = space then some ⟨content, answer.toOption.isSome⟩ else none
  | _ => none

def uploads (j : Journal) (space : Namespace) : List Upload := j.filterMap (upload? space)

def drawn? : Plan.Exchange effects → Option PreKeyId
  | ⟨.keys .preKeyId, .ok id⟩ => some id
  | _ => none

def drawn (j : Journal) : List PreKeyId := j.filterMap drawn?

theorem uploads_append (j k : Journal) (space : Namespace) : uploads (j ++ k) space = j.uploads space ++ k.uploads space :=
  List.filterMap_append

theorem drawn_append (j k : Journal) : drawn (j ++ k) = j.drawn ++ k.drawn := List.filterMap_append

theorem uploads_singleton (exchange : Plan.Exchange effects) (space : Namespace) :
    uploads [exchange] space = (upload? space exchange).toList := by
  rw [uploads, List.filterMap_cons, List.filterMap_nil]
  cases upload? space exchange <;> rfl

theorem drawn_singleton (exchange : Plan.Exchange effects) : drawn [exchange] = (drawn? exchange).toList := by
  rw [drawn, List.filterMap_cons, List.filterMap_nil]
  cases drawn? exchange <;> rfl

def chain? : Plan.Exchange effects → Option (List JobSpec)
  | ⟨.enqueueChain jobs, _⟩ => some jobs
  | _ => none

def chains (j : Journal) : List (List JobSpec) := j.filterMap chain?

theorem chains_append (j k : Journal) : chains (j ++ k) = j.chains ++ k.chains := List.filterMap_append

/-! ## What was stored -/

open Store

/-- What contents in memory become when everything that the journal tells of is done to them. -/
def replay (m : Memory) (j : Journal) : Memory :=
  j.foldl (fun m exchange => match exchange.1 with
    | .store op => (m.perform op).2
    | _ => m) m

theorem replay_append (m : Memory) (j k : Journal) : replay m (j ++ k) = replay (replay m j) k := List.foldl_append

end Journal

namespace Installation

variable {κ σ ε α : Type}

def journal (c : Installation κ σ) (t : Thread) (a : Activity ε α) : Journal := Plan.trace (handle t) a.run c

end Installation
end Enrolment.Client
