/-
  Sessions: several queries and single questions to the same collaborators,
  with a count of the questions and a record of the events.
-/
import ReadAccess.Query

set_option autoImplicit false

namespace ReadAccess

/-- How often each collaborator was asked. -/
structure Consultation.Counts where
  users : Nat
  groups : Nat
  probes : Nat
  loads : Nat
  deriving DecidableEq, Repr

namespace Consultation.Counts

def zero : Counts := ⟨0, 0, 0, 0⟩

def add (t : Counts) : Consultation → Counts
  | .resolveUser _ => { t with users := t.users + 1 }
  | .probe _ => { t with probes := t.probes + 1 }
  | .loadAcl .. => { t with loads := t.loads + 1 }
  | .resolveGroups .. => { t with groups := t.groups + 1 }

end Consultation.Counts

/-- An event with the query that it belongs to. -/
structure RecordedEvent where
  user : String
  path : Path
  event : Event
  deriving DecidableEq, Repr

/-- What a session has seen so far. -/
structure Session where
  counts : Consultation.Counts
  /-- The events of all queries that were not taken out yet. -/
  recorded : List RecordedEvent
  deriving DecidableEq, Repr

namespace Session

def start : Session := ⟨.zero, []⟩

/-- The session after a query, or a part of one, whose course was `course`. -/
def observe {α : Type} (s : Session) (user : String) (path : Path) (course : Course α) :
    Session :=
  ⟨course.questions.foldl .add s.counts,
    s.recorded ++ course.events.map fun e => ⟨user, path, e⟩⟩

def query (c : Collaborators) (s : Session) (user : String) (path : Path) :
    Course Verdict × Session :=
  let course := Query.run c user path
  (course, s.observe user path course)

/-- A single question in a session. -/
def question (s : Session) (q : Consultation) : Session := { s with counts := s.counts.add q }

def events (s : Session) : List Event := s.recorded.map (·.event)

def takeEvents (s : Session) : Session := { s with recorded := [] }

/-- Several queries, one after the other. -/
def queries (c : Collaborators) (s : Session) :
    List (String × Path) → List (Except Failure Verdict) × Session
  | [] => ([], s)
  | (user, path) :: rest =>
      let (course, next) := query c s user path
      let (endings, last) := queries c next rest
      (course.ending :: endings, last)

end Session

end ReadAccess
