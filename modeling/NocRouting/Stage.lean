import NocRouting.Engine
import NocRouting.Log
import NocRouting.Model.Variable

/-!
# Stages of a run

A run against an engine goes in stages.  In a stage something is posted, noted, or read off an
answer of the engine; it comes with everything that happened in it, step by step, also if it ends
with a fault.

* `Stage.post` and `Stage.solve` tell the engine something, and `Stage.noteAll` notes something.
* `Stage.read` reads the value of a variable.  There is no other way to a value in a stage, so what
  is read in a run is what the run makes use of.
-/

namespace NocRouting

/-- Something that happens in a run. -/
inductive RouteStep where
  /-- The engine is told something. -/
  | posting (p : Posting RoutingVar)
  /-- The value of a variable in the last solution is read. -/
  | reading (v : RoutingVar)
  /-- Something is noted. -/
  | note (n : LogEntry)

namespace RouteStep

def posting? : RouteStep → Option (Posting RoutingVar)
  | posting p => some p
  | _ => none

def note? : RouteStep → Option LogEntry
  | note n => some n
  | _ => none

end RouteStep

/-- A stage of a run: what happened, and what came of it. -/
structure Stage (α : Type) where
  steps : List RouteStep
  /-- The result, or the fault that ended the stage. -/
  outcome : Except Fault α

namespace Stage

variable {α β : Type}

def postings (s : Stage α) : List (Posting RoutingVar) :=
  s.steps.filterMap RouteStep.posting?

def notes (s : Stage α) : List LogEntry :=
  s.steps.filterMap RouteStep.note?

/-- A stage with steps in front of it. -/
def after (steps : List RouteStep) (s : Stage α) : Stage α :=
  ⟨steps ++ s.steps, s.outcome⟩

/-- A stage in which nothing happens. -/
def done (a : α) : Stage α := ⟨[], .ok a⟩

/-- One stage after another. -/
def andThen (s : Stage α) (f : α → Stage β) : Stage β :=
  match s.outcome with
  | .ok a => (f a).after s.steps
  | .error fault => ⟨s.steps, .error fault⟩

instance : Monad Stage where
  pure := done
  bind := andThen

instance : MonadLift (Except Fault) Stage where
  monadLift outcome := ⟨[], outcome⟩

/-- Stages for the items of a list, one after the other. -/
def forEach (f : α → Stage β) : List α → Stage (List β)
  | [] => done []
  | a :: rest => andThen (f a) fun b => andThen (forEach f rest) fun bs => done (b :: bs)

/-- Make postings one after the other, until the engine refuses one. -/
def post (e : Engine RoutingVar) (ps : List (Posting RoutingVar)) : Stage Unit :=
  ⟨(e.take ps).1.map .posting, (e.take ps).2⟩

/-- Have the engine solve what was posted. -/
def solve (e : Engine RoutingVar) (posted : List (Posting RoutingVar)) (q : SearchParameters) :
    Stage (Answer RoutingVar) :=
  ⟨[.posting (.solve q)], e.answer (posted ++ [.solve q])⟩

def noteAll (ns : List LogEntry) : Stage Unit :=
  ⟨ns.map .note, .ok ()⟩

/-- Read the value of a variable in a solution. -/
def read (a : Answer RoutingVar) (v : RoutingVar) : Stage Value :=
  ⟨[.reading v], .ok (a.value v)⟩

/-- Read whether a variable is true in a solution. -/
def readTruth (a : Answer RoutingVar) (v : RoutingVar) : Stage Bool := do
  return (← read a v).isTrue

@[simp] theorem outcome_pure (a : α) : (pure a : Stage α).outcome = .ok a := rfl

theorem bind_of_ok {s : Stage α} {a : α} (h : s.outcome = .ok a) (f : α → Stage β) :
    s >>= f = (f a).after s.steps := by
  show andThen s f = _
  rw [andThen, h]

theorem bind_of_error {s : Stage α} {fault : Fault} (h : s.outcome = .error fault)
    (f : α → Stage β) : s >>= f = ⟨s.steps, .error fault⟩ := by
  show andThen s f = _
  rw [andThen, h]

/-- What comes of stages is what comes of their outcomes. -/
@[simp] theorem outcome_bind (s : Stage α) (f : α → Stage β) :
    (s >>= f).outcome = s.outcome >>= fun a => (f a).outcome := by
  cases h : s.outcome with
  | ok a =>
    rw [bind_of_ok h]
    rfl
  | error fault =>
    rw [bind_of_error h]
    rfl

@[simp] theorem outcome_lift (x : Except Fault α) : (liftM x : Stage α).outcome = x := rfl

@[simp] theorem outcome_forEach (f : α → Stage β) (as : List α) :
    (forEach f as).outcome = as.mapM fun a => (f a).outcome := by
  induction as with
  | nil => rfl
  | cons a as ih =>
    show (f a >>= fun b => forEach f as >>= fun bs => pure (b :: bs)).outcome = _
    simp only [outcome_bind, ih, List.mapM_cons]
    rfl

/-- Stages that all come to something come to the list of it. -/
theorem outcome_forEach_of_ok {f : α → Stage β} {g : α → β} (h : ∀ a, (f a).outcome = .ok (g a))
    (as : List α) : (forEach f as).outcome = .ok (as.map g) := by
  rw [outcome_forEach, funext h]
  exact List.mapM_pure

@[simp] theorem outcome_read (a : Answer RoutingVar) (v : RoutingVar) :
    (read a v).outcome = .ok (a.value v) := rfl

end Stage

end NocRouting
