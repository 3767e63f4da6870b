import NocRouting.Constraint.Basic

/-!
# Drafts

A draft is a sequence of postings that may be cut short by a fault.  What was posted before the
fault stays posted, as it would on an engine.
-/

namespace NocRouting

/-- Some postings, and what came of making them. -/
structure Draft (ν α : Type) where
  postings : List (Posting ν)
  /-- The result, or the fault that cut the draft short. -/
  outcome : Except Fault α

namespace Draft

variable {ν α β : Type}

/-- A draft without postings. -/
def done (a : α) : Draft ν α := ⟨[], .ok a⟩

/-- One draft after another. -/
def andThen (d : Draft ν α) (f : α → Draft ν β) : Draft ν β :=
  match d.outcome with
  | .ok a =>
    let e := f a
    ⟨d.postings ++ e.postings, e.outcome⟩
  | .error fault => ⟨d.postings, .error fault⟩

instance : Monad (Draft ν) where
  pure := done
  bind := andThen

instance : MonadLift (Except Fault) (Draft ν) where
  monadLift outcome := ⟨[], outcome⟩

/-- A draft that is cut short at once. -/
def fail (fault : Fault) : Draft ν α := ⟨[], .error fault⟩

def post (p : Posting ν) : Draft ν Unit := ⟨[p], .ok ()⟩

def postAll (ps : List (Posting ν)) : Draft ν Unit := ⟨ps, .ok ()⟩

/-- Drafts for the items of a list, one after the other. -/
def forEach (f : α → Draft ν β) : List α → Draft ν (List β)
  | [] => done []
  | a :: rest => andThen (f a) fun b => andThen (forEach f rest) fun bs => done (b :: bs)

@[simp] theorem postings_pure (a : α) : (pure a : Draft ν α).postings = [] := rfl

@[simp] theorem outcome_pure (a : α) : (pure a : Draft ν α).outcome = .ok a := rfl

theorem bind_of_ok {d : Draft ν α} {a : α} (h : d.outcome = .ok a) (f : α → Draft ν β) :
    d >>= f = ⟨d.postings ++ (f a).postings, (f a).outcome⟩ := by
  show andThen d f = _
  simp [andThen, h]

theorem bind_of_error {d : Draft ν α} {e : Fault} (h : d.outcome = .error e)
    (f : α → Draft ν β) : d >>= f = ⟨d.postings, .error e⟩ := by
  show andThen d f = _
  simp [andThen, h]

end Draft

end NocRouting
