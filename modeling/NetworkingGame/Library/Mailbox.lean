import NetworkingGame.Library.Transition

/-!
A queue between a thread that posts events and one that takes over all of
them at once and then handles them one by one. Whatever the handler builds
from the events lags behind what the poster already knows, by the events that
are pending.
-/

namespace Library

open Library.Transition

variable {α σ : Type*}

/-- `copy` holds what the handler has taken over and not handled. -/
structure Mailbox (α : Type*) where
  queue : List α
  copy : List α
deriving DecidableEq

namespace Mailbox

def empty : Mailbox α := ⟨[], []⟩

def post (box : Mailbox α) (a : α) : Mailbox α := { box with queue := box.queue ++ [a] }

/-- Take over the queue, which only a handler without a copy does. -/
def fetch (box : Mailbox α) : Option (Mailbox α) :=
  match box.copy with
  | [] => some ⟨[], box.queue⟩
  | _ :: _ => none

def take (box : Mailbox α) : Option (α × Mailbox α) :=
  match box.copy with
  | [] => none
  | a :: rest => some (a, { box with copy := rest })

/-- All that was posted and not handled, oldest first. -/
def pending (box : Mailbox α) : List α := box.copy ++ box.queue

section Pending

variable {box after : Mailbox α} {a : α}

@[simp] theorem pending_empty : (empty : Mailbox α).pending = [] := rfl

@[simp] theorem pending_post (box : Mailbox α) (a : α) :
    (box.post a).pending = box.pending ++ [a] :=
  (List.append_assoc box.copy box.queue [a]).symm

theorem pending_fetch (h : box.fetch = some after) : after.pending = box.pending := by
  unfold fetch at h
  split at h
  · rename_i hcopy
    rw [← Option.some.inj h]
    simp [pending, hcopy]
  · cases h

theorem pending_take (h : box.take = some (a, after)) : box.pending = a :: after.pending := by
  unfold take at h
  split at h
  · cases h
  · rename_i first rest hcopy
    obtain ⟨rfl, rfl⟩ := Prod.mk.inj (Option.some.inj h)
    simp [pending, hcopy]

end Pending

/-- Handling what is pending takes the handler from `behind` to `ahead`. -/
def Lags (apply : σ → α → Option σ) (behind : σ) (box : Mailbox α) (ahead : σ) : Prop :=
  exec apply behind box.pending = some ahead

section Lag

variable {apply : σ → α → Option σ} {behind ahead next : σ} {box after : Mailbox α} {a : α}

theorem Lags.post (h : Lags apply behind box ahead) (hnext : apply ahead a = some next) :
    Lags apply behind (box.post a) next := by
  rw [Lags, pending_post]
  exact (exec_concat behind next box.pending a).mpr ⟨ahead, h, hnext⟩

theorem Lags.fetch (h : Lags apply behind box ahead) (hfetch : box.fetch = some after) :
    Lags apply behind after ahead := by
  rw [Lags, pending_fetch hfetch]
  exact h

/-- The handler can handle what was possible where it was posted. -/
theorem Lags.take (h : Lags apply behind box ahead) (htake : box.take = some (a, after)) :
    ∃ reached, apply behind a = some reached ∧ Lags apply reached after ahead := by
  rw [Lags, pending_take htake] at h
  exact (exec_cons behind ahead a after.pending).mp h

end Lag

end Mailbox

end Library
