import Mathlib.Order.WellFounded
import Mathlib.Order.Nat
import NetworkingGame.Library.Transition

/-!
Endless runs under a schedule. The schedule offers one event after the other;
what is not enabled when it is offered is passed over. A measure comes down to
zero under every fair schedule if no event raises it and, as long as it is not
zero, some event lowers it and goes on to be able to. The state itself comes to
rest if every event that changes it lowers a measure.
-/

namespace Library.Fairness

open Library.Transition

variable {σ ε : Type*}

def offer (step : σ → ε → Option σ) (s : σ) (e : ε) : σ := (step s e).getD s

/-- The state after the first `n` offers. -/
def stateAt (step : σ → ε → Option σ) (schedule : Nat → ε) (s : σ) : Nat → σ
  | 0 => s
  | n + 1 => offer step (stateAt step schedule s n) (schedule n)

/-- The schedule offers these events, and each of them again and again. -/
structure Fair (events : List ε) (schedule : Nat → ε) : Prop where
  only : ∀ n, schedule n ∈ events
  again : ∀ e ∈ events, ∀ n, ∃ m, n ≤ m ∧ schedule m = e

/-- Offer the events in turn. -/
def rotate (events : List ε) (hne : 0 < events.length) (n : Nat) : ε :=
  events.get ⟨n % events.length, Nat.mod_lt n hne⟩

theorem fair_rotate (events : List ε) (hne : 0 < events.length) :
    Fair events (rotate events hne) := by
  constructor
  · exact fun n => List.get_mem events _
  · intro e he n
    obtain ⟨i, rfl⟩ := List.get_of_mem he
    refine ⟨events.length * n + i, ?_, ?_⟩
    · exact (Nat.le_mul_of_pos_left n hne).trans (Nat.le_add_right _ _)
    · have hmod : (events.length * n + i) % events.length = i := by
        rw [Nat.mul_add_mod, Nat.mod_eq_of_lt i.isLt]
      simp only [rotate, hmod]

/-- What makes the measure come down. `helps` says which events lower it. -/
structure Settling (step : σ → ε → Option σ) (events : List ε) (I : σ → Prop)
    (measure : σ → Nat) (helps : σ → ε → Prop) : Prop where
  keeps : ∀ s e t, I s → e ∈ events → step s e = some t → I t
  helper : ∀ s, I s → measure s ≠ 0 → ∃ e ∈ events, helps s e
  lowers : ∀ s e, I s → helps s e → ∃ t, step s e = some t ∧ measure t < measure s
  waits : ∀ s e t, I s → e ∈ events → step s e = some t →
    measure t < measure s ∨ measure t = measure s ∧ ∀ other, helps s other → helps t other

section Offers

variable {step : σ → ε → Option σ}

theorem offer_cases (s : σ) (e : ε) :
    offer step s e = s ∨ step s e = some (offer step s e) := by
  unfold offer
  cases step s e with
  | none => exact Or.inl rfl
  | some t => exact Or.inr rfl

theorem offer_of_step {s t : σ} {e : ε} (h : step s e = some t) : offer step s e = t := by
  rw [offer, h, Option.getD_some]

variable {events : List ε} {I : σ → Prop} {measure : σ → Nat} {helps : σ → ε → Prop}

theorem offer_invariant (hkeeps : ∀ s e t, I s → e ∈ events → step s e = some t → I t)
    {s : σ} {e : ε} (hs : I s) (he : e ∈ events) : I (offer step s e) := by
  rcases @offer_cases σ ε step s e with hsame | hstep
  · rw [hsame]
    exact hs
  · exact hkeeps s e _ hs he hstep

/-- An offer lowers the measure, or leaves it and all the events that help. -/
theorem Settling.offer_waits (h : Settling step events I measure helps) {s : σ} {e : ε}
    (hs : I s) (he : e ∈ events) :
    measure (offer step s e) < measure s ∨
      measure (offer step s e) = measure s ∧
        ∀ other, helps s other → helps (offer step s e) other := by
  rcases @offer_cases σ ε step s e with hsame | hstep
  · rw [hsame]
    exact Or.inr ⟨rfl, fun _ hhelps => hhelps⟩
  · exact h.waits s e _ hs he hstep

end Offers

section Schedules

variable {step : σ → ε → Option σ} {events : List ε} {I : σ → Prop} {measure : σ → Nat}
  {helps : σ → ε → Prop} {schedule : Nat → ε} {s : σ}

theorem stateAt_invariant (hkeeps : ∀ s e t, I s → e ∈ events → step s e = some t → I t)
    (hfair : Fair events schedule) (hs : I s) (n : Nat) : I (stateAt step schedule s n) := by
  induction n with
  | zero => exact hs
  | succ n ih => exact offer_invariant hkeeps ih (hfair.only n)

theorem Settling.stateAt_keeps (h : Settling step events I measure helps)
    (hfair : Fair events schedule) (hs : I s) (n : Nat) : I (stateAt step schedule s n) :=
  stateAt_invariant h.keeps hfair hs n

/-- What the offers lead to is what a run of some of the events leads to. -/
theorem exec_stateAt (hfair : Fair events schedule) (s : σ) (n : Nat) :
    ∃ performed, (∀ e ∈ performed, e ∈ events) ∧
      exec step s performed = some (stateAt step schedule s n) := by
  induction n with
  | zero => exact ⟨[], by simp, rfl⟩
  | succ n ih =>
      obtain ⟨performed, honly, hrun⟩ := ih
      rcases @offer_cases σ ε step (stateAt step schedule s n) (schedule n) with hsame | hstep
      · exact ⟨performed, honly, by rw [stateAt, hsame]; exact hrun⟩
      · refine ⟨performed ++ [schedule n], ?_, ?_⟩
        · intro e he
          rcases List.mem_append.mp he with he | he
          · exact honly e he
          · rw [List.mem_singleton.mp he]
            exact hfair.only n
        · exact (exec_concat _ _ _ _).mpr ⟨_, hrun, hstep⟩

/-- An event that helps is there until the measure has come down. -/
theorem Settling.helps_until (h : Settling step events I measure helps)
    (hfair : Fair events schedule) (hs : I s) {n : Nat} {e : ε}
    (hhelps : helps (stateAt step schedule s n) e) (d : Nat) :
    (∃ m, n ≤ m ∧ measure (stateAt step schedule s m) < measure (stateAt step schedule s n)) ∨
      measure (stateAt step schedule s (n + d)) = measure (stateAt step schedule s n) ∧
        helps (stateAt step schedule s (n + d)) e := by
  induction d with
  | zero => exact Or.inr ⟨rfl, hhelps⟩
  | succ d ih =>
      rcases ih with hlower | ⟨hsame, hstill⟩
      · exact Or.inl hlower
      · rcases h.offer_waits (h.stateAt_keeps hfair hs (n + d)) (hfair.only (n + d)) with
          hlower | ⟨hequal, hwaits⟩
        · exact Or.inl ⟨n + d + 1, by omega, hlower.trans_eq hsame⟩
        · exact Or.inr ⟨hequal.trans hsame, hwaits e hstill⟩

theorem Settling.comes_down (h : Settling step events I measure helps)
    (hfair : Fair events schedule) (hs : I s) {n : Nat}
    (hne : measure (stateAt step schedule s n) ≠ 0) :
    ∃ m, n ≤ m ∧ measure (stateAt step schedule s m) < measure (stateAt step schedule s n) := by
  obtain ⟨e, he, hhelps⟩ := h.helper _ (h.stateAt_keeps hfair hs n) hne
  obtain ⟨m, hle, hoffered⟩ := hfair.again e he n
  obtain ⟨d, rfl⟩ := Nat.exists_eq_add_of_le hle
  rcases h.helps_until hfair hs hhelps d with hlower | ⟨hsame, hstill⟩
  · exact hlower
  · obtain ⟨t, hstep, hlower⟩ := h.lowers _ e (h.stateAt_keeps hfair hs (n + d)) hstill
    refine ⟨n + d + 1, by omega, ?_⟩
    rw [stateAt, hoffered, offer_of_step hstep]
    exact hlower.trans_eq hsame

theorem Settling.measure_le (h : Settling step events I measure helps)
    (hfair : Fair events schedule) (hs : I s) {n m : Nat} (hle : n ≤ m) :
    measure (stateAt step schedule s m) ≤ measure (stateAt step schedule s n) := by
  obtain ⟨d, rfl⟩ := Nat.exists_eq_add_of_le hle
  clear hle
  induction d with
  | zero => exact Nat.le_refl _
  | succ d ih =>
      rcases h.offer_waits (h.stateAt_keeps hfair hs (n + d)) (hfair.only (n + d)) with
        hlower | ⟨hsame, -⟩
      · exact hlower.le.trans ih
      · exact hsame.le.trans ih

/-- Under a fair schedule the measure comes down to zero and stays there. -/
theorem Settling.settles (h : Settling step events I measure helps)
    (hfair : Fair events schedule) (hs : I s) :
    ∃ n, ∀ m, n ≤ m → measure (stateAt step schedule s m) = 0 := by
  have hzero (k : Nat) : ∀ n, measure (stateAt step schedule s n) = k →
      ∃ m, measure (stateAt step schedule s m) = 0 := by
    induction k using Nat.strongRecOn with
    | ind k ih =>
        intro n hn
        rcases Nat.eq_zero_or_pos k with rfl | hpos
        · exact ⟨n, hn⟩
        · have hne : measure (stateAt step schedule s n) ≠ 0 := by omega
          obtain ⟨m, -, hlower⟩ := h.comes_down hfair hs hne
          exact ih _ (hlower.trans_eq hn) m rfl
  obtain ⟨n, hn⟩ := hzero _ 0 rfl
  refine ⟨n, fun m hle => ?_⟩
  have hmono := h.measure_le hfair hs hle
  omega

/-- Every event keeps the invariant, and changes nothing or lowers the measure. -/
structure Calming (step : σ → ε → Option σ) (events : List ε) (I : σ → Prop)
    (measure : σ → Nat) : Prop where
  keeps : ∀ s e t, I s → e ∈ events → step s e = some t → I t
  lowers : ∀ s e t, I s → e ∈ events → step s e = some t → t = s ∨ measure t < measure s

/-- No event changes the state. -/
def Rests (step : σ → ε → Option σ) (events : List ε) (s : σ) : Prop :=
  ∀ e ∈ events, offer step s e = s

theorem Calming.offer_lowers (h : Calming step events I measure) {e : ε} (hs : I s)
    (he : e ∈ events) : offer step s e = s ∨ measure (offer step s e) < measure s := by
  rcases @offer_cases σ ε step s e with hsame | hstep
  · exact Or.inl hsame
  · exact h.lowers s e _ hs he hstep

/-- As long as the measure does not get below its value, the state is the same. -/
theorem Calming.stays (h : Calming step events I measure) (hfair : Fair events schedule)
    (hs : I s) {n : Nat}
    (hleast : ∀ m, measure (stateAt step schedule s n) ≤ measure (stateAt step schedule s m))
    (d : Nat) : stateAt step schedule s (n + d) = stateAt step schedule s n := by
  induction d with
  | zero => rfl
  | succ d ih =>
      have hkept := stateAt_invariant h.keeps hfair hs (n + d)
      rcases h.offer_lowers hkept (hfair.only (n + d)) with hsame | hlower
      · exact hsame.trans ih
      · have hle := hleast (n + d + 1)
        rw [stateAt] at hle
        rw [ih] at hle hlower
        omega

/-- Under a fair schedule the state comes to rest. -/
theorem Calming.comes_to_rest (h : Calming step events I measure) (hfair : Fair events schedule)
    (hs : I s) : ∃ n, Rests step events (stateAt step schedule s n) ∧
      ∀ m, n ≤ m → stateAt step schedule s m = stateAt step schedule s n := by
  let value (n : Nat) : Nat := measure (stateAt step schedule s n)
  have hleast : ∀ m, value (Function.argmin value) ≤ value m := fun m =>
    Function.argmin_le value m
  generalize Function.argmin value = n at hleast
  have hstays (m : Nat) (hle : n ≤ m) :
      stateAt step schedule s m = stateAt step schedule s n := by
    obtain ⟨d, rfl⟩ := Nat.exists_eq_add_of_le hle
    exact h.stays hfair hs hleast d
  refine ⟨n, fun e he => ?_, hstays⟩
  obtain ⟨m, hle, hoffered⟩ := hfair.again e he n
  have hnext := hstays (m + 1) (by omega)
  rw [stateAt, hoffered, hstays m hle] at hnext
  exact hnext

end Schedules

end Library.Fairness
