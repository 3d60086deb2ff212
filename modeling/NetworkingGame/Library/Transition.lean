import Mathlib.Logic.Basic

/-!
Finite runs of a partial step function. A step that is not enabled, or that
fails, has no successor. `Along` speaks about every step a run takes, so that
a condition on the steps of a run and an invariant of its states compose.
-/

namespace Library.Transition

variable {σ ε τ : Type*}

/-- Execute the events in order, stopping where a step has no successor. -/
def exec (step : σ → ε → Option σ) : σ → List ε → Option σ
  | s, [] => some s
  | s, e :: es => (step s e).bind fun t => exec step t es

/-- `P` holds of every state and event at which the run takes a step. -/
def Along (step : σ → ε → Option σ) (P : σ → ε → Prop) : σ → List ε → Prop
  | _, [] => True
  | s, e :: es => P s e ∧ ∀ t, step s e = some t → Along step P t es

instance decidableAlong (step : σ → ε → Option σ) (P : σ → ε → Prop)
    [∀ s e, Decidable (P s e)] : ∀ s es, Decidable (Along step P s es)
  | _, [] => .isTrue trivial
  | s, e :: es =>
      match hstep : step s e with
      | none => decidable_of_iff (P s e) (by simp [Along, hstep])
      | some t =>
          have := decidableAlong step P t es
          decidable_of_iff (P s e ∧ Along step P t es) (by simp [Along, hstep])

/-- The number of steps of the run that satisfy `P`. -/
def countAlong (step : σ → ε → Option σ) (P : σ → ε → Bool) : σ → List ε → Nat
  | _, [] => 0
  | s, e :: es =>
      (P s e).toNat + match step s e with
        | none => 0
        | some t => countAlong step P t es

/-- What the steps of the run put out, oldest first. -/
def gatherAlong {α : Type*} (step : σ → ε → Option σ) (out : σ → ε → List α) : σ → List ε → List α
  | _, [] => []
  | s, e :: es =>
      out s e ++ match step s e with
        | none => []
        | some t => gatherAlong step out t es

section Runs

variable {step : σ → ε → Option σ}

@[simp] theorem exec_nil (s : σ) : exec step s [] = some s := rfl

theorem exec_cons (s t : σ) (e : ε) (es : List ε) :
    exec step s (e :: es) = some t ↔
      ∃ m, step s e = some m ∧ exec step m es = some t := by
  simp [exec, Option.bind_eq_some_iff]

theorem exec_append (s t : σ) (first second : List ε) :
    exec step s (first ++ second) = some t ↔
      ∃ m, exec step s first = some m ∧ exec step m second = some t := by
  induction first generalizing s with
  | nil => simp
  | cons e es ih =>
      simp only [List.cons_append, exec_cons, ih]
      constructor
      · rintro ⟨a, ha, m, hm, ht⟩
        exact ⟨m, ⟨a, ha, hm⟩, ht⟩
      · rintro ⟨m, ⟨a, ha, hm⟩, ht⟩
        exact ⟨a, ha, m, hm, ht⟩

theorem exec_concat (s t : σ) (es : List ε) (e : ε) :
    exec step s (es ++ [e]) = some t ↔
      ∃ m, exec step s es = some m ∧ step m e = some t := by
  rw [exec_append]
  simp [exec_cons]

/-- An invariant that each step meeting `G` preserves holds at the end of
every run whose steps all meet `G`. -/
theorem invariant_exec {I : σ → Prop} {G : σ → ε → Prop}
    (hstep : ∀ s e t, I s → G s e → step s e = some t → I t)
    {s t : σ} {es : List ε} (hrun : exec step s es = some t)
    (halong : Along step G s es) (hs : I s) : I t := by
  induction es generalizing s with
  | nil =>
      obtain rfl : s = t := Option.some.inj hrun
      exact hs
  | cons e es ih =>
      obtain ⟨m, hm, ht⟩ := (exec_cons s t e es).mp hrun
      obtain ⟨hguard, hrest⟩ := halong
      exact ih ht (hrest m hm) (hstep s e m hs hguard hm)

/-- The unconditional case: every step preserves the invariant. -/
theorem invariant_of_step {I : σ → Prop}
    (hstep : ∀ s e t, I s → step s e = some t → I t)
    {s t : σ} {es : List ε} (hrun : exec step s es = some t) (hs : I s) : I t := by
  induction es generalizing s with
  | nil =>
      obtain rfl : s = t := Option.some.inj hrun
      exact hs
  | cons e es ih =>
      obtain ⟨m, hm, ht⟩ := (exec_cons s t e es).mp hrun
      exact ih ht (hstep s e m hs hm)

theorem along_append {P : σ → ε → Prop} {s : σ} {first second : List ε} :
    Along step P s (first ++ second) ↔
      Along step P s first ∧ ∀ m, exec step s first = some m → Along step P m second := by
  induction first generalizing s with
  | nil => simp [Along]
  | cons e es ih =>
      simp only [List.cons_append, Along, ih, exec_cons]
      constructor
      · rintro ⟨hp, hrest⟩
        refine ⟨⟨hp, fun t ht => (hrest t ht).1⟩, ?_⟩
        rintro m ⟨t, ht, hm⟩
        exact (hrest t ht).2 m hm
      · rintro ⟨⟨hp, hfirst⟩, hsecond⟩
        exact ⟨hp, fun t ht => ⟨hfirst t ht, fun m hm => hsecond m ⟨t, ht, hm⟩⟩⟩

theorem along_concat {P : σ → ε → Prop} {s : σ} {es : List ε} {e : ε} :
    Along step P s (es ++ [e]) ↔
      Along step P s es ∧ ∀ m, exec step s es = some m → P m e := by
  simp [along_append, Along]

theorem Along.mono {P Q : σ → ε → Prop} (hpq : ∀ s e, P s e → Q s e) {s : σ} {es : List ε}
    (h : Along step P s es) : Along step Q s es := by
  induction es generalizing s with
  | nil => trivial
  | cons e es ih => exact ⟨hpq s e h.1, fun t ht => ih (h.2 t ht)⟩

theorem Along.and {P Q : σ → ε → Prop} {s : σ} {es : List ε} (hp : Along step P s es)
    (hq : Along step Q s es) : Along step (fun s e => P s e ∧ Q s e) s es := by
  induction es generalizing s with
  | nil => trivial
  | cons e es ih => exact ⟨⟨hp.1, hq.1⟩, fun t ht => ih (hp.2 t ht) (hq.2 t ht)⟩

/-- Two conditions on steps agree along every run from a state of an invariant
on whose states they agree, if the steps that meet the second one keep it. -/
theorem along_congr_of_guard {I : σ → Prop} {P Q : σ → ε → Prop}
    (hstep : ∀ s e t, I s → Q s e → step s e = some t → I t)
    (hpq : ∀ s e, I s → (P s e ↔ Q s e)) {s : σ} (es : List ε) (hs : I s) :
    Along step P s es ↔ Along step Q s es := by
  induction es generalizing s with
  | nil => exact Iff.rfl
  | cons e es ih =>
      simp only [Along, hpq s e hs]
      constructor
      · rintro ⟨hq, hrest⟩
        exact ⟨hq, fun t ht => (ih (hstep s e t hs hq ht)).mp (hrest t ht)⟩
      · rintro ⟨hq, hrest⟩
        exact ⟨hq, fun t ht => (ih (hstep s e t hs hq ht)).mpr (hrest t ht)⟩

/-- The unconditional case: the invariant is kept by every step. -/
theorem along_congr {I : σ → Prop} {P Q : σ → ε → Prop}
    (hstep : ∀ s e t, I s → step s e = some t → I t)
    (hpq : ∀ s e, I s → (P s e ↔ Q s e)) {s : σ} (es : List ε) (hs : I s) :
    Along step P s es ↔ Along step Q s es :=
  along_congr_of_guard (fun s e t hs _ ht => hstep s e t hs ht) hpq es hs

theorem along_of_forall {I : σ → Prop} {P : σ → ε → Prop}
    (hstep : ∀ s e t, I s → step s e = some t → I t)
    (hp : ∀ s e, I s → P s e) {s : σ} (es : List ε) (hs : I s) :
    Along step P s es := by
  induction es generalizing s with
  | nil => trivial
  | cons e es ih => exact ⟨hp s e hs, fun t ht => ih (hstep s e t hs ht)⟩

/-- A condition met along a run may be strengthened by an invariant of the
steps that meet it. -/
theorem along_and {I : σ → Prop} {P : σ → ε → Prop}
    (hstep : ∀ s e t, I s → P s e → step s e = some t → I t) {s : σ} {es : List ε}
    (h : Along step P s es) (hs : I s) : Along step (fun s e => P s e ∧ I s) s es := by
  induction es generalizing s with
  | nil => trivial
  | cons e es ih => exact ⟨⟨h.1, hs⟩, fun t ht => ih (h.2 t ht) (hstep s e t hs h.1 ht)⟩

theorem along_of_mem {P : σ → ε → Prop} {es : List ε} (h : ∀ e ∈ es, ∀ s, P s e) (s : σ) :
    Along step P s es := by
  induction es generalizing s with
  | nil => trivial
  | cons e es ih =>
      refine ⟨h e List.mem_cons_self s, fun t _ => ?_⟩
      exact ih (fun other hother => h other (List.mem_cons_of_mem e hother)) t

theorem countAlong_append {P : σ → ε → Bool} {s m : σ} {first second : List ε}
    (hfirst : exec step s first = some m) :
    countAlong step P s (first ++ second) =
      countAlong step P s first + countAlong step P m second := by
  induction first generalizing s with
  | nil =>
      obtain rfl : s = m := Option.some.inj hfirst
      simp [countAlong]
  | cons e es ih =>
      obtain ⟨a, ha, hm⟩ := (exec_cons s m e es).mp hfirst
      have htail := ih hm
      simp only [List.cons_append, countAlong, ha]
      omega

/-- A potential that rises at the steps in `P` and falls at those in `Q`
balances the two counts. -/
theorem countAlong_balance {I : σ → Prop} {P Q : σ → ε → Bool} {f : σ → Nat}
    (hstep : ∀ s e t, I s → step s e = some t →
      I t ∧ (P s e).toNat + f s = (Q s e).toNat + f t)
    {s t : σ} {es : List ε} (hrun : exec step s es = some t) (hs : I s) :
    countAlong step P s es + f s = countAlong step Q s es + f t := by
  induction es generalizing s with
  | nil =>
      obtain rfl : s = t := Option.some.inj hrun
      rfl
  | cons e es ih =>
      obtain ⟨m, hm, ht⟩ := (exec_cons s t e es).mp hrun
      obtain ⟨hinv, hbalance⟩ := hstep s e m hs hm
      have htail := ih ht hinv
      simp only [countAlong, hm]
      omega

/-- `step` simulates `step'` through `f`: each of its steps is matched by the
finite run `label s e` below. -/
theorem exec_simulates {ε' : Type*} {step' : τ → ε' → Option τ} {f : σ → τ}
    {label : σ → ε → List ε'}
    (hsim : ∀ s e t, step s e = some t → exec step' (f s) (label s e) = some (f t))
    {s t : σ} {es : List ε} (hrun : exec step s es = some t) :
    ∃ es', exec step' (f s) es' = some (f t) := by
  induction es generalizing s with
  | nil =>
      obtain rfl : s = t := Option.some.inj hrun
      exact ⟨[], rfl⟩
  | cons e es ih =>
      obtain ⟨m, hm, ht⟩ := (exec_cons s t e es).mp hrun
      obtain ⟨rest, hrest⟩ := ih ht
      exact ⟨label s e ++ rest,
        (exec_append _ _ _ _).mpr ⟨f m, hsim s e m hm, hrest⟩⟩

end Runs

section Loops

variable {α : Type*} {f : σ → α → Except ε σ}

/-- A loop that gets through keeps what each of its rounds keeps. -/
theorem foldlM_invariant (I : σ → Prop) {as : List α}
    (hround : ∀ a ∈ as, ∀ s t, I s → f s a = .ok t → I t) {s t : σ} (hs : I s)
    (h : as.foldlM f s = .ok t) : I t := by
  induction as generalizing s with
  | nil =>
      rw [← Except.ok.inj h]
      exact hs
  | cons a as ih =>
      rw [List.foldlM_cons] at h
      cases hfirst : f s a with
      | error e =>
          rw [hfirst] at h
          cases h
      | ok next =>
          rw [hfirst] at h
          have hnext := hround a (by simp) s next hs hfirst
          exact ih (fun other hother => hround other (List.mem_cons_of_mem a hother)) hnext h

/-- A preorder that relates the two ends of each round relates the two ends of
the loop. -/
theorem foldlM_relation (R : σ → σ → Prop) (hrefl : ∀ s, R s s)
    (htrans : ∀ s m t, R s m → R m t → R s t) {as : List α}
    (hround : ∀ a ∈ as, ∀ s t, f s a = .ok t → R s t) {s t : σ} (h : as.foldlM f s = .ok t) :
    R s t := by
  refine foldlM_invariant (R s) ?_ (hrefl s) h
  intro a ha m t hm hstep
  exact htrans s m t hm (hround a ha m t hstep)

/-- What is seen of a loop that gets through is a loop over what is seen. -/
theorem foldlM_observe {view : σ → τ} {next : τ → α → τ} {as : List α}
    (hround : ∀ a ∈ as, ∀ s t, f s a = .ok t → view t = next (view s) a) {s t : σ}
    (h : as.foldlM f s = .ok t) : view t = as.foldl next (view s) := by
  induction as generalizing s with
  | nil =>
      rw [← Except.ok.inj h]
      rfl
  | cons a as ih =>
      rw [List.foldlM_cons] at h
      cases hfirst : f s a with
      | error e =>
          rw [hfirst] at h
          cases h
      | ok m =>
          rw [hfirst] at h
          rw [List.foldl_cons, ← hround a (by simp) s m hfirst]
          exact ih (fun other hother => hround other (List.mem_cons_of_mem a hother)) h

/-- Where it does not depend on the state which items are refused, a loop that
stops at the first refusal gets through exactly the lists without one. -/
theorem foldlM_isOk_iff {accepted : α → Prop}
    (haccept : ∀ s a, accepted a ↔ ∃ t, f s a = .ok t) (as : List α) (s : σ) :
    (∃ t, as.foldlM f s = .ok t) ↔ ∀ a ∈ as, accepted a := by
  induction as generalizing s with
  | nil => simp [pure, Except.pure]
  | cons a as ih =>
      rw [List.foldlM_cons, List.forall_mem_cons, haccept s a]
      cases hstep : f s a with
      | error e => simp [bind, Except.bind]
      | ok t => simpa [bind, Except.bind] using ih t

/-- Where every round gets through and lowers a measure, the loop gets through,
and the measure has paid for each of its rounds. -/
theorem foldlM_measure (I : σ → Prop) (measure : σ → Int) {as : List α}
    (hround : ∀ a ∈ as, ∀ s, I s → ∃ t, f s a = .ok t ∧ I t ∧ measure t < measure s)
    {s : σ} (hs : I s) :
    ∃ t, as.foldlM f s = .ok t ∧ I t ∧ measure t + as.length ≤ measure s := by
  induction as generalizing s with
  | nil => exact ⟨s, rfl, hs, by simp⟩
  | cons a as ih =>
      obtain ⟨m, hm, hinvariant, hlower⟩ := hround a (by simp) s hs
      obtain ⟨t, ht, hlast, hpaid⟩ :=
        ih (fun other hother => hround other (List.mem_cons_of_mem a hother)) hinvariant
      refine ⟨t, ?_, hlast, ?_⟩
      · rw [List.foldlM_cons, hm]
        exact ht
      · rw [List.length_cons]
        push_cast
        omega

/-- A loop that gets through does the work of the one that carries on after a
refusal. -/
theorem foldl_of_foldlM {g : σ → α → σ} (hagree : ∀ s a t, f s a = .ok t → g s a = t)
    {as : List α} {s t : σ} (h : as.foldlM f s = .ok t) : as.foldl g s = t := by
  have hview : id t = as.foldl g (id s) :=
    foldlM_observe (fun a _ s t hstep => (hagree s a t hstep).symm) h
  exact hview.symm

end Loops

end Library.Transition
