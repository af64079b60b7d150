import Mathlib
import SnippetForge.Compilation

/-!
# Runs of a compilation

`run` drives a compilation with fuel. This file replaces the fuel by a relation. A *transition* is
a step of the compilation or, while the compilation waits, a step of the world; a state *ends* in a
world with a result if transitions lead from it to the finished phase.

The two agree: a run with enough fuel returns exactly what its first state ends in. Transitions are
deterministic, so a state and its successor end alike. Statements about whole runs are therefore
proved backwards, one phase at a time, and never mention fuel again.
-/

namespace SnippetForge

/-- Whether a toolchain is at work in a phase. -/
def Phase.isAtWork {σ : Type} : Phase σ → Bool
  | .bundling _ _ _ _ _ => true
  | _ => false

namespace Compilation

variable {σ : Type} {tc : Toolchain σ}

/-- A transition of a compilation together with its world. -/
inductive Next (tc : Toolchain σ) : World × Compilation σ → World × Compilation σ → Prop
  /-- The compilation makes a step. -/
  | step {w w' : World} {c c' : Compilation σ} (h : step tc w c = some (w', c')) :
      Next tc (w, c) (w', c')
  /-- The compilation waits, and something happens in the world. -/
  | wait {w w' : World} {c : Compilation σ} (unfinished : c.result? = none)
      (idle : Compilation.step tc w c = none)
      (passed : w.advance? c.deadline?.toList = some w') : Next tc (w, c) (w', c)

/-- Transitions lead from one state to another. -/
def Reaches (tc : Toolchain σ) : World × Compilation σ → World × Compilation σ → Prop :=
  Relation.ReflTransGen (Next tc)

/-- A state comes to its end in a world with a result. -/
def Ends (tc : Toolchain σ) (s : World × Compilation σ) (w : World)
    (result : Except Failure Bundle) : Prop :=
  ∃ c : Compilation σ, Reaches tc s (w, c) ∧ c.phase = .finished result

/-! ### Determinism -/

lemma result?_eq_some_iff {c : Compilation σ} {result : Except Failure Bundle} :
    c.result? = some result ↔ c.phase = .finished result := by
  unfold result?
  cases h : c.phase <;> simp

/-- A compilation that has finished makes no step. -/
lemma step_eq_none_of_finished {w : World} {c : Compilation σ} {result : Except Failure Bundle}
    (h : c.phase = .finished result) : step tc w c = none := by
  rw [step, h]

/-- A state that has finished has no successor. -/
lemma not_next_of_finished {s t : World × Compilation σ} {result : Except Failure Bundle}
    (h : s.2.phase = .finished result) : ¬ Next tc s t := by
  intro hnext
  cases hnext with
  | step hstep =>
    rw [step_eq_none_of_finished h] at hstep
    simp at hstep
  | wait unfinished _ _ =>
    rw [result?_eq_some_iff.mpr h] at unfinished
    simp at unfinished

/-- A state has at most one successor. -/
lemma next_unique {s t u : World × Compilation σ} (ht : Next tc s t) (hu : Next tc s u) :
    t = u := by
  cases ht with
  | step h =>
    cases hu with
    | step h' => exact Option.some.inj (h.symm.trans h')
    | wait _ idle _ => simp [idle] at h
  | wait _ idle passed =>
    cases hu with
    | step h' => simp [idle] at h'
    | wait _ _ passed' =>
      rw [Option.some.inj (passed.symm.trans passed')]

/-- A state and its successor come to the same end. -/
lemma ends_of_next {s t : World × Compilation σ} (h : Next tc s t) {w : World}
    {result : Except Failure Bundle} : Ends tc s w result ↔ Ends tc t w result := by
  constructor
  · rintro ⟨c, hreach, hfin⟩
    rcases Relation.ReflTransGen.cases_head hreach with rfl | ⟨u, hu, hrest⟩
    · exact absurd h (not_next_of_finished hfin)
    · rw [next_unique hu h] at hrest
      exact ⟨c, hrest, hfin⟩
  · rintro ⟨c, hreach, hfin⟩
    exact ⟨c, Relation.ReflTransGen.head h hreach, hfin⟩

/-- A state that has finished is its own end. -/
lemma ends_finished {w w' : World} {c : Compilation σ} {result result' : Except Failure Bundle}
    (h : c.phase = .finished result) :
    Ends tc (w, c) w' result' ↔ w' = w ∧ result' = result := by
  constructor
  · rintro ⟨c', hreach, hfin⟩
    rcases Relation.ReflTransGen.cases_head hreach with heq | ⟨u, hu, -⟩
    · obtain ⟨rfl, rfl⟩ := Prod.mk.inj heq
      rw [h] at hfin
      exact ⟨rfl, (Phase.finished.inj hfin).symm⟩
    · exact absurd hu (not_next_of_finished h)
  · rintro ⟨rfl, rfl⟩
    exact ⟨c, .refl, h⟩

/-- Induction along the transitions of a state that comes to an end. -/
lemma Ends.induction {w' : World} {result : Except Failure Bundle}
    {motive : World × Compilation σ → Prop}
    (finished : ∀ c, c.phase = .finished result → motive (w', c))
    (next : ∀ s t, Next tc s t → Ends tc t w' result → motive t → motive s)
    {s : World × Compilation σ} (h : Ends tc s w' result) : motive s := by
  obtain ⟨c, hreach, hfin⟩ := h
  induction hreach using Relation.ReflTransGen.head_induction_on with
  | refl => exact finished c hfin
  | head hnext hrest ih => exact next _ _ hnext ⟨c, hrest, hfin⟩ ih

/-- A state comes to one end at most. -/
lemma Ends.unique {s : World × Compilation σ} {w w' : World}
    {result result' : Except Failure Bundle} (h : Ends tc s w result) (h' : Ends tc s w' result') :
    w' = w ∧ result' = result := by
  refine h.induction (motive := fun s => Ends tc s w' result' → w' = w ∧ result' = result)
    (fun c hfin hends => (ends_finished hfin).mp hends)
    (fun s t hnext _ ih hends => ih ((ends_of_next hnext).mp hends)) h'

/-! ### Invocation -/

/-- A toolchain is invoked at some point. -/
def Invoked (tc : Toolchain σ) (s : World × Compilation σ) : Prop :=
  ∃ t, Reaches tc s t ∧ t.2.phase.isAtWork = true

/-- Transitions lead from one state to another, and no toolchain is at work on the way. -/
def Leads (tc : Toolchain σ) : World × Compilation σ → World × Compilation σ → Prop :=
  Relation.ReflTransGen fun s t => Next tc s t ∧ s.2.phase.isAtWork = false

lemma Leads.trans {s t u : World × Compilation σ} (hst : Leads tc s t) (htu : Leads tc t u) :
    Leads tc s u :=
  Relation.ReflTransGen.trans hst htu

lemma Leads.reaches {s t : World × Compilation σ} (h : Leads tc s t) : Reaches tc s t :=
  Relation.ReflTransGen.mono (fun _ _ h => h.1) _ _ h

/-- States that lead to one another come to the same end. -/
lemma Leads.ends_iff {s t : World × Compilation σ} (h : Leads tc s t) {w : World}
    {result : Except Failure Bundle} : Ends tc s w result ↔ Ends tc t w result := by
  induction h with
  | refl => exact Iff.rfl
  | tail _ hnext ih => exact ih.trans (ends_of_next hnext.1)

/-- A toolchain is invoked from a state exactly if it is invoked from one that it leads to. -/
lemma Leads.invoked_iff {s t : World × Compilation σ} (h : Leads tc s t) :
    Invoked tc s ↔ Invoked tc t := by
  induction h with
  | refl => exact Iff.rfl
  | @tail t u _ hnext ih =>
    refine ih.trans ⟨?_, ?_⟩
    · rintro ⟨v, hreach, hwork⟩
      rcases Relation.ReflTransGen.cases_head hreach with rfl | ⟨x, hx, hrest⟩
      · simp [hnext.2] at hwork
      · rw [next_unique hx hnext.1] at hrest
        exact ⟨v, hrest, hwork⟩
    · rintro ⟨v, hreach, hwork⟩
      exact ⟨v, .head hnext.1 hreach, hwork⟩

/-- No toolchain is invoked from a state that has finished. -/
lemma not_invoked_of_finished {w : World} {c : Compilation σ} {result : Except Failure Bundle}
    (h : c.phase = .finished result) : ¬ Invoked tc (w, c) := by
  rintro ⟨t, hreach, hwork⟩
  rcases Relation.ReflTransGen.cases_head hreach with rfl | ⟨u, hu, -⟩
  · simp [h, Phase.isAtWork] at hwork
  · exact not_next_of_finished h hu

/-! ### Runs with fuel -/

lemma run_succ_of_finished {w : World} {c : Compilation σ} {result : Except Failure Bundle}
    (h : c.phase = .finished result) (fuel : Nat) : run tc (fuel + 1) w c = .ok (w, result) := by
  rw [run, h]

/-- One unit of fuel pays for one transition. -/
lemma run_succ_of_next {w w₁ : World} {c c₁ : Compilation σ} (h : Next tc (w, c) (w₁, c₁))
    (fuel : Nat) : run tc (fuel + 1) w c = run tc fuel w₁ c₁ := by
  rw [run]
  split
  · next result hfin => exact absurd h (not_next_of_finished hfin)
  · cases h with
    | step hstep => simp [hstep]
    | wait _ idle passed => simp [idle, passed]

/-- A run that returns has finished, or goes on with a step of the compilation or of the world. -/
lemma run_succ_cases {fuel : Nat} {w w' : World} {c : Compilation σ}
    {result : Except Failure Bundle} (h : run tc (fuel + 1) w c = .ok (w', result)) :
    (c.phase = .finished result ∧ w' = w) ∨
      (∃ w₁ c₁, step tc w c = some (w₁, c₁) ∧ run tc fuel w₁ c₁ = .ok (w', result)) ∨
      ∃ w₁, c.result? = none ∧ step tc w c = none ∧ w.advance? c.deadline?.toList = some w₁ ∧
        run tc fuel w₁ c = .ok (w', result) := by
  cases hresult : c.result? with
  | some r =>
    have hfin := result?_eq_some_iff.mp hresult
    rw [run_succ_of_finished hfin] at h
    obtain ⟨rfl, rfl⟩ := Prod.mk.inj (Except.ok.inj h)
    exact .inl ⟨hfin, rfl⟩
  | none =>
    cases hstep : step tc w c with
    | some t =>
      rw [run_succ_of_next (.step hstep)] at h
      exact .inr (.inl ⟨t.1, t.2, rfl, h⟩)
    | none =>
      cases hpass : w.advance? c.deadline?.toList with
      | some w₁ =>
        rw [run_succ_of_next (.wait hresult hstep hpass)] at h
        exact .inr (.inr ⟨w₁, rfl, rfl, rfl, h⟩)
      | none =>
        rw [run] at h
        split at h
        · next r hr =>
          rw [result?_eq_some_iff.mpr hr] at hresult
          cases hresult
        · simp [hstep, hpass] at h

/-- What a run returns is what its first state ends in. -/
lemma ends_of_run {fuel : Nat} {w w' : World} {c : Compilation σ}
    {result : Except Failure Bundle} (h : run tc fuel w c = .ok (w', result)) :
    Ends tc (w, c) w' result := by
  induction fuel generalizing w c with
  | zero => simp [run] at h
  | succ fuel ih =>
    rcases run_succ_cases h with ⟨hfin, rfl⟩ | ⟨w₁, c₁, hstep, hrun⟩ |
      ⟨w₁, unfinished, idle, passed, hrun⟩
    · exact (ends_finished hfin).mpr ⟨rfl, rfl⟩
    · exact (ends_of_next (.step hstep)).mpr (ih hrun)
    · exact (ends_of_next (.wait unfinished idle passed)).mpr (ih hrun)

/-- A state that comes to an end does so with enough fuel. -/
lemma exists_run_of_ends {w w' : World} {c : Compilation σ} {result : Except Failure Bundle}
    (h : Ends tc (w, c) w' result) : ∃ fuel, run tc fuel w c = .ok (w', result) := by
  obtain ⟨c', hreach, hfin⟩ := h
  generalize hs : (w, c) = s at hreach
  induction hreach using Relation.ReflTransGen.head_induction_on generalizing w c with
  | refl =>
    obtain ⟨rfl, rfl⟩ := Prod.mk.inj hs
    exact ⟨1, run_succ_of_finished hfin 0⟩
  | @head s t hnext _ ih =>
    subst hs
    obtain ⟨fuel, hfuel⟩ := ih rfl
    exact ⟨fuel + 1, (run_succ_of_next hnext fuel).trans hfuel⟩

/-- A run with enough fuel returns exactly what its first state ends in. -/
lemma exists_run_iff_ends {w w' : World} {c : Compilation σ} {result : Except Failure Bundle} :
    (∃ fuel, run tc fuel w c = .ok (w', result)) ↔ Ends tc (w, c) w' result :=
  ⟨fun ⟨_, h⟩ => ends_of_run h, exists_run_of_ends⟩

end Compilation

end SnippetForge
