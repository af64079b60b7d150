import SnippetForge.Proofs.Tokens
import SnippetForge.Proofs.Webpack.Outcomes
import SnippetForge.Toolchain.Script

/-!
# Toolchains and the tokens they are handed

A toolchain is handed a token of its own, below the one of the caller. It is *discreet* if it leaves
all other tokens alone, except for those that it makes below its own. It is *honest* if it says that
it was cancelled only when its token is fired. Both are asked for in the states that a call can come
to, while the world goes on between its turns.
-/

namespace SnippetForge.Toolchain

open Tokens (Grows)

variable {σ : Type} {tc : Toolchain σ} {request : Request} {token : TokenId} {w w' : World}

/-- A call of a toolchain comes to a state in a world. Between two turns anything may happen, but a
token that is fired stays fired. -/
inductive Attains (tc : Toolchain σ) (request : Request) (token : TokenId) : World → σ → Prop
  | start (w : World) :
      Attains tc request token (tc.start w request token).1 (tc.start w request token).2
  | turn {w w' : World} {s s' : σ} (before : Attains tc request token w s)
      (resumed : tc.resume w request token s = (w', .running s')) : Attains tc request token w' s'
  | meanwhile {w w' : World} {s : σ} (before : Attains tc request token w s)
      (fired : w.tokens.isFired token = true → w'.tokens.isFired token = true) :
      Attains tc request token w' s

/-- A toolchain leaves all tokens alone but its own and those below it. -/
structure IsDiscreet (tc : Toolchain σ) : Prop where
  start : ∀ (w : World) (request : Request) (token : TokenId), token < w.tokens.size →
    Grows {id | w.tokens.IsUnder id token} w.tokens (tc.start w request token).1.tokens
  resume : ∀ {w : World} {request : Request} {token : TokenId} {s : σ},
    tc.Attains request token w s → token < w.tokens.size →
    Grows {id | w.tokens.IsUnder id token} w.tokens (tc.resume w request token s).1.tokens

/-- A toolchain is cancelled only if its token is fired. -/
def IsHonest (tc : Toolchain σ) : Prop :=
  ∀ {w : World} {request : Request} {token : TokenId} {s : σ}, tc.Attains request token w s →
    (tc.resume w request token s).2 = .finished (.error .cancelled) →
    w.tokens.isFired token = true

/-- A toolchain that has nothing to do with tokens is discreet. -/
lemma isDiscreet_of_tokens_eq
    (start : ∀ w request token, (tc.start w request token).1.tokens = w.tokens)
    (resume : ∀ w request token s, tc.Attains request token w s →
      (tc.resume w request token s).1.tokens = w.tokens) : tc.IsDiscreet where
  start w request token _ := by
    rw [start]
    exact .refl _ _
  resume h _ := by
    rw [resume _ _ _ _ h]
    exact .refl _ _

/-! ### The webpack toolchain -/

section Webpack

open SnippetForge.Webpack

variable (program projectRoot : Path)

lemma tokens_start (w : World) (request : Request) :
    (Webpack.start program projectRoot w request).1.tokens = w.tokens := by
  unfold Webpack.start
  split <;> rfl

lemma Ready.tokens_eq {child : Machine.Child} {s : Supervision} {event : Event}
    (h : Ready w token child s w' event) : w'.tokens = w.tokens := by
  cases h <;> rfl

lemma tokens_resume (w : World) (token : TokenId) (state : RunState) :
    (Webpack.resume w token state).1.tokens = w.tokens := by
  cases state with
  | refused failure => rfl
  | supervised child s =>
    cases hverdict : s.verdict with
    | some verdict => simp [Webpack.resume, hverdict, World.reportAll]
    | none =>
      cases hnext : nextEvent? w token child s with
      | none => simp [Webpack.resume, hverdict, hnext]
      | some found =>
        have hready : found.1.tokens = w.tokens := Ready.tokens_eq (ready_of_nextEvent? hnext)
        simpa [Webpack.resume, hverdict, hnext, World.reportAll] using hready

lemma isDiscreet_webpack : (Toolchain.webpack program projectRoot).IsDiscreet :=
  isDiscreet_of_tokens_eq (fun w request _ => tokens_start program projectRoot w request)
    fun w _ token s _ => tokens_resume w token s

/-- Only the event of giving up makes a supervisor give up. -/
lemma eq_cancelled_of_step {s : Supervision} {event : Event} (undecided : s.verdict = none)
    (h : (s.step event).verdict = some .cancelled) : event = .cancelled := by
  have hsettle : ∀ s : Supervision, s.settle.verdict ≠ some .cancelled := by
    intro s hverdict
    obtain ⟨_, _, _, hcompleted⟩ := Supervision.complete?_eq_some_iff.mp hverdict
    cases hcompleted
  cases event with
  | exited status =>
    cases hstatus : s.status with
    | some _ => simp [Supervision.step, undecided, hstatus] at h
    | none =>
      rw [Supervision.step_exited undecided hstatus] at h
      exact absurd h (hsettle _)
  | delivered stream bytes =>
    rw [Supervision.step_delivered undecided, Supervision.verdict_change, undecided] at h
    cases h
  | closed stream =>
    rw [Supervision.step_closed undecided] at h
    exact absurd h (hsettle _)
  | cancelled => rfl

/-- A supervisor has given up only with reason to. -/
def HasReason (w : World) (token : TokenId) : RunState → Prop
  | .refused failure => failure ≠ .cancelled
  | .supervised _ s => s.verdict = some .cancelled → w.tokens.isFired token = true

lemma hasReason_of_attains {state : RunState}
    (h : (Toolchain.webpack program projectRoot).Attains request token w state) :
    HasReason w token state := by
  induction h with
  | start w =>
    have hstate : ((Toolchain.webpack program projectRoot).start w request token).2
        = (Webpack.start program projectRoot w request).2 := rfl
    rw [hstate]
    obtain ⟨_, _, hstart⟩ | ⟨_, hstart⟩ := start_cases program projectRoot w request <;>
      rw [hstart]
    · exact fun hverdict => by cases hverdict
    · exact fun hfailure => by cases hfailure
  | @turn w w' state state' before resumed ih =>
    cases state with
    | refused failure =>
      have hturn : (Webpack.resume w token (.refused failure)).2 = .running state' :=
        congrArg Prod.snd resumed
      cases hturn
    | supervised child s =>
      have htokens : w'.tokens = w.tokens := by
        rw [← tokens_resume w token (.supervised child s)]
        exact congrArg (fun turn => turn.1.tokens) resumed.symm
      obtain ⟨undecided, w₁, event, hnext, rfl⟩ :=
        running_cases (congrArg Prod.snd resumed)
      intro hverdict
      obtain rfl := eq_cancelled_of_step undecided hverdict
      rw [htokens]
      cases ready_of_nextEvent? hnext with
      | stream _ found =>
        obtain ⟨-, hevent | ⟨_, hevent⟩⟩ := streamEvent?_cases found <;> cases hevent
      | cancelled fired => exact fired
  | @meanwhile _ _ state before fired ih =>
    cases state with
    | refused failure => exact ih
    | supervised child s => exact fun hverdict => fired (ih hverdict)

lemma isHonest_webpack : (Toolchain.webpack program projectRoot).IsHonest := by
  intro w request token state hattains hresult
  have hreason := hasReason_of_attains program projectRoot hattains
  have hturn : (Webpack.resume w token state).2 = .finished (.error .cancelled) := hresult
  cases state with
  | refused failure =>
    cases hturn
    exact absurd rfl hreason
  | supervised child s =>
    cases hverdict : s.verdict with
    | some verdict =>
      simp only [Webpack.resume, hverdict, Turn.finished.injEq] at hturn
      cases verdict with
      | cancelled => exact hreason hverdict
      | completed status output error =>
        rw [Verdict.result] at hturn
        split at hturn <;> cases hturn
    | none =>
      cases hnext : nextEvent? w token child s <;> simp [Webpack.resume, hverdict, hnext] at hturn

end Webpack

/-! ### A toolchain that waits to be cancelled -/

/-- A toolchain that waits until its token is fired, and then returns as cancelled. -/
def patient : Toolchain (List ToolchainAction) :=
  .scripted [.awaitCancel, .finish (.error .cancelled)]

lemma resume_patient (w : World) (request : Request) (token : TokenId) :
    patient.resume w request token [.awaitCancel, .finish (.error .cancelled)] =
      (w, if w.tokens.isFired token then .running [.finish (.error .cancelled)] else .waiting) :=
  rfl

/-- It waits, or its token is fired. -/
lemma patient_cases {rest : List ToolchainAction} (h : patient.Attains request token w rest) :
    rest = [.awaitCancel, .finish (.error .cancelled)] ∨
      (rest = [.finish (.error .cancelled)] ∧ w.tokens.isFired token = true) := by
  induction h with
  | start w => exact .inl rfl
  | @turn w w' s s' before resumed ih =>
    obtain rfl | ⟨rfl, -⟩ := ih
    · rw [resume_patient, Prod.mk.injEq] at resumed
      obtain ⟨rfl, hturn⟩ := resumed
      split at hturn
      · next hfired =>
        cases hturn
        exact .inr ⟨rfl, hfired⟩
      · cases hturn
    · cases resumed
  | meanwhile before fired ih => exact ih.imp_right fun h => ⟨h.1, fired h.2⟩

lemma isDiscreet_patient : patient.IsDiscreet := by
  refine isDiscreet_of_tokens_eq (fun _ _ _ => rfl) fun w request token s h => ?_
  obtain rfl | ⟨rfl, -⟩ := patient_cases h <;> rfl

lemma isHonest_patient : patient.IsHonest := by
  intro w request token s h hresult
  obtain rfl | ⟨rfl, hfired⟩ := patient_cases h
  · rw [resume_patient] at hresult
    dsimp only at hresult
    split at hresult <;> cases hresult
  · exact hfired

end SnippetForge.Toolchain
