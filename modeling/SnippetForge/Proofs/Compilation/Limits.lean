import SnippetForge.Proofs.Compilation.Order
import SnippetForge.Proofs.Durations

/-!
# Limits in words

A limit that is reached is told twice, in a line of the log and in the failure that the compilation
gives. Both hold the text that tells it exactly, with nothing rounded, so each of them says which
limit it was: the failure because its text ends with the duration, the line because the duration is
the last word before its closing remark.

That the two are told of one limit is a matter of runs. The step at which a limit is reached logs the
line and leaves only one way out, whatever the toolchain still does and however it returns.
-/

namespace SnippetForge

open Duration (Tells)

/-! ### The failure and the line -/

lemma Failure.message_timeout (limit : Duration) :
    (Failure.timeout limit).message = "compilation timed out after " ++ limit.text :=
  rfl

lemma Failure.message_timeout_inj {limit limit' : Duration} :
    (Failure.timeout limit).message = (Failure.timeout limit').message ↔ limit = limit' := by
  rw [Failure.message_timeout, Failure.message_timeout, String.append_right_inj, Duration.text_inj]

/-- The last word of a line can be told from what is before it. -/
lemma Text.lastWord_inj {front front' word word' : List Char} (hword : ' ' ∉ word)
    (hword' : ' ' ∉ word') (h : front ++ ' ' :: word = front' ++ ' ' :: word') :
    front = front' ∧ word = word' := by
  have hkind : ∀ {l : List Char}, ' ' ∉ l → ∀ c ∈ l.reverse, (c != ' ') = true := by
    intro l hl c hc
    rw [List.mem_reverse] at hc
    exact bne_iff_ne.mpr fun heq => hl (heq ▸ hc)
  have hreverse : word.reverse ++ ' ' :: front.reverse = word'.reverse ++ ' ' :: front'.reverse := by
    simpa using congrArg List.reverse h
  obtain ⟨hlast, hrest⟩ := append_inj_of_kind (hkind hword) (hkind hword') (by simp) (by simp)
    hreverse
  exact ⟨List.reverse_injective (List.cons.inj hrest).2, List.reverse_injective hlast⟩

namespace Compilation

variable {σ : Type} {tc : Toolchain σ}

lemma expiredLine_inj {name name' : String} {limit limit' : Duration} :
    expiredLine name limit = expiredLine name' limit' ↔ name = name' ∧ limit = limit' := by
  constructor
  · intro h
    have hmessage := congrArg LogLine.message h
    simp only [expiredLine, LogLine.warn, String.append_left_inj] at hmessage
    have hchars := congrArg String.toList hmessage
    have hphrase : " did not finish within ".toList = " did not finish within".toList ++ [' '] := by
      decide
    rw [String.toList_append, String.toList_append, String.toList_append, String.toList_append,
      hphrase, ← List.append_assoc, ← List.append_assoc, List.append_assoc _ [' '],
      List.append_assoc _ [' ']] at hchars
    obtain ⟨hfront, hword⟩ := Text.lastWord_inj limit.space_notMem_text limit'.space_notMem_text hchars
    exact ⟨String.toList_injective (List.append_cancel_right hfront),
      Duration.text_inj.mp (String.toList_injective hword)⟩
  · rintro ⟨rfl, rfl⟩
    rfl

/-! ### Along a run -/

variable {w w' : World} {c c' : Compilation σ} {limit : Duration} {token : TokenId}
  {before after : Tokens}

/-- Only a toolchain that is at work and waits when its time is up is stopped. -/
lemma bundling_of_stopped (deed : deed? tc w c w' = some (.stopped limit token before after)) :
    ∃ area request deadline s, c.phase = .bundling area request token deadline s ∧
      (tc.resume w request token s).2 = .waiting ∧ isExpired w deadline = some limit := by
  unfold deed? at deed
  split at deed
  case h_3 area request token' deadline s hphase =>
    split at deed
    case h_2 hwait =>
      obtain ⟨limit', hexpired, hdeed⟩ := Option.map_eq_some_iff.mp deed
      obtain ⟨rfl, rfl, -, -⟩ := Deed.stopped.inj hdeed
      exact ⟨area, request, deadline, s, hphase, hwait, hexpired⟩
    all_goals simp at deed
  -- The phases that look into the world before they know their deed.
  case h_1 => split at deed <;> simp at deed
  case h_2 => split at deed <;> simp at deed
  case h_4 => split at deed <;> simp at deed
  all_goals simp at deed

/-- The step at which a limit is reached logs the line and leaves it to the toolchain to stop. -/
lemma Move.of_stopped (h : Move tc w c w' c')
    (deed : deed? tc w c w' = some (.stopped limit token before after)) :
    w'.log = w.log ++ [expiredLine tc.name limit] ∧
      ∃ area request s, c'.phase = .stopping area request token limit s := by
  obtain ⟨area, request, deadline, s, hphase, hwait, hexpired⟩ := bundling_of_stopped deed
  have hexpire := Move.expire hphase hwait hexpired
  obtain ⟨rfl, rfl⟩ := Prod.mk.inj (Option.some.inj (h.step_eq.symm.trans hexpire.step_eq))
  exact ⟨rfl, area, request, s, rfl⟩

/-- A run in which a limit is reached logs its line at one of its steps and gives the failure of that
limit, whatever the toolchain does after that. -/
lemma told_of_run {fuel : Nat} {result : Except Failure Bundle}
    (h : run tc fuel w c = .ok (w', result))
    (stopped : .stopped limit token before after ∈ deeds tc fuel w c) :
    result = .error (.timeout limit) ∧ ∃ v v' d d', Reaches tc (w, c) (v, d) ∧
      step tc v d = some (v', d') ∧ v'.log = v.log ++ [expiredLine tc.name limit] := by
  induction fuel generalizing w c with
  | zero => simp [run] at h
  | succ fuel ih =>
    rcases run_succ_cases h with ⟨hfin, -⟩ | ⟨w₁, c₁, hstep, hrun⟩ |
      ⟨w₁, unfinished, idle, passed, hrun⟩
    · rw [deeds_succ_of_finished hfin] at stopped
      simp at stopped
    · have hmove := move_of_step hstep
      rw [deeds_succ_of_move hmove, List.mem_append] at stopped
      rcases stopped with hdeed | hrest
      · obtain ⟨hlog, area, request, s, hphase⟩ := hmove.of_stopped (Option.mem_toList.mp hdeed)
        obtain ⟨-, -, -, -, hresult⟩ := (ends_stopping hphase).mp (ends_of_run hrun)
        exact ⟨hresult, w, w₁, c, c₁, .refl, hstep, hlog⟩
      · obtain ⟨hresult, v, v', d, d', hreach, hlogged⟩ := ih hrun hrest
        exact ⟨hresult, v, v', d, d', .head hmove.next hreach, hlogged⟩
    · rw [deeds_succ_of_wait unfinished idle passed] at stopped
      obtain ⟨hresult, v, v', d, d', hreach, hlogged⟩ := ih hrun stopped
      exact ⟨hresult, v, v', d, d', .head (.wait unfinished idle passed) hreach, hlogged⟩

/-- Every limit is told by one text, exactly, and that is what the failure of a limit and the line in
the log hold. So neither is the same for two limits. In a run in which a limit is reached, both tell
that limit: a step logs the line, and the run gives the failure. -/
theorem limits_told_exactly (tc : Toolchain σ) :
    (∀ limit : Duration, ∃ t, (∀ t', Tells t' limit ↔ t' = t) ∧
      (Failure.timeout limit).message = "compilation timed out after " ++ t ∧
      ∀ name, expiredLine name limit
        = .warn (name ++ " did not finish within " ++ t ++ ", cancelling")) ∧
    (∀ limit limit' : Duration,
      (Failure.timeout limit).message = (Failure.timeout limit').message ↔ limit = limit') ∧
    (∀ (name name' : String) (limit limit' : Duration),
      expiredLine name limit = expiredLine name' limit' ↔ name = name' ∧ limit = limit') ∧
    ∀ (fuel : Nat) (w w' : World) (c : Compilation σ) (result : Except Failure Bundle)
      (limit : Duration) (token : TokenId) (before after : Tokens),
      run tc fuel w c = .ok (w', result) →
      .stopped limit token before after ∈ deeds tc fuel w c →
      result = .error (.timeout limit) ∧ ∃ v v' d d', Reaches tc (w, c) (v, d) ∧
        step tc v d = some (v', d') ∧ v'.log = v.log ++ [expiredLine tc.name limit] := by
  refine ⟨fun limit => ⟨limit.text, fun t' => Duration.tells_iff, rfl, fun name => rfl⟩, ?_, ?_, ?_⟩
  · exact fun limit limit' => Failure.message_timeout_inj
  · exact fun name name' limit limit' => expiredLine_inj
  · exact fun fuel w w' c result limit token before after h stopped => told_of_run h stopped

/-- A call with a limit of little more than a millisecond. -/
def impatient : CompileOptions :=
  ⟨some (.ofNanos 1050000), none⟩

/-- A limit of a millisecond and some microseconds is told to the last of them, in the failure and in
the log. -/
theorem limits_told_exactly_late :
    ∃ w' result token before after,
      run lingering 20 keptWorld (new (.forProject ⟨"/tmp"⟩) "x" "js" impatient)
        = .ok (w', result) ∧
      .stopped (.ofNanos 1050000) token before after
        ∈ deeds lingering 20 keptWorld (new (.forProject ⟨"/tmp"⟩) "x" "js" impatient) ∧
      Tells "1.05ms" (.ofNanos 1050000) ∧
      (∃ failure, result = .error failure ∧
        failure.message = "compilation timed out after 1.05ms") ∧
      ∃ v v' d d',
        Reaches lingering (keptWorld, new (.forProject ⟨"/tmp"⟩) "x" "js" impatient) (v, d) ∧
        step lingering v d = some (v', d') ∧
        v'.log = v.log ++ [.warn "scripted did not finish within 1.05ms, cancelling"] := by
  have returns : (run lingering 20 keptWorld
      (new (.forProject ⟨"/tmp"⟩) "x" "js" impatient)).toOption.isSome = true := by decide +kernel
  have stops : (deeds lingering 20 keptWorld (new (.forProject ⟨"/tmp"⟩) "x" "js" impatient)).any
      (fun deed => match deed with
        | .stopped limit _ _ _ => limit = .ofNanos 1050000
        | _ => false) = true := by decide +kernel
  have hmessage : (Failure.timeout (.ofNanos 1050000)).message
      = "compilation timed out after 1.05ms" := by decide +kernel
  obtain ⟨told, -, -, runs⟩ := limits_told_exactly lingering
  obtain ⟨t, tells, message, line⟩ := told (.ofNanos 1050000)
  obtain rfl : t = "1.05ms" := (String.append_right_inj _).mp (message.symm.trans hmessage)
  cases h : run lingering 20 keptWorld (new (.forProject ⟨"/tmp"⟩) "x" "js" impatient) with
  | error _ => simp [h, Except.toOption] at returns
  | ok returned =>
    obtain ⟨w', result⟩ := returned
    obtain ⟨deed, stopped, hlimit⟩ := List.any_eq_true.mp stops
    cases deed with
    | stopped limit token before after =>
      obtain rfl : limit = .ofNanos 1050000 := by simpa using hlimit
      obtain ⟨hresult, v, v', d, d', hreach, hstep, hlog⟩ := runs _ _ _ _ _ _ _ _ _ h stopped
      refine ⟨w', result, token, before, after, rfl, stopped, (tells _).mpr rfl,
        ⟨_, hresult, message⟩, v, v', d, d', hreach, hstep, ?_⟩
      rw [hlog, line]
      rfl
    | _ => simp at hlimit

end Compilation

end SnippetForge
