import FritzboxVpn.CoordinatorSteps
import Mathlib.Tactic.NormNum

namespace FritzboxVpn.RecoveryCap

open Coordinator CoordinatorSteps Exceptions HomeAssistant JsonValue MemoryRegistry OrderedDict Runs

variable {env : Env}

def ConnectivityFailure (r : PollRecord) : Prop :=
  ∃ failed, r.output.outcome = .error failed ∧ failed.kind = .connectivity

inductive LastFailure : List PollRecord → ℚ → Prop
  | here {r hist} (h : ConnectivityFailure r) : LastFailure (r :: hist) r.input.2.later
  | there {r hist t} (h : ¬ ConnectivityFailure r) (ht : LastFailure hist t) : LastFailure (r :: hist) t

theorem LastFailure.unique {hist : List PollRecord} {t t' : ℚ} (h : LastFailure hist t)
    (h' : LastFailure hist t') : t = t' := by
  induction h with
  | here hf =>
      cases h' with
      | here => rfl
      | there hn => exact absurd hf hn
  | there hn ht ih =>
      cases h' with
      | here hf => exact absurd hf hn
      | there _ ht' => exact ih ht'

structure RecoveryOrigin (hist : List PollRecord) (c : State) : Prop where
  until_iff : c.recoveringUntil = none ↔ c.recoveryStartedAt = none
  failed : c.inRecovery = true → ∃ t, LastFailure hist t
  first : ∀ t, c.recoveryStartedAt = some t → ∃ r ∈ hist, ConnectivityFailure r ∧
    r.before.inRecovery = false ∧ r.input.2.later = t

theorem finishPoll_times (env : Env) (c : State) (p : Poll) (connections : Dict String Json) :
    (finishPoll env c p connections).2.recoveringUntil = none ∧
        (finishPoll env c p connections).2.recoveryStartedAt = none ∨
      (finishPoll env c p connections).2.recoveringUntil = c.recoveringUntil ∧
        (finishPoll env c p connections).2.recoveryStartedAt = c.recoveryStartedAt := by
  have ht : (trackPoll env c connections.keys).2.recoveringUntil = c.recoveringUntil ∧
      (trackPoll env c connections.keys).2.recoveryStartedAt = c.recoveryStartedAt := by
    rw [trackPoll]
    split
    · exact ⟨rfl, rfl⟩
    · exact ⟨rememberData_recoveringUntil env c, rememberData_recoveryStartedAt env c⟩
  rcases noteSuccessfulPoll_cases (trackPoll env c connections.keys).2 connections p.later with
    ⟨n, h⟩ | ⟨-, h⟩
  · right
    simp only [finishPoll, h]
    exact ht
  · left
    simp only [finishPoll, h]
    exact ⟨rfl, rfl⟩

theorem scheduleReauth_times (env : Env) (hass : Hass) (c : State) :
    (scheduleReauth env hass c).2.recoveringUntil = c.recoveringUntil ∧
      (scheduleReauth env hass c).2.recoveryStartedAt = c.recoveryStartedAt := by
  rcases scheduleReauth_cases env c hass with h | h <;>
    exact ⟨by rw [h], by rw [h]⟩

/-- The step lemma: a poll keeps the recovery clock, clears it, or, where it
fails with a connectivity error, starts it. -/
theorem poll_times {hass : Hass} {c : State} {p : Poll} {report : Report} {c' : State} {hass' : Hass}
    (h : PollStep env hass c p report c' hass') :
    (∃ failed, report.outcome = .error failed ∧ failed.kind = .connectivity) ∧
        c'.inRecovery = true ∧ c'.recoveryStartedAt = some (c.recoveryStartedAt.getD p.later) ∨
      (¬ ∃ failed, report.outcome = .error failed ∧ failed.kind = .connectivity) ∧
        (c'.recoveringUntil = none ∧ c'.recoveryStartedAt = none ∨
          c'.recoveringUntil = c.recoveringUntil ∧ c'.recoveryStartedAt = c.recoveryStartedAt) := by
  cases h with
  | accepted connections c₁ c₂ hass' hf hin hr =>
      right
      refine ⟨?_, ?_⟩
      · rintro ⟨failed, h, -⟩
        cases h
      · have hs := applyUidRemap_sameRecovery hr
        rcases finishPoll_times env c₂ p connections with h | h
        · exact Or.inl h
        · cases hin with
          | asIs =>
              right
              exact ⟨h.1.trans hs.recoveringUntil, h.2.trans hs.recoveryStartedAt⟩
          | cap =>
              left
              exact ⟨h.1.trans hs.recoveringUntil, h.2.trans hs.recoveryStartedAt⟩
  | emptyRefused connections hf he hrec hhad hmax report hout hnew =>
      right
      refine ⟨?_, Or.inr ⟨rfl, rfl⟩⟩
      obtain ⟨failed, ho, hk⟩ := hout
      rintro ⟨failed', ho', hk'⟩
      rw [ho, Except.error.injEq] at ho'
      rw [← ho', hk] at hk'
      cases hk'
  | authentication err c₁ hass' hc ha text =>
      right
      refine ⟨?_, Or.inr ?_⟩
      · rintro ⟨failed, ho, hk⟩
        have hkind : failed.kind = .authentication := by
          rw [failAuthentication, Except.error.injEq] at ho
          rw [← ho]
        rw [hkind] at hk
        cases hk
      · have hs := scheduleReauth_times env hass' c₁
        rw [hc.eq] at hs ⊢
        exact hs
  | connectivity err c₁ hass' hc ha text =>
      left
      refine ⟨⟨_, rfl, rfl⟩, armRecovery_inRecovery env c₁ p, ?_⟩
      have hs := armRecovery_recoveryStartedAt env c₁ p
      rw [hc.eq] at hs ⊢
      exact hs

theorem recoveryOrigin {hist : List PollRecord} {c : State} (h : Run (pollMachine env) hist c) :
    RecoveryOrigin hist c := by
  refine Run.invariant ?_ ?_ h
  · exact ⟨Iff.rfl, by simp [pollMachine, State.inRecovery], by simp [pollMachine]⟩
  · intro hist c i hrun ih
    have hstep := poll_step env i.1 c i.2
    have hmem : ∀ t, c.recoveryStartedAt = some t → ∃ r ∈ (pollMachine env).record c i :: hist,
        ConnectivityFailure r ∧ r.before.inRecovery = false ∧ r.input.2.later = t := by
      intro t ht
      obtain ⟨r, hr, hrest⟩ := ih.first t ht
      exact ⟨r, List.mem_cons_of_mem _ hr, hrest⟩
    rcases poll_times hstep with ⟨hf, hrec, hs⟩ | ⟨hf, ⟨hu, hs⟩ | ⟨hu, hs⟩⟩
    · refine ⟨?_, fun _ => ⟨_, LastFailure.here hf⟩, ?_⟩
      · constructor
        · intro hn
          rw [State.inRecovery] at hrec
          change (poll env i.1 c i.2).1.2.recoveringUntil = none at hn
          rw [hn] at hrec
          cases hrec
        · intro hn
          change (poll env i.1 c i.2).1.2.recoveryStartedAt = none at hn
          rw [hs] at hn
          cases hn
      · intro t ht
        change (poll env i.1 c i.2).1.2.recoveryStartedAt = some t at ht
        cases hst : c.recoveryStartedAt with
        | some t₀ =>
            rw [hs, hst, Option.getD_some] at ht
            exact hmem t (hst.trans ht)
        | none =>
            rw [hs, hst, Option.getD_none, Option.some.injEq] at ht
            refine ⟨_, List.mem_cons_self, hf, ?_, ht⟩
            have hn := ih.until_iff.mpr hst
            change c.recoveringUntil.isSome = false
            rw [hn]
            rfl
    · refine ⟨⟨fun _ => hs, fun _ => hu⟩, ?_, ?_⟩
      · intro hrec
        change (poll env i.1 c i.2).1.2.recoveringUntil.isSome = true at hrec
        rw [hu] at hrec
        cases hrec
      · intro t ht
        change (poll env i.1 c i.2).1.2.recoveryStartedAt = some t at ht
        rw [hs] at ht
        cases ht
    · refine ⟨?_, ?_, ?_⟩
      · change (poll env i.1 c i.2).1.2.recoveringUntil = none ↔
          (poll env i.1 c i.2).1.2.recoveryStartedAt = none
        rw [hu, hs]
        exact ih.until_iff
      · intro hrec
        change (poll env i.1 c i.2).1.2.recoveringUntil.isSome = true at hrec
        rw [hu] at hrec
        obtain ⟨t, ht⟩ := ih.failed hrec
        exact ⟨t, LastFailure.there hf ht⟩
      · intro t ht
        change (poll env i.1 c i.2).1.2.recoveryStartedAt = some t at ht
        rw [hs] at ht
        exact hmem t ht

structure EmptyAccepted (r : PollRecord) : Prop where
  recovering : r.before.inRecovery = true
  seen : r.before.seenUids ≠ ∅
  answer : ∃ connections, r.input.2.fetch = .ok connections ∧ connections.isEmpty = true ∧
    r.output.outcome = .ok connections
  cleared : r.after.inRecovery = false

/-- The hard cap, counted from the start of the recovery, has passed, and
counted from the last failed poll it has not. -/
structure CapTooEarly (env : Env) (r : PollRecord) (hist : List PollRecord) : Prop where
  recovering : r.before.inRecovery = true
  seen : r.before.seenUids ≠ ∅
  answer : ∃ connections, r.input.2.fetch = .ok connections ∧ connections.isEmpty = true
  gap : ∃ start last, r.before.recoveryStartedAt = some start ∧ LastFailure hist last ∧
    start + recoveryMaxSeconds env.updateIntervalSeconds ≤ r.input.2.now ∧
      r.input.2.now < last + recoveryMaxSeconds env.updateIntervalSeconds

theorem hadConnections_of_seen {c : State} (h : c.seenUids ≠ ∅) : hadConnections c = true := by
  rw [hadConnections, decide_eq_true_eq]
  exact Or.inl h

theorem recoveryMaxElapsed_iff {c : State} {now : ℚ} : recoveryMaxElapsed env c now = true ↔
    ∃ start, c.recoveryStartedAt = some start ∧
      start + recoveryMaxSeconds env.updateIntervalSeconds ≤ now := by
  rw [recoveryMaxElapsed]
  cases c.recoveryStartedAt <;> simp

/-- An empty list that meets recovery is accepted exactly after the cap. -/
theorem emptyAccepted_iff {hass : Hass} {c : State} {p : Poll} {connections : Dict String Json}
    (hf : p.fetch = .ok connections) (he : connections.isEmpty = true) (hrec : c.inRecovery = true)
    (hseen : c.seenUids ≠ ∅) :
    EmptyAccepted ((pollMachine env).record c (hass, p)) ↔
      recoveryMaxElapsed env c p.now = true := by
  have hguard : (connections.isEmpty && c.inRecovery && hadConnections c) = true := by
    rw [he, hrec, hadConnections_of_seen hseen]
    rfl
  cases hmax : recoveryMaxElapsed env c p.now with
  | true =>
      have happly : applyUidRemapIfNeeded env hass
          (rememberConnectionNames env (clearRecovery c) connections) connections =
            (.ok (rememberConnectionNames env (clearRecovery c) connections), hass) :=
        applyUidRemapIfNeeded_outside rfl
      have hpoll : asyncUpdateData env hass c p =
          (finishPoll env (rememberConnectionNames env (clearRecovery c) connections) p connections, hass) := by
        simp [asyncUpdateData, hf, hguard, hmax, processConnections, happly]
      simp only [iff_true]
      refine ⟨hrec, hseen, ⟨connections, hf, he, ?_⟩, ?_⟩
      · change (poll env hass c p).1.1.outcome = .ok connections
        rw [poll, hpoll]
        rfl
      · change (poll env hass c p).1.2.inRecovery = false
        rw [poll, hpoll]
        rcases finishPoll_times env
          (rememberConnectionNames env (clearRecovery c) connections) p connections with h | h
        · exact congrArg Option.isSome h.1
        · exact congrArg Option.isSome h.1
  | false =>
      simp only [Bool.false_eq_true, iff_false]
      intro h
      obtain ⟨connections', -, -, ho⟩ := h.answer
      change (poll env hass c p).1.1.outcome = .ok connections' at ho
      simp only [poll, asyncUpdateData, hf, hguard, hmax] at ho
      cases ho

/-- An accepted empty list comes late enough after the last failed poll exactly
where the two ways to count the cap agree on it. -/
theorem empty_accepted_late_iff {r : PollRecord} {hist : List PollRecord} {c : State}
    (h : Run (pollMachine env) (r :: hist) c) :
    (EmptyAccepted r → ∃ last, LastFailure hist last ∧
        last + recoveryMaxSeconds env.updateIntervalSeconds ≤ r.input.2.now) ↔
      ¬ CapTooEarly env r hist := by
  obtain ⟨hrun, hr, -⟩ := h.of_cons
  constructor
  · rintro hclaim ⟨hrec, hseen, ⟨connections, hf, he⟩, start, last, hs, hl, hpast, hgap⟩
    have hacc : EmptyAccepted r := by
      rw [hr]
      exact (emptyAccepted_iff hf he hrec hseen).mpr (recoveryMaxElapsed_iff.mpr ⟨start, hs, hpast⟩)
    obtain ⟨last', hl', hle⟩ := hclaim hacc
    rw [hl'.unique hl] at hle
    exact absurd hgap (not_lt.mpr hle)
  · intro hno hacc
    obtain ⟨connections, hf, he, -⟩ := hacc.answer
    obtain ⟨last, hl⟩ := (recoveryOrigin hrun).failed hacc.recovering
    refine ⟨last, hl, ?_⟩
    by_contra hlt
    have hmax := (emptyAccepted_iff hf he hacc.recovering hacc.seen).mp (hr ▸ hacc)
    obtain ⟨start, hs, hpast⟩ := recoveryMaxElapsed_iff.mp hmax
    exact hno ⟨hacc.recovering, hacc.seen, ⟨connections, hf, he⟩, start, last, hs, hl, hpast,
      not_le.mp hlt⟩

theorem connectivityFailure_of_fetch {hass : Hass} {c : State} {p : Poll} {err : PyError}
    (hf : p.fetch = .error err) (ha : authRaised err = false) :
    ConnectivityFailure ((pollMachine env).record c (hass, p)) := by
  obtain ⟨text, h⟩ := poll_of_fetch_error env hass c hf ha
  refine ⟨⟨text ++ err.message, some Constants.retryAfterSeconds, .connectivity⟩, ?_, rfl⟩
  change (poll env hass c p).1.1.outcome = _
  rw [h]
  rfl

def clockReadings (hist : List PollRecord) : List ℚ :=
  hist.reverse.flatMap fun r => [r.input.2.now, r.input.2.later]

def failedPoll (t : ℚ) : Hass × Poll :=
  (emptyHass, ⟨.error (connectionError "connection refused"), t, t⟩)

def listingPoll (connections : Dict String Json) (t : ℚ) : Hass × Poll :=
  (emptyHass, ⟨.ok connections, t, t⟩)

/-- An outage from 0 to 500 seconds: the empty list one second later ends the
recovery, where 360 seconds were to pass. -/
def longOutage : List (Hass × Poll) :=
  [listingPoll Dict.empty 501, failedPoll 500, failedPoll 0, listingPoll (office "a") 0]

theorem empty_accepted_too_early : ∃ r hist c, Run (pollMachine memoryEnv) (r :: hist) c ∧
    (clockReadings (r :: hist)).Pairwise (· ≤ ·) ∧ EmptyAccepted r ∧
      ¬ ∃ last, LastFailure hist last ∧
        last + recoveryMaxSeconds memoryEnv.updateIntervalSeconds ≤ r.input.2.now := by
  have hlast : LastFailure ((pollMachine memoryEnv).play longOutage.tail).1 500 := by
    apply LastFailure.here (r := (pollMachine memoryEnv).record _ (failedPoll 500))
    exact connectivityFailure_of_fetch rfl (by decide +kernel)
  refine ⟨_, _, _, run_play (pollMachine memoryEnv) longOutage, by decide +kernel, ?_, ?_⟩
  · exact (emptyAccepted_iff rfl rfl (by decide +kernel) (by decide +kernel)).mpr (by decide +kernel)
  · rintro ⟨last, hl, hle⟩
    rw [hl.unique hlast] at hle
    revert hle
    decide +kernel

theorem empty_accepted_longOutage :
    (EmptyAccepted ((pollMachine memoryEnv).record ((pollMachine memoryEnv).play longOutage.tail).2
        (listingPoll Dict.empty 501)) → ∃ last,
      LastFailure ((pollMachine memoryEnv).play longOutage.tail).1 last ∧
        last + recoveryMaxSeconds memoryEnv.updateIntervalSeconds ≤ 501) ↔
      ¬ CapTooEarly memoryEnv ((pollMachine memoryEnv).record
        ((pollMachine memoryEnv).play longOutage.tail).2 (listingPoll Dict.empty 501))
        ((pollMachine memoryEnv).play longOutage.tail).1 :=
  empty_accepted_late_iff (run_play (pollMachine memoryEnv) longOutage)

end FritzboxVpn.RecoveryCap
