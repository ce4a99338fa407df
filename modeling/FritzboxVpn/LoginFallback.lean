import FritzboxVpn.FailedPolls

namespace FritzboxVpn.LoginFallback

open Constants Exceptions FailedPolls FetchErrors Interaction Interaction.Program Session

variable {account : Account} {partner : Partner Request Answer} {w : SessionWorld} {v : Bool}

def protocolOf : Request → Protocol
  | .loginPage protocol _ | .login protocol _ _ _ | .restVpn protocol _ | .dataLua protocol _
  | .put protocol _ _ _ => protocol
  | .loginPageHttp _ => .http

def served : Answer → Bool
  | .ok response => response.status == httpStatusOk && response.body.toBool
  | .error _ => false

def escapes (x : Exchange) : Bool := (transportError x).any fun e => !e.isOSError

def callsForHttp (x : Exchange) : Prop :=
  (transportError x).isSome = true ∨
    ∃ response, x.2 = .ok response ∧ response.status ∈ httpsFallbackStatusCodes

/-- The discipline of the downgrade, for a call that made the exchanges, the
latest first. -/
structure Disciplined (before : Session.State) (made : List Exchange) (after : Session.State) :
    Prop where
  justified : before.protocol = .https → ∀ later x earlier, made = later ++ x :: earlier →
    protocolOf x.1 = .http → ∃ y ∈ earlier, protocolOf y.1 = .https ∧ callsForHttp y
  once : (made.filter fun x => protocolOf x.1 = .http).length ≤ 1
  protocol : after.protocol = .http ↔
    before.protocol = .http ∨ ∃ x ∈ made, protocolOf x.1 = .http ∧ served x.2 = true

def loginPageCall (account : Account) (v : Bool) (partner : Partner Request Answer)
    (s : Session.State) : SessionWorld :=
  (fetchLoginPage account v partner ⟨s, []⟩).2

/-- The HTTPS answer needs no fallback, or it is none of the code's own refusals,
or it is a fallback status and the HTTP request does not end in an OSError. -/
def Settled (v : Bool) (partner : Partner Request Answer) : Prop :=
  match partner [] (.loginPage .https v) with
  | .error _ => True
  | .ok response =>
      let overHttp := partner [(.loginPage .https v, .ok response)] (.loginPageHttp v)
      response.status = httpStatusOk ∨
        (response.status ∈ httpsFallbackStatusCodes ∧
          (served overHttp = true ∨ escapes (.loginPageHttp v, overHttp) = true))

section Calls

theorem getLoginPageHttp_answered {a : Answer} {ok : String → SessionWorld → Prop}
    {err : PyError → SessionWorld → Prop} (ha : partner w.trace (.loginPageHttp v) = a)
    (hok : served a = true → ∀ content,
      ok content ⟨{ w.state with protocol := .http }, (.loginPageHttp v, a) :: w.trace⟩)
    (herr : served a = false → ∀ e : PyError,
      e.isOSError = !escapes (.loginPageHttp v, a) →
        err e ⟨w.state, (.loginPageHttp v, a) :: w.trace⟩) :
    Yields partner w (getLoginPageHttp account v) ok err := by
  have caught : ∀ e : PyError, served a = false → escapes (.loginPageHttp v, a) = !e.isOSError →
      Yields partner ⟨w.state, (.loginPageHttp v, a) :: w.trace⟩ (handleLoginPageHttpError account e)
        (fun content w' => Yields partner w' (do
          update fun s => { s with protocol := .http }
          pure content) ok err) err := by
    intro e hs he
    rw [handleLoginPageHttpError, isTransport_eq]
    by_cases hc : e.isConnectionError = true
    · rw [if_pos hc, yields_throw]
      exact herr hs e (by rw [he, Bool.not_not])
    · rw [if_neg hc]
      by_cases hos : e.isOSError = true
      · rw [if_pos hos, yields_throw]
        exact herr hs _ (by rw [he, hos]; rfl)
      · rw [if_neg hos, yields_throw]
        exact herr hs e (by rw [he, Bool.not_not])
  rw [getLoginPageHttp, yields_bind, yields_tryCatch, yields_bind, send_answered, ha]
  cases a with
  | error e => exact caught e.val rfl rfl
  | ok response =>
      by_cases hs : response.status = httpStatusOk
      · simp only [if_neg (not_not.mpr hs)]
        apply readText_yields
        · intro content hb
          rw [yields_bind, yields_update, yields_pure]
          exact hok (by simp [served, hs, hb, Except.toBool]) content
        · intro e hb
          apply caught
          · simp [served, hb, Except.toBool]
          · rw [escapes, transportError, if_pos ⟨hs, rfl⟩, hb]
            rfl
      · simp only [if_pos hs, yields_throw]
        apply caught
        · simp [served, hs]
        · rw [escapes, transportError_of_status hs]
          rfl

end Calls

section Discipline

variable {s after : Session.State} {a a' : Answer}

def afterFallback (s : Session.State) (a : Answer) : Session.State :=
  if served a then { s with protocol := .http } else s

theorem disciplined_of_http (h : s.protocol = .http) :
    Disciplined s [(.loginPage .http v, a)] s where
  justified := fun hs => by rw [h] at hs; cases hs
  once := by simp [protocolOf]
  protocol := by simp [h]

theorem disciplined_of_https_only (h : s.protocol = .https) :
    Disciplined s [(.loginPage .https v, a)] s where
  justified := by
    intro _ later x earlier hmade hx
    have hmem : x ∈ [(Request.loginPage .https v, a)] := by
      rw [hmade]
      exact List.mem_append_right _ List.mem_cons_self
    rw [List.mem_singleton.mp hmem] at hx
    cases hx
  once := by simp [protocolOf]
  protocol := by simp [h, protocolOf]

theorem disciplined_of_fallback (a' : Answer) (h : s.protocol = .https)
    (hcalls : callsForHttp (.loginPage .https v, a)) :
    Disciplined s [(.loginPageHttp v, a'), (.loginPage .https v, a)] (afterFallback s a') where
  justified := by
    intro _ later x earlier hmade hx
    refine ⟨(.loginPage .https v, a), ?_, rfl, hcalls⟩
    cases later with
    | nil =>
        obtain ⟨-, rfl⟩ := List.cons.inj hmade
        exact List.mem_singleton.mpr rfl
    | cons z later =>
        obtain ⟨-, htail⟩ := List.cons.inj hmade
        have hmem : x ∈ [(Request.loginPage .https v, a)] := by
          rw [htail]
          exact List.mem_append_right _ List.mem_cons_self
        rw [List.mem_singleton.mp hmem] at hx
        cases hx
  once := by simp [protocolOf]
  protocol := by
    cases hs : served a' <;> simp [afterFallback, hs, h, protocolOf]

theorem not_disciplined_of_unjustified (h : s.protocol = .https)
    (hcalls : ¬callsForHttp (.loginPage .https v, a)) :
    ¬Disciplined s [(.loginPageHttp v, a'), (.loginPage .https v, a)] after := by
  intro hd
  obtain ⟨y, hy, _, hc⟩ := hd.justified h [] _ _ rfl rfl
  rw [List.mem_singleton.mp hy] at hc
  exact hcalls hc

theorem not_disciplined_of_twice {a'' : Answer} :
    ¬Disciplined s [(.loginPageHttp v, a''), (.loginPageHttp v, a'), (.loginPage .https v, a)]
      after := by
  intro hd
  exact absurd hd.once (by simp [protocolOf])

theorem not_callsForHttp {response : Response} (hs : response.status ≠ httpStatusOk)
    (hf : response.status ∉ httpsFallbackStatusCodes) :
    ¬callsForHttp (.loginPage .https v, .ok response) := by
  rintro (ht | ⟨response', hr, hmem⟩)
  · rw [transportError_of_status hs] at ht
    cases ht
  · cases hr
    exact hf hmem

end Discipline

theorem fallback_yields {s : Session.State} {rest : List Exchange} {P : SessionWorld → Prop}
    (h : ∀ a, P ⟨afterFallback s a, (.loginPageHttp v, a) :: rest⟩) :
    Yields partner ⟨s, rest⟩ (getLoginPageHttp account v) (fun _ => P) (fun _ => P) := by
  refine getLoginPageHttp_answered rfl ?_ ?_
  · intro hs _
    have hP := h (partner rest (.loginPageHttp v))
    rwa [afterFallback, if_pos hs] at hP
  · intro hs _ _
    have hP := h (partner rest (.loginPageHttp v))
    rwa [afterFallback, hs, if_neg (by decide)] at hP

theorem handleLoginPageError_over_https {s : Session.State} {rest : List Exchange} {e : PyError}
    {P : SessionWorld → Prop} (hs : s.protocol = .https)
    (hos : e.isOSError = true → ∀ a, P ⟨afterFallback s a, (.loginPageHttp v, a) :: rest⟩)
    (hother : e.isOSError = false → P ⟨s, rest⟩) :
    Yields partner ⟨s, rest⟩ (handleLoginPageError account v e) (fun _ => P) (fun _ => P) := by
  rw [handleLoginPageError, yields_bind, yields_read, isTransport_eq]
  by_cases he : e.isOSError = true
  · rw [if_pos he, if_neg (not_not.mpr hs)]
    exact fallback_yields (hos he)
  · rw [if_neg he, yields_throw]
    exact hother (Bool.eq_false_iff.mpr he)

theorem loginPageCall_over_http {s : Session.State} (h : s.protocol = .http) :
    loginPageCall account v partner s =
      ⟨s, [(.loginPage .http v, partner [] (.loginPage .http v))]⟩ := by
  have handed : ∀ a e, Yields partner ⟨s, [(.loginPage .http v, a)]⟩
      (handleLoginPageError account v e) (fun _ w' => w' = ⟨s, [(.loginPage .http v, a)]⟩)
      (fun _ w' => w' = ⟨s, [(.loginPage .http v, a)]⟩) := by
    intro a e
    rw [handleLoginPageError, yields_bind, yields_read]
    by_cases he : isTransport e = true
    · rw [if_pos he, if_pos (by rw [h]; decide), yields_throw]
    · rw [if_neg he, yields_throw]
  apply (yields_world (P := fun w' : SessionWorld =>
    w' = ⟨s, [(.loginPage .http v, partner [] (.loginPage .http v))]⟩)).mp
  rw [fetchLoginPage, yields_bind, yields_read, yields_tryCatch, yields_bind, send_answered, h]
  cases partner [] (.loginPage .http v) with
  | error e => exact handed _ e.val
  | ok response =>
      by_cases hs : response.status = httpStatusOk
      · simp only [if_pos hs]
        exact readText_yields (fun _ _ => rfl) fun e _ => handed _ e.val
      · simp only [if_neg hs, reduceCtorEq, false_and, if_false, yields_throw]
        exact handed _ _

/-- The discipline in a call from HTTPS, by the first answer. -/
theorem loginPageCall_over_https {s : Session.State} (h : s.protocol = .https) :
    Disciplined s (loginPageCall account v partner s).trace (loginPageCall account v partner s).state ↔
      Settled v partner := by
  apply (yields_world (P := fun w' => Disciplined s w'.trace w'.state ↔ Settled v partner)).mp
  rw [fetchLoginPage, yields_bind, yields_read, yields_tryCatch, yields_bind, send_answered, h]
  simp only [Settled]
  cases ha : partner [] (.loginPage .https v) with
  | error e =>
      refine handleLoginPageError_over_https h (fun _ a' => ?_) fun _ => ?_
      · exact iff_of_true (disciplined_of_fallback a' h (Or.inl rfl)) trivial
      · exact iff_of_true (disciplined_of_https_only h) trivial
  | ok response =>
      by_cases hs : response.status = httpStatusOk
      · simp only [if_pos hs]
        refine readText_yields (fun _ _ => ?_) fun e hb => ?_
        · exact iff_of_true (disciplined_of_https_only h) (Or.inl hs)
        · refine handleLoginPageError_over_https h (fun _ a' => ?_) fun _ => ?_
          · have hcalls : callsForHttp (.loginPage .https v, .ok response) := by
              rw [callsForHttp, transportError, if_pos ⟨hs, rfl⟩, hb]
              exact Or.inl rfl
            exact iff_of_true (disciplined_of_fallback a' h hcalls) (Or.inl hs)
          · exact iff_of_true (disciplined_of_https_only h) (Or.inl hs)
      · simp only [if_neg hs, true_and]
        by_cases hf : response.status ∈ httpsFallbackStatusCodes
        · rw [if_pos hf]
          have hcalls : callsForHttp (.loginPage .https v, .ok response) := Or.inr ⟨_, rfl, hf⟩
          have fell := fun a' => disciplined_of_fallback a' h hcalls
          refine getLoginPageHttp_answered rfl (fun hserved _ => ?_) fun hno e he => ?_
          · have hd := fell (partner [(.loginPage .https v, .ok response)] (.loginPageHttp v))
            rw [afterFallback, if_pos hserved] at hd
            exact iff_of_true hd (Or.inr ⟨hf, Or.inl hserved⟩)
          · refine handleLoginPageError_over_https h (fun hos a' => ?_) fun hos => ?_
            · refine iff_of_false not_disciplined_of_twice ?_
              rintro (hok | ⟨-, hserved | hesc⟩)
              · exact hs hok
              · rw [hno] at hserved
                cases hserved
              · rw [hesc, hos] at he
                cases he
            · rw [hos] at he
              have hesc := (Bool.not_eq_false' ..).mp he.symm
              have hd := fell (partner [(.loginPage .https v, .ok response)] (.loginPageHttp v))
              rw [afterFallback, hno, if_neg (by decide)] at hd
              exact iff_of_true hd (Or.inr ⟨hf, Or.inr hesc⟩)
        · rw [if_neg hf, yields_throw]
          refine handleLoginPageError_over_https h (fun _ a' => ?_) fun hos => ?_
          · refine iff_of_false (not_disciplined_of_unjustified h (not_callsForHttp hs hf)) ?_
            rintro (hok | ⟨hmem, -⟩)
            · exact hs hok
            · exact hf hmem
          · cases hos

/-- The downgrade is disciplined exactly when the session is on HTTP already or
the answers leave the handler nothing to catch that the code raised itself. -/
theorem disciplined_iff_settled (account : Account) (v : Bool) (partner : Partner Request Answer)
    (s : Session.State) :
    Disciplined s (loginPageCall account v partner s).trace (loginPageCall account v partner s).state ↔
      s.protocol = .http ∨ Settled v partner := by
  cases hp : s.protocol with
  | http =>
      rw [loginPageCall_over_http hp]
      exact iff_of_true (disciplined_of_http hp) (Or.inl rfl)
  | https =>
      rw [loginPageCall_over_https hp]
      simp only [reduceCtorEq, false_or]

def failingTls : Partner Request Answer
  | _, .loginPage .https _ => .ok ⟨500, "text/html", .ok "Internal Server Error"⟩
  | _, _ => .ok ⟨200, "text/xml", .ok "<SessionInfo></SessionInfo>"⟩

/-- Status 500 calls for no fallback, yet the page is asked for over HTTP. -/
theorem failingTls_undisciplined : ¬Disciplined {}
    (loginPageCall officeAccount true failingTls {}).trace
    (loginPageCall officeAccount true failingTls {}).state := by
  apply not_disciplined_of_unjustified (v := true) rfl
  exact not_callsForHttp (by decide) (by decide)

end FritzboxVpn.LoginFallback
