import Gatehouse.Proofs.Visits

/-!
# What the counters tell

Three counters are kept, of attempts, of questions to the authority and of updates, and they
are incremented in many places. Who reads them wants to take them for the numbers of what has
happened, so every event must be counted once, under the labels that belong to it:

> after any run the counters agree with the requests that came (`Session.visits`), with the
> updates that were offered (`Session.history`), and with each other (`Session.accounts_run`).

With the three ways to count a visit it is addition. `Session.Balanced` holds of one visit, of
some offers, and of two parts if it holds of both, and a run is put together from such parts.
-/

set_option autoImplicit false

namespace Gatehouse

/-! ## Reading counters -/

namespace Count

/-- How often a counter was incremented, whatever the labels. -/
def total (name : String) (cs : List Count) : Nat := cs.countP fun c => c.name = name

/-- How often it was incremented under one label. -/
def under (name : String) (label : String × String) (cs : List Count) : Nat :=
  cs.countP fun c => c.name = name ∧ label ∈ c.labels

def attemptsTotal : String := "credgate_auth_attempts_total"

def verificationsTotal : String := "credgate_remote_verifications_total"

def replacementsTotal : String := "credgate_cache_replacements_total"

section
variable (name : String) (label : String × String) (c : Count) (first rest : List Count)

@[simp] theorem total_nil : total name [] = 0 := rfl

@[simp] theorem total_cons :
    total name (c :: rest) = total name rest + if c.name = name then 1 else 0 := by
  simp [total, List.countP_cons]

@[simp] theorem total_append : total name (first ++ rest) = total name first + total name rest :=
  List.countP_append

@[simp] theorem under_nil : under name label [] = 0 := rfl

@[simp] theorem under_cons : under name label (c :: rest)
    = under name label rest + if c.name = name ∧ label ∈ c.labels then 1 else 0 := by
  simp [under, List.countP_cons]

@[simp] theorem under_append :
    under name label (first ++ rest) = under name label first + under name label rest :=
  List.countP_append

end

section
variable {name : String} {cs : List Count}

/-- Other counters do not count. -/
theorem total_of_other (h : ∀ c ∈ cs, c.name ≠ name) : total name cs = 0 :=
  List.countP_eq_zero.mpr fun c hc hn => h c hc (of_decide_eq_true hn)

theorem under_of_other (h : ∀ c ∈ cs, c.name ≠ name) (label : String × String) :
    under name label cs = 0 :=
  List.countP_eq_zero.mpr fun c hc hn => h c hc (of_decide_eq_true hn).1

end

section
variable (label : String)

theorem under_outcome_attempt (m : Mechanism) (o : Attempt) :
    under attemptsTotal ("outcome", label) [.attempt m o] = if o.label = label then 1 else 0 := by
  simp [Count.name, Count.labels, attemptsTotal, eq_comm]

theorem under_mechanism_attempt (m : Mechanism) (o : Attempt) :
    under attemptsTotal ("mechanism", label) [.attempt m o]
      = if m.label = label then 1 else 0 := by
  simp [Count.name, Count.labels, attemptsTotal, eq_comm]

theorem under_outcome_verification (v : Verification) :
    under verificationsTotal ("outcome", label) [.verification v]
      = if v.label = label then 1 else 0 := by
  simp [Count.name, Count.labels, verificationsTotal, eq_comm]

theorem under_outcome_replacement (r : Replacement) :
    under replacementsTotal ("outcome", label) [.replacement r]
      = if r.label = label then 1 else 0 := by
  simp [Count.name, Count.labels, replacementsTotal, eq_comm]

end

end Count

namespace Session

/-! ## The balance -/

section
open Gatehouse.Count

/-- Attempts are counted by how they ended, and by what was presented. -/
structure AttemptsAgree (visits : List Visit) (cs : List Count) : Prop where
  all : total attemptsTotal cs = visits.length
  success : under attemptsTotal ("outcome", "success") cs
    = visits.countP fun v => v.result matches .ok _
  noCredentials : under attemptsTotal ("outcome", "no_credentials") cs
    = visits.countP fun v => v.result matches .error .noCredentials
  transportError : under attemptsTotal ("outcome", "transport_error") cs
    = visits.countP fun v => v.result matches .error (.transport _)
  unauthorized : under attemptsTotal ("outcome", "unauthorized") cs
    = visits.countP fun v =>
        !(v.result matches .ok _ | .error .noCredentials | .error (.transport _))
  /-- No mechanism is given exactly to what was turned away as it stood. -/
  none : under attemptsTotal ("mechanism", "none") cs
    = visits.countP fun v => v.presented matches .error _
  token : under attemptsTotal ("mechanism", "token") cs
    = visits.countP fun v => v.presented matches .ok (.token _)
  password : under attemptsTotal ("mechanism", "password") cs
    = visits.countP fun v => v.presented matches .ok (.password ..)

/-- Questions are counted by what came of them. -/
structure VerificationsAgree (visits : List Visit) (questions : List Request)
    (cs : List Count) : Prop where
  all : total verificationsTotal cs = questions.length
  verified : under verificationsTotal ("outcome", "verified") cs
    = visits.countP fun v => v.asked && v.result matches .ok _
  error : under verificationsTotal ("outcome", "error") cs
    = under attemptsTotal ("outcome", "transport_error") cs
  refused : under verificationsTotal ("outcome", "rejected") cs
      + under verificationsTotal ("outcome", "invalid") cs
    = visits.countP fun v => v.asked && v.result matches .error .unauthorized

/-- Updates are counted by whether they were taken. -/
structure ReplacementsAgree (offers : List Update) (cs : List Count) : Prop where
  all : total replacementsTotal cs = offers.length
  installed : under replacementsTotal ("outcome", "installed") cs
    = offers.countP Update.isTaken
  rejected : under replacementsTotal ("outcome", "rejected") cs
    = offers.countP fun u => !u.isTaken

/-- The counters of a trace agree with the visits and the offers, and with each other. -/
structure Balanced (visits : List Visit) (offers : List Update) (trace : List Effect) : Prop where
  attempts : AttemptsAgree visits (Effect.counts trace)
  verifications : VerificationsAgree visits (posts trace) (Effect.counts trace)
  replacements : ReplacementsAgree offers (Effect.counts trace)

end

namespace AttemptsAgree

variable {visits visits' : List Visit} {cs cs' : List Count}

theorem append (h : AttemptsAgree visits cs) (h' : AttemptsAgree visits' cs') :
    AttemptsAgree (visits ++ visits') (cs ++ cs') where
  all := by simp [h.all, h'.all]
  success := by simp [h.success, h'.success]
  noCredentials := by simp [h.noCredentials, h'.noCredentials]
  transportError := by simp [h.transportError, h'.transportError]
  unauthorized := by simp [h.unauthorized, h'.unauthorized]
  none := by simp [h.none, h'.none]
  token := by simp [h.token, h'.token]
  password := by simp [h.password, h'.password]

/-- The counters of something else. -/
theorem of_other (h : ∀ c ∈ cs, c.name ≠ Count.attemptsTotal) : AttemptsAgree [] cs where
  all := Count.total_of_other h
  success := Count.under_of_other h _
  noCredentials := Count.under_of_other h _
  transportError := Count.under_of_other h _
  unauthorized := Count.under_of_other h _
  none := Count.under_of_other h _
  token := Count.under_of_other h _
  password := Count.under_of_other h _

/-- One attempt. -/
theorem one {v : Visit} {m : Mechanism}
    (hm : m = match v.presented with
      | .error _ => .none
      | .ok c => c.mechanism) : AttemptsAgree [v] [.attempt m (Gate.attemptOf v.result)] := by
  constructor
  case all => rfl
  case success | noCredentials | transportError | unauthorized =>
    rw [Count.under_outcome_attempt]
    cases hr : v.result with
    | ok i => simp [Gate.attemptOf, Attempt.label, hr]
    | error r => cases r <;> simp [Gate.attemptOf, Attempt.label, hr]
  case none | token | password =>
    rw [Count.under_mechanism_attempt, hm]
    cases hp : v.presented with
    | error r => simp [Mechanism.label, hp]
    | ok c => cases c <;> simp [Credential.mechanism, Mechanism.label, hp]

end AttemptsAgree

namespace VerificationsAgree

variable {visits visits' : List Visit} {questions questions' : List Request}
  {cs cs' : List Count}

theorem append (h : VerificationsAgree visits questions cs)
    (h' : VerificationsAgree visits' questions' cs') :
    VerificationsAgree (visits ++ visits') (questions ++ questions') (cs ++ cs') where
  all := by simp [h.all, h'.all]
  verified := by simp [h.verified, h'.verified]
  error := by simp [h.error, h'.error]
  refused := by
    have h₁ := h.refused
    have h₂ := h'.refused
    simp only [Count.under_append, List.countP_append]
    omega

/-- The counters of updates. -/
theorem of_tallies (offers : List Update) : VerificationsAgree [] [] (offers.map Update.tally) := by
  have h : ∀ name, name ≠ Count.replacementsTotal →
      ∀ c ∈ offers.map Update.tally, c.name ≠ name := by
    intro name hne c hc
    obtain ⟨u, -, rfl⟩ := List.mem_map.mp hc
    exact hne.symm
  have hv := h Count.verificationsTotal (by decide)
  have ha := h Count.attemptsTotal (by decide)
  exact ⟨Count.total_of_other hv, Count.under_of_other hv _,
    (Count.under_of_other hv _).trans (Count.under_of_other ha _).symm,
    by rw [Count.under_of_other hv, Count.under_of_other hv]; rfl⟩

/-- An attempt that is settled without the authority. -/
theorem unasked {v : Visit} (hq : v.requests = []) (m : Mechanism) :
    VerificationsAgree [v] [] [.attempt m (Gate.attemptOf v.result)] := by
  have hasked : v.asked = false := by rw [Visit.asked, hq]; rfl
  have hother : ∀ c ∈ [Count.attempt m (Gate.attemptOf v.result)],
      c.name ≠ Count.verificationsTotal := by simp [Count.name, Count.verificationsTotal]
  have herror : Count.under Count.attemptsTotal ("outcome", "transport_error")
      [.attempt m (Gate.attemptOf v.result)] = 0 := by
    rw [Count.under_outcome_attempt, if_neg]
    have hne := Visit.result_ne_transport hq
    cases hr : v.result with
    | ok i => simp [Gate.attemptOf, Attempt.label]
    | error r =>
      cases r with
      | transport fault => exact absurd hr (hne fault)
      | _ => simp [Gate.attemptOf, Attempt.label]
  exact ⟨Count.total_of_other hother, by simp [Count.under_of_other hother, hasked],
    by rw [Count.under_of_other hother, herror], by simp [Count.under_of_other hother, hasked]⟩

/-- An attempt that the authority has settled. -/
theorem asked {v : Visit} {r : Request} {verification : Verification} (hq : v.requests = [r])
    (hfits : verification.Fits v.result) (m : Mechanism) :
    VerificationsAgree [v] [r]
      [.verification verification, .attempt m (Gate.attemptOf v.result)] := by
  have hasked : v.asked = true := by rw [Visit.asked, hq]; rfl
  have hv : ∀ label, Count.under Count.verificationsTotal ("outcome", label)
      [.verification verification, .attempt m (Gate.attemptOf v.result)]
        = if verification.label = label then 1 else 0 := by
    intro label
    rw [← Count.under_outcome_verification]
    exact Count.under_append _ _ [_] [_]
  have ha : ∀ label, Count.under Count.attemptsTotal ("outcome", label)
      [.verification verification, .attempt m (Gate.attemptOf v.result)]
        = if (Gate.attemptOf v.result).label = label then 1 else 0 := by
    intro label
    rw [← Count.under_outcome_attempt _ m, ← Nat.zero_add (Count.under _ _ [.attempt m _])]
    exact Count.under_append _ _ [_] [_]
  constructor
  case all => rfl
  case verified | refused =>
    simp only [hv, hasked, Bool.true_and, List.countP_singleton]
    generalize v.result = result at hfits
    cases hfits <;> rfl
  case error =>
    rw [hv, ha]
    generalize v.result = result at hfits
    cases hfits <;> rfl

end VerificationsAgree

namespace ReplacementsAgree

variable {offers offers' : List Update} {cs cs' : List Count}

theorem append (h : ReplacementsAgree offers cs) (h' : ReplacementsAgree offers' cs') :
    ReplacementsAgree (offers ++ offers') (cs ++ cs') where
  all := by simp [h.all, h'.all]
  installed := by simp [h.installed, h'.installed]
  rejected := by simp [h.rejected, h'.rejected]

theorem one (u : Update) : ReplacementsAgree [u] [u.tally] where
  all := rfl
  installed := by
    rw [Update.tally, Count.under_outcome_replacement]
    cases ht : u.isTaken <;> simp [Replacement.label, ht]
  rejected := by
    rw [Update.tally, Count.under_outcome_replacement]
    cases ht : u.isTaken <;> simp [Replacement.label, ht]

theorem of_other (h : ∀ c ∈ cs, c.name ≠ Count.replacementsTotal) : ReplacementsAgree [] cs where
  all := Count.total_of_other h
  installed := Count.under_of_other h _
  rejected := Count.under_of_other h _

theorem of_tallies (offers : List Update) :
    ReplacementsAgree offers (offers.map Update.tally) := by
  induction offers with
  | nil => exact .of_other nofun
  | cons u rest ih => exact (one u).append ih

end ReplacementsAgree

namespace Visit.Counted

variable {v : Visit} {cs : List Count}

theorem attempts (h : v.Counted cs) : AttemptsAgree [v] cs := by
  cases h with
  | refused hp => exact .one (by rw [hp])
  | known hp => exact .one (by rw [hp])
  | @asked c verification hp =>
    have hquestion : AttemptsAgree [] [.verification verification] :=
      .of_other (by simp [Count.name, Count.attemptsTotal])
    exact hquestion.append (.one (by rw [hp]))

theorem verifications (h : v.Counted cs) :
    VerificationsAgree [v] (v.requests.filter fun r => r.method = .post) cs := by
  cases h with
  | refused _ hq =>
    rw [hq]
    exact .unasked hq _
  | known _ hq =>
    rw [hq]
    exact .unasked hq _
  | asked _ hq hfits =>
    rw [hq]
    exact .asked hq hfits _

theorem replacements (h : v.Counted cs) : ReplacementsAgree [] cs := by
  cases h <;> exact .of_other (by simp [Count.name, Count.replacementsTotal])

end Visit.Counted

/-! ## Steps and runs -/

namespace Balanced

variable {visits visits' : List Visit} {offers offers' : List Update} {trace trace' : List Effect}

theorem append (h : Balanced visits offers trace) (h' : Balanced visits' offers' trace') :
    Balanced (visits ++ visits') (offers ++ offers') (trace ++ trace') where
  attempts := by
    rw [Effect.counts_append]
    exact h.attempts.append h'.attempts
  verifications := by
    rw [posts_append, Effect.counts_append]
    exact h.verifications.append h'.verifications
  replacements := by
    rw [Effect.counts_append]
    exact h.replacements.append h'.replacements

/-- Updates that are offered while no request comes. -/
theorem of_offers (hq : posts trace = [])
    (hc : Effect.counts trace = offers.map Update.tally) : Balanced [] offers trace where
  attempts := by
    refine .of_other fun c hmem => ?_
    rw [hc] at hmem
    obtain ⟨u, -, rfl⟩ := List.mem_map.mp hmem
    simp [Update.tally, Count.name, Count.attemptsTotal]
  verifications := by
    rw [hq, hc]
    exact .of_tallies offers
  replacements := by
    rw [hc]
    exact .of_tallies offers

theorem of_visit {v : Visit} (hq : Effect.requests trace = v.requests)
    (hc : Effect.counts trace = Effect.counts v.attempt.trace) : Balanced [v] [] trace := by
  have hcounted : v.Counted (Effect.counts trace) := hc ▸ v.counted
  refine ⟨hcounted.attempts, ?_, hcounted.replacements⟩
  rw [posts, hq]
  exact hcounted.verifications

end Balanced

/-- Fetching counts nothing; what becomes of the update is counted where it is offered. -/
theorem counts_feed (g : Gate) (authority : Correspondence) (n : Nat) :
    Effect.counts (feed g authority n).trace = [] := by
  unfold feed
  split
  · exact Puller.counts_fetch _ _
  · rfl

/-- The counters agree with the visit of one action. -/
theorem balanced_step (authority : Correspondence) (s : Session) (a : Action) :
    Balanced (visit? authority s a).toList (offers authority s a) (step authority s a).trace := by
  cases a with
  | store a =>
    have htrace : (step authority s (.store a)).trace
        = (s.store.step (feed s.gate authority) a).trace := List.append_nil _
    rw [htrace]
    exact .of_offers (posts_store authority s.gate s.store a)
      (s.store.counts_step (counts_feed s.gate authority) a)
  | startRefresh =>
    have h : Balanced [] [] (step authority s .startRefresh).trace := by
      simp only [step]
      split <;> exact .of_offers rfl rfl
    exact h
  | authenticate hs => exact .of_visit rfl rfl
  | serve target hs =>
    exact .of_visit (s.gate.requests_serve s.store.cache _ target hs)
      (s.gate.counts_serve s.store.cache _ target hs)

/-- They agree with the visits of a run. -/
theorem balanced_run (authority : Correspondence) (actions : List Action) : ∀ (s : Session),
    Balanced (visits authority s actions) (history authority s actions)
      ((run authority s actions).1.flatMap Traced.trace) := by
  induction actions with
  | nil => intro s; exact .of_offers rfl rfl
  | cons a rest ih =>
    intro s
    exact (balanced_step authority s a).append (ih _)

/-! ## Accounts of a run -/

/-- The counters of a run account for all that happened in it. -/
structure Accounts (authority : Correspondence) (g : Gate) (actions : List Action) : Prop where
  balanced : Balanced (visits authority { gate := g } actions)
    (history authority { gate := g } actions)
    ((run authority { gate := g } actions).1.flatMap Traced.trace)
  /-- There is a visit for every request that came, and it was answered and counted as the run
  has it. -/
  headers : (visits authority { gate := g } actions).map Visit.headers
    = actions.filterMap Action.headers?
  outcomes : outcomes (run authority { gate := g } actions).1
    = (visits authority { gate := g } actions).map Visit.outcome
  /-- So no mechanism was recorded exactly for those that were turned away as they stood. -/
  counted (v : Visit) (hv : v ∈ visits authority { gate := g } actions) :
    v.gate = g ∧ v.Counted (Effect.counts v.attempt.trace)
  /-- The generation in force is the number of updates that were counted as installed. -/
  installed : Count.under Count.replacementsTotal ("outcome", "installed")
      (Effect.counts ((run authority { gate := g } actions).1.flatMap Traced.trace))
    = (run authority { gate := g } actions).2.store.cache.current.generation

/-- **The counters account for every event of a run.** -/
theorem accounts_run (authority : Correspondence) (g : Gate) (actions : List Action) :
    Accounts authority g actions where
  balanced := balanced_run authority actions _
  headers := visits_headers authority actions _
  outcomes := outcomes_run authority actions _
  counted v hv := ⟨gate_of_mem_visits hv, v.counted⟩
  installed := by
    rw [(balanced_run authority actions _).replacements.installed,
      (records_run authority g actions).generation, List.countP_eq_length_filter]

end Session

end Gatehouse
