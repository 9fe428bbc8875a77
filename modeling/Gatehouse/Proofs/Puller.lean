import Gatehouse.Authority.Puller

/-!
# What a pull brings

A pull is one request. It brings an update exactly when the authority answers it with `200 OK`
and a body that is one; whatever else comes back, and an exchange that fails, is a fault. As a
fetch of a task it brings the same updates and hides which fault it was.
-/

set_option autoImplicit false

namespace Gatehouse.Puller

/-- The authority answers with the update. -/
def Brings (p : Puller) (authority : Authority) (u : Update) : Prop :=
  ∃ reply, authority p.request = .ok reply ∧ reply.status = Status.ok ∧
    Update.ofBody reply.body = some u

variable {p : Puller} {authority : Authority} {u : Update}

/-- What a pull does: one request, and log lines. -/
theorem trace_pull (p : Puller) (authority : Authority) : ∃ rest, Effect.Quiet rest ∧
    (p.pull authority).trace = .exchange p.request :: rest := by
  unfold pull exchange
  refine ⟨_, ?_, rfl⟩
  simp only [Traced.value_bind, Traced.value_pure, Traced.trace_pure]
  cases authority p.request with
  | error fault => exact .nil
  | ok reply =>
    dsimp only
    split
    · exact .nil
    · split
      · exact .nil
      · exact .log _

/-- What a fetch does: one request, and log lines. -/
theorem trace_fetch (p : Puller) (authority : Authority) : ∃ rest, Effect.Quiet rest ∧
    (p.fetch authority).trace = .exchange p.request :: rest := by
  obtain ⟨rest, hquiet, hpull⟩ := p.trace_pull authority
  refine ⟨rest, hquiet, ?_⟩
  unfold fetch
  rw [Traced.trace_bind, hpull]
  split <;> exact List.append_nil _

/-- **A pull is one request.** -/
theorem requests_fetch (p : Puller) (authority : Authority) :
    Effect.requests (p.fetch authority).trace = [p.request] := by
  obtain ⟨rest, hquiet, htrace⟩ := p.trace_fetch authority
  rw [htrace, Effect.requests_exchange, hquiet.requests]

theorem counts_fetch (p : Puller) (authority : Authority) :
    Effect.counts (p.fetch authority).trace = [] := by
  obtain ⟨rest, hquiet, htrace⟩ := p.trace_fetch authority
  rw [htrace, Effect.counts_exchange, hquiet.counts]

/-- What a pull takes for an update. -/
theorem pull_eq_ok_iff : (p.pull authority).value = .ok u ↔ p.Brings authority u := by
  unfold pull exchange Brings
  simp only [Traced.value_bind, Traced.value_pure]
  cases ha : authority p.request with
  | error fault => simp
  | ok reply =>
    by_cases hs : reply.status = Status.ok
    · cases hb : Update.ofBody reply.body with
      | none => simp [hs, hb]
      | some v => simp [hs, hb]
    · simp [hs]

/-- **What a fetch takes for an update.** -/
theorem fetch_eq_ok_iff : (p.fetch authority).value = .ok u ↔ p.Brings authority u := by
  rw [← pull_eq_ok_iff, fetch, Traced.value_bind]
  cases (p.pull authority).value with
  | error fault => simp
  | ok v => simp

end Gatehouse.Puller
