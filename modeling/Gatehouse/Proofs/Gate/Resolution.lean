import Gatehouse.Proofs.Gate.Presented

/-!
# How a gate comes to its answer

Authentication in steps, each with a law of its own:

* the request presents a credential or is refused (`classify`);
* the snapshot in force is consulted, and knows the credential or does not
  (`Snapshot.consult`);
* only about an unknown credential one request is sent, and what comes back is taken in
  (`Gate.reception`), in one of three ways (`Gate.received`).

`authenticate_refused`, `authenticate_known` and `authenticate_asked` are all that a gate can
do, trace included. What is proved about authentication elsewhere splits on these three and
does not look at the gate's code.
-/

set_option autoImplicit false

namespace Gatehouse

/-- A value and a trace are all there is to a computation. -/
theorem Traced.ext {α : Type} {x y : Traced α} (hv : x.value = y.value)
    (ht : x.trace = y.trace) : x = y := by
  cases x
  cases y
  simp only at hv ht
  rw [hv, ht]

/-! ## Consulting a snapshot -/

/-- What a snapshot says of a credential by itself: nothing, if it does not know it. -/
def Snapshot.consult (s : Snapshot) :
    Credential → Traced (Option (Except Refusal Identity))
  | .token token => do
    let found := s.token? token
    Traced.log (.tokenLookedUp found.isSome)
    pure (found.map fun session => .ok (Identity.ofRole session.user session.role))
  | .password user password =>
    match s.admin? user with
    | some admin =>
      if Password.verify password admin.salt admin.passwordHash then
        pure (some (.ok (Identity.ofAdmin admin.name admin.role)))
      else do
        Traced.log (.adminPasswordWrong user)
        pure (some (.error .unauthorized))
    | none =>
      match s.bucket? user with
      | some bucket =>
        if bucket.password = password then pure (some (.ok (Identity.ofBucket bucket.bucket)))
        else do
          Traced.log (.bucketPasswordWrong user)
          pure (some (.error .unauthorized))
      | none => do
        Traced.log (.userNotCached user)
        pure none

/-- The ways in which a consultation can go. -/
inductive Snapshot.Consulted (s : Snapshot) :
    Credential → Traced (Option (Except Refusal Identity)) → Prop
  | session {token : String} {session : SessionToken} (hs : s.token? token = some session) :
    Consulted s (.token token)
      ⟨some (.ok (Identity.ofRole session.user session.role)), [.log (.tokenLookedUp true)]⟩
  | noSession {token : String} (hs : s.token? token = none) :
    Consulted s (.token token) ⟨none, [.log (.tokenLookedUp false)]⟩
  | admin {user password : String} {admin : AdminUser} (ha : s.admin? user = some admin)
      (hp : (Password.hash password admin.salt).bytes = admin.passwordHash) :
    Consulted s (.password user password)
      ⟨some (.ok (Identity.ofAdmin admin.name admin.role)), []⟩
  | adminWrong {user password : String} {admin : AdminUser} (ha : s.admin? user = some admin)
      (hp : (Password.hash password admin.salt).bytes ≠ admin.passwordHash) :
    Consulted s (.password user password)
      ⟨some (.error .unauthorized), [.log (.adminPasswordWrong user)]⟩
  | bucket {user password : String} {bucket : BucketCredential} (ha : s.admin? user = none)
      (hb : s.bucket? user = some bucket) (hp : bucket.password = password) :
    Consulted s (.password user password) ⟨some (.ok (Identity.ofBucket bucket.bucket)), []⟩
  | bucketWrong {user password : String} {bucket : BucketCredential} (ha : s.admin? user = none)
      (hb : s.bucket? user = some bucket) (hp : bucket.password ≠ password) :
    Consulted s (.password user password)
      ⟨some (.error .unauthorized), [.log (.bucketPasswordWrong user)]⟩
  | nobody {user password : String} (ha : s.admin? user = none) (hb : s.bucket? user = none) :
    Consulted s (.password user password) ⟨none, [.log (.userNotCached user)]⟩

namespace Snapshot

/-- **There are no other ways.** -/
theorem consulted (s : Snapshot) (c : Credential) : s.Consulted c (s.consult c) := by
  cases c with
  | token token =>
    rw [consult]
    cases hs : s.token? token with
    | some session => exact .session hs
    | none => exact .noSession hs
  | password user password =>
    rw [consult]
    cases ha : s.admin? user with
    | some admin =>
      by_cases hp : (Password.hash password admin.salt).bytes = admin.passwordHash
      · simp only [Password.verify_iff, hp, if_true]
        exact .admin ha hp
      · simp only [Password.verify_iff, hp, if_false]
        exact .adminWrong ha hp
    | none =>
      cases hb : s.bucket? user with
      | some bucket =>
        by_cases hp : bucket.password = password
        · simp only [hp, if_true]
          exact .bucket ha hb hp
        · simp only [hp, if_false]
          exact .bucketWrong ha hb hp
      | none => exact .nobody ha hb

/-- The snapshot has an entry for the credential, be its password right or wrong. -/
def Knows (s : Snapshot) : Credential → Prop
  | .token token => (s.token? token).isSome = true
  | .password user _ => (s.admin? user).isSome = true ∨ (s.bucket? user).isSome = true

/-- A snapshot has nothing to say about what it does not know. -/
theorem consult_eq_none_iff (s : Snapshot) (c : Credential) :
    (s.consult c).value = none ↔ ¬ s.Knows c := by
  have h := s.consulted c
  generalize s.consult c = x at h
  cases h with
  | session hs => simp [Knows, hs]
  | noSession hs => simp [Knows, hs]
  | admin ha => simp [Knows, ha]
  | adminWrong ha => simp [Knows, ha]
  | bucket ha hb => simp [Knows, ha, hb]
  | bucketWrong ha hb => simp [Knows, ha, hb]
  | nobody ha hb => simp [Knows, ha, hb]

/-- Whoever has the token of a session is its user. -/
theorem consult_of_session {s : Snapshot} {token : String} {session : SessionToken}
    (ht : s.token? token = some session) : (s.consult (.token token)).value
      = some (.ok (Identity.ofRole session.user session.role)) := by
  rw [consult, ht]
  rfl

theorem consult_of_admin {s : Snapshot} {user : String} {admin : AdminUser}
    (ha : s.admin? user = some admin) (candidate : String) :
    (s.consult (.password user candidate)).value
      = some (if (Password.hash candidate admin.salt).bytes = admin.passwordHash
          then .ok (Identity.ofAdmin admin.name admin.role) else .error .unauthorized) := by
  rw [consult, ha]
  by_cases hp : (Password.hash candidate admin.salt).bytes = admin.passwordHash <;> simp [hp]

theorem consult_of_bucket {s : Snapshot} {user : String} {bucket : BucketCredential}
    (ha : s.admin? user = none) (hb : s.bucket? user = some bucket) (candidate : String) :
    (s.consult (.password user candidate)).value
      = some (if bucket.password = candidate then .ok (Identity.ofBucket bucket.bucket)
          else .error .unauthorized) := by
  rw [consult, ha, hb]
  by_cases hp : bucket.password = candidate <;> simp [hp]

theorem quiet_consult (s : Snapshot) (c : Credential) : Effect.Quiet (s.consult c).trace := by
  have h := s.consulted c
  generalize s.consult c = x at h
  cases h with
  | session | noSession | adminWrong | bucketWrong | nobody => exact .log _
  | admin | bucket => exact .nil

theorem requests_consult (s : Snapshot) (c : Credential) :
    Effect.requests (s.consult c).trace = [] := (s.quiet_consult c).requests

end Snapshot

/-! ## Asking the authority -/

namespace Gate

/-- What is sent of a request, by the credential that it presents. -/
def forwarded (g : Gate) (hs : Headers) : Credential → Headers
  | .token _ => g.sessionHeaders hs
  | .password .. => passwordHeaders hs

/-- The question about a request. -/
def question (g : Gate) (hs : Headers) (c : Credential) : Request :=
  g.verifier.request (g.forwarded hs c)

/-- What becomes of an exchange. -/
def reception : Except ExchangeFault Reply → Traced (Except Refusal Identity)
  | .error (.invalidResponse reason) => do
    Traced.log (.answerUnreadable reason)
    counted .invalid (.error .unauthorized)
  | .error fault => do
    Traced.log (.verificationFailed fault)
    counted .error (.error (.transport fault))
  | .ok reply =>
    if reply.status ≠ Status.ok then do
      Traced.log (.credentialsRejected reply.status)
      counted .rejected (.error .unauthorized)
    else
      match Vouch.ofBody reply.body with
      | none => do
        Traced.log (.answerUnreadable reply.complaint)
        counted .invalid (.error .unauthorized)
      | some vouch => do
        Traced.log (.credentialsVerified vouch.user vouch.role)
        match Role.parse vouch.role with
        | .error unknown =>
          Traced.log (.roleUnknown vouch.user unknown)
          counted .invalid (.error .unauthorized)
        | .ok role =>
          if vouch.user = "" then
            Traced.log .userNameless
            counted .invalid (.error .unauthorized)
          else counted .verified (.ok (Identity.ofRole vouch.user role))

/-- Asking is one exchange, and the rest depends on what comes back alone. -/
theorem verifyRemote_eq (g : Gate) (authority : Authority) (credentials : Headers) :
    g.verifyRemote authority credentials
      = { value := (reception (authority (g.verifier.request credentials))).value
          trace := .exchange (g.verifier.request credentials)
            :: (reception (authority (g.verifier.request credentials))).trace } := by
  unfold verifyRemote Verifier.verify exchange
  cases authority (g.verifier.request credentials) with
  | error fault => cases fault <;> apply Traced.ext <;> simp [reception]
  | ok reply =>
    by_cases hs : reply.status = Status.ok
    · cases hv : Vouch.ofBody reply.body with
      | none => apply Traced.ext <;> simp [hs, hv, reception]
      | some vouch =>
        cases hr : Role.parse vouch.role with
        | error unknown => apply Traced.ext <;> simp [hs, hv, hr, reception]
        | ok role =>
          by_cases hu : vouch.user = ""
          · apply Traced.ext <;> simp [hs, hv, hr, hu, reception]
          · apply Traced.ext <;> simp [hs, hv, hr, hu, reception]
    · apply Traced.ext <;> simp [hs, reception]

/-- The authority vouches for a user who has a name and a known role. -/
structure Vouches (answer : Except ExchangeFault Reply) (user : String) (role : Role) :
    Prop where
  named : user ≠ ""
  answered : ∃ reply, answer = .ok reply ∧ reply.status = Status.ok
    ∧ Vouch.ofBody reply.body = some ⟨role.name, user⟩

/-- The ways in which an exchange can go. -/
inductive Received (answer : Except ExchangeFault Reply) :
    Traced (Except Refusal Identity) → Prop
  /-- It failed. -/
  | failed {fault : ExchangeFault} (hanswer : answer = .error fault)
      (hread : ∀ reason, fault ≠ .invalidResponse reason) :
    Received answer
      ⟨.error (.transport fault), [.log (.verificationFailed fault), .count (.verification .error)]⟩
  /-- What was answered could not be read, or vouches for nobody. -/
  | turnedDown {events : List Effect} {outcome : Verification} (hquiet : Effect.Quiet events)
      (houtcome : outcome = .rejected ∨ outcome = .invalid)
      (hanswer : ∀ fault, answer = .error fault → ∃ reason, fault = .invalidResponse reason)
      (hno : ∀ user role, ¬ Vouches answer user role) :
    Received answer ⟨.error .unauthorized, events ++ [.count (.verification outcome)]⟩
  | vouched {user : String} {role : Role} (hv : Vouches answer user role) :
    Received answer
      ⟨.ok (Identity.ofRole user role),
        [.log (.credentialsVerified user role.name), .count (.verification .verified)]⟩

theorem received_error (fault : ExchangeFault) :
    Received (.error fault) (reception (.error fault)) := by
  by_cases hread : ∃ reason, fault = .invalidResponse reason
  · obtain ⟨reason, rfl⟩ := hread
    refine .turnedDown (.log (.answerUnreadable reason)) (.inr rfl) ?_ ?_
    · rintro fault ⟨⟩
      exact ⟨reason, rfl⟩
    · rintro user role ⟨-, reply, ⟨⟩, -⟩
  · have hne : ∀ reason, fault ≠ .invalidResponse reason := fun reason h => hread ⟨reason, h⟩
    unfold reception
    split
    · next reason heq => exact absurd (Except.error.inj heq) (hne reason)
    · next heq =>
      cases heq
      exact .failed rfl hne
    · next heq => cases heq

/-- Whoever is vouched for is the one in the body. -/
theorem Vouches.reads {reply : Reply} {user : String} {role : Role}
    (h : Vouches (.ok reply) user role) : reply.status = Status.ok ∧
      Vouch.ofBody reply.body = some ⟨role.name, user⟩ := by
  obtain ⟨-, reply', ⟨⟩, hstatus, hread⟩ := h
  exact ⟨hstatus, hread⟩

theorem received_ok (reply : Reply) : Received (.ok reply) (reception (.ok reply)) := by
  have hanswer : ∀ fault, Except.ok reply = .error fault →
    ∃ reason, fault = ExchangeFault.invalidResponse reason := nofun
  rw [reception]
  split
  · next hstatus =>
    exact .turnedDown (.log _) (.inl rfl) hanswer fun user role hv => hstatus hv.reads.1
  · next hstatus =>
    split
    · next hnone =>
      refine .turnedDown (.log _) (.inr rfl) hanswer fun user role hv => ?_
      rw [hv.reads.2] at hnone
      cases hnone
    · next vouch hsome =>
      have hvouch : ∀ {user role}, Vouches (.ok reply) user role → vouch = ⟨role.name, user⟩ :=
        fun hv => Option.some.inj (hsome.symm.trans hv.reads.2)
      have hlogs (event : Event) : Effect.Quiet
          [.log (.credentialsVerified vouch.user vouch.role), .log event] :=
        .append (.log _) (.log event)
      cases hr : Role.parse vouch.role with
      | error unknown =>
        refine .turnedDown (hlogs (.roleUnknown vouch.user unknown)) (.inr rfl) hanswer
          fun user role hv => ?_
        rw [hvouch hv, Role.parse_name] at hr
        cases hr
      | ok role =>
        dsimp only
        split
        · next hnameless =>
          refine .turnedDown (hlogs .userNameless) (.inr rfl) hanswer fun user role hv => ?_
          rw [hvouch hv] at hnameless
          exact hv.named hnameless
        · next hnamed =>
          obtain ⟨name, user⟩ := vouch
          obtain rfl := Role.name_of_parse hr
          exact .vouched ⟨hnamed, reply, rfl, Classical.not_not.mp hstatus, hsome⟩

/-- **There are no other ways.** -/
theorem received (answer : Except ExchangeFault Reply) : Received answer (reception answer) := by
  cases answer with
  | error fault => exact received_error fault
  | ok reply => exact received_ok reply

/-- Whom an exchange lets in. -/
theorem reception_eq_ok_iff {answer : Except ExchangeFault Reply} {i : Identity} :
    (reception answer).value = .ok i ↔
      ∃ user role, Vouches answer user role ∧ i = Identity.ofRole user role := by
  constructor
  · intro h
    have hreceived := received answer
    generalize reception answer = x at hreceived h
    cases hreceived with
    | failed | turnedDown => cases h
    | vouched hv => exact ⟨_, _, hv, (Except.ok.inj h).symm⟩
  · rintro ⟨user, role, ⟨hu, reply, rfl, hs, hv⟩, rfl⟩
    simp [reception, hs, hv, hu, counted]

theorem requests_reception (answer : Except ExchangeFault Reply) :
    Effect.requests (reception answer).trace = [] := by
  have hreceived := received answer
  generalize reception answer = x at hreceived
  cases hreceived with
  | failed | vouched => rfl
  | turnedDown hquiet => rw [Effect.requests_append, hquiet.requests]; rfl

/-! ## Authentication -/

variable {g : Gate} {hs : Headers}

theorem quiet_parse (v : Header.Value) : Effect.Quiet (Basic.parse v).trace := by
  unfold Basic.parse
  split
  · exact .nil
  · dsimp only
    split
    · split
      · exact .nil
      · exact .nil
    · exact .log _

theorem quiet_basic (hs : Headers) : Effect.Quiet (classify.basic hs).trace := by
  unfold classify.basic
  split
  · exact .nil
  · rw [Traced.trace_bind]
    refine (quiet_parse _).append ?_
    split
    · exact .nil
    · exact .nil

theorem quiet_classify (g : Gate) (hs : Headers) : Effect.Quiet (g.classify hs).trace := by
  by_cases hask : g.AsksSession hs
  · rw [classify_session hask]
    split
    · exact .log _
    · split
      · exact .log _
      · exact .nil
  · by_cases hpass : g.PassesMarker hs
    · rw [classify_passed hpass]
      split
      · exact quiet_basic hs
      · rw [Traced.trace_bind]
        exact .append (.log _) (quiet_basic hs)
    · rw [classify_rejected hask hpass]
      exact .log _

theorem requests_classify (g : Gate) (hs : Headers) :
    Effect.requests (g.classify hs).trace = [] := (quiet_classify g hs).requests

/-- What becomes of a credential. -/
def resolve (g : Gate) (cache : Cache) (authority : Authority) (hs : Headers)
    (c : Credential) : Traced (Except Refusal Identity) := do
  match ← cache.current.consult c with
  | some result => pure result
  | none => g.verifyRemote authority (g.forwarded hs c)

/-- Both mechanisms are one: consult, and ask if that does not help. -/
theorem authenticate_eq (g : Gate) (cache : Cache) (authority : Authority) (hs : Headers) :
    g.authenticate cache authority hs = (do
      match ← g.classify hs with
      | .error refusal => recorded .none (.error refusal)
      | .ok c => recorded c.mechanism (← g.resolve cache authority hs c)) := by
  -- look-up and question are written out for each mechanism, in one order
  have htoken : ∀ token, g.authenticateToken cache authority token hs
      = g.resolve cache authority hs (.token token) := by
    intro token
    unfold authenticateToken resolve Cache.lookupToken
    rw [Snapshot.consult]
    cases cache.current.token? token with
    | some session => rfl
    | none => rfl
  have hpassword : ∀ user password, g.authenticatePassword cache authority user password hs
      = g.resolve cache authority hs (.password user password) := by
    intro user password
    unfold authenticatePassword resolve
    rw [Snapshot.consult]
    cases cache.current.admin? user with
    | some admin =>
      dsimp only
      split <;> rfl
    | none =>
      cases cache.current.bucket? user with
      | some bucket =>
        dsimp only
        split <;> rfl
      | none => rfl
  unfold authenticate
  congr 1
  funext result
  cases result with
  | error refusal => rfl
  | ok c =>
    cases c with
    | token token =>
      dsimp only
      rw [htoken]
      rfl
    | password user password =>
      dsimp only
      rw [hpassword]
      rfl

/-- An attempt without a usable credential ends there. -/
theorem authenticate_refused {r : Refusal} (h : (g.classify hs).value = .error r)
    (cache : Cache) (authority : Authority) : g.authenticate cache authority hs
      = { value := .error r
          trace := (g.classify hs).trace
            ++ [.count (.attempt .none (attemptOf (.error r)))] } := by
  rw [authenticate_eq]
  apply Traced.ext <;> simp [h, recorded]

/-- The snapshot knows the credential: nobody is asked. -/
theorem authenticate_known {c : Credential} {result : Except Refusal Identity} {cache : Cache}
    (h : (g.classify hs).value = .ok c) (hk : (cache.current.consult c).value = some result)
    (authority : Authority) : g.authenticate cache authority hs
      = { value := result
          trace := (g.classify hs).trace ++ (cache.current.consult c).trace
            ++ [.count (.attempt c.mechanism (attemptOf result))] } := by
  rw [authenticate_eq]
  apply Traced.ext <;> simp [h, hk, recorded, resolve]

/-- The snapshot does not know the credential: the authority is asked, once. -/
theorem authenticate_asked {c : Credential} {cache : Cache}
    (h : (g.classify hs).value = .ok c) (hk : (cache.current.consult c).value = none)
    (authority : Authority) : g.authenticate cache authority hs
      = { value := (reception (authority (g.question hs c))).value
          trace := (g.classify hs).trace ++ (cache.current.consult c).trace
            ++ .exchange (g.question hs c) :: (reception (authority (g.question hs c))).trace
            ++ [.count (.attempt c.mechanism
              (attemptOf (reception (authority (g.question hs c))).value))] } := by
  rw [authenticate_eq]
  apply Traced.ext <;> simp [h, hk, recorded, resolve, verifyRemote_eq, question]

/-! ## What is sent -/

variable {cache : Cache} {authority : Authority}

theorem requests_refused {r : Refusal} (h : (g.classify hs).value = .error r) :
    Effect.requests (g.authenticate cache authority hs).trace = [] := by
  rw [authenticate_refused h]
  simp only [Effect.requests_append, requests_classify]
  rfl

theorem requests_known {c : Credential} {result : Except Refusal Identity}
    (h : (g.classify hs).value = .ok c) (hk : (cache.current.consult c).value = some result) :
    Effect.requests (g.authenticate cache authority hs).trace = [] := by
  rw [authenticate_known h hk]
  simp only [Effect.requests_append, requests_classify, Snapshot.requests_consult]
  rfl

/-- Who is not known is asked about, once. -/
theorem requests_asked {c : Credential} (h : (g.classify hs).value = .ok c)
    (hk : (cache.current.consult c).value = none) :
    Effect.requests (g.authenticate cache authority hs).trace = [g.question hs c] := by
  rw [authenticate_asked h hk]
  simp only [Effect.requests_append, Effect.requests_exchange, requests_classify,
    Snapshot.requests_consult, requests_reception]
  rfl

end Gate

end Gatehouse
