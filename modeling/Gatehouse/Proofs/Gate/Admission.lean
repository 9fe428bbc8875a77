import Gatehouse.Proofs.History
import Gatehouse.Proofs.Vouch

/-!
# Who is let in

`Gate.Admits` says who a request comes from without a cache: by the lists of one update, and
by what the authority answers about a credential that these lists do not have. The main
statement, `authenticate_eq_ok_iff_admits`, is that a gate with a cache lets in exactly those,
if the update is the last one that its cache has taken, whatever else has been pushed or
pulled before, taken or turned down.

Both directions matter. From left to right nobody gets in by a wrong fall-through, such as a
bucket's password for an admin user of the same name; from right to left nobody is kept out.
-/

set_option autoImplicit false

namespace Gatehouse

/-- The lists have an entry for the credential. -/
def Update.Lists (u : Update) : Credential → Prop
  | .token token => ∃ session ∈ u.tokens, session.token = token
  | .password user _ => (∃ a ∈ u.admins, a.name = user) ∨ ∃ b ∈ u.buckets, b.bucket = user

/-- A snapshot knows what the lists of its update have. -/
theorem Snapshot.Reflects.knows_iff {s : Snapshot} {u : Update} (h : s.Reflects u)
    (c : Credential) : s.Knows c ↔ u.Lists c := by
  cases c with
  | token token =>
    rw [Snapshot.Knows, Option.isSome_iff_exists]
    exact exists_congr fun session => h.token?_eq_some
  | password user password =>
    rw [Snapshot.Knows, Option.isSome_iff_exists, Option.isSome_iff_exists]
    exact or_congr (exists_congr fun a => h.admin?_eq_some)
      (exists_congr fun b => h.bucket?_eq_some)

namespace Gate

/-- The identities that a request is let in with. -/
inductive Admits (g : Gate) (u : Update) (authority : Authority) (hs : Headers) :
    Identity → Prop
  /-- A session of the lists. -/
  | session {token : String} {session : SessionToken} (hp : g.Presents hs (.token token))
      (hmem : session ∈ u.tokens) (hkey : session.token = token) :
    Admits g u authority hs (Identity.ofRole session.user session.role)
  /-- An admin user of the lists, with the password whose digest is stored. -/
  | admin {user password : String} {admin : AdminUser}
      (hp : g.Presents hs (.password user password)) (hmem : admin ∈ u.admins)
      (hkey : admin.name = user)
      (hhash : (Password.hash password admin.salt).bytes = admin.passwordHash) :
    Admits g u authority hs (Identity.ofAdmin user admin.role)
  /-- A bucket of the lists, with its password. An admin user of its name hides it. -/
  | bucket {user password : String} {bucket : BucketCredential}
      (hp : g.Presents hs (.password user password)) (hno : ∀ a ∈ u.admins, a.name ≠ user)
      (hmem : bucket ∈ u.buckets) (hkey : bucket.bucket = user)
      (hpassword : bucket.password = password) :
    Admits g u authority hs (Identity.ofBucket user)
  /-- A credential that the lists do not have, and that the authority vouches for. -/
  | vouched {c : Credential} {user : String} {role : Role} (hp : g.Presents hs c)
      (hno : ¬ u.Lists c) (hv : Vouches (authority (g.question hs c)) user role) :
    Admits g u authority hs (Identity.ofRole user role)

variable {g : Gate} {cache : Cache} {u : Update} {authority : Authority} {hs : Headers}
  {i : Identity}

/-- Nobody is let in but those. -/
theorem admits_of_authenticate (hr : cache.current.Reflects u)
    (h : (g.authenticate cache authority hs).value = .ok i) : g.Admits u authority hs i := by
  cases hc : (g.classify hs).value with
  | error refusal =>
    rw [authenticate_refused hc] at h
    cases h
  | ok c =>
    have hp : g.Presents hs c := classify_eq_ok_iff.mp hc
    cases hk : (cache.current.consult c).value with
    | none =>
      rw [authenticate_asked hc hk] at h
      obtain ⟨user, role, hv, rfl⟩ := reception_eq_ok_iff.mp h
      have hno := (Snapshot.consult_eq_none_iff _ _).mp hk
      rw [hr.knows_iff] at hno
      exact .vouched hp hno hv
    | some result =>
      rw [authenticate_known hc hk] at h
      obtain rfl : result = .ok i := h
      -- whoever was found is in the lists, and nobody is let in by a wrong password
      have hcon := cache.current.consulted c
      generalize cache.current.consult c = x at hcon hk
      cases hcon with
      | session ht =>
        obtain rfl := Except.ok.inj (Option.some.inj hk)
        obtain ⟨hmem, hkey⟩ := hr.token?_eq_some.mp ht
        exact .session hp hmem hkey
      | noSession ht => cases hk
      | admin ha hhash =>
        obtain rfl := Except.ok.inj (Option.some.inj hk)
        obtain ⟨hmem, hkey⟩ := hr.admin?_eq_some.mp ha
        rw [hkey]
        exact .admin hp hmem hkey hhash
      | adminWrong ha hhash => cases hk
      | bucket ha hb hpassword =>
        obtain rfl := Except.ok.inj (Option.some.inj hk)
        obtain ⟨hmem, hkey⟩ := hr.bucket?_eq_some.mp hb
        rw [hkey]
        exact .bucket hp (hr.admin?_eq_none.mp ha) hmem hkey hpassword
      | bucketWrong ha hb hpassword => cases hk
      | nobody ha hb => cases hk

/-- The answer of a snapshot that knows the credential is the answer of the gate. -/
theorem authenticate_of_consulted {c : Credential} {result : Except Refusal Identity}
    (hp : g.Presents hs c) (hk : (cache.current.consult c).value = some result) :
    (g.authenticate cache authority hs).value = result := by
  rw [authenticate_known (classify_eq_ok_iff.mpr hp) hk]

/-- What the snapshot knows is settled by it. -/
theorem settled {c : Credential} {result : Except Refusal Identity}
    (hp : g.Presents hs c) (hk : (cache.current.consult c).value = some result)
    (authority : Authority) :
    Effect.requests (g.authenticate cache authority hs).trace = [] ∧
      (g.authenticate cache authority hs).value = result :=
  ⟨requests_known (classify_eq_ok_iff.mpr hp) hk, authenticate_of_consulted hp hk⟩

/-- And those are let in. -/
theorem authenticate_of_admits (hr : cache.current.Reflects u)
    (h : g.Admits u authority hs i) : (g.authenticate cache authority hs).value = .ok i := by
  cases h with
  | session hp hmem hkey =>
    have ht := hr.token?_eq_some.mpr ⟨hmem, hkey⟩
    exact authenticate_of_consulted hp (cache.current.consult_of_session ht)
  | @admin user password admin hp hmem hkey hhash =>
    have ha := hr.admin?_eq_some.mpr ⟨hmem, hkey⟩
    have hk := cache.current.consult_of_admin ha password
    rw [if_pos hhash, hkey] at hk
    exact authenticate_of_consulted hp hk
  | @bucket user password bucket hp hno hmem hkey hpassword =>
    have ha := hr.admin?_eq_none.mpr hno
    have hb := hr.bucket?_eq_some.mpr ⟨hmem, hkey⟩
    have hk := cache.current.consult_of_bucket ha hb password
    rw [if_pos hpassword, hkey] at hk
    exact authenticate_of_consulted hp hk
  | @vouched c user role hp hno hv =>
    have hk : (cache.current.consult c).value = none := by
      rw [Snapshot.consult_eq_none_iff, hr.knows_iff]
      exact hno
    rw [authenticate_asked (classify_eq_ok_iff.mpr hp) hk]
    exact reception_eq_ok_iff.mpr ⟨user, role, hv, rfl⟩

/-- **Soundness and completeness of authentication.** The gate is the one of its settings,
and after any run it lets in whom the last update taken, and else the authority, stands up
for. -/
theorem authenticate_eq_ok_iff_admits {settings : Settings} {g : Gate}
    (hg : (ofSettings settings).value = .ok g) :
    g.Configured settings ∧
      ∀ (correspondence : Correspondence) (actions : List Session.Action)
        (authority : Authority) (hs : Headers) (i : Identity),
        ((Session.run correspondence { gate := g } actions).2.gate.authenticate
            (Session.run correspondence { gate := g } actions).2.store.cache authority
            hs).value = .ok i
          ↔ g.Admits
              (Update.lastTaken (Session.history correspondence { gate := g } actions))
              authority hs i := by
  refine ⟨(ofSettings_eq_ok_iff.mp hg).2, ?_⟩
  intro correspondence actions authority hs i
  have hr := (Session.records_run correspondence g actions).reflects
  rw [Session.gate_run]
  exact ⟨admits_of_authenticate hr, authenticate_of_admits hr⟩

/-- An authority that cannot be reached. -/
def unreachable : Authority := fun _ => .error (.transport "connection refused")

/-- The admin user `foo`. -/
def foo : AdminUser := ⟨"foo", [1], (Password.hash "admin-pass" [1]).bytes, .admin⟩

/-- An update with an admin user and a bucket of one name. -/
def shadowing : Update :=
  ((Update.new 1).setUser "foo" "admin-pass" .admin [1]).addBucket "foo" "bucket-pass"

theorem lastTaken_shadowing : Update.lastTaken [shadowing] = shadowing := by
  apply Update.lastTaken_append_of_isTaken []
  refine shadowing.isTaken_iff.mpr ⟨⟨?_, by decide⟩, ⟨?_, by decide⟩, ⟨?_, by decide⟩⟩
  · intro a ha
    obtain rfl : a = foo := List.mem_singleton.mp ha
    show foo.fault? = none
    exact AdminUser.fault?_eq_none.mpr
      ⟨by decide, rfl, by decide, Password.hash_length "admin-pass" [1]⟩
  · intro b hb
    obtain rfl := List.mem_singleton.mp hb
    rfl
  · intro t ht
    cases ht

/-- The header of `foo` with the admin user's password. -/
def shadowingHeader : Header.Value :=
  ⟨Utf8.encode "Basic Zm9vOmFkbWluLXBhc3M=", by decide⟩

theorem spells_shadowingHeader : Basic.Spells shadowingHeader "foo" "admin-pass" where
  nocolon := by decide
  grammar := ⟨[], "Basic".toList, [], [], by simp [Basic.Blank], by decide,
    by simp [Basic.Blank], by simp [Basic.Blank], by decide⟩

/-- What an authority says of `ann`. -/
def annsAnswer : Datum := .object [("user", .string "ann"), ("role", .string "ro_admin")]

/-- An authority that says it to everybody. -/
def vouching : Authority := fun _ => .ok
  { status := Status.ok
    body := Utf8.encode (Json.write annsAnswer)
    complaint := "" }

theorem vouches_vouching (r : Request) : Vouches (vouching r) "ann" .readOnlyAdmin := by
  have hplain : annsAnswer.Plain := .object (by simp)
  have huser : annsAnswer.HasField Vouch.fieldNames "user" (.string "ann") :=
    .named List.mem_cons_self
  have hrole : annsAnswer.HasField Vouch.fieldNames "role" (.string "ro_admin") :=
    .named (List.mem_cons_of_mem _ List.mem_cons_self)
  exact vouches_iff.mpr ⟨by decide, _, annsAnswer, rfl, rfl, Json.read_write hplain,
    ⟨.object (by decide), hrole, huser⟩⟩

/-- The admin user of a name is let in, though a bucket has the name too. Who is in no list is
let in with the role that the authority gives them. -/
theorem authenticate_shadowing :
    (ofSettings loopbackSettings).value = .ok loopback ∧
      (loopback.authenticate
          (Session.run ⟨fun _ => unreachable, fun _ => unreachable⟩ { gate := loopback }
            [.store (.replace shadowing)]).2.store.cache
          unreachable [(.authorization, shadowingHeader)]).value
        = .ok (Identity.ofAdmin "foo" .admin) ∧
      (loopback.authenticate
          (Session.run ⟨fun _ => unreachable, fun _ => unreachable⟩ { gate := loopback }
            [.store (.replace shadowing)]).2.store.cache
          vouching [(.authorization, Basic.header "ann" "ann-pass")]).value
        = .ok (Identity.ofAdmin "ann" .readOnlyAdmin) := by
  have hadmits := (authenticate_eq_ok_iff_admits ofSettings_loopback).2
    ⟨fun _ => unreachable, fun _ => unreachable⟩ [.store (.replace shadowing)]
  have hlists : Update.lastTaken (Session.history ⟨fun _ => unreachable, fun _ => unreachable⟩
      { gate := loopback } [.store (.replace shadowing)]) = shadowing := lastTaken_shadowing
  rw [hlists] at hadmits
  refine ⟨ofSettings_loopback, (hadmits ..).mpr ?_, (hadmits ..).mpr ?_⟩
  · have hpresents : loopback.Presents [(.authorization, shadowingHeader)]
        (.password "foo" "admin-pass") :=
      ⟨passesMarker_of_none rfl, shadowingHeader, rfl, spells_shadowingHeader⟩
    have hmem : foo ∈ shadowing.admins := List.mem_cons_self
    exact .admin hpresents hmem rfl rfl
  · have hpresents : loopback.Presents [(.authorization, Basic.header "ann" "ann-pass")]
        (.password "ann" "ann-pass") := presents_header (by decide) rfl rfl
    have hno : ¬ shadowing.Lists (.password "ann" "ann-pass") := by
      rintro (⟨a, ha, hname⟩ | ⟨b, hb, hname⟩)
      · obtain rfl : a = foo := List.mem_singleton.mp ha
        exact absurd hname (by decide)
      · obtain rfl := List.mem_singleton.mp hb
        exact absurd hname (by decide)
    exact .vouched hpresents hno (vouches_vouching _)

end Gate

end Gatehouse
