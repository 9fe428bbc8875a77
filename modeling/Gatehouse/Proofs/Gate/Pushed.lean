import Gatehouse.Proofs.Build
import Gatehouse.Proofs.Cookie
import Gatehouse.Proofs.Gate.Admission

/-!
# What is pushed can log in

An update is built call by call, checked, indexed and consulted, and a request is written as a
header and read again. Both ways meet in one comparison, of a digest, a password or a token,
and nothing may be lost on either:

> while an update that was built by some calls is the last one taken, everybody whom the calls
> name is let in with the credentials of the calls, and not with others, and nobody else is asked
> (`Session.honours_run`).

On the way in this is `mem_admins_build` and its like, on the way out `Basic.spells_header` and
`Cookie.find?_eq_some_iff`.
-/

set_option autoImplicit false

namespace Gatehouse

/-! ## Who is let in -/

namespace Gate

/-- The gate decides about what some calls have built, by its cache alone. -/
structure Honours (g : Gate) (cache : Cache) (entries : List Update.Entry) : Prop where
  /-- An admin user is let in with the password of the last call, and with no password of another
  digest. -/
  admin {user password : String} {role : Role} {salt : Bytes}
    (hset : Update.LastSets entries user password role salt) (hcolon : ':' ∉ user.toList)
    {hs : Headers} (hmarker : hs.get? g.markerHeader = none) {candidate : String}
    (hv : hs.get? .authorization = some (Basic.header user candidate)) (authority : Authority) :
    Effect.requests (g.authenticate cache authority hs).trace = [] ∧
      (candidate = password →
        (g.authenticate cache authority hs).value = .ok (Identity.ofAdmin user role)) ∧
      ((Password.hash candidate salt).bytes ≠ (Password.hash password salt).bytes →
        (g.authenticate cache authority hs).value = .error .unauthorized)
  /-- A bucket is let in with its password and no other, if no admin user has its name. -/
  bucket {name password : String} (hmem : .bucket name password ∈ entries)
    (hno : ∀ password' role salt, .user name password' role salt ∉ entries)
    (hcolon : ':' ∉ name.toList) {hs : Headers} (hmarker : hs.get? g.markerHeader = none)
    {candidate : String} (hv : hs.get? .authorization = some (Basic.header name candidate))
    (authority : Authority) :
    Effect.requests (g.authenticate cache authority hs).trace = [] ∧
      (candidate = password →
        (g.authenticate cache authority hs).value = .ok (Identity.ofBucket name)) ∧
      (candidate ≠ password →
        (g.authenticate cache authority hs).value = .error .unauthorized)
  /-- A session is let in with the marker and a cookie that holds its token. -/
  session {token user : String} {role : Role} (hmem : .token token user role ∈ entries)
    {hs : Headers} (hmarker : g.AsksSession hs) (hcookie : Cookie.Bears hs g.cookieName token)
    (authority : Authority) :
    Effect.requests (g.authenticate cache authority hs).trace = [] ∧
      (g.authenticate cache authority hs).value = .ok (Identity.ofRole user role)
  /-- Every token that can be written down is held by its plain cookie. -/
  written {token : String} (ht : Cookie.IsValue token) {hs : Headers} {v : Header.Value}
    (hv : hs.get? .cookie = some v)
    (hbytes : v.bytes = Utf8.encode (g.cookieName ++ "=" ++ token)) :
    Cookie.Bears hs g.cookieName token

variable {g : Gate} {cache : Cache} {version : UInt64} {entries : List Update.Entry}

/-- A cache that reflects what the calls have built is enough. -/
theorem honours_of_reflects (hr : cache.current.Reflects (Update.build version entries))
    (hname : Cookie.IsName g.cookieName) : g.Honours cache entries where
  admin := by
    intro user password role salt hset hcolon hs hmarker candidate hv authority
    have ha : cache.current.admin? user = some (.hashed user password role salt) :=
      hr.admin?_eq_some.mpr ⟨Update.mem_admins_build.mpr ⟨password, hset, rfl⟩, rfl⟩
    have hk := cache.current.consult_of_admin ha candidate
    obtain ⟨hrequests, hvalue⟩ := settled (presents_header hcolon hmarker hv) hk authority
    rw [hvalue]
    refine ⟨hrequests, fun heq => if_pos ?_, fun hne => if_neg hne⟩
    rw [heq]
    rfl
  bucket := by
    intro name password hmem hno hcolon hs hmarker candidate hv authority
    have ha : cache.current.admin? name = none := by
      refine hr.admin?_eq_none.mpr fun a ha hname => ?_
      obtain ⟨password', hset, -⟩ := Update.mem_admins_build.mp ha
      exact hno password' a.role a.salt (hname ▸ hset.mem)
    have hb : cache.current.bucket? name = some ⟨name, password⟩ :=
      hr.bucket?_eq_some.mpr ⟨Update.mem_buckets_build.mpr hmem, rfl⟩
    have hk := cache.current.consult_of_bucket ha hb candidate
    obtain ⟨hrequests, hvalue⟩ := settled (presents_header hcolon hmarker hv) hk authority
    rw [hvalue]
    exact ⟨hrequests, fun heq => if_pos heq.symm, fun hne => if_neg hne.symm⟩
  session := by
    intro token user role hmem hs hmarker hcookie authority
    have hmem' : ⟨token, user, role⟩ ∈ (Update.build version entries).tokens :=
      Update.mem_tokens_build.mpr hmem
    have ht : cache.current.token? token = some ⟨token, user, role⟩ :=
      hr.token?_eq_some.mpr ⟨hmem', rfl⟩
    -- an update with an empty token would not have been taken
    have hne : token ≠ "" :=
      SessionToken.fault?_eq_none.mp (hr.sound.tokens.faultless _ hmem')
    have hp : g.Presents hs (.token token) :=
      ⟨hmarker, Cookie.find?_eq_some_iff.mpr hcookie, hne⟩
    exact settled hp (cache.current.consult_of_session ht) authority
  written := by
    intro token ht hs v hv hbytes
    exact Cookie.bears_of_get? hv (Cookie.carries_of_bytes hname ht hbytes)

end Gate

/-! ## While the update is in force -/

namespace Session

/-- **What is pushed can log in**, in any run after which the last update taken is the one that
the calls have built. -/
theorem honours_run {settings : Settings} {g : Gate}
    (hg : (Gate.ofSettings settings).value = .ok g) (hsession : settings.session = {})
    {correspondence : Correspondence} {actions : List Action} {version : UInt64}
    {entries : List Update.Entry}
    (hlast : Update.lastTaken (history correspondence { gate := g } actions)
      = Update.build version entries) :
    (g.markerHeader = ⟨"ns_server-ui"⟩ ∧ g.markerValue = "yes" ∧ g.cookieName = "ui-auth-q") ∧
      (run correspondence { gate := g } actions).2.gate = g ∧
      g.Honours (run correspondence { gate := g } actions).2.store.cache entries := by
  have hconfigured := (Gate.ofSettings_eq_ok_iff.mp hg).2
  have hheader := hconfigured.markerHeader
  have hvalue := hconfigured.markerValue
  have hname := hconfigured.cookieName
  rw [hsession] at hheader hvalue hname
  have hr := (records_run correspondence g actions).reflects
  rw [hlast] at hr
  have hparsed : Header.Name.parse "ns_server-ui" = some ⟨"ns_server-ui"⟩ := by decide
  refine ⟨⟨Option.some.inj (hheader.symm.trans hparsed), hvalue, hname⟩, gate_run .., ?_⟩
  apply Gate.honours_of_reflects hr
  rw [hname]
  decide

/-- A user that is set twice, a bucket and a session. -/
def roster : List Update.Entry :=
  [.user "root" "old" .admin [1], .user "root" "new" .readOnlyAdmin [2],
    .bucket "media" "pass:word", .token "t=1" "ann" .admin]

theorem lastTaken_roster :
    Update.lastTaken [Update.build 1 roster] = Update.build 1 roster := by
  apply Update.lastTaken_append_of_isTaken []
  refine (Update.isTaken_iff _).mpr ⟨⟨?_, by decide⟩, ⟨?_, by decide⟩, ⟨?_, by decide⟩⟩
  · intro a ha
    obtain rfl : a = .hashed "root" "new" .readOnlyAdmin [2] := List.mem_singleton.mp ha
    show (AdminUser.hashed "root" "new" .readOnlyAdmin [2]).fault? = none
    exact AdminUser.fault?_eq_none.mpr
      ⟨by decide, rfl, by decide, Password.hash_length "new" [2]⟩
  · intro b hb
    obtain rfl := List.mem_singleton.mp hb
    rfl
  · intro t ht
    obtain rfl := List.mem_singleton.mp ht
    rfl

/-- An authority that is never reached. -/
def silence : Correspondence := ⟨fun _ => Gate.unreachable, fun _ => Gate.unreachable⟩

/-- The push of the roster. -/
def push : List Action := [.store (.replace (Update.build 1 roster))]

/-- The cache after the push. -/
def pushed : Cache := (run silence { gate := Gate.loopback } push).2.store.cache

/-- What comes of a password after the push. -/
def login (user password : String) : Except Refusal Identity :=
  (Gate.loopback.authenticate pushed Gate.unreachable
    [(.authorization, Basic.header user password)]).value

/-- All three are let in after the push. The password that was set first is not let in any more,
and neither is a password that no call has given. -/
theorem honours_roster :
    (Gate.ofSettings Gate.loopbackSettings).value = .ok Gate.loopback ∧
      Gate.loopbackSettings.session = {} ∧
      Update.lastTaken (history silence { gate := Gate.loopback } push) = Update.build 1 roster ∧
      login "root" "new" = .ok (Identity.ofAdmin "root" .readOnlyAdmin) ∧
      login "root" "old" = .error .unauthorized ∧
      login "media" "pass:word" = .ok (Identity.ofBucket "media") ∧
      login "media" "password" = .error .unauthorized ∧
      (Gate.loopback.authenticate pushed Gate.unreachable
          [(⟨"ns_server-ui"⟩, .ofText "yes" (by decide)),
            (.cookie, .ofText "ui-auth-q=t=1" (by decide))]).value
        = .ok (Identity.ofAdmin "ann" .admin) := by
  have hlast : Update.lastTaken (history silence { gate := Gate.loopback } push)
      = Update.build 1 roster := lastTaken_roster
  obtain ⟨-, -, honours⟩ := honours_run Gate.ofSettings_loopback rfl hlast
  have hset : Update.LastSets roster "root" "new" .readOnlyAdmin [2] :=
    ⟨[.user "root" "old" .admin [1]], _, rfl, by simp⟩
  have hmedia : .bucket "media" "pass:word" ∈ roster := by simp [roster]
  have hfree : ∀ password role salt, .user "media" password role salt ∉ roster := by simp [roster]
  refine ⟨Gate.ofSettings_loopback, rfl, hlast, ?_, ?_, ?_, ?_, ?_⟩
  · exact (honours.admin hset (by decide) rfl rfl Gate.unreachable).2.1 rfl
  · have hne : (Password.hash "old" [2]).bytes ≠ (Password.hash "new" [2]).bytes := by
      decide +kernel
    exact (honours.admin hset (by decide) rfl rfl Gate.unreachable).2.2 hne
  · exact (honours.bucket hmedia hfree (by decide) rfl rfl Gate.unreachable).2.1 rfl
  · exact (honours.bucket hmedia hfree (by decide) rfl rfl Gate.unreachable).2.2 (by decide)
  · have hmem : .token "t=1" "ann" .admin ∈ roster := by simp [roster]
    have ht : Cookie.IsValue "t=1" := by decide
    exact (honours.session hmem ⟨_, rfl, rfl⟩ (honours.written ht rfl rfl) Gate.unreachable).2

end Session

end Gatehouse
