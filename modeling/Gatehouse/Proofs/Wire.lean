import Gatehouse.Proofs.Hex
import Gatehouse.Proofs.Json.Document
import Gatehouse.Proofs.Record
import Gatehouse.Proofs.Refresh

/-!
# What travels on the wire

The wire form of updates in words that do not mention how it is read: which values describe an
update (`Update.Described`), down to the digits of a salt and the name of a role. Reading is this
relation (`Update.ofDatum_eq_some_iff`), and what is written for an update describes it. Roles have
names of the wire's own, which might come to differ from the names that everything else goes by;
they do not (`Role.ofTag?_eq_some_iff`).

It is a relation on whole updates. A single entry that describes nobody leaves nothing of the
update to be read (`Update.ofDatum_of_spoiled`), and a pull that brings such a value leaves the
cache as it was.
-/

set_option autoImplicit false

namespace Gatehouse

/-! ## Single values -/

variable {d : Datum}

namespace Datum

/-- The value is an array whose items are those of the list. -/
inductive Lists {α : Type} (Item : Datum → α → Prop) : Datum → List α → Prop
  | nil : Lists Item (.array []) []
  | cons {d : Datum} {items : List Datum} {x : α} {xs : List α} (hitem : Item d x)
    (hrest : Lists Item (.array items) xs) : Lists Item (.array (d :: items)) (x :: xs)

variable {α : Type} {Item : Datum → α → Prop} {items : List Datum} {xs : List α}

theorem mapM_eq_some_iff {item? : Datum → Option α} (h : ∀ v x, item? v = some x ↔ Item v x) :
    items.mapM item? = some xs ↔ Lists Item (.array items) xs := by
  induction items generalizing xs with
  | nil =>
    constructor
    · rintro ⟨⟩
      exact .nil
    · rintro ⟨⟩
      rfl
  | cons v items ih =>
    simp only [List.mapM_cons, bind, pure, Option.bind_eq_some_iff, h, ih]
    constructor
    · rintro ⟨x, hitem, rest, hrest, heq⟩
      cases heq
      exact .cons hitem hrest
    · rintro (_ | ⟨hitem, hrest⟩)
      exact ⟨_, hitem, _, hrest, rfl⟩

theorem list?_eq_some_iff {item? : Datum → Option α} (h : ∀ v x, item? v = some x ↔ Item v x) :
    d.list? item? = some xs ↔ d.Lists Item xs := by
  cases d with
  | array items => exact mapM_eq_some_iff h
  | _ => exact iff_of_false nofun nofun

/-- There is no item that stands for nothing. -/
theorem Lists.exists_of_mem {v : Datum} (h : Lists Item (.array items) xs) (hv : v ∈ items) :
    ∃ x, Item v x := by
  induction items generalizing xs with
  | nil => cases hv
  | cons w items ih =>
    cases h with
    | cons hitem hrest =>
      rcases List.mem_cons.mp hv with rfl | hv
      · exact ⟨_, hitem⟩
      · exact ih hrest hv

theorem list?_map {item? : Datum → Option α} {toDatum : α → Datum}
    (h : ∀ x, item? (toDatum x) = some x) (xs : List α) :
    (array (xs.map toDatum)).list? item? = some xs := by
  rw [list?]
  induction xs with
  | nil => rfl
  | cons x xs ih => simp [h, ih]

end Datum

/-! ## Roles -/

namespace Role

variable {s : String} {role : Role}

/-- **The names of the wire are the names of the roles.** -/
theorem tag_eq_name (role : Role) : role.tag = role.name := by
  cases role <;> rfl

@[simp] theorem ofTag?_tag (role : Role) : ofTag? role.tag = some role := by
  cases role <;> rfl

/-- **What is read on the wire is read alike everywhere else.** -/
theorem ofTag?_eq_some_iff : ofTag? s = some role ↔ parse s = .ok role := by
  constructor
  · intro h
    have htag : role.tag = s := by simpa using List.find?_some h
    rw [← htag, tag_eq_name, parse_name]
  · intro h
    rw [← name_of_parse h, ← tag_eq_name, ofTag?_tag]

/-- A role is given by its name, as a string or as the one key of an object. -/
inductive Named : Datum → Role → Prop
  | text {s : String} {role : Role} (h : parse s = .ok role) : Named (.string s) role
  | key {s : String} {role : Role} (h : parse s = .ok role) : Named (.object [(s, .null)]) role

theorem ofDatum_eq_some_iff : ofDatum d = some role ↔ Named d role := by
  unfold ofDatum
  split
  · rw [ofTag?_eq_some_iff]
    refine ⟨.text, ?_⟩
    rintro ⟨⟩
    assumption
  · rw [ofTag?_eq_some_iff]
    refine ⟨.key, ?_⟩
    rintro ⟨⟩
    assumption
  · next hstring hobject =>
    refine iff_of_false nofun ?_
    rintro (⟨h⟩ | ⟨h⟩)
    · exact hstring _ rfl
    · exact hobject _ rfl

@[simp] theorem ofDatum_toDatum (role : Role) : ofDatum role.toDatum = some role :=
  ofTag?_tag role

@[simp] theorem plain_toDatum (role : Role) : role.toDatum.Plain := .string role.tag

theorem gives_iff {names : List String} {name : String} :
    d.Gives names name ofDatum role ↔ ∃ v, d.HasField names name v ∧ Named v role :=
  exists_congr fun _ => and_congr_right fun _ => ofDatum_eq_some_iff

end Role

/-! ## Bytes -/

/-- Bytes are given by a text that spells them in hex. -/
theorem bytesOfDatum_eq_some_iff {bs : Bytes} :
    bytesOfDatum d = some bs ↔ ∃ s, d = .string s ∧ Hex.Spells s bs := by
  rw [bytesOfDatum, Option.bind_eq_some_iff]
  exact exists_congr fun s => and_congr Datum.string?_eq_some_iff Hex.decodeText_eq_some_iff

theorem gives_bytes_iff {names : List String} {name : String} {bs : Bytes} :
    d.Gives names name bytesOfDatum bs ↔
      ∃ s, d.HasField names name (.string s) ∧ Hex.Spells s bs := by
  simp only [Datum.Gives, bytesOfDatum_eq_some_iff]
  constructor
  · rintro ⟨_, hfield, s, rfl, hs⟩
    exact ⟨s, hfield, hs⟩
  · rintro ⟨s, hfield, hs⟩
    exact ⟨_, hfield, s, rfl, hs⟩

/-! ## Entries -/

namespace AdminUser

variable {a : AdminUser}

/-- The value is an entry for the user. -/
structure Described (d : Datum) (a : AdminUser) : Prop where
  record : d.IsRecord .refused fieldNames
  name : d.HasField fieldNames "name" (.string a.name)
  salt : ∃ s, d.HasField fieldNames "salt" (.string s) ∧ Hex.Spells s a.salt
  passwordHash : ∃ s, d.HasField fieldNames "password_hash" (.string s) ∧
    Hex.Spells s a.passwordHash
  role : ∃ v, d.HasField fieldNames "role" v ∧ Role.Named v a.role

/-- Reading an entry is finding the one that is described. -/
theorem ofDatum_eq_some_iff : ofDatum d = some a ↔ Described d a := by
  unfold ofDatum
  refine Datum.reads_iff (fun r hr hd => ?_) Described.record
  have hnames : fieldNames.Nodup := by decide
  simp (disch := decide) only [bind, pure, Option.bind_eq_some_iff, Datum.required_iff hnames _ hr]
  constructor
  · rintro ⟨_, hname, _, hsalt, _, hhash, _, hrole, heq⟩
    cases heq
    exact ⟨hd, Datum.gives_string_iff.mp hname,
      gives_bytes_iff.mp hsalt, gives_bytes_iff.mp hhash, Role.gives_iff.mp hrole⟩
  · rintro ⟨-, hname, hsalt, hhash, hrole⟩
    exact ⟨_, Datum.gives_string_iff.mpr hname, _, gives_bytes_iff.mpr hsalt, _,
      gives_bytes_iff.mpr hhash, _, Role.gives_iff.mpr hrole, rfl⟩

@[simp] theorem ofDatum_toDatum (a : AdminUser) : ofDatum a.toDatum = some a := by
  simp [ofDatum, toDatum, Datum.record?, fieldNames, distinctNames, Record.required,
    List.lookup_cons, Datum.string?, bytesOfDatum]

@[simp] theorem plain_toDatum (a : AdminUser) : a.toDatum.Plain := .object (by simp)

end AdminUser

namespace BucketCredential

variable {b : BucketCredential}

structure Described (d : Datum) (b : BucketCredential) : Prop where
  record : d.IsRecord .refused fieldNames
  bucket : d.HasField fieldNames "bucket" (.string b.bucket)
  password : d.HasField fieldNames "password" (.string b.password)

theorem ofDatum_eq_some_iff : ofDatum d = some b ↔ Described d b := by
  unfold ofDatum
  refine Datum.reads_iff (fun r hr hd => ?_) Described.record
  have hnames : fieldNames.Nodup := by decide
  simp (disch := decide) only [bind, pure, Option.bind_eq_some_iff, Datum.required_iff hnames _ hr]
  constructor
  · rintro ⟨_, hbucket, _, hpassword, heq⟩
    cases heq
    exact ⟨hd, Datum.gives_string_iff.mp hbucket,
      Datum.gives_string_iff.mp hpassword⟩
  · rintro ⟨-, hbucket, hpassword⟩
    exact ⟨_, Datum.gives_string_iff.mpr hbucket, _, Datum.gives_string_iff.mpr hpassword, rfl⟩

@[simp] theorem ofDatum_toDatum (b : BucketCredential) : ofDatum b.toDatum = some b := by
  simp [ofDatum, toDatum, Datum.record?, fieldNames, distinctNames, Record.required,
    List.lookup_cons, Datum.string?]

@[simp] theorem plain_toDatum (b : BucketCredential) : b.toDatum.Plain := .object (by simp)

end BucketCredential

namespace SessionToken

variable {t : SessionToken}

structure Described (d : Datum) (t : SessionToken) : Prop where
  record : d.IsRecord .refused fieldNames
  token : d.HasField fieldNames "token" (.string t.token)
  user : d.HasField fieldNames "user" (.string t.user)
  role : ∃ v, d.HasField fieldNames "role" v ∧ Role.Named v t.role

theorem ofDatum_eq_some_iff : ofDatum d = some t ↔ Described d t := by
  unfold ofDatum
  refine Datum.reads_iff (fun r hr hd => ?_) Described.record
  have hnames : fieldNames.Nodup := by decide
  simp (disch := decide) only [bind, pure, Option.bind_eq_some_iff, Datum.required_iff hnames _ hr]
  constructor
  · rintro ⟨_, htoken, _, huser, _, hrole, heq⟩
    cases heq
    exact ⟨hd, Datum.gives_string_iff.mp htoken,
      Datum.gives_string_iff.mp huser, Role.gives_iff.mp hrole⟩
  · rintro ⟨-, htoken, huser, hrole⟩
    exact ⟨_, Datum.gives_string_iff.mpr htoken, _, Datum.gives_string_iff.mpr huser, _,
      Role.gives_iff.mpr hrole, rfl⟩

@[simp] theorem ofDatum_toDatum (t : SessionToken) : ofDatum t.toDatum = some t := by
  simp [ofDatum, toDatum, Datum.record?, fieldNames, distinctNames, Record.required,
    List.lookup_cons, Datum.string?]

@[simp] theorem plain_toDatum (t : SessionToken) : t.toDatum.Plain := .object (by simp)

end SessionToken

/-! ## Updates -/

namespace Update

variable {u : Update}

/-- The list that a field is, or the empty one where there is no field. -/
def GivesList {α : Type} (Item : Datum → α → Prop) (d : Datum) (name : String) (xs : List α) :
    Prop :=
  (∃ v, d.HasField fieldNames name v ∧ v.Lists Item xs) ∨
    (∀ v, ¬ d.HasField fieldNames name v) ∧ xs = []

/-- The value describes the update. -/
structure Described (d : Datum) (u : Update) : Prop where
  record : d.IsRecord .refused fieldNames
  version : d.HasField fieldNames "version" (.nat u.version.toNat) ∨
    (∀ v, ¬ d.HasField fieldNames "version" v) ∧ u.version = 0
  admins : GivesList AdminUser.Described d "admins" u.admins
  buckets : GivesList BucketCredential.Described d "buckets" u.buckets
  tokens : GivesList SessionToken.Described d "tokens" u.tokens

theorem givesOr_list_iff {α : Type} {name : String} {xs : List α} {item? : Datum → Option α}
    {Item : Datum → α → Prop} (h : ∀ {v x}, item? v = some x ↔ Item v x) :
    d.GivesOr fieldNames name [] (Datum.list? item?) xs ↔ GivesList Item d name xs := by
  refine or_congr_left (exists_congr fun v => and_congr_right fun _ => ?_)
  exact Datum.list?_eq_some_iff fun _ _ => h

theorem givesOr_version_iff {n : UInt64} :
    d.GivesOr fieldNames "version" 0 Datum.uint64? n ↔
      d.HasField fieldNames "version" (.nat n.toNat) ∨
        (∀ v, ¬ d.HasField fieldNames "version" v) ∧ n = 0 := by
  refine or_congr_left ?_
  simp [Datum.Gives, Datum.uint64?_eq_some_iff]

/-- **Reading an update is finding the one that is described.** -/
theorem ofDatum_eq_some_iff : ofDatum d = some u ↔ Described d u := by
  unfold ofDatum
  refine Datum.reads_iff (fun r hr hd => ?_) Described.record
  have hnames : fieldNames.Nodup := by decide
  simp (disch := decide) only [bind, pure, Option.bind_eq_some_iff, Datum.optional_iff hnames _ hr,
    givesOr_version_iff, givesOr_list_iff AdminUser.ofDatum_eq_some_iff,
    givesOr_list_iff BucketCredential.ofDatum_eq_some_iff,
    givesOr_list_iff SessionToken.ofDatum_eq_some_iff]
  constructor
  · rintro ⟨_, hversion, _, hadmins, _, hbuckets, _, htokens, heq⟩
    cases heq
    exact ⟨hd, hversion, hadmins, hbuckets, htokens⟩
  · rintro ⟨-, hversion, hadmins, hbuckets, htokens⟩
    exact ⟨_, hversion, _, hadmins, _, hbuckets, _, htokens, rfl⟩

/-- What is written for an update is read as it. -/
theorem ofDatum_toDatum (u : Update) : ofDatum u.toDatum = some u := by
  simp [ofDatum, toDatum, Datum.record?, fieldNames, distinctNames, Record.optional,
    List.lookup_cons, Datum.list?_map AdminUser.ofDatum_toDatum,
    Datum.list?_map BucketCredential.ofDatum_toDatum,
    Datum.list?_map SessionToken.ofDatum_toDatum]

theorem plain_toDatum (u : Update) : u.toDatum.Plain := by
  refine .object ?_
  simp only [List.forall_mem_cons, List.not_mem_nil, false_implies, implies_true, and_true]
  refine ⟨.nat _, .array ?_, .array ?_, .array ?_⟩ <;> simp

/-! ## Entries that nothing can be made of -/

/-- The list has an item that is no entry of its kind. -/
def HasStray {α : Type} (Item : Datum → α → Prop) (d : Datum) (name : String) : Prop :=
  ∃ items e, d.HasField fieldNames name (.array items) ∧ e ∈ items ∧ ∀ x, ¬ Item e x

/-- One of the lists has such an item. -/
def Spoiled (d : Datum) : Prop :=
  HasStray AdminUser.Described d "admins" ∨ HasStray BucketCredential.Described d "buckets" ∨
    HasStray SessionToken.Described d "tokens"

theorem not_givesList_of_hasStray {α : Type} {Item : Datum → α → Prop} {name : String}
    {xs : List α} (hname : name ∈ fieldNames) (hd : d.IsRecord .refused fieldNames)
    (h : HasStray Item d name) : ¬ GivesList Item d name xs := by
  obtain ⟨items, e, hfield, he, hstray⟩ := h
  rintro (⟨v, hv, hlists⟩ | ⟨hnone, -⟩)
  · obtain rfl := hv.unique (by decide) hname hd hfield
    obtain ⟨x, hx⟩ := hlists.exists_of_mem he
    exact hstray x hx
  · exact hnone _ hfield

/-- **One bad entry is enough.** -/
theorem ofDatum_of_spoiled (h : Spoiled d) : ofDatum d = none := by
  rw [Option.eq_none_iff_forall_ne_some]
  intro u hu
  have hu := ofDatum_eq_some_iff.mp hu
  rcases h with h | h | h
  · exact not_givesList_of_hasStray (by decide) hu.record h hu.admins
  · exact not_givesList_of_hasStray (by decide) hu.record h hu.buckets
  · exact not_givesList_of_hasStray (by decide) hu.record h hu.tokens

/-- Nothing comes of a body that is no update. -/
theorem tick_of_unread {p : Puller} {authority : Nat → Authority} {w : Upkeep} {reply : Reply}
    (hreply : authority w.fetches p.request = .ok reply) (hbody : ofBody reply.body = none) :
    (Upkeep.tick (fun n => p.fetch (authority n)) w).value
      = { w with fetches := w.fetches + 1 } := by
  refine Store.tick_of_fruitless fun u hu => ?_
  obtain ⟨reply', hreply', -, hread⟩ := Puller.fetch_eq_ok_iff.mp hu
  rw [hreply] at hreply'
  cases hreply'
  rw [hbody] at hread
  cases hread

/-- What comes of a value that is no update: it is not read, and where the authority answers a
tick with it, the credentials stay what they were. -/
structure Lost (d : Datum) : Prop where
  unread : ofDatum d = none
  kept {p : Puller} {authority : Nat → Authority} {w : Upkeep} {reply : Reply}
    (hreply : authority w.fetches p.request = .ok reply) (hbody : Json.read reply.body = some d) :
    (Upkeep.tick (fun n => p.fetch (authority n)) w).value = { w with fetches := w.fetches + 1 }

/-- All is lost with one bad entry. -/
theorem lost_of_spoiled (h : Spoiled d) : Lost d where
  unread := ofDatum_of_spoiled h
  kept hreply hbody := by
    refine tick_of_unread hreply ?_
    rw [ofBody, hbody]
    exact ofDatum_of_spoiled h

/-- **An update is read from its own text, and from any text as a whole or not at all**: what is
written for an update describes it, what is read is what the text describes, and nothing is where
one entry describes nothing. -/
theorem travels :
    (∀ u : Update, Described u.toDatum u ∧ ofBody (Utf8.encode (Json.write u.toDatum)) = some u) ∧
      (∀ body u, ofBody body = some u ↔ ∃ d, Json.read body = some d ∧ Described d u) ∧
      ∀ d, Spoiled d → Lost d := by
  refine ⟨fun u => ⟨?_, ?_⟩, fun body u => ?_, fun d => lost_of_spoiled⟩
  · exact ofDatum_eq_some_iff.mp (ofDatum_toDatum u)
  · rw [ofBody, Json.read_write u.plain_toDatum]
    exact ofDatum_toDatum u
  · rw [ofBody, Option.bind_eq_some_iff]
    exact exists_congr fun d => and_congr_right fun _ => ofDatum_eq_some_iff

/-- A user with a salt that is not hex. -/
def badHex : Datum :=
  .object [("version", .nat 1), ("admins", .array [.object [("name", .string "a"),
    ("salt", .string "zz"), ("password_hash", .string "00"), ("role", .string "admin")]])]

/-- Who answers every request with it. -/
def badHexAuthority : Authority := fun _ => .ok
  { status := Status.ok
    body := Utf8.encode (Json.write badHex)
    complaint := "Invalid character 'z' at position 0 at line 1 column 46" }

/-- It takes the whole update with it, and a cache that asks for it stays empty. -/
theorem travels_badHex : Spoiled badHex ∧ ofDatum badHex = none ∧
    (Upkeep.tick (fun _ => Puller.fetch ⟨"http://a", []⟩ badHexAuthority) {}).value
      = { fetches := 1 } := by
  have hspoiled : Spoiled badHex := by
    refine .inl ⟨_, _, .named (List.mem_cons_of_mem _ List.mem_cons_self), List.mem_cons_self, ?_⟩
    intro a ha
    obtain ⟨s, ⟨hmem⟩, hs⟩ := ha.salt
    obtain rfl : s = "zz" := by simpa using hmem
    have hz : ¬ Hex.IsDigit 'z' := by decide
    exact hz (hs.digits 'z' (by decide))
  have hplain : badHex.Plain :=
    .object (by simpa using Datum.Plain.array (by simpa using Datum.Plain.object (by simp)))
  have hlost := travels.2.2 badHex hspoiled
  exact ⟨hspoiled, hlost.unread, hlost.kept rfl (Json.read_write hplain)⟩

/-- Digits of either case, and a role given as a key. -/
example : (AdminUser.ofDatum (.object [("role", .object [("ro_admin", .null)]),
    ("name", .string "a"), ("salt", .string "0aFf"), ("password_hash", .string "")])).map
      (fun a => (a.salt, a.role)) = some ([0x0a, 0xff], .readOnlyAdmin) := rfl

end Update

end Gatehouse
