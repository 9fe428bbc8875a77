import Gatehouse.Proofs.Gate.Resolution
import Gatehouse.Proofs.Json.Document
import Gatehouse.Proofs.Record

/-!
# What the authority says of a user

The answers that vouch for somebody, in words that do not mention how they are read: the text of
a record with a role and a user, and both of them strings (`Vouch.Described`). So whom an answer
lets in depends on what its text describes, and on nothing else (`Gate.vouches_iff`).
-/

set_option autoImplicit false

namespace Gatehouse

namespace Vouch

variable {d : Datum} {v : Vouch} {body : Bytes}

/-- The value vouches for the user. -/
structure Described (d : Datum) (v : Vouch) : Prop where
  record : d.IsRecord .refused fieldNames
  role : d.HasField fieldNames "role" (.string v.role)
  user : d.HasField fieldNames "user" (.string v.user)

/-- Reading an answer is finding whom it describes. -/
theorem ofDatum_eq_some_iff : ofDatum d = some v ↔ Described d v := by
  unfold ofDatum
  refine Datum.reads_iff (fun r hr hd => ?_) Described.record
  have hnames : fieldNames.Nodup := by decide
  simp (disch := decide) only [bind, pure, Option.bind_eq_some_iff, Datum.required_iff hnames _ hr]
  constructor
  · rintro ⟨_, hrole, _, huser, heq⟩
    cases heq
    exact ⟨hd, Datum.gives_string_iff.mp hrole, Datum.gives_string_iff.mp huser⟩
  · rintro ⟨-, hrole, huser⟩
    exact ⟨_, Datum.gives_string_iff.mpr hrole, _, Datum.gives_string_iff.mpr huser, rfl⟩

/-- **A body is read as the one that its text describes.** -/
theorem ofBody_eq_some_iff :
    ofBody body = some v ↔ ∃ d, Json.read body = some d ∧ Described d v := by
  rw [ofBody, Option.bind_eq_some_iff]
  exact exists_congr fun d => and_congr_right fun _ => ofDatum_eq_some_iff

end Vouch

/-- **Whom the authority vouches for.** The text of its answer gives the role by its name, and a
user who has one. -/
theorem Gate.vouches_iff {answer : Except ExchangeFault Reply} {user : String} {role : Role} :
    Vouches answer user role ↔ user ≠ "" ∧ ∃ reply d, answer = .ok reply ∧
      reply.status = Status.ok ∧ Json.read reply.body = some d ∧
      Vouch.Described d ⟨role.name, user⟩ := by
  constructor
  · rintro ⟨hnamed, reply, hanswer, hstatus, hbody⟩
    obtain ⟨d, hread, hd⟩ := Vouch.ofBody_eq_some_iff.mp hbody
    exact ⟨hnamed, reply, d, hanswer, hstatus, hread, hd⟩
  · rintro ⟨hnamed, reply, d, hanswer, hstatus, hread, hd⟩
    exact ⟨hnamed, reply, hanswer, hstatus, Vouch.ofBody_eq_some_iff.mpr ⟨d, hread, hd⟩⟩

end Gatehouse
