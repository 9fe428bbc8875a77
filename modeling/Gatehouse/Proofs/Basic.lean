import Gatehouse.Credential.Basic
import Gatehouse.Proofs.Base64
import Gatehouse.Proofs.Cut
import Gatehouse.Proofs.HeaderText

/-!
# The grammar of the Basic scheme

`Basic.Spells` says what a value looks like that carries a user and a password: the scheme
in any case, a space, and the canonical text of the pair, with blanks around them where they
may be. `Basic.parse` reads those values and no others (`parse_eq_ok_iff`), so a value
carries at most one pair.

The same cut decides what is told about a value of another scheme (`Parted.parse`), which is
why the place of the first *space* is followed with some care: a tab does not end a scheme, so
credentials behind tabs are taken for a part of it (`exposed`).
-/

set_option autoImplicit false

namespace Gatehouse.Basic

/-- Nothing but spaces and tabs. -/
def Blank (cs : List Char) : Prop := ∀ c ∈ cs, Text.isBlank c = true

instance (cs : List Char) : Decidable (Blank cs) :=
  decidable_of_iff (cs.all Text.isBlank = true) List.all_eq_true

/-- The value is that of a user and a password in the Basic scheme. -/
structure Spells (v : Header.Value) (user password : String) : Prop where
  nocolon : ':' ∉ user.toList
  grammar : ∃ lead scheme inner trail, Blank lead ∧ isBasic scheme = true ∧ Blank inner
    ∧ Blank trail
    ∧ v.text? = some (lead ++ scheme ++ ' ' :: (inner ++ encodePair user password ++ trail))

/-! ## The pair -/

theorem encodePair_ne_nil (user password : String) : encodePair user password ≠ [] := by
  apply Base64.encode_ne_nil
  intro h
  have hd : Utf8.encode (user ++ ":" ++ password) = Utf8.encode "" := h
  have he := congrArg String.toList (Utf8.encode_injective hd)
  simp at he

theorem trimmed_encodePair (user password : String) :
    Text.Trimmed Text.isBlank (encodePair user password) :=
  Text.trimmed_of_forall fun _ hc => Base64.not_isBlank_of_mem hc

/-- The cut between user and password is at the first colon, so the user has none. -/
theorem decodePair_eq_some_iff {cs : List Char} {user password : String} :
    decodePair cs = some (user, password) ↔
      ':' ∉ user.toList ∧ Text.trim Text.isBlank cs = encodePair user password := by
  unfold decodePair
  constructor
  · intro h
    cases hb : Base64.decode (Text.trim Text.isBlank cs) with
    | none => rw [hb] at h; cases h
    | some bytes =>
      rw [hb] at h
      dsimp only at h
      cases ht : Utf8.decode bytes with
      | none => rw [ht] at h; cases h
      | some text =>
        rw [ht] at h
        dsimp only at h
        cases hs : Text.splitFirst ':' text.toList with
        | none => rw [hs] at h; cases h
        | some parts =>
          obtain ⟨before, after⟩ := parts
          rw [hs] at h
          simp only [Option.some.injEq, Prod.mk.injEq] at h
          obtain ⟨rfl, rfl⟩ := h
          obtain ⟨hcut, hno⟩ := Text.splitFirst_eq_some.mp hs
          refine ⟨by rwa [String.toList_ofList], ?_⟩
          have htext : text = String.ofList before ++ ":" ++ String.ofList after := by
            apply String.toList_inj.mp
            rw [hcut]
            simp
          rw [Base64.eq_encode_of_decode hb, Utf8.eq_encode_of_decode ht, htext, encodePair]
  · rintro ⟨hno, htrim⟩
    have hcut : Text.splitFirst ':' (user ++ ":" ++ password).toList
        = some (user.toList, password.toList) := by
      apply Text.splitFirst_eq_some.mpr
      exact ⟨by simp, hno⟩
    rw [htrim, encodePair, Base64.decode_encode]
    simp only [Utf8.decode_encode, hcut, String.ofList_toList]

/-! ## The scheme -/

theorem not_blank_of_isBasic {scheme : List Char} (h : isBasic scheme = true) :
    ∀ c ∈ scheme, Text.isBlank c = false := by
  intro c hc
  have hmem : c.toLower ∈ "basic".toList := by
    have hs : scheme.map Char.toLower = "basic".toList := by simpa [isBasic] using h
    rw [← hs]
    exact List.mem_map_of_mem hc
  cases hb : Text.isBlank c with
  | false => rfl
  | true =>
    simp only [Text.isBlank, Bool.or_eq_true, decide_eq_true_eq] at hb
    rcases hb with rfl | rfl
    · exact absurd hmem (by decide)
    · exact absurd hmem (by decide)

theorem ne_nil_of_isBasic {scheme : List Char} (h : isBasic scheme = true) : scheme ≠ [] := by
  rintro rfl
  exact absurd h (by decide)

theorem space_isBlank : Text.isBlank ' ' = true := by decide

theorem space_notin_of_isBasic {scheme : List Char} (h : isBasic scheme = true) :
    ' ' ∉ scheme := by
  intro hmem
  have := not_blank_of_isBasic h _ hmem
  rw [space_isBlank] at this
  cases this

/-- Where a value is cut, if there is a space in its trimmed form. -/
theorem splitScheme_of_space {cs scheme rest : List Char} (hno : ' ' ∉ scheme)
    (h : Text.trim Text.isBlank cs = scheme ++ ' ' :: rest) :
    splitScheme cs = (scheme, rest) := by
  unfold splitScheme
  rw [h, Text.splitFirst_append hno]

/-! ## Reading a value -/

/-- A value is read as the pair that it spells. -/
theorem parse_eq_ok_iff {v : Header.Value} {user password : String} :
    (parse v).value = .ok (user, password) ↔ Spells v user password := by
  constructor
  · intro h
    unfold parse at h
    cases hv : v.text? with
    | none => rw [hv] at h; cases h
    | some cs =>
      rw [hv] at h
      dsimp only at h
      cases hb : isBasic (splitScheme cs).1 with
      | false => rw [hb] at h; cases h
      | true =>
        rw [hb] at h
        simp only [if_true] at h
        cases hd : decodePair (splitScheme cs).2 with
        | none => rw [hd] at h; cases h
        | some pair =>
          rw [hd] at h
          simp only [Traced.value_pure, Except.ok.injEq] at h
          obtain ⟨hno, hpair⟩ := decodePair_eq_some_iff.mp (h ▸ hd)
          cases hs : Text.splitFirst ' ' (Text.trim Text.isBlank cs) with
          | none =>
            -- without a space there is nothing to decode
            have hnil : (splitScheme cs).2 = [] := by
              unfold splitScheme
              rw [hs]
            rw [hnil] at hpair
            exact absurd hpair.symm (encodePair_ne_nil user password)
          | some parts =>
            obtain ⟨scheme, rest⟩ := parts
            have hcut : splitScheme cs = (scheme, rest) := by
              unfold splitScheme
              rw [hs]
            rw [hcut] at hb hpair
            obtain ⟨htrim, -⟩ := Text.splitFirst_eq_some.mp hs
            obtain ⟨lead, trail, hlead, htrail, hcs⟩ := Text.exists_eq_trim Text.isBlank cs
            obtain ⟨inner, trail', hinner, htrail', hrest⟩ :=
              Text.exists_eq_trim Text.isBlank rest
            refine ⟨hno, lead, scheme, inner, trail' ++ trail, hlead, hb, hinner, ?_, ?_⟩
            · intro c hc
              exact (List.mem_append.mp hc).elim (htrail' c) (htrail c)
            · rw [hv, hcs, htrim, hrest, hpair]
              simp only [List.append_assoc, List.cons_append]
  · rintro ⟨hno, lead, scheme, inner, trail, hlead, hb, hinner, htrail, hv⟩
    have hpair := trimmed_encodePair user password
    -- the scheme begins the trimmed text, and the pair ends it
    have hcore : Text.Trimmed Text.isBlank
        (scheme ++ ' ' :: (inner ++ encodePair user password)) := by
      constructor
      · intro c hc
        cases scheme with
        | nil => exact absurd rfl (ne_nil_of_isBasic hb)
        | cons d ds =>
          obtain rfl := Option.some.inj hc
          exact not_blank_of_isBasic hb _ List.mem_cons_self
      · intro c hc
        rw [List.getLast?_append, List.getLast?_cons, List.getLast?_append] at hc
        cases hl : (encodePair user password).getLast? with
        | none => exact absurd (List.getLast?_eq_none_iff.mp hl) (encodePair_ne_nil _ _)
        | some d =>
          rw [hl] at hc
          obtain rfl : d = c := by simpa using hc
          exact hpair.last d hl
    have htrim : Text.trim Text.isBlank
        (lead ++ scheme ++ ' ' :: (inner ++ encodePair user password ++ trail))
          = scheme ++ ' ' :: (inner ++ encodePair user password) := by
      have := Text.trim_append hlead hcore htrail
      rwa [List.append_assoc, List.append_assoc, List.cons_append, ← List.append_assoc] at this
    have hdecode : decodePair (inner ++ encodePair user password) = some (user, password) := by
      refine decodePair_eq_some_iff.mpr ⟨hno, ?_⟩
      have htrail : ∀ c ∈ ([] : List Char), Text.isBlank c = true := by simp
      have := Text.trim_append hinner hpair htrail
      rwa [List.append_nil] at this
    unfold parse
    rw [hv]
    simp only [splitScheme_of_space (space_notin_of_isBasic hb) htrim, hb, if_true, hdecode]
    rfl

/-- A value carries at most one pair. -/
theorem Spells.unique {v : Header.Value} {user password user' password' : String}
    (h : Spells v user password) (h' : Spells v user' password') :
    user = user' ∧ password = password' := by
  have he := (parse_eq_ok_iff.mpr h).symm.trans (parse_eq_ok_iff.mpr h')
  simpa using he

/-! ## Writing a value -/

theorem isText_encodePair (user password : String) : Header.IsText (encodePair user password) :=
  fun _ hc => Base64.forall_mem_encode (P := fun c => Header.isTextChar c = true)
    (by decide) (by decide) hc

theorem isText_written (user password : String) :
    Header.IsText ("Basic " ++ String.ofList (encodePair user password)).toList := by
  have hscheme : Header.IsText "Basic ".toList := by decide
  have hpair : Header.IsText (String.ofList (encodePair user password)).toList := by
    rw [String.toList_ofList]
    exact isText_encodePair user password
  rw [String.toList_append]
  exact hscheme.append hpair

/-- The value that is written for a user and a password, whatever their characters are. -/
def header (user password : String) : Header.Value :=
  .ofText ("Basic " ++ String.ofList (encodePair user password)) (isText_written user password)

/-- **What is written is read**, unless the user has a colon. -/
theorem spells_header {user : String} (h : ':' ∉ user.toList) (password : String) :
    Spells (header user password) user password where
  nocolon := h
  grammar := ⟨[], "Basic".toList, [], [], nofun, by decide, nofun, nofun, by
    rw [header, Header.Value.text?_ofText, String.toList_append]
    simp⟩

/-! ## The bytes of a value -/

/-- The bytes of the value are the scheme in any case, a space and the text of the pair, with
blanks where they may be. -/
def Layout (v : Header.Value) (pair : List Char) : Prop :=
  ∃ lead scheme inner trail, Blank lead ∧ scheme.map Char.toLower = "basic".toList ∧ Blank inner
    ∧ Blank trail
    ∧ v.bytes = Utf8.encode (String.ofList (lead ++ scheme ++ ' ' :: (inner ++ pair ++ trail)))

theorem Blank.isText {cs : List Char} (h : Blank cs) : Header.IsText cs := by
  intro c hc
  have hb := h c hc
  simp only [Text.isBlank, Bool.or_eq_true, decide_eq_true_eq] at hb
  rcases hb with rfl | rfl
  · rfl
  · rfl

/-- Only letters have the letters of the scheme for their lower case. -/
theorem isText_of_lower {scheme : List Char} (h : scheme.map Char.toLower = "basic".toList) :
    Header.IsText scheme := by
  intro c hc
  have hmem : c.toLower ∈ "basic".toList := by
    rw [← h]
    exact List.mem_map_of_mem hc
  unfold Char.toLower at hmem
  split at hmem
  · next hupper =>
    have hlow : ' ' ≤ c := Char.le_trans (by decide : ' ' ≤ 'A') hupper.1
    have hhigh : c ≤ '~' := Char.le_trans hupper.2 (by decide : 'Z' ≤ '~')
    simp [Header.isTextChar, hlow, hhigh]
  · have hletters : Header.IsText "basic".toList := by decide
    exact hletters c hmem

/-- What spells a pair is laid out, in bytes, around its encoding. -/
theorem spells_iff {v : Header.Value} {user password : String} :
    Spells v user password ↔ ':' ∉ user.toList ∧ Layout v (encodePair user password) := by
  constructor
  · intro h
    obtain ⟨hno, lead, scheme, inner, trail, hlead, hb, hinner, htrail, hv⟩ := h
    refine ⟨hno, lead, scheme, inner, trail, hlead, ?_, hinner, htrail, ?_⟩
    · simpa [isBasic] using hb
    · exact (Header.Value.text?_eq_some_iff.mp hv).2
  · intro h
    obtain ⟨hno, lead, scheme, inner, trail, hlead, hb, hinner, htrail, hv⟩ := h
    refine ⟨hno, lead, scheme, inner, trail, hlead, ?_, hinner, htrail, ?_⟩
    · exact decide_eq_true hb
    · -- all parts are within what a header can hold
      have hspace : Header.IsText [' '] := by decide
      have hpair := (hinner.isText.append (isText_encodePair user password)).append htrail.isText
      exact Header.Value.text?_eq_some_iff.mpr
        ⟨(hlead.isText.append (isText_of_lower hb)).append (hspace.append hpair), hv⟩

/-- How a user and a password are read and written. -/
structure Conveys (user password : String) : Prop where
  /-- They are read from the values of the grammar and from no others. -/
  read (v : Header.Value) : (parse v).value = .ok (user, password) ↔ ':' ∉ user.toList
    ∧ Layout v (Base64.encode (Utf8.encode (user ++ ":" ++ password)))
  /-- What is written for them is read as them, unless the user has a colon. -/
  written : (parse (header user password)).value = .ok (user, password) ↔ ':' ∉ user.toList
  /-- No value of the grammar is one for another user or password as well. -/
  single {v : Header.Value} {user' password' : String}
    (h : Layout v (Base64.encode (Utf8.encode (user ++ ":" ++ password))))
    (h' : Layout v (Base64.encode (Utf8.encode (user' ++ ":" ++ password'))))
    (hno : ':' ∉ user.toList) (hno' : ':' ∉ user'.toList) : user = user' ∧ password = password'

/-- **The scheme carries every password, and every user without a colon.** -/
theorem conveys (user password : String) : Conveys user password where
  read v := by
    rw [parse_eq_ok_iff]
    exact spells_iff
  written := by
    rw [parse_eq_ok_iff]
    constructor
    · intro h
      exact h.nocolon
    · intro hno
      exact spells_header hno password
  single h h' hno hno' := by
    have hs : Spells _ user password := spells_iff.mpr ⟨hno, h⟩
    exact hs.unique (spells_iff.mpr ⟨hno', h'⟩)

/-! ## What is told about a value -/

/-- The characters of a value, one for each byte. -/
def chars (v : Header.Value) : List Char := v.bytes.map fun b => Char.ofNat b.toNat

theorem chars_of_text? {v : Header.Value} {cs : List Char} (h : v.text? = some cs) :
    cs = chars v := by
  unfold Header.Value.text? at h
  split at h
  · exact (Option.some.inj h).symm
  · cases h

/-- The value is a scheme, some blanks and credentials. -/
structure Parted (v : Header.Value) (scheme separator credentials : List Char) : Prop where
  chars : chars v = scheme ++ separator ++ credentials
  scheme_ne : scheme ≠ []
  solid : ∀ c ∈ scheme, Text.isBlank c = false
  separator_ne : separator ≠ []
  blank : Blank separator
  credentials : ∃ c ∈ credentials.head?, Text.isBlank c = false

/-- What the log shows of the credentials. A value that cannot be read is not shown, and a
separator with a space in it hides them; behind tabs alone they are shown up to a space of
their own. -/
def exposed (v : Header.Value) (separator credentials : List Char) : List Char :=
  if v.text? = none ∨ ' ' ∈ separator then []
  else if ' ' ∈ Text.trim Text.isBlank credentials then credentials.takeWhile fun c => c ≠ ' '
  else credentials

theorem splitScheme_fst (cs : List Char) : (splitScheme cs).1
    = if ' ' ∈ Text.trim Text.isBlank cs then
        (Text.trim Text.isBlank cs).takeWhile fun c => c ≠ ' '
      else cs := by
  unfold splitScheme
  by_cases hs : ' ' ∈ Text.trim Text.isBlank cs
  · obtain ⟨after, hcut⟩ := Text.splitFirst_of_mem hs
    rw [hcut, if_pos hs]
  · rw [Text.splitFirst_eq_none hs, if_neg hs]

/-- Only blanks behind the credentials are cut off. -/
theorem Parted.trim {v : Header.Value} {scheme separator credentials : List Char}
    (h : Parted v scheme separator credentials) : Text.trim Text.isBlank (Basic.chars v)
      = scheme ++ separator ++ Text.trim Text.isBlank credentials := by
  obtain ⟨d, hd, hsolid⟩ := h.credentials
  cases hs : scheme with
  | nil => exact absurd hs h.scheme_ne
  | cons c cs =>
    cases hc : credentials with
    | nil => rw [hc] at hd; cases hd
    | cons d' rest =>
      obtain rfl : d' = d := by simpa [hc] using hd
      have hfirst : Text.isBlank c = false := h.solid c (hs ▸ List.mem_cons_self)
      rw [h.chars, hs, hc]
      have := Text.trim_cons_append hfirst hsolid (cs ++ separator) rest
      simpa using this

/-- The scheme, and what is taken for a part of it. -/
theorem Parted.splitScheme_fst {v : Header.Value} {scheme separator credentials : List Char}
    (h : Parted v scheme separator credentials) (hv : v.text? = some (Basic.chars v)) :
    (splitScheme (Basic.chars v)).1
      = scheme ++ (separator.takeWhile fun c => c ≠ ' ') ++ exposed v separator credentials := by
  have hno : ' ' ∉ scheme := by
    intro hc
    have := h.solid _ hc
    rw [space_isBlank] at this
    cases this
  rw [Basic.splitScheme_fst, h.trim]
  by_cases hsep : ' ' ∈ separator
  · have hexposed : exposed v separator credentials = [] := if_pos (.inr hsep)
    rw [if_pos (by simp [hsep]), hexposed, List.append_assoc,
      Text.takeWhile_append_of_notMem hno, Text.takeWhile_append_of_mem hsep, List.append_nil]
  · have hshown : ¬ (v.text? = none ∨ ' ' ∈ separator) := by simp [hv, hsep]
    by_cases hinner : ' ' ∈ Text.trim Text.isBlank credentials
    · obtain ⟨d, hd, hsolid⟩ := h.credentials
      obtain ⟨trail, hcut⟩ := Text.exists_eq_trim_append hd hsolid
      have hfront : (credentials.takeWhile fun c => c ≠ ' ')
          = (Text.trim Text.isBlank credentials).takeWhile fun c => c ≠ ' ' := by
        rw [← Text.takeWhile_append_of_mem hinner trail, ← hcut]
      rw [if_pos (by simp [hinner]), exposed, if_neg hshown, if_pos hinner,
        Text.takeWhile_of_notMem hsep, hfront, List.append_assoc, List.append_assoc,
        Text.takeWhile_append_of_notMem hno, Text.takeWhile_append_of_notMem hsep]
    · rw [if_neg (by simp [hno, hsep, hinner]), exposed, if_neg hshown, if_neg hinner,
        Text.takeWhile_of_notMem hsep, h.chars]

/-- Nothing is told about a value that carries a pair. -/
theorem events_parse_of_spells {v : Header.Value} {user password : String}
    (h : Spells v user password) : Effect.events (parse v).trace = [] := by
  have hok := parse_eq_ok_iff.mpr h
  unfold parse at hok ⊢
  cases hv : v.text? with
  | none => rfl
  | some cs =>
    rw [hv] at hok
    dsimp only at hok ⊢
    cases hb : isBasic (splitScheme cs).1 with
    | false => rw [hb] at hok; cases hok
    | true =>
      simp only [if_true]
      split <;> rfl

/-- **What is told about any other value**: nothing if it is a bad one of the Basic scheme or
cannot be read, and else its scheme with the credentials that are exposed. -/
theorem Parted.parse {v : Header.Value} {scheme separator credentials : List Char}
    (h : Parted v scheme separator credentials) (hno : ∀ user password, ¬ Spells v user password) :
    ((Basic.parse v).value = .error .unauthorized
        ∧ Effect.events (Basic.parse v).trace = [] ∧ exposed v separator credentials = [])
      ∨ ((Basic.parse v).value = .error .noCredentials
        ∧ Effect.events (Basic.parse v).trace = [.schemeUnsupported (String.ofList
            (scheme ++ (separator.takeWhile fun c => c ≠ ' ')
              ++ exposed v separator credentials))]) := by
  have herror : ∀ user password, (Basic.parse v).value ≠ .ok (user, password) :=
    fun user password hok => hno user password (parse_eq_ok_iff.mp hok)
  cases hv : v.text? with
  | none =>
    left
    unfold Basic.parse
    rw [hv]
    exact ⟨rfl, rfl, if_pos (.inl hv)⟩
  | some cs =>
    obtain rfl := chars_of_text? hv
    have hfst := h.splitScheme_fst hv
    unfold Basic.parse at herror ⊢
    rw [hv] at herror ⊢
    dsimp only at herror ⊢
    cases hb : isBasic (splitScheme (Basic.chars v)).1 with
    | false =>
      right
      rw [← hfst]
      exact ⟨rfl, rfl⟩
    | true =>
      left
      simp only [hb, if_true] at herror ⊢
      have hspace : ' ' ∈ separator := by
        refine Decidable.byContradiction fun hsep => ?_
        -- a separator of tabs would stand in the scheme
        obtain ⟨c, hc⟩ := List.exists_mem_of_ne_nil separator h.separator_ne
        have hmem : c ∈ (splitScheme (Basic.chars v)).1 := by
          rw [hfst, Text.takeWhile_of_notMem hsep]
          simp [hc]
        have hsolid := not_blank_of_isBasic hb c hmem
        rw [h.blank c hc] at hsolid
        cases hsolid
      cases hd : decodePair (splitScheme (Basic.chars v)).2 with
      | none => exact ⟨rfl, rfl, if_pos (.inr hspace)⟩
      | some pair =>
        rw [hd] at herror
        exact absurd rfl (herror pair.1 pair.2)

end Gatehouse.Basic
