import Gatehouse.Data.Json
import Gatehouse.Proofs.Cut
import Gatehouse.Proofs.HeaderText

/-!
# Strings and numbers as they are written

A string is written character by character, and read in three passes: to its end, into pieces,
and into the bytes that the pieces spell. `Inside` says of some bytes what all three make of them,
wherever they stand in a string. It is kept when bytes are put together, so that it has to be
shown for single characters alone (`inside_escape`), and the law of a whole string is
`tokens_quote`.

A number is written in digits, and its value is the one that reading adds up (`numeral_toString`).
-/

set_option autoImplicit false

namespace Gatehouse

theorem Utf8.encode_append (s t : String) : encode (s ++ t) = encode s ++ encode t := by
  simp [encode, String.toUTF8]

namespace Json

/-! ## Inside a string -/

/-- The bytes stand for a text when they stand in a string, whatever follows them there. -/
structure Inside (bs text : Bytes) : Prop where
  ending (rest : Bytes) : stringEnd (bs ++ rest) = (stringEnd rest).map fun p => (bs ++ p.1, p.2)
  spelling : ∃ ps, (∀ rest, pieces (bs ++ rest) = (pieces rest).map (ps ++ ·)) ∧
    ∀ more, spell (ps ++ more) = (spell more).map (text ++ ·)

theorem Inside.nil : Inside [] [] where
  ending rest := by simp
  spelling := ⟨[], by simp, by simp⟩

/-- What stands for two texts, one after the other, stands for both together. -/
theorem Inside.append {bs bs' text text' : Bytes} (h : Inside bs text) (h' : Inside bs' text') :
    Inside (bs ++ bs') (text ++ text') := by
  obtain ⟨ps, hpieces, hspell⟩ := h.spelling
  obtain ⟨ps', hpieces', hspell'⟩ := h'.spelling
  refine ⟨fun rest => ?_, ps ++ ps', fun rest => ?_, fun more => ?_⟩
  · rw [List.append_assoc, h.ending, h'.ending, Option.map_map]
    simp [Function.comp_def]
  · rw [List.append_assoc, hpieces, hpieces', Option.map_map]
    simp [Function.comp_def]
  · rw [List.append_assoc, hspell, hspell', Option.map_map]
    simp [Function.comp_def]

/-! ### Bytes that stand for themselves -/

/-- The byte is neither a quote nor a backslash nor a control byte. -/
def Raw (b : UInt8) : Prop := 0x20 ≤ b.toNat ∧ b.toNat ≠ 0x22 ∧ b.toNat ≠ 0x5c

instance (b : UInt8) : Decidable (Raw b) := inferInstanceAs (Decidable (_ ∧ _ ∧ _))

theorem Raw.ne {b : UInt8} (h : Raw b) : b ≠ 0x22 ∧ ¬ b < 0x20 ∧ b ≠ 0x5c := by
  obtain ⟨hlow, hquote, hslash⟩ := h
  refine ⟨?_, ?_, ?_⟩
  · rintro rfl
    exact hquote rfl
  · rw [UInt8.lt_iff_toNat_lt]
    exact Nat.not_lt.mpr hlow
  · rintro rfl
    exact hslash rfl

theorem stringEnd_raw {b : UInt8} (h : Raw b) (rest : Bytes) :
    stringEnd (b :: rest) = (stringEnd rest).map fun p => (b :: p.1, p.2) := by
  obtain ⟨hquote, hlow, hslash⟩ := h.ne
  rw [stringEnd.eq_def]
  simp only [beq_iff_eq, hquote, hlow, hslash, if_false]
  cases stringEnd rest <;> rfl

theorem Inside.raw {b : UInt8} (h : Raw b) : Inside [b] [b] where
  ending rest := stringEnd_raw h rest
  spelling := by
    refine ⟨[.byte b], fun rest => ?_, fun more => ?_⟩
    · have hslash := h.ne.2.2
      show pieces (b :: rest) = (pieces rest).map (.byte b :: ·)
      rw [pieces]
      all_goals simp_all
    · rfl

theorem Inside.raws {bs : Bytes} (h : ∀ b ∈ bs, Raw b) : Inside bs bs := by
  induction bs with
  | nil => exact .nil
  | cons b bs ih =>
    have hb := Inside.raw (h b List.mem_cons_self)
    exact hb.append (ih fun b' hb' => h b' (List.mem_cons_of_mem b hb'))

/-! ### Escapes -/

theorem stringEnd_escape (e : UInt8) (rest : Bytes) :
    stringEnd (0x5c :: e :: rest) = (stringEnd rest).map fun p => (0x5c :: e :: p.1, p.2) := by
  rw [stringEnd]
  simp only [beq_iff_eq, show (0x5c : UInt8) ≠ 0x22 by decide,
    show ¬ (0x5c : UInt8) < 0x20 by decide, if_false, if_true]
  cases stringEnd rest <;> rfl

theorem Inside.escape {e b : UInt8} (h : escaped e = some b) : Inside [0x5c, e] [b] where
  ending rest := stringEnd_escape e rest
  spelling := by
    refine ⟨[.byte b], fun rest => ?_, fun more => ?_⟩
    · show pieces (0x5c :: e :: rest) = (pieces rest).map (.byte b :: ·)
      rw [pieces]
      · rw [h]
        cases pieces rest <;> rfl
      · rintro a b c d rest' rfl
        cases h
    · rfl

theorem Inside.code {a b c d : UInt8} {n : Nat} (hraw : ∀ x ∈ [a, b, c, d], Raw x)
    (hcode : hexCode a b c d = some n) (hn : n < 0xd800) :
    Inside [0x5c, 0x75, a, b, c, d] (codeBytes n) where
  ending rest := by
    have hrest := (Inside.raws hraw).ending rest
    show stringEnd (0x5c :: 0x75 :: ([a, b, c, d] ++ rest)) = _
    rw [stringEnd_escape, hrest, Option.map_map]
    rfl
  spelling := by
    refine ⟨[.code n], fun rest => ?_, fun more => ?_⟩
    · show pieces (0x5c :: 0x75 :: a :: b :: c :: d :: rest) = _
      rw [pieces, hcode]
      cases pieces rest <;> rfl
    · have hhigh : isHighSurrogate n = false := by simp [isHighSurrogate]; omega
      have hlow : isLowSurrogate n = false := by simp [isLowSurrogate]; omega
      show spell (.code n :: more) = _
      rw [spell.eq_def]
      simp [hhigh, hlow]

/-! ### Characters -/

/-- A character that is written as it is has no byte that could be taken for anything else. -/
theorem raw_of_mem_utf8EncodeChar {c : Char} (hlow : 0x20 ≤ c.toNat) (hquote : c ≠ '\x22')
    (hslash : c ≠ '\\') : ∀ b ∈ String.utf8EncodeChar c, Raw b := by
  have hne : ∀ d : Char, c ≠ d → c.val.toNat ≠ d.val.toNat := fun d hd heq =>
    hd (Char.ext (UInt32.toNat_inj.mp heq))
  have hquote' : c.val.toNat ≠ 0x22 := hne _ hquote
  have hslash' : c.val.toNat ≠ 0x5c := hne _ hslash
  have hlow' : 0x20 ≤ c.val.toNat := hlow
  -- of several bytes each is beyond ASCII
  have hhigh : ∀ n, 0x80 ≤ n → n < 0x100 → Raw (UInt8.ofNat n) := by
    intro n hge hlt
    simp only [Raw, UInt8.toNat_ofNat']
    omega
  intro b hb
  unfold String.utf8EncodeChar at hb
  dsimp only at hb
  split at hb
  · obtain rfl := List.mem_singleton.mp hb
    simp only [Raw, UInt8.toNat_ofNat']
    omega
  · split at hb
    · simp only [List.mem_cons, List.not_mem_nil, or_false] at hb
      rcases hb with rfl | rfl <;> exact hhigh _ (by omega) (by omega)
    · split at hb
      · simp only [List.mem_cons, List.not_mem_nil, or_false] at hb
        rcases hb with rfl | rfl | rfl <;> exact hhigh _ (by omega) (by omega)
      · simp only [List.mem_cons, List.not_mem_nil, or_false] at hb
        rcases hb with rfl | rfl | rfl | rfl <;> exact hhigh _ (by omega) (by omega)

/-- The code of a control character, by its digits. -/
theorem control {n : Nat} (h : n < 0x20) : ∃ a b,
    ['\\', 'u', '0', '0', Hex.digit (n / 16), Hex.digit (n % 16)].flatMap String.utf8EncodeChar
        = [0x5c, 0x75, 0x30, 0x30, a, b] ∧
      hexCode 0x30 0x30 a b = some n ∧ ∀ x ∈ [0x30, 0x30, a, b], Raw x := by
  have all : ∀ n : Fin 0x20,
      ['\\', 'u', '0', '0', Hex.digit (n.val / 16), Hex.digit (n.val % 16)].flatMap
          String.utf8EncodeChar
        = [0x5c, 0x75, 0x30, 0x30, UInt8.ofNat (Hex.digit (n.val / 16)).toNat,
          UInt8.ofNat (Hex.digit (n.val % 16)).toNat] ∧
      hexCode 0x30 0x30 (UInt8.ofNat (Hex.digit (n.val / 16)).toNat)
          (UInt8.ofNat (Hex.digit (n.val % 16)).toNat) = some n.val ∧
      ∀ x ∈ [0x30, 0x30, UInt8.ofNat (Hex.digit (n.val / 16)).toNat,
        UInt8.ofNat (Hex.digit (n.val % 16)).toNat], Raw x := by decide +kernel
  exact ⟨_, _, all ⟨n, h⟩⟩

/-- The reader takes the letter of an escape for the character that it is written for. -/
theorem escaped_letter {c e : Char} (h : letter? c = some e) : ∃ b b' : UInt8,
    String.utf8EncodeChar e = [b] ∧ String.utf8EncodeChar c = [b'] ∧ escaped b = some b' := by
  unfold letter? at h
  split at h
  all_goals cases h
  all_goals exact ⟨_, _, rfl, rfl, rfl⟩

/-- **A character is written as what stands for it.** -/
theorem inside_escape (c : Char) :
    Inside ((escape c).flatMap String.utf8EncodeChar) (String.utf8EncodeChar c) := by
  unfold escape
  split
  · next e hletter =>
    obtain ⟨b, b', hb, hb', hread⟩ := escaped_letter hletter
    have hslash : String.utf8EncodeChar '\\' = [0x5c] := rfl
    rw [List.flatMap_cons, List.flatMap_singleton, hslash, hb, hb']
    exact .escape hread
  · next hletter =>
    split
    · next hlow =>
      obtain ⟨a, b, hbytes, hcode, hraw⟩ := control hlow
      have hspelt : codeBytes c.toNat = String.utf8EncodeChar c := by
        have hsingle : String.singleton c = String.ofList [c] := by simp
        rw [codeBytes, Char.ofNat_toNat, hsingle, Utf8.encode_ofList]
        simp
      rw [hbytes, ← hspelt]
      exact .code hraw hcode (Nat.lt_trans hlow (by decide))
    · next hlow =>
      have hquote : c ≠ '\x22' := by
        rintro rfl
        cases hletter
      have hslash : c ≠ '\\' := by
        rintro rfl
        cases hletter
      rw [List.flatMap_singleton]
      exact .raws (raw_of_mem_utf8EncodeChar (Nat.not_lt.mp hlow) hquote hslash)

/-- Only a control character without an escape of its own is written by its code. -/
example : ['\x08', '\x0c', '\x01'].flatMap escape = "\\b\\f\\u0001".toList := by decide

theorem inside_flatMap (cs : List Char) : Inside
    ((cs.flatMap escape).flatMap String.utf8EncodeChar) (cs.flatMap String.utf8EncodeChar) := by
  induction cs with
  | nil => exact .nil
  | cons c cs ih =>
    rw [List.flatMap_cons, List.flatMap_append, List.flatMap_cons]
    exact (inside_escape c).append ih

/-! ## Tokens -/

theorem tokens_string {rest inside after : Bytes} {ps : List Piece}
    (hend : stringEnd rest = some (inside, after)) (hpieces : pieces inside = some ps) :
    tokens (0x22 :: rest)
      = (tokens after).map (.string ((spell ps).bind Utf8.decode) :: ·) := by
  rw [tokens]
  simp only [show isSpace 0x22 = false by decide, show mark 0x22 = none by decide, BEq.rfl, if_true,
    Bool.false_eq_true, if_false]
  split
  · next hnone => rw [hend] at hnone; cases hnone
  · next inside' after' hsome =>
    rw [hend] at hsome
    obtain ⟨rfl, rfl⟩ := Prod.mk.inj (Option.some.inj hsome)
    rw [hpieces]

/-- **A text in quotes is one token.** -/
theorem tokens_quote (s : String) (rest : Bytes) :
    tokens (Utf8.encode (quote s) ++ rest) = (tokens rest).map (.string (some s) :: ·) := by
  have hinside := inside_flatMap s.toList
  rw [← Utf8.encode_ofList, ← Utf8.encode_ofList, String.ofList_toList] at hinside
  generalize hbs : Utf8.encode (String.ofList (s.toList.flatMap escape)) = bs at hinside
  have hquote : Utf8.encode (quote s) ++ rest = 0x22 :: (bs ++ 0x22 :: rest) := by
    have hmark : Utf8.encode "\"" = [0x22] := rfl
    rw [quote, Utf8.encode_append, Utf8.encode_append, hbs, hmark]
    simp
  obtain ⟨ps, hpieces, hspell⟩ := hinside.spelling
  have hend : stringEnd (bs ++ 0x22 :: rest) = some (bs, rest) := by
    rw [hinside.ending]
    simp [stringEnd.eq_def]
  have hps := hpieces []
  have htext := hspell []
  simp only [List.append_nil, pieces, spell, Option.map_some] at hps htext
  rw [hquote, tokens_string hend hps, htext]
  simp

/-! ## Numbers -/

/-- The bytes are the digits of a number, without zeros in front. -/
structure Numeral (n : Nat) (bs : Bytes) : Prop where
  digits : ∀ b ∈ bs, isDigit b = true
  value : natOf bs = n
  first : ∃ b rest, bs = b :: rest ∧ (b = 0x30 → rest = [])

theorem Numeral.of_lt {n : Nat} (h : n < 10) : Numeral n [UInt8.ofNat (0x30 + n)] where
  digits := by
    have all : ∀ n : Fin 10, isDigit (UInt8.ofNat (0x30 + n.val)) = true := by decide
    intro b hb
    rw [List.mem_singleton.mp hb]
    exact all ⟨n, h⟩
  value := by
    simp only [natOf, List.foldl_cons, List.foldl_nil, UInt8.toNat_ofNat']
    omega
  first := ⟨_, [], rfl, fun _ => rfl⟩

/-- One more digit. -/
theorem Numeral.push {n d : Nat} {bs : Bytes} (h : Numeral n bs) (hn : 0 < n) (hd : d < 10) :
    Numeral (10 * n + d) (bs ++ [UInt8.ofNat (0x30 + d)]) where
  digits b hb := (List.mem_append.mp hb).elim (h.digits b) ((Numeral.of_lt hd).digits b)
  value := by
    have hvalue := h.value
    rw [natOf] at hvalue ⊢
    rw [List.foldl_append, hvalue]
    simp only [List.foldl_cons, List.foldl_nil, UInt8.toNat_ofNat']
    omega
  first := by
    obtain ⟨b, rest, rfl, hzero⟩ := h.first
    refine ⟨b, rest ++ [UInt8.ofNat (0x30 + d)], rfl, fun hb => ?_⟩
    -- the only number that begins with a zero is zero
    have hvalue := h.value
    rw [hzero hb, hb] at hvalue
    exact absurd hvalue (Nat.ne_of_lt hn)

theorem encode_digitChar {n : Nat} (h : n < 10) :
    Utf8.encode (String.singleton n.digitChar) = [UInt8.ofNat (0x30 + n)] := by
  have all : ∀ n : Fin 10,
      String.utf8EncodeChar n.val.digitChar = [UInt8.ofNat (0x30 + n.val)] := by decide
  have hsingle : String.singleton n.digitChar = String.ofList [n.digitChar] := by simp
  rw [hsingle, Utf8.encode_ofList, List.flatMap_singleton]
  exact all ⟨n, h⟩

/-- A number is written as a numeral of itself. -/
theorem numeral_toString (n : Nat) : Numeral n (Utf8.encode (toString n)) := by
  induction n using Nat.strongRecOn with
  | ind n ih =>
    have hrepr : toString n = n.repr := rfl
    by_cases hn : n < 10
    · rw [hrepr, Nat.repr_of_lt hn, encode_digitChar hn]
      exact .of_lt hn
    · have hdigit : n % 10 < 10 := Nat.mod_lt _ (by decide)
      have hpush := (ih (n / 10) (by omega)).push (by omega) hdigit
      rw [hrepr, Nat.repr_of_ge (Nat.not_lt.mp hn), Utf8.encode_append, encode_digitChar hdigit]
      rwa [Nat.div_add_mod] at hpush

/-- A numeral is read as its number. -/
theorem Numeral.number {n : Nat} {bs : Bytes} (h : Numeral n bs) : number bs = some (.nat n) := by
  obtain ⟨b, rest, rfl, hzero⟩ := h.first
  have htake : (b :: rest ++ []).takeWhile isDigit = b :: rest :=
    Text.takeWhile_append_of_first h.digits nofun
  have hdrop : (b :: rest ++ []).dropWhile isDigit = [] :=
    Text.dropWhile_append_of_first h.digits nofun
  rw [List.append_nil] at htake hdrop
  have hdigits : Json.digits (b :: rest) = some (b :: rest, []) := by
    rw [Json.digits, htake, hdrop]
  have hlead : ((b :: rest).headD 0 == 0x30 && decide (1 < (b :: rest).length)) = false := by
    by_cases hb : b = 0x30
    · rw [hzero hb]
      simp
    · simp [hb]
  unfold Json.number
  split
  next negative ds hsign =>
    split at hsign
    · next heq =>
      obtain ⟨rfl, -⟩ := List.cons.inj heq
      cases h.digits _ List.mem_cons_self
    · obtain ⟨rfl, rfl⟩ := Prod.mk.inj hsign
      simp only [hdigits, hlead, h.value]
      rfl

theorem isNumberByte_of_isDigit {b : UInt8} (h : isDigit b = true) : isNumberByte b = true := by
  simp [isNumberByte, h]

/-- What begins with a digit is a number, and nothing else. -/
theorem tokens_digit {b : UInt8} (h : isDigit b = true) (rest : Bytes) : tokens (b :: rest) =
    match number (b :: rest.takeWhile isNumberByte) with
    | none => none
    | some d => (tokens (rest.dropWhile isNumberByte)).map (.scalar d :: ·) := by
  have hrange : 0x30 ≤ b.toNat ∧ b.toNat ≤ 0x39 := by
    simpa [isDigit, UInt8.le_iff_toNat_le] using h
  have hne : ∀ d : UInt8, d.toNat < 0x30 ∨ 0x39 < d.toNat → (b == d) = false := by
    intro d hd
    rw [beq_eq_false_iff_ne]
    rintro rfl
    omega
  have hspace : isSpace b = false := by
    simp [isSpace, hne]
  have hmark : mark b = none := by
    simp [mark, hne]
  rw [tokens, hspace, hmark, hne 0x22 (.inl (by decide)), isNumberByte_of_isDigit h]
  rfl

/-! ## Where a number or a word ends -/

/-- A number or a word cannot go on with this. -/
def Ends (rest : Bytes) : Prop :=
  ∀ b ∈ rest.head?, isNumberByte b = false ∧ isLetter b = false

theorem ends_nil : Ends [] := nofun

/-- **A number is one token.** -/
theorem tokens_nat (n : Nat) {rest : Bytes} (hrest : Ends rest) :
    tokens (Utf8.encode (toString n) ++ rest) = (tokens rest).map (.scalar (.nat n) :: ·) := by
  have hn := numeral_toString n
  generalize Utf8.encode (toString n) = bs at hn
  have hnumber := hn.number
  have hall : ∀ b ∈ bs, isNumberByte b = true :=
    fun b hb => isNumberByte_of_isDigit (hn.digits b hb)
  obtain ⟨b, ds, rfl, -⟩ := hn.first
  have hds : ∀ d ∈ ds, isNumberByte d = true := fun d hd => hall d (List.mem_cons_of_mem b hd)
  have hrest' : ∀ d ∈ rest.head?, isNumberByte d = false := fun d hd => (hrest d hd).1
  rw [List.cons_append, tokens_digit (hn.digits b List.mem_cons_self),
    Text.takeWhile_append_of_first hds hrest', Text.dropWhile_append_of_first hds hrest', hnumber]

/-- A byte that begins a word. -/
structure BeginsWord (b : UInt8) : Prop where
  space : isSpace b = false
  mark : mark b = none
  quote : (b == 0x22) = false
  number : isNumberByte b = false

/-- And so is a word. -/
theorem tokens_word {b : UInt8} {ds rest : Bytes} {d : Datum} (hb : BeginsWord b)
    (hds : ∀ x ∈ ds, isLetter x = true) (hword : word (b :: ds) = some d) (hrest : Ends rest) :
    tokens (b :: ds ++ rest) = (tokens rest).map (.scalar d :: ·) := by
  have hrest' : ∀ x ∈ rest.head?, isLetter x = false := fun x hx => (hrest x hx).2
  rw [List.cons_append, tokens, hb.space, hb.mark, hb.quote, hb.number]
  simp only [Bool.false_eq_true, if_false]
  rw [Text.takeWhile_append_of_first hds hrest', Text.dropWhile_append_of_first hds hrest', hword]

theorem tokens_mark {b : UInt8} {t : Token} (hspace : isSpace b = false) (hmark : mark b = some t)
    (rest : Bytes) : tokens (b :: rest) = (tokens rest).map (t :: ·) := by
  rw [tokens, hspace, hmark]
  rfl

end Json

end Gatehouse
