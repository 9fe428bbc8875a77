import Gatehouse.Header

/-!
# Header values that are texts

The text of a header value is read byte by byte, while a text is written as UTF-8. For what a
header may hold the two agree, since its characters are single bytes:

> a value is read as some text exactly if its bytes are those of the text and all characters
> are printable ASCII or tabs (`Header.Value.text?_eq_some_iff`).

So every such text has a value of its own (`Header.Value.ofText`), and no other text has one that
can be read.
-/

set_option autoImplicit false

namespace Gatehouse

theorem Utf8.encode_ofList (cs : List Char) :
    Utf8.encode (String.ofList cs) = cs.flatMap String.utf8EncodeChar := by
  simp [Utf8.encode, String.toUTF8, List.utf8Encode]

namespace Header

/-! ## Characters and bytes -/

/-- The characters of a text in a header. -/
def isTextChar (c : Char) : Bool := (' ' ≤ c && c ≤ '~') || c == '\t'

theorem toNat_lt_of_isTextChar {c : Char} (h : isTextChar c = true) : c.toNat < 127 := by
  simp only [isTextChar, Bool.or_eq_true, Bool.and_eq_true, decide_eq_true_eq, beq_iff_eq] at h
  rcases h with ⟨-, h⟩ | rfl
  · exact Nat.lt_succ_of_le (Char.le_def.mp h)
  · decide

theorem toNat_lt_of_isTextByte {b : UInt8} (h : isTextByte b = true) : b.toNat < 127 := by
  simp only [isTextByte, Bool.or_eq_true, Bool.and_eq_true, decide_eq_true_eq, beq_iff_eq] at h
  rcases h with ⟨-, h⟩ | rfl
  · exact UInt8.lt_iff_toNat_lt.mp h
  · decide

/-- A number that is the byte of a character, and its only one. -/
structure Spells (b : UInt8) (c : Char) : Prop where
  char : Char.ofNat b.toNat = c
  encode : String.utf8EncodeChar c = [b]
  text : isTextByte b = isTextChar c

/-- Below the end of ASCII, characters and bytes are the same numbers. -/
theorem spells_ascii {n : Nat} (h : n < 127) : Spells (UInt8.ofNat n) (Char.ofNat n) := by
  have all : ∀ n : Fin 127, Char.ofNat (UInt8.ofNat n.val).toNat = Char.ofNat n.val ∧
      String.utf8EncodeChar (Char.ofNat n.val) = [UInt8.ofNat n.val] ∧
      isTextByte (UInt8.ofNat n.val) = isTextChar (Char.ofNat n.val) := by decide
  obtain ⟨hchar, hencode, htext⟩ := all ⟨n, h⟩
  exact ⟨hchar, hencode, htext⟩

theorem spells_char {c : Char} (h : isTextChar c = true) : Spells (UInt8.ofNat c.toNat) c := by
  have hs := spells_ascii (toNat_lt_of_isTextChar h)
  rwa [Char.ofNat_toNat] at hs

theorem spells_byte {b : UInt8} (h : isTextByte b = true) : Spells b (Char.ofNat b.toNat) := by
  have hs := spells_ascii (toNat_lt_of_isTextByte h)
  rwa [UInt8.ofNat_toNat] at hs

/-- What can be read as text may be sent. -/
theorem isValueByte_of_isTextByte {b : UInt8} (h : isTextByte b = true) :
    isValueByte b = true := by
  simp only [isTextByte, isValueByte, Bool.or_eq_true, Bool.and_eq_true, decide_eq_true_eq,
    beq_iff_eq, bne_iff_ne] at h ⊢
  refine h.imp_left fun ⟨hlow, hhigh⟩ => ⟨hlow, ?_⟩
  rintro rfl
  exact absurd hhigh (by decide)

/-! ## Texts -/

/-- All characters may stand in the text of a header. -/
def IsText (cs : List Char) : Prop := ∀ c ∈ cs, isTextChar c = true

instance (cs : List Char) : Decidable (IsText cs) :=
  decidable_of_iff (cs.all isTextChar = true) List.all_eq_true

theorem IsText.append {cs ds : List Char} (hc : IsText cs) (hd : IsText ds) :
    IsText (cs ++ ds) := fun c h => (List.mem_append.mp h).elim (hc c) (hd c)

/-- The bytes of a text are read as that text. -/
theorem IsText.read {cs : List Char} (h : IsText cs) :
    (∀ b ∈ Utf8.encode (String.ofList cs), isTextByte b = true) ∧
      (Utf8.encode (String.ofList cs)).map (fun b => Char.ofNat b.toNat) = cs := by
  rw [Utf8.encode_ofList]
  induction cs with
  | nil => exact ⟨nofun, rfl⟩
  | cons c cs ih =>
    obtain ⟨hbytes, hchars⟩ := ih fun d hd => h d (List.mem_cons_of_mem c hd)
    have hc := spells_char (h c List.mem_cons_self)
    rw [List.flatMap_cons, hc.encode, List.singleton_append, List.map_cons, hchars, hc.char]
    refine ⟨List.forall_mem_cons.mpr ⟨?_, hbytes⟩, rfl⟩
    rw [hc.text, h c List.mem_cons_self]

/-- And bytes that can be read are those of what is read. -/
theorem isText_of_read {bs : Bytes} (h : ∀ b ∈ bs, isTextByte b = true) :
    IsText (bs.map fun b => Char.ofNat b.toNat) ∧
      bs = Utf8.encode (String.ofList (bs.map fun b => Char.ofNat b.toNat)) := by
  rw [Utf8.encode_ofList]
  induction bs with
  | nil => exact ⟨nofun, rfl⟩
  | cons b bs ih =>
    obtain ⟨htext, hbytes⟩ := ih fun d hd => h d (List.mem_cons_of_mem b hd)
    have hb := spells_byte (h b List.mem_cons_self)
    rw [List.map_cons, List.flatMap_cons, hb.encode]
    refine ⟨List.forall_mem_cons.mpr ⟨?_, htext⟩, congrArg (List.cons b) hbytes⟩
    rw [← hb.text, h b List.mem_cons_self]

namespace Value

/-- **What is read as a text is its UTF-8 form.** -/
theorem text?_eq_some_iff {v : Value} {cs : List Char} :
    v.text? = some cs ↔ IsText cs ∧ v.bytes = Utf8.encode (String.ofList cs) := by
  unfold text?
  constructor
  · intro h
    split at h
    · next hall =>
      obtain rfl := Option.some.inj h
      exact isText_of_read (List.all_eq_true.mp hall)
    · cases h
  · rintro ⟨htext, hbytes⟩
    obtain ⟨hall, hchars⟩ := htext.read
    rw [hbytes, if_pos (List.all_eq_true.mpr hall), hchars]

/-- What cannot be read has a byte beyond ASCII, since no control may stand in a value. -/
theorem text?_eq_none_iff {v : Value} : v.text? = none ↔ ∃ b ∈ v.bytes, 128 ≤ b := by
  have hbyte : ∀ b ∈ v.bytes, isTextByte b = false ↔ 128 ≤ b := by
    intro b hb
    have hlegal := List.all_eq_true.mp v.legal b hb
    simp only [isTextByte, isValueByte, Bool.or_eq_true, Bool.and_eq_true, decide_eq_true_eq,
      beq_iff_eq, bne_iff_ne, UInt8.le_iff_toNat_le, UInt8.lt_iff_toNat_lt, ← UInt8.toNat_inj,
      ne_eq, Bool.or_eq_false_iff, Bool.and_eq_false_imp, decide_eq_false_iff_not,
      beq_eq_false_iff_ne, UInt8.reduceToNat] at hlegal ⊢
    omega
  constructor
  · intro h
    unfold text? at h
    split at h
    · cases h
    · next hno =>
      obtain ⟨b, hb, hfalse⟩ := List.all_eq_false.mp ((Bool.not_eq_true _).mp hno)
      exact ⟨b, hb, (hbyte b hb).mp ((Bool.not_eq_true _).mp hfalse)⟩
  · intro h
    obtain ⟨b, hb, hhigh⟩ := h
    have hno : v.bytes.all isTextByte = false := by
      rw [List.all_eq_false]
      exact ⟨b, hb, by rw [(hbyte b hb).mpr hhigh]; exact Bool.false_ne_true⟩
    unfold text?
    rw [hno]
    rfl

/-- The value that holds a text. -/
def ofText (s : String) (h : IsText s.toList) : Value where
  bytes := Utf8.encode s
  legal := by
    have hread := h.read.1
    rw [String.ofList_toList] at hread
    exact List.all_eq_true.mpr fun b hb => isValueByte_of_isTextByte (hread b hb)

@[simp] theorem bytes_ofText (s : String) (h : IsText s.toList) :
    (ofText s h).bytes = Utf8.encode s := rfl

@[simp] theorem text?_ofText (s : String) (h : IsText s.toList) :
    (ofText s h).text? = some s.toList :=
  text?_eq_some_iff.mpr ⟨h, by rw [String.ofList_toList, bytes_ofText]⟩

end Value

end Header

end Gatehouse
