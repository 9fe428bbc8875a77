import Gatehouse.Proofs.Json.Lexical

/-!
# Documents as they are written

Reading undoes writing: the document of a value is read as that value (`read_write`), whatever
its strings, its numbers and its depth are. The one value that has no document of its own is
`other`, which is not written by anything here (`Datum.Plain`).

A reader works in two passes, so the law of a value has two parts. Its bytes are cut into some
tokens (`Lexes`), and these take the stack from where a value may begin to where it is complete,
and touch nothing below (`Means`). For the items of an array and the fields of an object both
parts are shown by induction on the list.
-/

set_option autoImplicit false

namespace Gatehouse

/-- A value without a part that has no text. -/
inductive Datum.Plain : Datum → Prop
  | null : Plain .null
  | bool (value : Bool) : Plain (.bool value)
  | nat (value : Nat) : Plain (.nat value)
  | string (value : String) : Plain (.string value)
  | array {items : List Datum} (hitems : ∀ d ∈ items, Plain d) : Plain (.array items)
  | object {fields : List (String × Datum)} (hfields : ∀ f ∈ fields, Plain f.2) :
    Plain (.object fields)

attribute [simp] Datum.Plain.null Datum.Plain.bool Datum.Plain.nat Datum.Plain.string

namespace Json

/-! ## Tokens -/

/-- The bytes are these tokens wherever a value may end behind them. -/
def Lexes (bs : Bytes) (ts : List Token) : Prop :=
  ∀ rest, Ends rest → tokens (bs ++ rest) = (tokens rest).map (ts ++ ·)

/-- A byte that is a token by itself. -/
structure Marks (b : UInt8) (t : Token) : Prop where
  space : isSpace b = false
  mark : mark b = some t
  number : isNumberByte b = false
  letter : isLetter b = false

theorem Marks.ends {b : UInt8} {t : Token} (h : Marks b t) (rest : Bytes) : Ends (b :: rest) := by
  intro x hx
  obtain rfl := Option.some.inj hx
  exact ⟨h.number, h.letter⟩

theorem marks_openArray : Marks 0x5b .openArray := ⟨rfl, rfl, rfl, rfl⟩
theorem marks_closeArray : Marks 0x5d .closeArray := ⟨rfl, rfl, rfl, rfl⟩
theorem marks_openObject : Marks 0x7b .openObject := ⟨rfl, rfl, rfl, rfl⟩
theorem marks_closeObject : Marks 0x7d .closeObject := ⟨rfl, rfl, rfl, rfl⟩
theorem marks_comma : Marks 0x2c .comma := ⟨rfl, rfl, rfl, rfl⟩
theorem marks_colon : Marks 0x3a .colon := ⟨rfl, rfl, rfl, rfl⟩

theorem Lexes.nil : Lexes [] [] := by
  intro rest _
  simp

theorem Lexes.mark {b : UInt8} {t : Token} {bs : Bytes} {ts : List Token} (hb : Marks b t)
    (h : Lexes bs ts) : Lexes (b :: bs) (t :: ts) := by
  intro rest hrest
  rw [List.cons_append, tokens_mark hb.space hb.mark, h rest hrest, Option.map_map]
  rfl

/-- What stands before a mark is not changed by it. -/
theorem Lexes.before_mark {b : UInt8} {t : Token} {bs bs' : Bytes} {ts ts' : List Token}
    (h : Lexes bs ts) (hb : Marks b t) (h' : Lexes bs' ts') :
    Lexes (bs ++ b :: bs') (ts ++ t :: ts') := by
  intro rest hrest
  rw [List.append_assoc, List.cons_append, h _ (hb.ends _), ← List.cons_append,
    (h'.mark hb) rest hrest, Option.map_map]
  simp [Function.comp_def]

theorem lexes_quote (s : String) : Lexes (Utf8.encode (quote s)) [.string (some s)] :=
  fun rest _ => tokens_quote s rest

theorem lexes_nat (n : Nat) : Lexes (Utf8.encode (toString n)) [.scalar (.nat n)] :=
  fun _ hrest => tokens_nat n hrest

theorem lexes_word {text : String} {d : Datum} (b : UInt8) (bs : Bytes)
    (htext : Utf8.encode text = b :: bs) (hb : BeginsWord b) (hbs : bs.all isLetter = true)
    (hword : word (b :: bs) = some d) : Lexes (Utf8.encode text) [.scalar d] := by
  intro rest hrest
  rw [htext]
  exact tokens_word hb (List.all_eq_true.mp hbs) hword hrest

theorem lexes_null : Lexes (Utf8.encode "null") [.scalar .null] :=
  lexes_word 0x6e [0x75, 0x6c, 0x6c] rfl ⟨rfl, rfl, rfl, rfl⟩ rfl rfl

theorem lexes_bool : ∀ value : Bool,
    Lexes (Utf8.encode (write (.bool value))) [.scalar (.bool value)]
  | true => lexes_word 0x74 [0x72, 0x75, 0x65] rfl ⟨rfl, rfl, rfl, rfl⟩ rfl rfl
  | false => lexes_word 0x66 [0x61, 0x6c, 0x73, 0x65] rfl ⟨rfl, rfl, rfl, rfl⟩ rfl rfl

/-! ## The stack -/

/-- The tokens are those of the value, wherever a value may stand. -/
def Means (ts : List Token) (d : Datum) : Prop :=
  ∀ frames more, run (.value frames) (ts ++ more) = run (.complete d frames) more

theorem run_cons {p p' : Progress} {t : Token} (h : step p t = some p') (ts : List Token) :
    run p (t :: ts) = run p' ts := by
  rw [run, h]

theorem Means.scalar (d : Datum) : Means [.scalar d] d := fun _ more => run_cons rfl more

theorem Means.string (s : String) : Means [.string (some s)] (.string s) :=
  fun _ more => run_cons rfl more

/-- A value has a first token, and none that could end an array. -/
theorem Means.first {ts : List Token} {d : Datum} (h : Means ts d) :
    ∃ t rest, ts = t :: rest ∧ t ≠ .closeArray := by
  have hrun := h [] []
  rw [List.append_nil] at hrun
  cases ts with
  | nil => cases hrun
  | cons t rest =>
    refine ⟨t, rest, rfl, ?_⟩
    rintro rfl
    cases hrun

theorem step_firstItem {t : Token} (ht : t ≠ .closeArray) (frames : List Frame) :
    step (.firstItem frames) t = step (.value (.array [] :: frames)) t := by
  cases t with
  | closeArray => exact absurd rfl ht
  | _ => rfl

/-- The tokens are those of the items, with commas between them. -/
def MeansItems (ts : List Token) (items : List Datum) : Prop :=
  ∀ done frames more, run (.value (.array done :: frames)) (ts ++ .closeArray :: more)
    = run (.complete (.array (done.reverse ++ items)) frames) more

theorem MeansItems.one {ts : List Token} {d : Datum} (h : Means ts d) : MeansItems ts [d] := by
  intro done frames more
  rw [h, run_cons rfl, List.reverse_cons]

theorem MeansItems.cons {ts ts' : List Token} {d : Datum} {items : List Datum} (h : Means ts d)
    (h' : MeansItems ts' items) : MeansItems (ts ++ .comma :: ts') (d :: items) := by
  intro done frames more
  rw [List.append_assoc, h, List.cons_append, run_cons rfl, h', List.reverse_cons,
    List.append_assoc]
  rfl

/-- The tokens of items in brackets mean the array. -/
theorem Means.array {ts : List Token} {items : List Datum} (h : MeansItems ts items)
    (hfirst : ∃ t rest, ts = t :: rest ∧ t ≠ .closeArray) :
    Means (.openArray :: (ts ++ [.closeArray])) (.array items) := by
  obtain ⟨t, rest, rfl, ht⟩ := hfirst
  intro frames more
  have hitems := h [] frames more
  rw [List.cons_append, run_cons rfl, List.append_assoc]
  rw [List.cons_append, run] at hitems ⊢
  rw [step_firstItem ht]
  exact hitems

/-- The tokens are those of the fields, with commas between them. -/
def MeansFields (ts : List Token) (fields : List (String × Datum)) : Prop :=
  ∀ done frames more, run (.key done frames) (ts ++ .closeObject :: more)
    = run (.complete (close (fields.reverse.map (Prod.map some id) ++ done)) frames) more

theorem MeansFields.one {ts : List Token} {k : String} {d : Datum} (h : Means ts d) :
    MeansFields (.string (some k) :: .colon :: ts) [(k, d)] := by
  intro done frames more
  rw [List.cons_append, run_cons rfl, List.cons_append, run_cons rfl, h, run_cons rfl]
  rfl

theorem MeansFields.cons {ts ts' : List Token} {k : String} {d : Datum}
    {fields : List (String × Datum)} (h : Means ts d) (h' : MeansFields ts' fields) :
    MeansFields (.string (some k) :: .colon :: (ts ++ .comma :: ts')) ((k, d) :: fields) := by
  intro done frames more
  rw [List.cons_append, run_cons rfl, List.cons_append, run_cons rfl, List.append_assoc, h,
    List.cons_append, run_cons rfl, h']
  simp

/-- An object whose keys are all texts is one of the fields. -/
theorem close_named (fields : List (String × Datum)) :
    close (fields.reverse.map (Prod.map some id)) = .object fields := by
  have hkeys : ∀ fields : List (String × Datum),
      (fields.map (Prod.map some id)).mapM (fun f => f.1.map (·, f.2)) = some fields := by
    intro fields
    induction fields with
    | nil => rfl
    | cons f rest ih => simp [ih]
  rw [close, ← List.map_reverse, List.reverse_reverse, hkeys]

/-- The tokens of fields in braces mean the object. -/
theorem Means.object {ts : List Token} {fields : List (String × Datum)}
    (h : MeansFields ts fields) (hfirst : ∃ k rest, ts = .string k :: rest) :
    Means (.openObject :: (ts ++ [.closeObject])) (.object fields) := by
  obtain ⟨k, rest, rfl⟩ := hfirst
  intro frames more
  have hfields := h [] frames more
  rw [List.append_nil, close_named] at hfields
  rw [List.cons_append, run_cons rfl, List.append_assoc]
  rw [List.cons_append, run_cons rfl] at hfields ⊢
  exact hfields

/-! ## Documents -/

/-- The text is the value's, for either pass. -/
def Written (text : String) (d : Datum) : Prop :=
  ∃ ts, Lexes (Utf8.encode text) ts ∧ Means ts d

theorem written_items : ∀ {items : List Datum}, (∀ d ∈ items, Written (write d) d) → items ≠ [] →
    ∃ ts, Lexes (Utf8.encode (writeItems items)) ts ∧ MeansItems ts items ∧
      ∃ t rest, ts = t :: rest ∧ t ≠ .closeArray
  | [], _, hne => absurd rfl hne
  | [d], h, _ => by
    obtain ⟨ts, hlexes, hmeans⟩ := h d List.mem_cons_self
    exact ⟨ts, hlexes, .one hmeans, hmeans.first⟩
  | d :: d' :: items, h, _ => by
    obtain ⟨ts, hlexes, hmeans⟩ := h d List.mem_cons_self
    obtain ⟨ts', hlexes', hmeans', -⟩ := written_items
      (fun x hx => h x (List.mem_cons_of_mem d hx)) (List.cons_ne_nil d' items)
    obtain ⟨t, rest, rfl, ht⟩ := hmeans.first
    refine ⟨t :: rest ++ .comma :: ts', ?_, .cons hmeans hmeans', t, _, rfl, ht⟩
    rw [writeItems, Utf8.encode_append, Utf8.encode_append, List.append_assoc]
    · exact hlexes.before_mark marks_comma hlexes'
    · exact List.cons_ne_nil _ _

theorem written_fields : ∀ {fields : List (String × Datum)},
    (∀ f ∈ fields, Written (write f.2) f.2) → fields ≠ [] →
    ∃ ts, Lexes (Utf8.encode (writeFields fields)) ts ∧ MeansFields ts fields ∧
      ∃ k rest, ts = .string k :: rest
  | [], _, hne => absurd rfl hne
  | [(k, d)], h, _ => by
    obtain ⟨ts, hlexes, hmeans⟩ := h (k, d) List.mem_cons_self
    refine ⟨.string (some k) :: .colon :: ts, ?_, .one hmeans, _, _, rfl⟩
    rw [writeFields, Utf8.encode_append, Utf8.encode_append, List.append_assoc]
    exact (lexes_quote k).before_mark marks_colon hlexes
  | (k, d) :: f :: fields, h, _ => by
    obtain ⟨ts, hlexes, hmeans⟩ := h (k, d) List.mem_cons_self
    obtain ⟨ts', hlexes', hmeans', -⟩ := written_fields
      (fun x hx => h x (List.mem_cons_of_mem _ hx)) (List.cons_ne_nil f fields)
    refine ⟨.string (some k) :: .colon :: (ts ++ .comma :: ts'), ?_, .cons hmeans hmeans', _, _,
      rfl⟩
    have hrest := hlexes.before_mark marks_comma hlexes'
    have hwhole := (lexes_quote k).before_mark marks_colon hrest
    rw [writeFields]
    · simp only [Utf8.encode_append, List.append_assoc]
      exact hwhole
    · exact List.cons_ne_nil _ _

/-- **Every value is written as a text of its own.** -/
theorem written_of_plain {d : Datum} (h : d.Plain) : Written (write d) d := by
  induction h with
  | null => exact ⟨_, lexes_null, .scalar _⟩
  | bool value => exact ⟨_, lexes_bool value, .scalar _⟩
  | nat n =>
    rw [write]
    exact ⟨_, lexes_nat n, .scalar _⟩
  | string s =>
    rw [write]
    exact ⟨_, lexes_quote s, .string s⟩
  | @array items hitems ih =>
    rw [write]
    cases items with
    | nil =>
      refine ⟨[.openArray, .closeArray], ?_, fun _ more => ?_⟩
      · exact (Lexes.nil.mark marks_closeArray).mark marks_openArray
      · exact (run_cons rfl _).trans (run_cons rfl more)
    | cons d ds =>
      obtain ⟨ts, hlexes, hmeans, hfirst⟩ := written_items ih (List.cons_ne_nil d ds)
      refine ⟨_, ?_, .array hmeans hfirst⟩
      rw [Utf8.encode_append, Utf8.encode_append, List.append_assoc]
      exact (hlexes.before_mark marks_closeArray .nil).mark marks_openArray
  | @object fields hfields ih =>
    rw [write]
    cases fields with
    | nil =>
      refine ⟨[.openObject, .closeObject], ?_, fun _ more => ?_⟩
      · exact (Lexes.nil.mark marks_closeObject).mark marks_openObject
      · exact (run_cons rfl _).trans (run_cons rfl more)
    | cons f fs =>
      obtain ⟨ts, hlexes, hmeans, hfirst⟩ := written_fields ih (List.cons_ne_nil f fs)
      refine ⟨_, ?_, .object hmeans hfirst⟩
      rw [Utf8.encode_append, Utf8.encode_append, List.append_assoc]
      exact (hlexes.before_mark marks_closeObject .nil).mark marks_openObject

/-- **Reading undoes writing.** -/
theorem read_write {d : Datum} (h : d.Plain) : read (Utf8.encode (write d)) = some d := by
  obtain ⟨ts, hlexes, hmeans⟩ := written_of_plain h
  have htokens := hlexes [] ends_nil
  have hrun := hmeans [] []
  rw [List.append_nil, tokens, Option.map_some, List.append_nil] at htokens
  rw [List.append_nil, run] at hrun
  rw [read, htokens]
  simp only [hrun]

end Json

end Gatehouse
