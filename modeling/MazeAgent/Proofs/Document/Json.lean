import MazeAgent.Document.Json
import Mathlib.Tactic

/-!
# Reading what was written as JSON

Documents without real numbers and without dates, and with integers of 64 bits only, are written
so that they can be read back: strings because an escape stands for one character, numbers because
what follows them is no part of a number, lists and tables because the text of a document is longer
than the texts of its parts.

**Results.**
* `Json.IsPlain`: the documents that JSON text holds without loss.
* `Json.readString_writeString`, `Json.readNumber_toDigits`: strings and numbers.
* `Json.read_write`: a plain document is read as it was written.
-/

namespace MazeAgent
namespace Json

/-- The documents that JSON text holds without loss. -/
inductive IsPlain : Document → Prop where
  | null : IsPlain .null
  | boolean (value : Bool) : IsPlain (.boolean value)
  | integer {value : Int} (h : Word.isSigned 64 value ∨ Word.isUnsigned 64 value) :
      IsPlain (.integer value)
  | text (value : String) : IsPlain (.text value)
  | list {items : List Document} (h : ∀ item ∈ items, IsPlain item) : IsPlain (.list items)
  | table {fields : List (String × Document)} (h : ∀ field ∈ fields, IsPlain field.2) :
      IsPlain (.table fields)

/-! ## Strings -/

theorem shortEscape?_of_shortLetter? {c letter : Char} (h : shortLetter? c = some letter) :
    letter ≠ 'u' ∧ shortEscape? letter = some c := by
  unfold shortLetter? at h
  split at h
  all_goals cases h
  all_goals exact ⟨by decide, rfl⟩

theorem hexQuad?_hexChar : ∀ n < 0x20,
    hexQuad? '0' '0' (hexChar (n / 16)) (hexChar (n % 16)) = some n := by
  decide

theorem readString_short {letter c : Char} (hletter : letter ≠ 'u')
    (h : shortEscape? letter = some c) (done rest : List Char) :
    readString done ('\\' :: letter :: rest) = readString (c :: done) rest := by
  rw [readString.eq_def]
  split
  · next heq => cases heq
  · next heq =>
    cases heq
    exact absurd rfl hletter
  · next heq =>
    cases heq
    exact absurd rfl hletter
  · next heq =>
    cases heq
    rw [h]
  · next hother heq =>
    cases heq
    exact absurd rfl (hother letter rest rfl)
  · next heq => cases heq

/-- An escape by four digits stands for a character below the surrogates, also when another escape
comes next. -/
theorem readString_quad {a b c d : Char} {code : Nat} (h : hexQuad? a b c d = some code)
    (hcode : code < 0xd800) (done rest : List Char) :
    readString done ('\\' :: 'u' :: a :: b :: c :: d :: rest) =
      readString (Char.ofNat code :: done) rest := by
  have hscalar : scalar? code = some (Char.ofNat code) := if_pos (Or.inl hcode)
  rw [readString.eq_def]
  split
  · next heq => cases heq
  · next heq =>
    cases heq
    rw [h]
    dsimp only
    rw [if_neg (by omega), hscalar]
  · next heq =>
    cases heq
    rw [h, Option.bind_some, hscalar]
  · next hfour heq =>
    cases heq
    exact absurd rfl (hfour _ _ _ _ _ rfl)
  · next hother heq =>
    cases heq
    exact absurd rfl (hother _ _ rfl)
  · next heq => cases heq

theorem readString_plain {c : Char} (hquote : c ≠ '"') (hslash : c ≠ '\\')
    (hcontrol : ¬ c.toNat < 0x20) (done rest : List Char) :
    readString done (c :: rest) = readString (c :: done) rest := by
  rw [readString.eq_def]
  split
  · next heq =>
    cases heq
    exact absurd rfl hquote
  · next heq =>
    cases heq
    exact absurd rfl hslash
  · next heq =>
    cases heq
    exact absurd rfl hslash
  · next heq =>
    cases heq
    exact absurd rfl hslash
  · next heq =>
    cases heq
    rw [if_neg hcontrol]
  · next heq => cases heq

/-- What was written for a character is read as this character, whatever comes next. -/
theorem readString_writeChar (done : List Char) (c : Char) (rest : List Char) :
    readString done (writeChar c ++ rest) = readString (c :: done) rest := by
  unfold writeChar
  split
  · next letter hletter =>
    obtain ⟨hu, hescape⟩ := shortEscape?_of_shortLetter? hletter
    exact readString_short hu hescape done rest
  · next hletter =>
    have hquote : c ≠ '"' := by
      rintro rfl
      cases hletter
    have hslash : c ≠ '\\' := by
      rintro rfl
      cases hletter
    split
    · next hcontrol =>
      have hread := readString_quad (hexQuad?_hexChar c.toNat hcontrol) (by omega) done rest
      rwa [Char.ofNat_toNat] at hread
    · next hcontrol => exact readString_plain hquote hslash hcontrol done rest

theorem readString_flatMap (chars done rest : List Char) :
    readString done (chars.flatMap writeChar ++ '"' :: rest) =
      some (String.ofList (done.reverse ++ chars), rest) := by
  induction chars generalizing done with
  | nil => rw [List.append_nil]; rfl
  | cons c chars ih =>
      rw [List.flatMap_cons, List.append_assoc, readString_writeChar, ih, List.reverse_cons,
        List.append_assoc, List.singleton_append]

theorem readString_writeString (text : String) (rest : List Char) :
    readString [] (text.toList.flatMap writeChar ++ '"' :: rest) = some (text, rest) := by
  rw [readString_flatMap, List.reverse_nil, List.nil_append, String.ofList_toList]

/-! ## Numbers -/

/-- What can come after a value: the end of the text, or what separates or closes. -/
def Ends (rest : List Char) : Prop := ∀ c ∈ rest.head?, c = ',' ∨ c = ']' ∨ c = '}'

theorem ends_nil : Ends [] := fun _ hc => nomatch hc

theorem ends_cons {c : Char} (h : c = ',' ∨ c = ']' ∨ c = '}') (rest : List Char) :
    Ends (c :: rest) := by
  intro d hd
  cases hd
  exact h

theorem Ends.head_ne {c : Char} {rest : List Char} (h : Ends (c :: rest)) :
    c.isDigit = false ∧ c ≠ '.' ∧ c ≠ 'e' ∧ c ≠ 'E' := by
  rcases h c rfl with rfl | rfl | rfl
  all_goals decide

theorem ofDigits_toDigits (n : Nat) : ofDigits (Nat.toDigits 10 n) = n := by
  conv => rhs; rw [← Nat.ofDigitChars_ten_toDigits (n := n)]
  rw [Nat.ofDigitChars_eq_foldl]
  unfold ofDigits
  simp only [Nat.mul_comm]

theorem isDigit_toDigits (n : Nat) : ∀ c ∈ Nat.toDigits 10 n, c.isDigit = true :=
  fun _ hc => Nat.isDigit_of_mem_toDigits (by decide) (by decide) hc

theorem digitChar_ne_zero : ∀ n < 10, n ≠ 0 → n.digitChar ≠ '0' := by decide

/-- Only the number zero starts with the digit zero. -/
theorem head?_toDigits {n : Nat} (hn : n ≠ 0) : (Nat.toDigits 10 n).head? ≠ some '0' := by
  induction n using Nat.strongRecOn with
  | ind n ih =>
      rcases Nat.lt_or_ge n 10 with hlt | hge
      · rw [Nat.toDigits_of_lt_base hlt]
        simpa using digitChar_ne_zero n hlt hn
      · rw [Nat.toDigits_of_base_le (by decide) hge,
          List.head?_append_of_ne_nil _ Nat.toDigits_ne_nil]
        exact ih (n / 10) (by omega) (by omega)

theorem not_leading_zero (n : Nat) :
    ¬ (1 < (Nat.toDigits 10 n).length ∧ (Nat.toDigits 10 n).head? = some '0') := by
  rintro ⟨hlength, hhead⟩
  by_cases hn : n = 0
  · subst hn
    exact absurd hlength (by decide)
  · exact head?_toDigits hn hhead

theorem Ends.readFraction {rest : List Char} (h : Ends rest) :
    readFraction rest = some ([], rest) := by
  unfold Json.readFraction
  split
  · exact absurd rfl h.head_ne.2.1
  · rfl

theorem Ends.readExponent {rest : List Char} (h : Ends rest) :
    readExponent rest = some (none, rest) := by
  cases rest with
  | nil => rfl
  | cons c rest =>
      obtain ⟨-, -, hsmall, hlarge⟩ := h.head_ne
      exact if_neg fun hmark => hmark.elim hsmall hlarge

theorem Ends.takeWhile {rest : List Char} (h : Ends rest) : rest.takeWhile Char.isDigit = [] := by
  cases rest with
  | nil => rfl
  | cons c rest => exact List.takeWhile_cons_of_neg (by simp [h.head_ne.1])

theorem Ends.dropWhile {rest : List Char} (h : Ends rest) : rest.dropWhile Char.isDigit = rest := by
  cases rest with
  | nil => rfl
  | cons c rest => exact List.dropWhile_cons_of_neg (by simp [h.head_ne.1])

/-- The digits of a number are read as this number, when nothing follows that belongs to it. -/
theorem readNumber_toDigits (negative : Bool) {n : Nat} {rest : List Char} (hrest : Ends rest)
    (hword : if negative then n ≠ 0 ∧ Word.isSigned 64 (-n) else Word.isUnsigned 64 n) :
    readNumber negative (Nat.toDigits 10 n ++ rest) =
      some (.integer (if negative then -(n : Int) else n), rest) := by
  have htake : (Nat.toDigits 10 n ++ rest).takeWhile Char.isDigit = Nat.toDigits 10 n := by
    rw [List.takeWhile_append_of_pos (isDigit_toDigits n), hrest.takeWhile, List.append_nil]
  have hdrop : (Nat.toDigits 10 n ++ rest).dropWhile Char.isDigit = rest := by
    rw [List.dropWhile_append_of_pos (isDigit_toDigits n), hrest.dropWhile]
  have hwhole : ¬ ((Nat.toDigits 10 n).isEmpty ∨
      (1 < (Nat.toDigits 10 n).length ∧ (Nat.toDigits 10 n).head? = some '0')) := by
    rintro (hempty | hzero)
    · exact Nat.toDigits_ne_nil (List.isEmpty_iff.mp hempty)
    · exact not_leading_zero n hzero
  have hnumber : ofNumber negative (Nat.toDigits 10 n) [] none =
      .integer (if negative then -(n : Int) else n) := by
    unfold ofNumber
    rw [List.append_nil, ofDigits_toDigits]
    cases negative with
    | false => simpa using hword
    | true => simpa using hword
  unfold readNumber
  simp only [htake, hdrop, if_neg hwhole, hrest.readFraction, hrest.readExponent, hnumber,
    Option.bind_eq_bind, Option.bind_some]
  rfl

/-! ## Values -/

/-- The first characters of values. -/
def IsStart (c : Char) : Prop := c.isDigit = true ∨ c ∈ ['n', 't', 'f', '"', '-', '[', '{']

theorem isStart_ne {c : Char} (h : IsStart c) :
    c ≠ ' ' ∧ c ≠ '\n' ∧ c ≠ '\t' ∧ c ≠ '\r' ∧ c ≠ ']' := by
  rcases h with hdigit | hmem
  · refine ⟨?_, ?_, ?_, ?_, ?_⟩
    all_goals
      rintro rfl
      exact absurd hdigit (by decide)
  · simp only [List.mem_cons, List.not_mem_nil, or_false] at hmem
    rcases hmem with rfl | rfl | rfl | rfl | rfl | rfl | rfl
    all_goals decide

theorem skipBlanks_of_isStart {c : Char} (h : IsStart c) (text : List Char) :
    skipBlanks (c :: text) = c :: text := by
  obtain ⟨hspace, hfeed, htab, hreturn, -⟩ := isStart_ne h
  rw [skipBlanks, if_neg]
  simp [*]

/-- The text of a number starts with a digit, or with a minus and digits after it. -/
theorem writeValue_integer (value : Int) :
    writeValue (.integer value) =
      if 0 ≤ value then Nat.toDigits 10 value.toNat
      else '-' :: Nat.toDigits 10 (-value).toNat := by
  rw [writeValue, Int.toString_eq_repr, Int.repr_eq_if]
  split
  · rw [Nat.repr_eq_ofList_toDigits, String.toList_ofList]
  · rw [String.toList_append, Nat.repr_eq_ofList_toDigits, String.toList_ofList]
    simp

theorem exists_toDigits_eq_cons (n : Nat) :
    ∃ c digits, Nat.toDigits 10 n = c :: digits ∧ c.isDigit = true := by
  obtain ⟨c, digits, heq⟩ := List.exists_cons_of_ne_nil (Nat.toDigits_ne_nil (b := 10) (n := n))
  exact ⟨c, digits, heq, isDigit_toDigits n c (heq ▸ List.mem_cons_self)⟩

theorem IsPlain.exists_start {document : Document} (h : IsPlain document) :
    ∃ c text, writeValue document = c :: text ∧ IsStart c := by
  cases h with
  | null => exact ⟨'n', _, rfl, Or.inr (by decide)⟩
  | boolean value =>
      cases value with
      | false => exact ⟨'f', _, rfl, Or.inr (by decide)⟩
      | true => exact ⟨'t', _, rfl, Or.inr (by decide)⟩
  | @integer value hword =>
      rw [writeValue_integer]
      split
      · obtain ⟨c, digits, heq, hdigit⟩ := exists_toDigits_eq_cons value.toNat
        exact ⟨c, digits, heq, Or.inl hdigit⟩
      · exact ⟨'-', _, rfl, Or.inr (by decide)⟩
  | text value => exact ⟨'"', _, rfl, Or.inr (by decide)⟩
  | @list items hitems =>
      cases items with
      | nil => exact ⟨'[', _, rfl, Or.inr (by decide)⟩
      | cons item items => exact ⟨'[', _, rfl, Or.inr (by decide)⟩
  | @table fields hfields =>
      cases fields with
      | nil => exact ⟨'{', _, rfl, Or.inr (by decide)⟩
      | cons field fields => exact ⟨'{', _, rfl, Or.inr (by decide)⟩

/-- A document is read as it was written, with as much fuel as there are characters. -/
def Reads (document : Document) : Prop :=
  ∀ (fuel : Nat) (rest : List Char), (writeValue document).length ≤ fuel → Ends rest →
    readValue fuel (writeValue document ++ rest) = some (document, rest)

/-- Fuel for one step is always left, as no text is empty. -/
theorem IsPlain.reads_of_succ {document : Document} (h : IsPlain document)
    (hsucc : ∀ (fuel : Nat) (rest : List Char), (writeValue document).length ≤ fuel + 1 →
      Ends rest → readValue (fuel + 1) (writeValue document ++ rest) = some (document, rest)) :
    Reads document := by
  intro fuel rest hfuel hrest
  cases fuel with
  | zero =>
      obtain ⟨c, text, heq, -⟩ := h.exists_start
      rw [heq] at hfuel
      cases hfuel
  | succ fuel => exact hsucc fuel rest hfuel hrest

theorem readValue_of_isDigit {c : Char} (hc : c.isDigit = true) (fuel : Nat) (text : List Char) :
    readValue (fuel + 1) (c :: text) = readNumber false (c :: text) := by
  rw [readValue, skipBlanks_of_isStart (Or.inl hc)]
  split
  all_goals first
    | rfl
    | next heq =>
      cases heq
      exact absurd hc (by decide)

theorem skipBlanks_separator {c : Char} (h : c = ',' ∨ c = ']' ∨ c = '}' ∨ c = ':')
    (text : List Char) : skipBlanks (c :: text) = c :: text := by
  rcases h with rfl | rfl | rfl | rfl
  all_goals rfl

theorem ends_writeItems (items : List Document) (rest : List Char) :
    Ends (writeItems items ++ rest) := by
  cases items with
  | nil => exact ends_cons (by decide) _
  | cons item items => exact ends_cons (by decide) _

/-- The items of a list are read as they were written, one after the other. -/
theorem readItems_write {items : List Document} :
    ∀ (item : Document) (rest : List Char) {fuel : Nat}, (∀ one ∈ item :: items, Reads one) →
      (writeValue item ++ writeItems items).length ≤ fuel →
      readItems fuel (writeValue item ++ (writeItems items ++ rest)) =
        some (item :: items, rest) := by
  induction items with
  | nil =>
      intro item rest fuel hreads hfuel
      rw [List.length_append, writeItems, List.length_singleton] at hfuel
      obtain ⟨fuel, rfl⟩ : ∃ less, fuel = less + 1 := ⟨fuel - 1, by omega⟩
      rw [readItems, hreads item List.mem_cons_self fuel _ (by omega) (ends_writeItems [] rest)]
      rfl
  | cons next items ih =>
      intro item rest fuel hreads hfuel
      rw [List.length_append, writeItems, List.length_cons] at hfuel
      obtain ⟨fuel, rfl⟩ : ∃ less, fuel = less + 1 := ⟨fuel - 1, by omega⟩
      have hnext := ih next rest (fun one hone => hreads one (List.mem_cons_of_mem _ hone))
        (by omega : (writeValue next ++ writeItems items).length ≤ fuel)
      rw [readItems, hreads item List.mem_cons_self fuel _ (by omega)
        (ends_writeItems (next :: items) rest)]
      simp only [writeItems, List.cons_append, List.append_assoc,
        skipBlanks_separator (Or.inl rfl), hnext]

theorem writeString_append (text : String) (rest : List Char) :
    writeString text ++ rest = '"' :: (text.toList.flatMap writeChar ++ '"' :: rest) := by
  rw [writeString, List.cons_append, List.append_assoc, List.singleton_append]

/-- A field is read as it was written, and with it the fields that come after it. -/
theorem readFields_field {name : String} {value : Document} (hvalue : Reads value) {fuel : Nat}
    (hfuel : (writeValue value).length ≤ fuel) {text rest : List Char}
    {fields : List (String × Document)}
    (h : (text = '}' :: rest ∧ fields = []) ∨
      ∃ more, text = ',' :: more ∧ readFields fuel more = some (fields, rest)) :
    readFields (fuel + 1) (writeString name ++ ':' :: (writeValue value ++ text)) =
      some ((name, value) :: fields, rest) := by
  have htext : Ends text := by
    rcases h with ⟨rfl, -⟩ | ⟨more, rfl, -⟩
    · exact ends_cons (by decide) rest
    · exact ends_cons (by decide) more
  rw [writeString_append, readFields, skipBlanks_of_isStart (Or.inr (by decide))]
  simp only [readString_writeString, skipBlanks_separator (Or.inr (Or.inr (Or.inr rfl))),
    hvalue fuel text hfuel htext]
  rcases h with ⟨rfl, rfl⟩ | ⟨more, rfl, hmore⟩
  · simp only [skipBlanks_separator (Or.inr (Or.inr (Or.inl rfl)))]
  · simp only [skipBlanks_separator (Or.inl rfl), hmore]

/-- The fields of a table are read as they were written, names and values. -/
theorem readFields_write {fields : List (String × Document)} :
    ∀ (name : String) (value : Document) (rest : List Char) {fuel : Nat},
      (∀ one ∈ (name, value) :: fields, Reads one.2) →
      (':' :: (writeValue value ++ writeFields fields)).length ≤ fuel →
      readFields fuel
          (writeString name ++ ':' :: (writeValue value ++ (writeFields fields ++ rest))) =
        some ((name, value) :: fields, rest) := by
  induction fields with
  | nil =>
      intro name value rest fuel hreads hfuel
      rw [List.length_cons, List.length_append] at hfuel
      obtain ⟨fuel, rfl⟩ : ∃ less, fuel = less + 1 := ⟨fuel - 1, by omega⟩
      have hvalue : Reads value := hreads _ List.mem_cons_self
      exact readFields_field hvalue (by omega) (Or.inl ⟨rfl, rfl⟩)
  | cons next fields ih =>
      intro name value rest fuel hreads hfuel
      obtain ⟨key, one⟩ := next
      rw [List.length_cons, List.length_append, writeFields, List.length_cons,
        List.length_append] at hfuel
      obtain ⟨fuel, rfl⟩ : ∃ less, fuel = less + 1 := ⟨fuel - 1, by omega⟩
      have hnext := ih key one rest
        (fun field hfield => hreads field (List.mem_cons_of_mem _ hfield))
        (by omega : (':' :: (writeValue one ++ writeFields fields)).length ≤ fuel)
      have hvalue : Reads value := hreads _ List.mem_cons_self
      have htext : writeFields ((key, one) :: fields) ++ rest =
          ',' :: (writeString key ++ ':' :: (writeValue one ++ (writeFields fields ++ rest))) := by
        simp only [writeFields, List.cons_append, List.append_assoc]
      exact readFields_field hvalue (by omega) (Or.inr ⟨_, htext, hnext⟩)

theorem readValue_toDigits (fuel n : Nat) (rest : List Char) :
    readValue (fuel + 1) (Nat.toDigits 10 n ++ rest) =
      readNumber false (Nat.toDigits 10 n ++ rest) := by
  obtain ⟨c, digits, heq, hdigit⟩ := exists_toDigits_eq_cons n
  rw [heq, List.cons_append, readValue_of_isDigit hdigit]

theorem reads_integer {value : Int} (h : Word.isSigned 64 value ∨ Word.isUnsigned 64 value) :
    Reads (.integer value) := by
  refine (IsPlain.integer h).reads_of_succ fun fuel rest _ hrest => ?_
  simp only [Word.isSigned, Word.isUnsigned, Word.count, Nat.one_shiftLeft, Bool.and_eq_true,
    decide_eq_true_eq] at h
  rw [writeValue_integer]
  by_cases hnonneg : 0 ≤ value
  · obtain ⟨n, rfl⟩ := Int.eq_ofNat_of_zero_le hnonneg
    have hword : Word.isUnsigned 64 n := by
      simp only [Word.isUnsigned, Word.count, Nat.one_shiftLeft, Bool.and_eq_true,
        decide_eq_true_eq]
      omega
    rw [if_pos hnonneg, Int.toNat_natCast, readValue_toDigits]
    exact readNumber_toDigits false hrest hword
  · obtain ⟨n, rfl⟩ : ∃ n : Nat, value = -(n : Int) := ⟨(-value).toNat, by omega⟩
    have hword : n ≠ 0 ∧ Word.isSigned 64 (-n) := by
      simp only [Word.isSigned, Word.count, Nat.one_shiftLeft, Bool.and_eq_true,
        decide_eq_true_eq]
      omega
    rw [if_neg hnonneg, neg_neg, Int.toNat_natCast, List.cons_append, readValue,
      skipBlanks_of_isStart (Or.inr (by decide))]
    exact readNumber_toDigits true hrest hword

theorem reads_list {items : List Document} (h : ∀ item ∈ items, IsPlain item)
    (hreads : ∀ item ∈ items, Reads item) : Reads (.list items) := by
  refine (IsPlain.list h).reads_of_succ fun fuel rest hfuel _ => ?_
  cases items with
  | nil => rfl
  | cons item items =>
      have hitems := readItems_write item rest hreads (Nat.le_of_succ_le_succ hfuel)
      -- No item starts with the bracket that would make the list an empty one.
      obtain ⟨c, text, heq, hstart⟩ := (h item List.mem_cons_self).exists_start
      obtain ⟨-, -, -, -, hclose⟩ := isStart_ne hstart
      rw [writeValue, List.cons_append, List.append_assoc, readValue,
        skipBlanks_of_isStart (Or.inr (by decide))]
      rw [heq, List.cons_append] at hitems ⊢
      simp only [skipBlanks_of_isStart hstart]
      split
      · next hhead =>
        cases hhead
        exact absurd rfl hclose
      · rw [hitems]

theorem reads_table {fields : List (String × Document)} (h : ∀ field ∈ fields, IsPlain field.2)
    (hreads : ∀ field ∈ fields, Reads field.2) : Reads (.table fields) := by
  refine (IsPlain.table h).reads_of_succ fun fuel rest hfuel _ => ?_
  cases fields with
  | nil => rfl
  | cons field fields =>
      obtain ⟨name, value⟩ := field
      rw [writeValue, List.length_cons, List.length_append] at hfuel
      have hfields := readFields_write name value rest hreads (by omega : _ ≤ fuel)
      rw [writeString_append] at hfields
      rw [writeValue, List.cons_append, List.append_assoc, List.cons_append, List.append_assoc,
        writeString_append, readValue, skipBlanks_of_isStart (Or.inr (by decide))]
      simp only [skipBlanks_of_isStart (c := '"') (Or.inr (by decide))]
      split
      · next hhead => cases hhead
      · rw [hfields]

/-- Every plain document is read as it was written, whatever comes after its text. -/
theorem IsPlain.reads {document : Document} (h : IsPlain document) : Reads document := by
  induction h with
  | null => exact IsPlain.null.reads_of_succ fun _ _ _ _ => rfl
  | boolean value =>
      refine (IsPlain.boolean value).reads_of_succ fun fuel rest _ _ => ?_
      cases value with
      | false => rfl
      | true => rfl
  | integer h => exact reads_integer h
  | text value =>
      refine (IsPlain.text value).reads_of_succ fun fuel rest _ _ => ?_
      rw [writeValue, writeString_append, readValue, skipBlanks_of_isStart (Or.inr (by decide))]
      simp only [readString_writeString]
  | list h ih => exact reads_list h ih
  | table h ih => exact reads_table h ih

theorem read_write {document : Document} (h : IsPlain document) :
    read (write document) = some document := by
  unfold read write
  dsimp only
  have hread := h.reads (2 * (writeValue document).length + 2) [] (by omega) ends_nil
  rw [List.append_nil] at hread
  rw [String.toList_ofList, hread]
  rfl

end Json
end MazeAgent
