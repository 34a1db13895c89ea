import Mathlib.Data.List.Find
import TickCircuit.Document.Printer
import TickCircuit.Document.Reader

/-!
# Numbers and Words in a Document

A number ends where a comma or a line feed comes, whatever stands behind it, and so does a word. So what
is read of such a value on its own is read of it inside an object, too (`bareValue_append`): a number or a
word that is read back from its own text is also read back from the place it has in a larger one
(`bareValue_of_parse`).
-/

namespace TickCircuit

/-- A number, a flag or nothing: what is written without quotes and brackets. -/
def Value.IsBare : Value → Prop
  | null | flag _ | int _ | real _ => True
  | _ => False

namespace Document

/-! ## §1 Plain Texts -/

/-- The characters of numbers and words. -/
def isPlainChar (c : Char) : Bool := c.isAlphanum || c == '.' || c == '+' || c == '-'

/-- All characters are such. -/
def Plain (s : String) : Prop := ∀ c ∈ s.toList, isPlainChar c = true

instance (s : String) : Decidable (Plain s) :=
  List.decidableBAll _ s.toList

theorem isPlainChar_of_isDigit {c : Char} (digit : c.isDigit = true) : isPlainChar c = true := by
  simp [isPlainChar, Char.isAlphanum, digit]

theorem ne_of_isPlainChar {c d : Char} (plain : isPlainChar c = true) (other : isPlainChar d = false) :
    c ≠ d := by
  rintro rfl
  exact absurd (plain.symm.trans other) (by decide)

theorem isSpace_of_isPlainChar {c : Char} (plain : isPlainChar c = true) : Cursor.isSpace c = false := by
  have other (d : Char) (h : isPlainChar d = false) : (c == d) = false :=
    beq_false_of_ne (ne_of_isPlainChar plain h)
  rw [Cursor.isSpace, other ' ' (by decide), other '\t' (by decide), other '\n' (by decide),
    other '\r' (by decide)]
  rfl

theorem Plain.append {s t : String} (h : Plain s) (h' : Plain t) : Plain (s ++ t) := by
  intro c member
  rw [String.toList_append] at member
  exact (List.mem_append.1 member).elim (h c) (h' c)

theorem plain_ofList {cs : List Char} (h : ∀ c ∈ cs, isPlainChar c = true) : Plain (String.ofList cs) := by
  rwa [Plain, String.toList_ofList]

theorem plain_toString_nat (n : Nat) : Plain (toString n) := by
  rw [Nat.toString_eq_repr]
  exact plain_ofList fun c member =>
    isPlainChar_of_isDigit (Nat.isDigit_of_mem_toDigits (by decide) (by decide) member)

theorem plain_toString_int (n : Int) : Plain (toString n) := by
  cases n with
  | ofNat n => exact plain_toString_nat n
  | negSucc n => exact Plain.append (by decide) (plain_toString_nat (n + 1))

theorem plain_zeros (n : Nat) : Plain (Layout.zeros n) :=
  plain_ofList fun c member => by rw [List.eq_of_mem_replicate member]; rfl

theorem plain_exponentText (x : Int) : Plain (Layout.document.exponentText x) := by
  have sign : Plain (if x < 0 then "-" else "+") := by split <;> decide
  exact (((show Plain "e" by decide).append sign).append (plain_zeros _)).append (plain_toString_nat _)

theorem plain_decimalText (d : Decimal) : Plain (Layout.document.decimalText d) := by
  have digits : Plain (toString d.digits) := plain_toString_nat _
  have point : Plain "." := by decide
  have front (n : Nat) : Plain (String.ofList ((toString d.digits).toList.take n)) :=
    plain_ofList fun c member => digits c (List.mem_of_mem_take member)
  have back (n : Nat) : Plain (String.ofList ((toString d.digits).toList.drop n)) :=
    plain_ofList fun c member => digits c (List.mem_of_mem_drop member)
  unfold Layout.decimalText
  dsimp only
  split
  · split
    · exact (digits.append (plain_zeros _)).append (by decide)
    · split
      · exact ((front _).append point).append (back _)
      · exact ((show Plain "0." by decide).append (plain_zeros _)).append digits
  · refine ((front 1).append ?_).append (plain_exponentText _)
    split
    · decide
    · exact point.append (back 1)

theorem plain_floatText (x : Float) : Plain (Layout.document.floatText x) := by
  have sign (negative : Prop) [Decidable negative] : Plain (if negative then "-" else "") := by
    split <;> decide
  unfold Layout.floatText
  split
  · decide
  · exact (sign _).append (by decide)
  · split <;> decide
  · exact (sign _).append (plain_decimalText _)

/-- Numbers and words are written in plain characters. -/
theorem plain_print {v : Value} (bare : v.IsBare) : Plain (print v) := by
  unfold print
  cases v with
  | null => decide
  | flag b => cases b <;> decide
  | int n => exact plain_toString_int n
  | real x => exact plain_floatText x
  | _ => exact bare.elim

/-! ## §2 Numbers and Words in Front of Something Else -/

/-- What stands behind a value in an indented document: a comma or a line feed, and then something more. -/
def Closes (rest : List Char) : Prop := ∃ c more, rest = c :: more ∧ (c = ',' ∨ c = '\n')

/-- The digits in front of the point. A leading zero stands alone. -/
def wholePart (cs : List Char) : List Char :=
  match cs with
  | '0' :: _ => ['0']
  | _ => digits cs

/-- The length of a sign. -/
def signLength : List Char → Nat
  | '+' :: _ => 1
  | '-' :: _ => 1
  | _ => 0

theorem exponentLength_cons (e : Char) (cs : List Char) : exponentLength (e :: cs) =
    if e == 'e' || e == 'E' then
      let ds := digits (cs.drop (signLength cs))
      if ds.isEmpty then 0 else 1 + signLength cs + ds.length
    else 0 := rfl

theorem length_digits_le (cs : List Char) : (digits cs).length ≤ cs.length :=
  (List.takeWhile_prefix _).length_le

theorem length_wholePart_le (cs : List Char) : (wholePart cs).length ≤ cs.length := by
  unfold wholePart
  split
  · simp
  · exact length_digits_le _

theorem fractionLength_le (cs : List Char) : fractionLength cs ≤ cs.length := by
  unfold fractionLength
  split
  · next rest =>
    have := length_digits_le rest
    rw [List.length_cons]
    split <;> omega
  · exact Nat.zero_le _

theorem signLength_le (cs : List Char) : signLength cs ≤ cs.length := by
  unfold signLength
  split <;> simp

theorem exponentLength_le (cs : List Char) : exponentLength cs ≤ cs.length := by
  cases cs with
  | nil => exact Nat.zero_le _
  | cons e cs =>
    have sign := signLength_le cs
    have ds := length_digits_le (cs.drop (signLength cs))
    rw [List.length_drop] at ds
    rw [exponentLength_cons, List.length_cons]
    dsimp only
    split
    · split <;> omega
    · omega

/-- The characters behind a leading minus sign, or all of them. -/
def unsigned (cs : List Char) : List Char := if cs.head? == some '-' then cs.drop 1 else cs

/-- The parts of the number that a text begins with. -/
structure Spelling where
  negative : Bool
  whole : List Char
  /-- The lengths of the fraction and of the exponent. -/
  fraction : Nat
  exponent : Nat
  /-- All that stands behind the sign. -/
  figures : List Char

def spelling (cs : List Char) : Spelling :=
  let body := unsigned cs
  let whole := wholePart body
  let fraction := fractionLength (body.drop whole.length)
  let exponent := exponentLength ((body.drop whole.length).drop fraction)
  ⟨cs.head? == some '-', whole, fraction, exponent, body.take (whole.length + fraction + exponent)⟩

def Spelling.length (s : Spelling) : Nat :=
  (if s.negative then 1 else 0) + s.whole.length + s.fraction + s.exponent

def Spelling.value? (s : Spelling) : Option Value :=
  if s.whole.isEmpty then none
  else if s.fraction == 0 && s.exponent == 0 then
    if s.whole.length > Reading.maxDigits then none
    else
      let n : Int := Reading.digitsValue s.whole
      some (.int (if s.negative then -n else n))
  else (Reading.fraction? s.negative s.figures).map Value.real

/-- A number is read from its parts. -/
theorem number_eq (c : Cursor) : number c =
    let s := spelling c.rest
    if s.whole.isEmpty then c.fail .value
    else if s.fraction == 0 && s.exponent == 0 then
      if s.whole.length > Reading.maxDigits then c.fail .tooManyDigits
      else
        let n : Int := Reading.digitsValue s.whole
        .ok (.int (if s.negative then -n else n), c.skip s.length)
    else match Reading.fraction? s.negative s.figures with
      | some x => .ok (.real x, c.skip s.length)
      | none => c.fail .value := rfl

theorem number_eq_ok_iff {c c' : Cursor} {v : Value} : number c = .ok (v, c') ↔
    (spelling c.rest).value? = some v ∧ c' = c.skip (spelling c.rest).length := by
  let s := spelling c.rest
  have read (a : Value) :
      (Except.ok (a, c.skip s.length) : Read Value) = .ok (v, c') ↔
        some a = some v ∧ c' = c.skip s.length := by
    rw [Except.ok.injEq, Prod.mk.injEq, Option.some.injEq]
    exact and_congr Iff.rfl eq_comm
  rw [number_eq]
  show _ ↔ s.value? = some v ∧ c' = c.skip s.length
  unfold Spelling.value?
  dsimp only
  split
  · simp [Cursor.fail]
  · split
    · split
      · simp [Cursor.fail]
      · exact read _
    · cases Reading.fraction? s.negative s.figures with
      | none => simp [Cursor.fail]
      | some x => exact read _

theorem length_spelling_le (cs : List Char) : (spelling cs).length ≤ cs.length := by
  have sign : (if cs.head? == some '-' then 1 else 0) + (unsigned cs).length = cs.length := by
    unfold unsigned
    cases cs with
    | nil => rfl
    | cons c cs =>
      split
      · simp [Nat.add_comm]
      · simp
  have whole := length_wholePart_le (unsigned cs)
  have fraction := fractionLength_le ((unsigned cs).drop (wholePart (unsigned cs)).length)
  have exponent := exponentLength_le (((unsigned cs).drop (wholePart (unsigned cs)).length).drop
    (fractionLength ((unsigned cs).drop (wholePart (unsigned cs)).length)))
  rw [List.length_drop] at fraction exponent
  rw [List.length_drop] at exponent
  unfold Spelling.length spelling
  dsimp only
  omega

section Closes

variable {rest : List Char} (closes : Closes rest)
include closes

theorem digits_append (cs : List Char) : digits (cs ++ rest) = digits cs := by
  obtain ⟨c, more, rfl, end_⟩ := closes
  have stops : (c :: more).takeWhile Char.isDigit = [] := by
    rcases end_ with rfl | rfl <;> rfl
  rw [digits, List.takeWhile_append, stops, List.append_nil]
  split
  · next all => exact (List.takeWhile_prefix Char.isDigit).eq_of_length all |>.symm
  · rfl

theorem fractionLength_append (cs : List Char) : fractionLength (cs ++ rest) = fractionLength cs := by
  cases cs with
  | nil =>
    obtain ⟨c, more, rfl, rfl | rfl⟩ := closes <;> rfl
  | cons c cs =>
    by_cases point : c = '.'
    · subst point
      rw [List.cons_append, fractionLength, fractionLength, digits_append closes]
    · simp [fractionLength, point]

theorem signLength_append (cs : List Char) : signLength (cs ++ rest) = signLength cs := by
  cases cs with
  | nil =>
    obtain ⟨c, more, rfl, rfl | rfl⟩ := closes <;> rfl
  | cons c cs =>
    by_cases plus : c = '+'
    · subst plus
      rfl
    · by_cases minus : c = '-'
      · subst minus
        rfl
      · simp [signLength, plus, minus]

theorem exponentLength_append (cs : List Char) : exponentLength (cs ++ rest) = exponentLength cs := by
  cases cs with
  | nil =>
    obtain ⟨c, more, rfl, rfl | rfl⟩ := closes <;> rfl
  | cons e cs =>
    rw [List.cons_append, exponentLength_cons, exponentLength_cons, signLength_append closes,
      List.drop_append_of_le_length (signLength_le cs), digits_append closes]

theorem isPrefixOf_append {word : List Char} (comma : ',' ∉ word) (line : '\n' ∉ word) (cs : List Char) :
    word.isPrefixOf (cs ++ rest) = word.isPrefixOf cs := by
  induction word generalizing cs with
  | nil => simp
  | cons w word ih =>
    rw [List.mem_cons, not_or] at comma line
    cases cs with
    | nil =>
      obtain ⟨c, more, rfl, rfl | rfl⟩ := closes
      · simp [List.isPrefixOf, Ne.symm comma.1]
      · simp [List.isPrefixOf, Ne.symm line.1]
    | cons c cs =>
      rw [List.cons_append, List.isPrefixOf_cons_cons, List.isPrefixOf_cons_cons, ih comma.2 line.2]

theorem word?_append (cs : List Char) : word? (cs ++ rest) = word? cs := by
  have plain : ∀ w ∈ words, ',' ∉ w.1.toList ∧ '\n' ∉ w.1.toList := by decide
  unfold word?
  exact List.find?_congr fun w member =>
    isPrefixOf_append closes (plain w member).1 (plain w member).2 cs

theorem wholePart_append (cs : List Char) : wholePart (cs ++ rest) = wholePart cs := by
  cases cs with
  | nil =>
    obtain ⟨c, more, rfl, rfl | rfl⟩ := closes <;> rfl
  | cons c cs =>
    have digits := digits_append closes (c :: cs)
    -- behind a leading zero nothing is looked at
    by_cases zero : c = '0'
    · subst zero
      rfl
    · simpa [wholePart, zero] using digits

theorem unsigned_append (cs : List Char) : unsigned (cs ++ rest) = unsigned cs ++ rest ∧
    ((cs ++ rest).head? == some '-') = (cs.head? == some '-') := by
  cases cs with
  | nil =>
    obtain ⟨c, more, rfl, rfl | rfl⟩ := closes <;> exact ⟨rfl, rfl⟩
  | cons c cs =>
    refine ⟨?_, rfl⟩
    unfold unsigned
    rw [List.cons_append, List.head?_cons, List.head?_cons]
    split <;> rfl

theorem spelling_append (cs : List Char) : spelling (cs ++ rest) = spelling cs := by
  obtain ⟨body, sign⟩ := unsigned_append closes cs
  have whole := length_wholePart_le (unsigned cs)
  have fraction := fractionLength_le ((unsigned cs).drop (wholePart (unsigned cs)).length)
  have exponent := exponentLength_le (((unsigned cs).drop (wholePart (unsigned cs)).length).drop
    (fractionLength ((unsigned cs).drop (wholePart (unsigned cs)).length)))
  unfold spelling
  rw [body, sign]
  dsimp only
  rw [wholePart_append closes, List.drop_append_of_le_length whole,
    fractionLength_append closes, List.drop_append_of_le_length fraction, exponentLength_append closes]
  rw [List.length_drop] at fraction exponent
  rw [List.length_drop] at exponent
  rw [List.take_append_of_le_length (by omega)]

end Closes

/-! ## §3 Values on Their Own -/

/-- A part was read, and this is the text left behind it. -/
def Yields {α : Type} (r : Read α) (a : α) (rest : List Char) : Prop := ∃ q, r = .ok (a, ⟨rest, q⟩)

/-- Blanks are passed over, up to what is none. -/
theorem skipSpace_append (blanks : List Char) (all : ∀ c ∈ blanks, Cursor.isSpace c = true) {c : Char}
    (stop : Cursor.isSpace c = false) (rest : List Char) (q : Nat) :
    Cursor.skipSpace ⟨blanks ++ c :: rest, q⟩ = ⟨c :: rest, q + blanks.length⟩ := by
  have taken : (blanks ++ c :: rest).takeWhile Cursor.isSpace = blanks := by
    rw [List.takeWhile_append_of_pos all, List.takeWhile_cons_of_neg (by simp [stop]), List.append_nil]
  rw [Cursor.skipSpace, taken, Cursor.skip, List.drop_left]

theorem skipSpace_cons {c : Char} (stop : Cursor.isSpace c = false) (rest : List Char) (q : Nat) :
    Cursor.skipSpace ⟨c :: rest, q⟩ = ⟨c :: rest, q⟩ :=
  skipSpace_append [] (fun _ none => absurd none List.not_mem_nil) stop rest q

/-- A value that begins with neither a quote nor a bracket. -/
def bareValue (c : Cursor) : Read Value :=
  match word? c.rest with
  | some (w, v) => .ok (v, c.skip w.length)
  | none => number c

theorem value_of_isPlainChar {c : Char} (plain : isPlainChar c = true) (fuel : Nat) (cs : List Char)
    (q : Nat) : value (fuel + 1) ⟨c :: cs, q⟩ = bareValue ⟨c :: cs, q⟩ := by
  have other (d : Char) (h : isPlainChar d = false) : c ≠ d := ne_of_isPlainChar plain h
  rw [value]
  split
  · next none => cases none
  · next quote =>
    cases quote
    exact absurd rfl (other '"' (by decide))
  · next brace =>
    cases brace
    exact absurd rfl (other '\x7b' (by decide))
  · next bracket =>
    cases bracket
    exact absurd rfl (other '[' (by decide))
  · rfl

/-- What is read of a text as a whole is read of it in front of something else. -/
theorem bareValue_append {cs rest : List Char} (closes : Closes rest) {p : Nat} {v : Value}
    (whole : Yields (bareValue ⟨cs, p⟩) v []) (q : Nat) :
    Yields (bareValue ⟨cs ++ rest, q⟩) v rest := by
  obtain ⟨stop, whole⟩ := whole
  -- a part that leaves nothing of the text alone is as long as this text
  have behind {n : Nat} (all : cs.length ≤ n) (most : n ≤ cs.length) :
      Cursor.skip ⟨cs ++ rest, q⟩ n = ⟨rest, q + n⟩ := by
    rw [Cursor.skip, Nat.le_antisymm most all, List.drop_left]
  unfold bareValue at whole ⊢
  rw [word?_append closes]
  dsimp only at whole ⊢
  split at whole
  · next w _ found =>
    rw [Except.ok.injEq, Prod.mk.injEq, Cursor.skip, Cursor.mk.injEq, List.drop_eq_nil_iff] at whole
    obtain ⟨rfl, all, -⟩ := whole
    have front : w.toList.isPrefixOf cs = true :=
      List.find?_some (p := fun w : String × Value => w.1.toList.isPrefixOf cs) found
    have first := (List.isPrefixOf_iff_prefix.1 front).length_le
    rw [String.length_toList] at first
    exact ⟨_, by rw [behind all first]⟩
  · obtain ⟨read, left⟩ := number_eq_ok_iff.1 whole
    rw [Cursor.skip, Cursor.mk.injEq, eq_comm, List.drop_eq_nil_iff] at left
    have same : spelling (cs ++ rest) = spelling cs := spelling_append closes cs
    refine ⟨q + (spelling cs).length, number_eq_ok_iff.2 ?_⟩
    rw [same, behind left.1 (length_spelling_le cs)]
    exact ⟨read, rfl⟩

theorem rest_of_bareValue {c c' : Cursor} {v : Value} (read : bareValue c = .ok (v, c')) :
    c'.rest <:+ c.rest := by
  unfold bareValue at read
  split at read
  · cases read
    exact List.drop_suffix _ _
  · rw [(number_eq_ok_iff.1 read).2]
    exact List.drop_suffix _ _

/-- A value that is read back from its own text is one that this text begins with. -/
theorem bareValue_of_parse {v : Value} (bare : v.IsBare) (same : parse (print v) = .ok v) :
    ∃ c cs, (print v).toList = c :: cs ∧ isPlainChar c = true ∧ Yields (bareValue ⟨c :: cs, 0⟩) v [] := by
  have plain := plain_print bare
  unfold Plain at plain
  unfold parse at same
  cases text : (print v).toList with
  | nil =>
    rw [text] at same
    cases same
  | cons c cs =>
    rw [text] at plain same
    have first := plain c List.mem_cons_self
    refine ⟨c, cs, rfl, first, ?_⟩
    dsimp only at same
    rw [skipSpace_cons (isSpace_of_isPlainChar first), value_of_isPlainChar first] at same
    split at same
    · cases same
    · split at same
      · cases same
      · next w cursor read =>
        obtain ⟨rest, q⟩ := cursor
        cases rest with
        | nil =>
          cases same
          exact ⟨q, read⟩
        | cons d rest =>
          -- what is left over is no blank either, so the text would not end there
          have member : d ∈ c :: cs := (rest_of_bareValue read).subset List.mem_cons_self
          rw [skipSpace_cons (isSpace_of_isPlainChar (plain d member))] at same
          cases same

end Document

end TickCircuit
