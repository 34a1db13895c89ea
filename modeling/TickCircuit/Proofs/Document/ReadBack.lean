import TickCircuit.Proofs.Document.Scalars
import TickCircuit.Proofs.Value.Table

/-!
# Objects Are Read Back

An object is written with a line for each entry. If its names need no escapes and its values are numbers
and words, then each entry is read as it was written (`entries_step`), and so is the object, if each of its
values is read back from its own text (`parse_print_object`).
-/

namespace TickCircuit.Document

/-! ## §1 Names -/

/-- The name is written as it is. -/
def Verbatim (name : String) : Prop := ∀ c ∈ name.toList, escapeChar c = [c]

instance (name : String) : Decidable (Verbatim name) :=
  List.decidableBAll _ name.toList

theorem toList_stringText {name : String} (verbatim : Verbatim name) :
    (stringText name).toList = '"' :: (name.toList ++ ['"']) := by
  have same : name.toList.flatMap escapeChar = name.toList := by
    rw [List.flatMap_congr verbatim, List.flatMap_singleton']
  rw [stringText, same, String.ofList_toList, String.toList_append, String.toList_append]
  rfl

/-- Control characters are escaped. -/
theorem escapeChar_control : ∀ n < 32, escapeChar (Char.ofNat n) ≠ [Char.ofNat n] := by decide

/-- A character that is written as it is neither ends a string nor begins an escape. -/
theorem stringBody_cons {c : Char} (same : escapeChar c = [c]) (start fuel : Nat) (done rest : List Char)
    (q : Nat) : stringBody start (fuel + 1) done ⟨c :: rest, q⟩ =
      stringBody start fuel (c :: done) ⟨rest, q + 1⟩ := by
  have other (d : Char) (escaped : escapeChar d ≠ [d]) : c ≠ d := by
    rintro rfl
    exact escaped same
  have quote : c ≠ '"' := other '"' (by decide)
  have backslash : c ≠ '\\' := other '\\' (by decide)
  have printable : ¬ c.toNat < 32 := by
    intro low
    apply escapeChar_control c.toNat low
    rw [Char.ofNat_toNat]
    exact same
  rw [stringBody]
  -- all branches but the last are for characters that are written in another way
  split
  · next none => cases none
  · next end_ =>
    cases end_
    exact absurd rfl quote
  · next escape =>
    cases escape
    exact absurd rfl backslash
  · next taken =>
    cases taken
    rw [if_neg printable]
    rfl

/-- **Run**: a string is read up to its closing quote. -/
theorem stringBody_of_verbatim {name : List Char} (verbatim : ∀ c ∈ name, escapeChar c = [c])
    (start : Nat) {fuel : Nat} (enough : name.length < fuel) (done rest : List Char) (q : Nat) :
    Yields (stringBody start fuel done ⟨name ++ '"' :: rest, q⟩) (String.ofList (done.reverse ++ name))
      rest := by
  induction name generalizing fuel done q with
  | nil =>
    obtain ⟨fuel, rfl⟩ := Nat.exists_eq_add_one_of_ne_zero (Nat.ne_of_gt enough)
    exact ⟨q + 1, by rw [List.append_nil]; rfl⟩
  | cons c name ih =>
    obtain ⟨first, others⟩ := List.forall_mem_cons.1 verbatim
    obtain ⟨fuel, rfl⟩ := Nat.exists_eq_add_one_of_ne_zero (Nat.ne_zero_of_lt enough)
    rw [List.cons_append, stringBody_cons first]
    simpa using ih others (Nat.lt_of_succ_lt_succ enough) (c :: done) (q + 1)

theorem string_of_verbatim {name : String} (verbatim : Verbatim name) {fuel : Nat}
    (enough : name.length < fuel) (rest : List Char) (q : Nat) :
    Yields (string fuel ⟨(stringText name).toList ++ rest, q⟩) name rest := by
  rw [toList_stringText verbatim, List.cons_append, List.append_assoc]
  have read := stringBody_of_verbatim verbatim q (String.length_toList ▸ enough) [] rest (q + 1)
  rwa [List.reverse_nil, List.nil_append, String.ofList_toList] at read

/-! ## §2 Entries -/

/-- An entry that can be read back: its name needs no escapes, and its value alone is read back. -/
structure Legible (f : String × Value) : Prop where
  verbatim : Verbatim f.1
  bare : f.2.IsBare
  lossless : parse (print f.2) = .ok f.2

/-- The text of an entry. -/
def entryText (f : String × Value) : List Char :=
  (stringText f.1).toList ++ ':' :: ' ' :: (print f.2).toList

/-- What comes when an entry has been read: the end, or the next entry. -/
def afterEntry (fuel : Nat) (done : Record) (c : Cursor) : Read Value :=
  match c.skipSpace.rest with
  | '}' :: _ => .ok (.object done, c.skipSpace.skip 1)
  | ',' :: _ => entries fuel done (c.skipSpace.skip 1).skipSpace
  | _ => c.skipSpace.fail .comma

theorem entries_quote (fuel : Nat) (done : Record) (rest : List Char) (q : Nat) :
    entries (fuel + 1) done ⟨'"' :: rest, q⟩ = match string fuel ⟨'"' :: rest, q⟩ with
      | .error m => .error m
      | .ok (key, c) => match c.skipSpace.rest with
        | ':' :: _ => match value fuel (c.skipSpace.skip 1).skipSpace with
          | .error m => .error m
          | .ok (v, c) => afterEntry fuel (done.insert (.text key) v) c
        | _ => c.skipSpace.fail .colon := rfl

/-- **Step**: an entry is read as it was written. -/
theorem entries_step {f : String × Value} (legible : Legible f) {after : List Char} (closes : Closes after)
    {fuel : Nat} (enough : f.1.length < fuel) (done : Record) (q : Nat) :
    ∃ q', entries (fuel + 1) done ⟨entryText f ++ after, q⟩ =
      afterEntry fuel (done.insert (.text f.1) f.2) ⟨after, q'⟩ := by
  obtain ⟨c, cs, text, plain, whole⟩ := bareValue_of_parse legible.bare legible.lossless
  obtain ⟨q₁, name⟩ := string_of_verbatim legible.verbatim enough (':' :: ' ' :: (c :: cs ++ after)) q
  obtain ⟨q₂, read⟩ := bareValue_append closes whole (q₁ + 1 + 1)
  have shape : entryText f ++ after =
      (stringText f.1).toList ++ ':' :: ' ' :: (c :: cs ++ after) := by
    simp [entryText, text]
  obtain ⟨fuel, rfl⟩ := Nat.exists_eq_add_one_of_ne_zero (Nat.ne_zero_of_lt enough)
  have blank : Cursor.skipSpace ⟨' ' :: (c :: cs ++ after), q₁ + 1⟩ = ⟨c :: (cs ++ after), q₁ + 1 + 1⟩ :=
    skipSpace_append [' '] (by simp [Cursor.isSpace]) (isSpace_of_isPlainChar plain) _ _
  refine ⟨q₂, ?_⟩
  rw [toList_stringText legible.verbatim] at name shape
  rw [List.cons_append] at name shape read
  rw [shape, entries_quote, name]
  dsimp only
  rw [skipSpace_cons (c := ':') (by decide)]
  show (match value (fuel + 1) (Cursor.skipSpace ⟨' ' :: (c :: cs ++ after), q₁ + 1⟩) with
    | .error m => Except.error m
    | .ok (v, c) => afterEntry (fuel + 1) (done.insert (.text f.1) v) c) = _
  rw [blank, value_of_isPlainChar plain, read]

/-- The texts of the entries, each on a line of its own. -/
def entriesText (fields : List (String × Value)) : List Char :=
  List.intercalate [',', '\n', ' ', ' '] (fields.map entryText)

theorem entriesText_singleton (f : String × Value) : entriesText [f] = entryText f :=
  List.intercalate_singleton

theorem entriesText_cons_cons (f g : String × Value) (fields : List (String × Value)) :
    entriesText (f :: g :: fields) =
      entryText f ++ ',' :: ('\n' :: ' ' :: ' ' :: entriesText (g :: fields)) := by
  unfold entriesText
  rw [List.map_cons, List.map_cons, List.intercalate_cons_cons, List.append_assoc]
  rfl

theorem entriesText_cons {f : String × Value} (verbatim : Verbatim f.1) (fields : List (String × Value)) :
    ∃ text, entriesText (f :: fields) = '"' :: text := by
  have quote : ∃ text, entryText f = '"' :: text := by
    rw [entryText, toList_stringText verbatim]
    exact ⟨_, rfl⟩
  obtain ⟨text, quote⟩ := quote
  cases fields with
  | nil => exact ⟨text, quote ▸ entriesText_singleton f⟩
  | cons g fields =>
    rw [entriesText_cons_cons, quote]
    exact ⟨_, rfl⟩

/-- A name is shorter than its entry. -/
theorem length_name_lt {f : String × Value} (verbatim : Verbatim f.1) :
    f.1.length < (entryText f).length := by
  rw [entryText, toList_stringText verbatim, ← String.length_toList]
  simp only [List.length_append, List.length_cons]
  omega

/-- **Run**: the entries of an object are read as they were written. -/
theorem entries_of_legible {f : String × Value} {fields : List (String × Value)}
    (legible : ∀ g ∈ f :: fields, Legible g) (rest : List Char) {fuel : Nat} (done : Record) (q : Nat)
    (enough : (entriesText (f :: fields)).length < fuel) :
    Yields (entries (fuel + 1) done ⟨entriesText (f :: fields) ++ '\n' :: '}' :: rest, q⟩)
      (.object (done.merge (Record.ofFields (f :: fields)))) rest := by
  induction fields generalizing f done q fuel with
  | nil =>
    obtain ⟨first, -⟩ := List.forall_mem_cons.1 legible
    rw [entriesText_singleton] at enough ⊢
    have closes : Closes ('\n' :: '}' :: rest) := ⟨_, _, rfl, .inr rfl⟩
    obtain ⟨q₁, step⟩ := entries_step first closes ((length_name_lt first.verbatim).trans enough) done q
    refine ⟨q₁ + 1 + 1, ?_⟩
    rw [step]
    rfl
  | cons g fields ih =>
    obtain ⟨first, others⟩ := List.forall_mem_cons.1 legible
    rw [entriesText_cons_cons] at enough ⊢
    rw [List.append_assoc, List.cons_append]
    obtain ⟨text, quote⟩ := entriesText_cons (others g List.mem_cons_self).verbatim fields
    simp only [List.length_append, List.length_cons] at enough
    -- one step of the reading takes up at least one character, so the fuel lasts for the rest
    obtain ⟨fuel, rfl⟩ := Nat.exists_eq_add_one_of_ne_zero (Nat.ne_zero_of_lt enough)
    have shorter := length_name_lt first.verbatim
    have named : f.1.length < fuel + 1 := by omega
    have closes : Closes (',' :: ('\n' :: ' ' :: ' ' :: entriesText (g :: fields) ++ '\n' :: '}' :: rest)) :=
      ⟨_, _, rfl, .inl rfl⟩
    obtain ⟨q₁, step⟩ := entries_step first closes named done q
    rw [step]
    have next : afterEntry (fuel + 1) (done.insert (.text f.1) f.2)
        ⟨',' :: ('\n' :: ' ' :: ' ' :: entriesText (g :: fields) ++ '\n' :: '}' :: rest), q₁⟩ =
        entries (fuel + 1) (done.insert (.text f.1) f.2)
          ⟨entriesText (g :: fields) ++ '\n' :: '}' :: rest, q₁ + 1 + 3⟩ := by
      rw [quote]
      rfl
    rw [next]
    exact ih others (done.insert (.text f.1) f.2) (q₁ + 1 + 3) (by omega)

/-! ## §3 Objects -/

theorem write_of_isBare {v : Value} (bare : v.IsBare) (sp : Spacing) (level : Nat) :
    write sp level v = print v := by
  unfold print
  cases v with
  | null | flag | int | real => rfl
  | _ => exact bare.elim

theorem toList_writeEntries {fields : List (String × Value)} (bare : ∀ f ∈ fields, f.2.IsBare)
    (sp : Spacing) (level : Nat) :
    (writeEntries sp level (Record.ofFields fields)).map String.toList = fields.map entryText := by
  induction fields with
  | nil => rfl
  | cons f fields ih =>
    obtain ⟨first, others⟩ := List.forall_mem_cons.1 bare
    have line : (stringText f.1 ++ ": " ++ write sp level f.2).toList = entryText f := by
      rw [write_of_isBare first, String.toList_append, String.toList_append, List.append_assoc]
      rfl
    show _ :: List.map String.toList (writeEntries sp level (Record.ofFields fields)) = _
    rw [ih others, List.map_cons]
    exact congrArg (· :: _) line

theorem toList_print_object {f : String × Value} {fields : List (String × Value)}
    (bare : ∀ g ∈ f :: fields, g.2.IsBare) :
    (print (.object (Record.ofFields (f :: fields)))).toList =
      '{' :: '\n' :: ' ' :: ' ' :: (entriesText (f :: fields) ++ ['\n', '}']) := by
  have parts : print (.object (Record.ofFields (f :: fields))) =
      "\x7b" ++ Spacing.indented.before 1 ++
        String.intercalate (Spacing.indented.between 1)
          (writeEntries .indented 1 (Record.ofFields (f :: fields))) ++
        Spacing.indented.before 0 ++ "\x7d" := rfl
  rw [parts]
  simp only [String.toList_append, String.toList_intercalate, toList_writeEntries bare, List.append_assoc]
  rfl

/-- **Law**: an object of numbers and words is read back, if each of its values is. -/
theorem parse_print_object {f : String × Value} {fields : List (String × Value)}
    (legible : ∀ g ∈ f :: fields, Legible g) (distinct : Table.Distinct (Record.ofFields (f :: fields))) :
    parse (print (.object (Record.ofFields (f :: fields)))) =
      .ok (.object (Record.ofFields (f :: fields))) := by
  have text := toList_print_object fun g member => (legible g member).bare
  obtain ⟨quoted, quote⟩ := entriesText_cons (legible f List.mem_cons_self).verbatim fields
  -- entries are stored one by one as they are read, which makes the same object if no name comes twice
  have merged : Table.merge [] (Record.ofFields (f :: fields)) = Record.ofFields (f :: fields) :=
    Table.merge_of_keys_prefix distinct (fun _ none => absurd none List.not_mem_nil) List.nil_prefix
  have opened (n : Nat) : value (n + 2) (Cursor.skipSpace
      ⟨'{' :: '\n' :: ' ' :: ' ' :: (entriesText (f :: fields) ++ ['\n', '}']), 0⟩) =
      entries (n + 1) [] ⟨entriesText (f :: fields) ++ ['\n', '}'], 4⟩ := by
    rw [quote]
    rfl
  unfold parse
  rw [text]
  dsimp only
  rw [List.head?_cons, if_neg (by decide), opened]
  have enough : (entriesText (f :: fields)).length <
      2 * ('{' :: '\n' :: ' ' :: ' ' :: (entriesText (f :: fields) ++ ['\n', '}'])).length := by
    simp only [List.length_cons, List.length_append]
    omega
  obtain ⟨q, read⟩ := entries_of_legible legible [] [] 4 enough
  rw [read, merged]
  rfl

/-! ### Line ends -/

theorem not_mem_entryText {f : String × Value} (legible : Legible f) : '\r' ∉ entryText f := by
  have value : '\r' ∉ (print f.2).toList := fun member =>
    ne_of_isPlainChar (plain_print legible.bare '\r' member) (by decide) rfl
  have name : '\r' ∉ f.1.toList := fun member =>
    absurd (legible.verbatim '\r' member) (by decide)
  rw [entryText, toList_stringText legible.verbatim]
  simp [value, name]

theorem not_mem_entriesText {fields : List (String × Value)} (legible : ∀ f ∈ fields, Legible f) :
    '\r' ∉ entriesText fields := by
  induction fields with
  | nil => exact List.not_mem_nil
  | cons f fields ih =>
    obtain ⟨first, others⟩ := List.forall_mem_cons.1 legible
    have here := not_mem_entryText first
    cases fields with
    | nil => rwa [entriesText_singleton]
    | cons g fields =>
      rw [entriesText_cons_cons]
      simp [here, ih others]

theorem unifyLineEnds_of_not_mem {cs : List Char} (none : '\r' ∉ cs) : unifyLineEnds cs = cs := by
  induction cs with
  | nil => rfl
  | cons c cs ih =>
    rw [List.mem_cons, not_or] at none
    have other : c = '\r' → False := fun same => none.1 same.symm
    rw [unifyLineEnds, ih none.2]
    · exact fun _ same _ => other same
    · exact other

/-- All lines of such an object end with a line feed alone. -/
theorem unifyLineEnds_print_object {f : String × Value} {fields : List (String × Value)}
    (legible : ∀ g ∈ f :: fields, Legible g) :
    unifyLineEnds (print (.object (Record.ofFields (f :: fields)))).toList =
      (print (.object (Record.ofFields (f :: fields)))).toList := by
  apply unifyLineEnds_of_not_mem
  rw [toList_print_object fun g member => (legible g member).bare]
  simp [not_mem_entriesText legible]

end TickCircuit.Document
