import Mathlib.Data.List.Infix
import TickCircuit.Pattern.Reader

/-!
# What Can Go Wrong in Reading a Pattern

A text that is no pattern is refused in one way. The other fault is a repeat count that is too large,
and this takes a row of digits in the text that spells such a number (`compile_fault`). Texts without
such a row are read or refused.

## Reading inside a text

The text that is left to be read is always a suffix of the whole, so what is taken from it stands in
the text. `Reads` says this of a reading step together with its faults; it is shown for every step in
the order of the grammar, and for the steps that call each other by induction on their fuel.
-/

namespace TickCircuit.Pattern

/-! ## §1 Reading Steps -/

/-- A row of digits that is too large or too long for a repeat count. -/
def TooLarge (digits : List Char) : Prop :=
  Reading.maxDigits < digits.length ∨ countLimit ≤ Reading.digitsValue digits

/-- Somewhere in the text stands a row of digits that is too large for a repeat count. -/
def HasLargeCount (text : List Char) : Prop :=
  ∃ digits, digits <:+: text ∧ (∀ c ∈ digits, c.isDigit = true) ∧ TooLarge digits

/-- The faults that reading a text may end in. -/
def Expected (text : List Char) (e : Fault) : Prop :=
  e = .badPattern ∨ (e = .hugeRepeat ∨ e = .tooManyDigits) ∧ HasLargeCount text

/-- A step that leaves a suffix of the text and has a result with a property, or ends in an expected
fault. -/
def Reads {α : Type} (text : List Char) (post : α → Prop) (step : Reader α) : Prop :=
  ∀ s : Scan, s.rest <:+ text → match step.run s with
    | .ok (a, s') => s'.rest <:+ text ∧ post a
    | .error e => Expected text e

section Steps

variable {α β : Type} {text : List Char} {post : α → Prop} {next : β → Prop}

theorem Reads.pure {a : α} (h : post a) : Reads text post (pure a) := fun _ inside => ⟨inside, h⟩

theorem Reads.refuse : Reads text post refuse := fun _ _ => .inl rfl

theorem Reads.get : Reads text (fun s : Scan => s.rest <:+ text) get :=
  fun _ inside => ⟨inside, inside⟩

theorem Reads.modify {f : Scan → Scan} (h : ∀ s, (f s).rest = s.rest) :
    Reads text (fun _ => True) (modify f) := by
  intro s inside
  refine ⟨?_, trivial⟩
  rw [h]
  exact inside

theorem Reads.set {s : Scan} (h : s.rest <:+ text) : Reads text (fun _ => True) (set s) :=
  fun _ _ => ⟨h, trivial⟩

theorem Reads.bind {step : Reader α} {f : α → Reader β} (first : Reads text post step)
    (second : ∀ a, post a → Reads text next (f a)) : Reads text next (step >>= f) := by
  intro s inside
  have done := first s inside
  rw [StateT.run_bind]
  cases h : step.run s with
  | error e =>
    rw [h] at done
    exact done
  | ok r =>
    rw [h] at done
    exact second r.1 done.2 r.2 done.1

/-- A step of which only the faults matter. -/
abbrev Stays (text : List Char) (step : Reader α) : Prop := Reads text (fun _ => True) step

theorem goTo_reads {rest : List Char} (h : rest <:+ text) : Stays text (goTo rest) := by
  unfold goTo
  split
  · exact .refuse
  · exact fun s _ => ⟨h, trivial⟩

theorem advance_reads (n : Nat) : Stays text (advance n) := by
  unfold advance
  refine .bind .get fun s inside => ?_
  exact goTo_reads ((List.drop_suffix n s.rest).trans inside)

theorem takeIf_reads (c : Char) : Stays text (takeIf c) := by
  unfold takeIf
  refine .bind .get fun s _ => ?_
  split
  · exact .bind (advance_reads 1) fun _ _ => .pure trivial
  · exact .pure trivial

theorem takeWhile_reads (most : Nat) (p : Char → Bool) :
    Reads text (fun cs => cs <:+: text ∧ ∀ c ∈ cs, p c = true) (takeWhile most p) := by
  unfold takeWhile
  refine .bind .get fun s inside => ?_
  refine .bind (advance_reads _) fun _ _ => .pure ⟨?_, List.all_eq_true.1 List.all_takeWhile⟩
  have front := (List.takeWhile_prefix p).trans (List.take_prefix most s.rest)
  exact front.isInfix.trans inside.isInfix

theorem takeDigits_reads :
    Reads text (fun cs => cs <:+: text ∧ ∀ c ∈ cs, c.isDigit = true) takeDigits := by
  unfold takeDigits
  exact .bind .get fun s _ => takeWhile_reads _ _

end Steps

/-! ## §2 Escapes and Sets -/

section Escapes

variable {text : List Char}

theorem hexCode_reads (width : Nat) : Stays text (hexCode width) := by
  unfold hexCode
  refine .bind (takeWhile_reads _ _) fun cs _ => ?_
  dsimp only
  split
  · exact .pure trivial
  · exact .refuse

theorem escapedCode_reads (c : Char) : Stays text (escapedCode c) := by
  unfold escapedCode
  split
  · exact hexCode_reads 2
  split
  · exact hexCode_reads 4
  split
  · exact hexCode_reads 8
  split
  · exact .refuse
  · exact .pure trivial

theorem reference_reads (index : Nat) : Stays text (reference index) := by
  unfold reference
  refine .bind .get fun s _ => ?_
  split
  · split
    · exact .refuse
    · exact .pure trivial
  · exact .refuse

theorem numbered_reads (c : Char) : Stays text (numbered c) := by
  unfold numbered
  refine .bind .get fun s _ => ?_
  split
  · split
    · exact reference_reads _
    · refine .bind (advance_reads 1) fun _ _ => ?_
      split
      · split
        · refine .bind (advance_reads 1) fun _ _ => ?_
          dsimp only
          split
          · exact .pure trivial
          · exact .refuse
        · exact reference_reads _
      · exact reference_reads _
  · exact reference_reads _

theorem escapedItem_reads (c : Char) : Stays text (escapedItem c) := by
  unfold escapedItem
  split
  · exact .pure trivial
  · exact .pure trivial
  · exact .pure trivial
  · split
    · exact .bind (takeWhile_reads _ _) fun _ _ => .pure trivial
    split
    · exact numbered_reads c
    · exact .bind (escapedCode_reads c) fun _ _ => .pure trivial

theorem escapedMember_reads (c : Char) : Stays text (escapedMember c) := by
  unfold escapedMember
  split
  · exact .pure trivial
  · exact .pure trivial
  · split
    · refine .bind (takeWhile_reads _ _) fun _ _ => ?_
      dsimp only
      split
      · exact .pure trivial
      · exact .refuse
    · exact .bind (escapedCode_reads c) fun _ _ => .pure trivial

theorem member_reads : Stays text member := by
  unfold member
  refine .bind .get fun s _ => ?_
  split
  · exact .bind (advance_reads 2) fun _ _ => escapedMember_reads _
  · exact .bind (advance_reads 1) fun _ _ => .pure trivial
  · exact .refuse

theorem members_reads (fuel : Nat) (done : List SetItem) : Stays text (members fuel done) := by
  induction fuel generalizing done with
  | zero => exact .refuse
  | succ fuel ih =>
    unfold members
    extract_lets next
    -- a member is read in the same way at the start of a set and further on
    have more : Stays text (next ()) := by
      refine .bind member_reads fun low _ => ?_
      refine .bind (takeIf_reads '-') fun _ _ => ?_
      split
      · refine .bind (takeIf_reads ']') fun _ _ => ?_
        split
        · exact .pure trivial
        · refine .bind member_reads fun high _ => ?_
          split
          · split
            · exact .refuse
            · exact ih _
          · exact .refuse
      · exact ih _
    split
    · refine .bind (takeIf_reads ']') fun _ _ => ?_
      split
      · exact .pure trivial
      · exact more
    · exact more

theorem charSet_reads : Stays text charSet := by
  unfold charSet
  refine .bind (takeIf_reads '^') fun _ _ => ?_
  refine .bind .get fun s _ => ?_
  exact .bind (members_reads _ _) fun _ _ => .pure trivial

end Escapes

/-! ## §3 Repeat Signs -/

section Repeats

variable {text : List Char}

/-- Only here a fault besides the refusal comes up. -/
theorem count_reads {digits : List Char}
    (taken : digits <:+: text ∧ ∀ c ∈ digits, c.isDigit = true) : Stays text (count digits) := by
  unfold count
  split
  · next long => exact fun s _ => .inr ⟨.inr rfl, digits, taken.1, taken.2, .inl long⟩
  · dsimp only
    split
    · exact .pure trivial
    · next large => exact fun s _ => .inr ⟨.inl rfl, digits, taken.1, taken.2, .inr (not_lt.1 large)⟩

theorem braces_reads : Stays text braces := by
  unfold braces
  refine .bind .get fun s inside => ?_
  dsimp only
  -- what follows the bounds is the same with one number and with two
  have closing {low high : List Char} (lowTaken : low <:+: text ∧ ∀ c ∈ low, c.isDigit = true)
      (highTaken : high <:+: text ∧ ∀ c ∈ high, c.isDigit = true) :
      Stays text (do
        if ← takeIf '}' then
          let least ← count low
          if high.isEmpty then return some (least, none)
          else
            let most ← count high
            if most < least then refuse else return some (least, some most)
        else
          goTo s.rest
          return none) := by
    refine .bind (takeIf_reads '}') fun _ _ => ?_
    split
    · refine .bind (count_reads lowTaken) fun _ _ => ?_
      split
      · exact .pure trivial
      · refine .bind (count_reads highTaken) fun _ _ => ?_
        split
        · exact .refuse
        · exact .pure trivial
    · exact .bind (goTo_reads inside) fun _ _ => .pure trivial
  split
  · exact .pure trivial
  · refine .bind takeDigits_reads fun low taken => ?_
    refine .bind (takeIf_reads ',') fun _ _ => ?_
    split
    · exact .bind takeDigits_reads fun high taken' => closing taken taken'
    · exact closing taken taken

theorem bounds_reads (sign : Char) : Stays text (bounds sign) := by
  unfold bounds
  split
  · exact .pure trivial
  split
  · exact .pure trivial
  split
  · exact .pure trivial
  · exact braces_reads

theorem repeated_reads (least : Nat) (most : Option Nat) (item : Item) :
    Stays text (repeated least most item) := by
  unfold repeated
  split
  · exact .refuse
  · refine .bind (takeIf_reads '?') fun _ _ => ?_
    split
    · exact .pure trivial
    · refine .bind (takeIf_reads '+') fun _ _ => ?_
      split
      · exact .pure trivial
      · exact .pure trivial

end Repeats

/-! ## §4 Groups -/

section Groups

variable {text : List Char}

theorem groupName_reads (stop : Char) : Stays text (groupName stop) := by
  unfold groupName
  refine .bind .get fun s _ => ?_
  dsimp only
  split
  · exact .bind (advance_reads _) fun _ _ => .pure trivial
  · exact .refuse

theorem afterComment_suffix {cs rest : List Char} (h : afterComment cs = some rest) :
    rest <:+ cs := by
  fun_induction afterComment cs with
  | case1 => cases h
  | case2 rest' =>
    cases h
    exact List.suffix_cons _ _
  | case3 c rest' ih => exact (ih h).trans ((List.suffix_cons _ _).trans (List.suffix_cons _ _))
  | case4 c rest' _ _ ih => exact (ih h).trans (List.suffix_cons _ _)

theorem setOptions_reads : Stays text setOptions := by
  unfold setOptions
  refine .bind .get fun s _ => ?_
  dsimp only
  split
  · exact .refuse
  · exact .bind (advance_reads _) fun _ _ => .modify fun _ => rfl

theorem openGroup_reads (name : Option String) : Stays text (openGroup name) := by
  unfold openGroup
  refine .bind .get fun s inside => ?_
  dsimp only
  split
  · exact .bind (.set inside) fun _ _ => .pure trivial
  · split
    · have refused : Stays text (refuse : Reader Unit) := .refuse
      exact .bind refused fun _ _ => .pure trivial
    · exact .bind (.set inside) fun _ _ => .pure trivial

theorem closeGroup_reads (index : Nat) (body : Tree) : Stays text (closeGroup index body) :=
  .modify fun _ => rfl

theorem lookBehind_reads (wanted : Bool) (body : Tree) : Stays text (lookBehind wanted body) := by
  unfold lookBehind
  refine .bind .get fun s _ => ?_
  dsimp only
  split
  · exact .bind (.modify fun _ => rfl) fun _ _ => .pure trivial
  · exact .pure trivial

end Groups

/-! ## §5 Choices and Sequences -/

/-- The steps that call each other, with the same fuel. -/
structure Recursive (text : List Char) (fuel : Nat) : Prop where
  choice : ∀ leading, Stays text (choice fuel leading)
  items : ∀ leading done, Stays text (items fuel leading done)
  group : ∀ leading, Stays text (group fuel leading)
  behind : ∀ wanted, Stays text (behind fuel wanted)
  captured : ∀ name, Stays text (captured fuel name)
  enclosed : Stays text (enclosed fuel)

section Calls

variable {text : List Char} {fuel : Nat}

theorem Recursive.choice_succ (h : Recursive text fuel) (leading : Bool) :
    Stays text (Pattern.choice (fuel + 1) leading) := by
  unfold Pattern.choice
  refine .bind (h.items _ _) fun first _ => ?_
  refine .bind (takeIf_reads '|') fun _ _ => ?_
  split
  · exact .bind (h.choice false) fun _ _ => .pure trivial
  · exact .pure trivial

theorem Recursive.items_succ (h : Recursive text fuel) (leading : Bool) (done : List Item) :
    Stays text (Pattern.items (fuel + 1) leading done) := by
  unfold Pattern.items
  refine .bind .get fun s _ => ?_
  -- one case for each kind of item, in the order of the reader
  split
  · exact .pure trivial
  · exact .pure trivial
  · exact .pure trivial
  · refine .bind (advance_reads 2) fun _ _ => ?_
    exact .bind (escapedItem_reads _) fun _ _ => h.items _ _
  · refine .bind (advance_reads 1) fun _ _ => ?_
    split
    · exact .bind charSet_reads fun _ _ => h.items _ _
    split
    · exact h.items _ _
    split
    · exact h.items _ _
    split
    · exact h.items _ _
    split
    · refine .bind (h.group _) fun made _ => ?_
      split
      · exact h.items _ _
      · exact h.items _ _
    split
    · refine .bind (bounds_reads _) fun found _ => ?_
      split
      · exact .bind (repeated_reads _ _ _) fun _ _ => h.items _ _
      · exact .refuse
      · exact h.items _ _
    · exact h.items _ _

theorem Recursive.group_succ (h : Recursive text fuel) (leading : Bool) :
    Stays text (Pattern.group (fuel + 1) leading) := by
  unfold Pattern.group
  refine .bind (takeIf_reads '?') fun _ _ => ?_
  split
  · refine .bind .get fun s inside => ?_
    -- one case for each sign that may follow the question mark
    split
    · refine .bind (advance_reads 2) fun _ _ => ?_
      refine .bind (groupName_reads '>') fun name _ => ?_
      exact .bind (h.captured _) fun _ _ => .pure trivial
    · refine .bind (advance_reads 2) fun _ _ => ?_
      refine .bind (groupName_reads ')') fun name _ => ?_
      refine .bind .get fun s _ => ?_
      split
      · exact .bind (reference_reads _) fun _ _ => .pure trivial
      · exact .refuse
    · refine .bind (advance_reads 1) fun _ _ => ?_
      exact .bind h.enclosed fun _ _ => .pure trivial
    · refine .bind (advance_reads 1) fun _ _ => ?_
      exact .bind h.enclosed fun _ _ => .pure trivial
    · next comment opened =>
      split
      · next rest found =>
        rw [opened] at inside
        have left := (afterComment_suffix found).trans ((List.suffix_cons _ _).trans inside)
        exact .bind (goTo_reads left) fun _ _ => .pure trivial
      · exact .refuse
    · refine .bind (advance_reads 1) fun _ _ => ?_
      exact .bind h.enclosed fun _ _ => .pure trivial
    · refine .bind (advance_reads 1) fun _ _ => ?_
      exact .bind h.enclosed fun _ _ => .pure trivial
    · exact .bind (h.behind true) fun _ _ => .pure trivial
    · exact .bind (h.behind false) fun _ _ => .pure trivial
    · split
      · exact .bind setOptions_reads fun _ _ => .pure trivial
      · exact .refuse
  · exact .bind (h.captured none) fun _ _ => .pure trivial

theorem Recursive.behind_succ (h : Recursive text fuel) (wanted : Bool) :
    Stays text (Pattern.behind (fuel + 1) wanted) := by
  unfold Pattern.behind
  refine .bind (advance_reads 2) fun _ _ => ?_
  refine .bind .get fun s _ => ?_
  refine .bind (.modify fun _ => rfl) fun _ _ => ?_
  refine .bind (h.choice false) fun body _ => ?_
  refine .bind (.modify fun _ => rfl) fun _ _ => ?_
  refine .bind (takeIf_reads ')') fun _ _ => ?_
  split
  · exact lookBehind_reads _ _
  · exact .refuse

theorem Recursive.captured_succ (h : Recursive text fuel) (name : Option String) :
    Stays text (Pattern.captured (fuel + 1) name) := by
  unfold Pattern.captured
  refine .bind (openGroup_reads name) fun index _ => ?_
  refine .bind h.enclosed fun body _ => ?_
  exact .bind (closeGroup_reads index body) fun _ _ => .pure trivial

theorem Recursive.enclosed_succ (h : Recursive text fuel) :
    Stays text (Pattern.enclosed (fuel + 1)) := by
  unfold Pattern.enclosed
  refine .bind (h.choice false) fun body _ => ?_
  refine .bind (takeIf_reads ')') fun _ _ => ?_
  split
  · exact .pure trivial
  · exact .refuse

/-- With any fuel, the steps that call each other stay inside the text. -/
theorem recursive (text : List Char) (fuel : Nat) : Recursive text fuel := by
  induction fuel with
  | zero =>
    exact ⟨fun _ => .refuse, fun _ _ => .refuse, fun _ => .refuse, fun _ => .refuse,
      fun _ => .refuse, .refuse⟩
  | succ fuel ih =>
    exact ⟨ih.choice_succ, ih.items_succ, ih.group_succ, ih.behind_succ, ih.captured_succ,
      ih.enclosed_succ⟩

end Calls

/-! ## §6 Whole Patterns -/

theorem whole_reads (text : List Char) : Stays text whole := by
  unfold whole
  refine .bind .get fun s inside => ?_
  refine .bind (goTo_reads inside) fun _ _ => ?_
  refine .bind .get fun s _ => ?_
  refine .bind ((recursive text _).choice true) fun tree _ => ?_
  refine .bind .get fun s _ => ?_
  split
  · exact .pure trivial
  · exact .refuse

theorem ofChars_fault {text : List Char} {e : Fault} (h : ofChars text = .error e) :
    Expected text e := by
  have reads := whole_reads text { rest := text } List.suffix_rfl
  unfold ofChars at h
  cases read : whole.run { rest := text } with
  | error e' =>
    rw [read] at h reads
    cases h
    exact reads
  | ok r =>
    rw [read] at h
    cases h

section Rows

variable {digits text : List Char} {c : Char}

/-- A row of digits that does not start with a digit is behind its first character. -/
theorem infix_of_infix_cons (row : ∀ d ∈ digits, d.isDigit = true) (other : c.isDigit = false)
    (h : digits <:+: c :: text) : digits <:+: text := by
  rcases List.infix_cons_iff.1 h with front | behind
  · cases digits with
    | nil => exact List.nil_infix
    | cons d ds =>
      obtain ⟨rfl, -⟩ := List.cons_prefix_cons.1 front
      exact absurd (row d List.mem_cons_self) (by simp [other])
  · exact behind

theorem infix_of_infix_append {signs : List Char} (row : ∀ d ∈ digits, d.isDigit = true)
    (others : ∀ c ∈ signs, c.isDigit = false) (h : digits <:+: signs ++ text) :
    digits <:+: text := by
  induction signs with
  | nil => exact h
  | cons c signs ih =>
    obtain ⟨other, others⟩ := List.forall_mem_cons.1 others
    exact ih others (infix_of_infix_cons row other h)

/-- A row of digits at the front stays there when the names of groups are spelled out. -/
theorem prefix_of_spellNames (row : ∀ d ∈ digits, d.isDigit = true)
    (h : digits <+: spellNames text) : digits <+: text := by
  fun_induction spellNames text generalizing digits with
  | case1 rest opening =>
    -- a row of digits cannot start with the bracket of a group
    cases digits with
    | nil => exact List.nil_prefix
    | cons d ds =>
      obtain ⟨more, starts⟩ : ∃ more, opening = '(' :: more := by
        dsimp only [opening]
        split <;> exact ⟨_, rfl⟩
      rw [starts] at h
      have first : d = '(' := (List.cons_prefix_cons.1 h).1
      exact absurd (row d List.mem_cons_self) (by rw [first]; decide)
  | case2 c rest other ih =>
    cases digits with
    | nil => exact List.nil_prefix
    | cons d ds =>
      obtain ⟨same, behind⟩ := List.cons_prefix_cons.1 h
      obtain ⟨-, row⟩ := List.forall_mem_cons.1 row
      exact List.cons_prefix_cons.2 ⟨same, ih row behind⟩
  | case3 => exact h

/-- Spelling out the names of groups brings no digits into a text, and joins none. -/
theorem infix_of_spellNames (row : ∀ d ∈ digits, d.isDigit = true)
    (h : digits <:+: spellNames text) : digits <:+: text := by
  fun_induction spellNames text with
  | case1 rest opening ih =>
    have behind : digits <:+: spellNames rest := by
      have signs : ∀ c ∈ opening, c.isDigit = false := by
        dsimp only [opening]
        split <;> simp [Char.isDigit]
      exact infix_of_infix_append row signs h
    exact (ih behind).trans (List.suffix_append ['(', '?', '<'] rest).isInfix
  | case2 c rest other ih =>
    rcases List.infix_cons_iff.1 h with front | behind
    · cases digits with
      | nil => exact List.nil_infix
      | cons d ds =>
        obtain ⟨same, behind⟩ := List.cons_prefix_cons.1 front
        obtain ⟨-, row⟩ := List.forall_mem_cons.1 row
        exact (List.cons_prefix_cons.2 ⟨same, prefix_of_spellNames row behind⟩).isInfix
    · exact (ih behind).trans (List.suffix_cons c rest).isInfix
  | case3 => exact h

end Rows

/-- **Faults**: a text is refused as no pattern, unless it has a row of digits that is too large for a
repeat count. -/
theorem compile_fault {text : String} {e : Fault} (h : compile text = .error e) :
    Expected text.toList e := by
  obtain refused | ⟨cause, digits, inside, row, large⟩ := ofChars_fault h
  · exact .inl refused
  · exact .inr ⟨cause, digits, infix_of_spellNames row inside, row, large⟩

end TickCircuit.Pattern
