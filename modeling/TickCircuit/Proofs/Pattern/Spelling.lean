import Mathlib
import TickCircuit.Proofs.Pattern.Faults

/-!
# Signs of Named Groups

`spellNames` writes `(?P<` for the sign `(?<` of a named group. It does so wherever the three characters stand,
and pays no attention to what they mean there: behind an escape sign, or as members of a set, they are
characters like others.

`hasLiteral` finds such signs, and for this it goes over a text as the reader does. Signs inside comments are of
no importance.
-/

namespace TickCircuit.Pattern

/-! ## §1 Spelling -/

/-- The text behind `(?<` makes this the sign of a look behind. -/
def looksBehind : List Char → Bool
  | '=' :: _ => true
  | '!' :: _ => true
  | _ => false

/-- The text starts with the sign `(?<` of a named group. -/
def opensName : List Char → Bool
  | '(' :: '?' :: '<' :: rest => !looksBehind rest
  | _ => false

section Spelling

variable {c : Char} {cs rest : List Char}

theorem exists_of_opensName (sign : opensName (c :: rest) = true) :
    c = '(' ∧ ∃ name, rest = '?' :: '<' :: name ∧ looksBehind name = false := by
  unfold opensName at sign
  split at sign
  · next name text =>
    obtain ⟨rfl, rfl⟩ := List.cons_eq_cons.1 text
    exact ⟨rfl, name, rfl, by simpa using sign⟩
  · cases sign

theorem opensName_cons (other : c ≠ '(') : opensName (c :: rest) = false := by
  by_contra sign
  exact other (exists_of_opensName (Bool.of_not_eq_false sign)).1

theorem spellNames_sign (name : looksBehind rest = false) :
    spellNames ('(' :: '?' :: '<' :: rest) = '(' :: '?' :: 'P' :: '<' :: spellNames rest := by
  rw [spellNames]
  · rfl
  · rintro tail rfl
    cases name
  · rintro tail rfl
    cases name

/-- Everywhere else a text is left as it is. -/
theorem spellNames_cons (plain : opensName (c :: rest) = false) :
    spellNames (c :: rest) = c :: spellNames rest := by
  conv_lhs => unfold spellNames
  split
  · next behind text =>
    obtain ⟨rfl, rfl⟩ := List.cons_eq_cons.1 text
    -- only the sign of a look behind is left
    have looks : looksBehind behind = true := by simpa [opensName] using plain
    unfold looksBehind at looks
    split at looks
    · simp [spellNames]
    · simp [spellNames]
    · cases looks
  · next text =>
    obtain ⟨rfl, rfl⟩ := List.cons_eq_cons.1 text
    rfl
  · next text => cases text

theorem spellNames_append {front : List Char} (plain : ∀ c ∈ front, c ≠ '(') :
    spellNames (front ++ rest) = front ++ spellNames rest := by
  induction front with
  | nil => rfl
  | cons c front ih =>
    obtain ⟨other, plain⟩ := List.forall_mem_cons.1 plain
    rw [List.cons_append, spellNames_cons (opensName_cons other), ih plain, List.cons_append]

theorem head?_spellNames (cs : List Char) : (spellNames cs).head? = cs.head? := by
  cases cs with
  | nil => rfl
  | cons c rest =>
    by_cases sign : opensName (c :: rest)
    · obtain ⟨rfl, name, rfl, starts⟩ := exists_of_opensName sign
      rw [spellNames_sign starts]
      rfl
    · rw [spellNames_cons (Bool.of_not_eq_true sign)]
      rfl

/-- No text becomes shorter. -/
theorem length_spellNames_cons (c : Char) (rest : List Char) :
    (spellNames rest).length + 1 ≤ (spellNames (c :: rest)).length := by
  by_cases sign : opensName (c :: rest)
  · obtain ⟨rfl, name, rfl, starts⟩ := exists_of_opensName sign
    rw [spellNames_sign starts, spellNames_cons rfl, spellNames_cons rfl]
    simp
  · rw [spellNames_cons (Bool.of_not_eq_true sign), List.length_cons]

theorem length_le_spellNames (cs : List Char) : cs.length ≤ (spellNames cs).length := by
  induction cs with
  | nil => exact le_rfl
  | cons c rest ih => exact (Nat.succ_le_succ ih).trans (length_spellNames_cons c rest)

/-- An escape sign stands last in both texts or in none. -/
theorem eq_escape_of_spellNames (last : spellNames cs = ['\\']) : cs = ['\\'] := by
  have short := length_le_spellNames cs
  have first := head?_spellNames cs
  rw [last] at short first
  match cs with
  | [] => cases first
  | [c] =>
    cases first
    rfl
  | _ :: _ :: _ => simp at short

theorem exists_spellNames_cons (c : Char) (rest : List Char) : ∃ more, spellNames (c :: rest) = c :: more :=
  List.head?_eq_some_iff.1 (head?_spellNames (c :: rest))

theorem takeWhile_spellNames {p : Char → Bool} (other : p '(' = false) (cs : List Char) :
    (spellNames cs).takeWhile p = cs.takeWhile p := by
  induction cs with
  | nil => rfl
  | cons c rest ih =>
    by_cases sign : opensName (c :: rest)
    · -- nothing is taken from either text
      obtain ⟨rfl, name, rfl, starts⟩ := exists_of_opensName sign
      rw [spellNames_sign starts, List.takeWhile_cons_of_neg (by simp [other]),
        List.takeWhile_cons_of_neg (by simp [other])]
    · rw [spellNames_cons (Bool.of_not_eq_true sign), List.takeWhile_cons, List.takeWhile_cons, ih]

end Spelling

/-! ## §2 Comments -/

/-- A comment ends at the same place in both texts. -/
theorem afterComment_spellNames {cs rest : List Char} (ends : afterComment cs = some rest) :
    afterComment (spellNames cs) = some (spellNames rest) := by
  fun_induction afterComment cs with
  | case1 => cases ends
  | case2 rest' =>
    cases ends
    rw [spellNames_cons (opensName_cons (by simp)), afterComment]
  | case3 c rest' ih =>
    rw [spellNames_cons (opensName_cons (by simp))]
    have behind := ih ends
    by_cases sign : opensName (c :: rest')
    -- a sign inside a comment gets its letter, and both texts are passed over
    · obtain ⟨rfl, name, rfl, starts⟩ := exists_of_opensName sign
      rw [spellNames_cons rfl, spellNames_cons rfl] at behind
      rw [spellNames_sign starts]
      simpa [afterComment] using behind
    · rw [spellNames_cons (Bool.of_not_eq_true sign), afterComment]
      exact behind
  | case4 c rest' notEnd notEscape ih =>
    have behind := ih ends
    by_cases sign : opensName (c :: rest')
    · obtain ⟨rfl, name, rfl, starts⟩ := exists_of_opensName sign
      rw [spellNames_cons rfl, spellNames_cons rfl] at behind
      rw [spellNames_sign starts]
      simpa [afterComment] using behind
    · rw [spellNames_cons (Bool.of_not_eq_true sign)]
      rw [afterComment]
      · exact behind
      · exact notEnd
      · rintro d more rfl text
        cases rest' with
        | nil => cases text
        | cons e rest' => exact notEscape e rest' rfl rfl

/-- What a text has more than the other is not more behind a comment. -/
theorem length_afterComment {cs rest : List Char} (ends : afterComment cs = some rest) :
    (spellNames rest).length + cs.length ≤ (spellNames cs).length + rest.length := by
  fun_induction afterComment cs with
  | case1 => cases ends
  | case2 rest' =>
    cases ends
    have := length_spellNames_cons ')' rest
    simp only [List.length_cons]
    omega
  | case3 c rest' ih =>
    have := ih ends
    have := length_spellNames_cons c rest'
    have := length_spellNames_cons '\\' (c :: rest')
    simp only [List.length_cons]
    omega
  | case4 c rest' _ _ ih =>
    have := ih ends
    have := length_spellNames_cons c rest'
    simp only [List.length_cons]
    omega

/-! ## §3 Literal Signs -/

/-- The parts of a text in which a character means different things. -/
inductive Region where
  | outside
  /-- Behind an escape sign. -/
  | escaped
  /-- Behind the opening bracket of a set. -/
  | opened
  /-- Inside a set. A closing bracket at its start is a member. -/
  | set (start : Bool)
  | escapedMember
  /-- Behind an opening parenthesis. -/
  | parenthesis
  /-- Behind an opening parenthesis and a question mark. -/
  | question
  | comment
  | escapedComment

namespace Region

def behindOutside (c : Char) : Region :=
  if c = '\\' then escaped else if c = '[' then opened else if c = '(' then parenthesis else outside

def behindMember (c : Char) : Region := if c = '\\' then escapedMember else set false

/-- The region behind the character `c`. -/
def behind : Region → Char → Region
  | outside, c => behindOutside c
  | escaped, _ => outside
  | opened, c => if c = '^' then set true else behindMember c
  | set true, c => behindMember c
  | set false, c => if c = ']' then outside else behindMember c
  | escapedMember, _ => set false
  | parenthesis, c => if c = '?' then question else behindOutside c
  | question, c => if c = '#' then comment else behindOutside c
  | comment, c => if c = ')' then outside else if c = '\\' then escapedComment else comment
  | escapedComment, _ => comment

/-- The sign of a group would not be one here. Comments, where nothing has a meaning, are left out. -/
def isLiteral : Region → Bool
  | escaped => true
  | opened => true
  | set _ => true
  | escapedMember => true
  | _ => false

end Region

/-- A sign `(?<` of a named group stands behind an escape sign or inside a set. -/
def hasLiteral : Region → List Char → Bool
  | _, [] => false
  | region, c :: rest => region.isLiteral && opensName (c :: rest) || hasLiteral (region.behind c) rest

section Regions

variable {c : Char} {rest : List Char} {start : Bool}

theorem behindOutside_of_ne (noEscape : c ≠ '\\') (noSet : c ≠ '[') (noGroup : c ≠ '(') :
    Region.behindOutside c = .outside := by
  rw [Region.behindOutside, if_neg noEscape, if_neg noSet, if_neg noGroup]

/-- The region counts only by whether signs are literal in it and by what it is behind the first character. -/
theorem hasLiteral_congr {region region' : Region} (same : region.isLiteral = region'.isLiteral)
    (behind : ∀ c ∈ rest.head?, region.behind c = region'.behind c) :
    hasLiteral region rest = hasLiteral region' rest := by
  cases rest with
  | nil => rfl
  | cons c rest => rw [hasLiteral, hasLiteral, same, behind c rfl]

theorem hasLiteral_opened (plain : rest.head? ≠ some '^') :
    hasLiteral .opened rest = hasLiteral (.set true) rest :=
  hasLiteral_congr rfl fun _ first => if_neg fun caret => plain (Eq.trans first (congrArg some caret))

theorem hasLiteral_parenthesis (plain : rest.head? ≠ some '?') :
    hasLiteral .parenthesis rest = hasLiteral .outside rest :=
  hasLiteral_congr rfl fun _ first => if_neg fun question => plain (Eq.trans first (congrArg some question))

theorem hasLiteral_question (noComment : rest.head? ≠ some '#') :
    hasLiteral .question rest = hasLiteral .outside rest :=
  hasLiteral_congr rfl fun _ first => if_neg fun comment => noComment (Eq.trans first (congrArg some comment))

theorem hasLiteral_outside_escape :
    hasLiteral .outside ('\\' :: c :: rest) = (opensName (c :: rest) || hasLiteral .outside rest) := rfl

theorem hasLiteral_set_escape :
    hasLiteral (.set start) ('\\' :: c :: rest) = (opensName (c :: rest) || hasLiteral (.set false) rest) := by
  cases start <;> rfl

theorem hasLiteral_set_cons (noEscape : c = '\\' → rest = []) (noEnd : c = ']' → start = true) :
    hasLiteral (.set start) (c :: rest) = (opensName (c :: rest) || hasLiteral (.set false) rest) := by
  by_cases escape : c = '\\'
  · rw [noEscape escape]
    rfl
  · have next : Region.behind (.set start) c = .set false := by
      cases start with
      | true => exact if_neg escape
      | false => exact (if_neg fun ends => by cases noEnd ends).trans (if_neg escape)
    rw [hasLiteral, next]
    rfl

/-- Signs inside a comment do not count. -/
theorem hasLiteral_comment {cs : List Char} (ends : afterComment cs = some rest) :
    hasLiteral .comment cs = hasLiteral .outside rest := by
  fun_induction afterComment cs with
  | case1 => cases ends
  | case2 rest' =>
    cases ends
    rfl
  | case3 d rest' ih => exact ih ends
  | case4 d rest' notEnd notEscape ih =>
    rw [← ih ends, hasLiteral, Region.behind, if_neg notEnd]
    by_cases escape : d = '\\'
    · cases rest' with
      | nil => cases ends
      | cons e rest' => exact (notEscape e rest' escape rfl).elim
    · rw [if_neg escape]
      rfl

/-- The characters that may begin or end an escape, a set or a group. -/
def isSpecial (c : Char) : Bool := c == '(' || c == '[' || c == ']' || c == '\\'

/-- Characters of a kind to which none of these belongs. -/
theorem not_special_of (p : Char → Bool)
    (others : p '(' = false ∧ p '[' = false ∧ p ']' = false ∧ p '\\' = false)
    (member : p c = true) : isSpecial c = false := by
  obtain ⟨group, opened, closed, escape⟩ := others
  by_contra special
  simp only [isSpecial, Bool.not_eq_false, Bool.or_eq_true, beq_iff_eq] at special
  obtain ((rfl | rfl) | rfl) | rfl := special <;> simp_all

/-- The character `c` belongs to no sign of a group, and behind it the region is the same. -/
structure Passes (region : Region) (c : Char) : Prop where
  other : c ≠ '('
  clear : ∀ rest, hasLiteral region (c :: rest) = false → hasLiteral region rest = false

theorem passes_outside (plain : isSpecial c = false) : Passes .outside c := by
  simp only [isSpecial, Bool.or_eq_false_iff, beq_eq_false_iff_ne] at plain
  obtain ⟨⟨⟨noGroup, noSet⟩, -⟩, noEscape⟩ := plain
  refine ⟨noGroup, fun rest clear => ?_⟩
  rwa [hasLiteral, Region.behind, behindOutside_of_ne noEscape noSet noGroup] at clear

theorem passes_set (plain : isSpecial c = false) : Passes (.set false) c := by
  simp only [isSpecial, Bool.or_eq_false_iff, beq_eq_false_iff_ne] at plain
  obtain ⟨⟨⟨noGroup, -⟩, noEnd⟩, noEscape⟩ := plain
  refine ⟨noGroup, fun rest clear => ?_⟩
  rw [hasLiteral_set_cons (fun escape => absurd escape noEscape) fun ends => absurd ends noEnd] at clear
  exact (Bool.or_eq_false_iff.1 clear).2

end Regions

end TickCircuit.Pattern
