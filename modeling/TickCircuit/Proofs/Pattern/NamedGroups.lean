import TickCircuit.Pattern.Search
import TickCircuit.Proofs.Pattern.Lexemes

/-!
# Names of Groups in Either Form

`compile` reads a pattern with the names of groups spelled out. Every text that is a pattern as it stands is a
pattern in this spelling too, with the same groups; and if no sign of a name stands in it literally, it is the same
pattern (`compile_of_ofChars`).

Literal signs are spelled out as well, and there the patterns differ (`compile_differs`).
-/

namespace TickCircuit.Pattern

/-! ## §1 Items -/

section Items

variable {fuel : ℕ} {leading : Bool} {done : List Item} {s : Scan} {c : Char} {rest : List Char}

/-- What `items` does with a character that is no end and no escape sign. -/
def itemBehind (fuel : ℕ) (leading : Bool) (done : List Item) (c : Char) : Reader (List Item) := do
  if c == '[' then items fuel leading ((← charSet) :: done)
  else if c == '.' then items fuel leading (⟨.any, true⟩ :: done)
  else if c == '^' then items fuel leading (⟨.anchor .start, false⟩ :: done)
  else if c == '$' then items fuel leading (⟨.anchor .stop, false⟩ :: done)
  else if c == '(' then
    match ← group fuel (leading && done.isEmpty) with
    | some item => items fuel leading (item :: done)
    | none => items fuel leading done
  else if isRepeatSign c then
    match ← bounds c, done with
    | some (least, most), item :: before =>
      items fuel leading ((← repeated least most item) :: before)
    | some _, [] => refuse
    | none, _ => items fuel leading (single c.toNat :: done)
  else items fuel leading (single c.toNat :: done)

theorem items_nil (text : s.rest = []) : (items (fuel + 1) leading done).run s = (pure done : Reader _).run s := by
  conv_lhs => unfold items
  rw [run_get_bind, text]

theorem items_end (text : s.rest = c :: rest) (ends : c = '|' ∨ c = ')') :
    (items (fuel + 1) leading done).run s = (pure done : Reader _).run s := by
  conv_lhs => unfold items
  rw [run_get_bind, text]
  obtain rfl | rfl := ends <;> rfl

theorem items_escape (text : s.rest = '\\' :: c :: rest) :
    (items (fuel + 1) leading done).run s =
      (do advance 2; items fuel leading ((← escapedItem c) :: done) : Reader _).run s := by
  conv_lhs => unfold items
  rw [run_get_bind, text]
  rfl

theorem items_cons (text : s.rest = c :: rest) (noEnd : ¬(c = '|' ∨ c = ')')) (noEscape : c = '\\' → rest = []) :
    (items (fuel + 1) leading done).run s = (do advance 1; itemBehind fuel leading done c : Reader _).run s := by
  conv_lhs => unfold items
  rw [run_get_bind, text]
  split
  · next empty => cases empty
  · next first => exact absurd (.inl (List.cons_eq_cons.1 first).1) noEnd
  · next first => exact absurd (.inr (List.cons_eq_cons.1 first).1) noEnd
  · next escape =>
    obtain ⟨rfl, rfl⟩ := List.cons_eq_cons.1 escape
    cases noEscape rfl
  · next first =>
    obtain ⟨rfl, rfl⟩ := List.cons_eq_cons.1 first
    rfl

theorem items_letter (text : s.rest = 'P' :: c :: rest) (noEscape : c ≠ '\\') :
    (items (fuel + 1) leading done).run s =
      (items fuel leading (single 'P'.toNat :: done)).run { s with rest := c :: rest } := by
  rw [items_cons text (by simp) (by simp), run_bind_of_ok (advance_run text (by simp [noEscape]))]
  rfl

theorem items_question (text : s.rest = '?' :: c :: rest) (noEscape : c ≠ '\\') (noSign : c ≠ '?' ∧ c ≠ '+') :
    (items (fuel + 1) leading (single '('.toNat :: done)).run s =
      (items fuel leading (optionalParenthesis :: done)).run { s with rest := c :: rest } := by
  have once : (repeated 0 (some 1) (single '('.toNat)).run { s with rest := c :: rest } =
      .ok (optionalParenthesis, { s with rest := c :: rest }) := by
    unfold repeated
    refine (takeIf_differs ?_).trans (takeIf_differs ?_)
    · exact fun same => noSign.1 (Option.some.inj same)
    · exact fun same => noSign.2 (Option.some.inj same)
  have question : itemBehind fuel leading (single '('.toNat :: done) '?' =
      (do items fuel leading ((← repeated 0 (some 1) (single '('.toNat)) :: done)) := rfl
  rw [items_cons text (by simp) (by simp), run_bind_of_ok (advance_run text (by simp [noEscape])), question]
  exact run_bind_of_ok once

/-- The sign of a named group is no sign as it stands. -/
theorem group_refuses (text : s.rest = '?' :: '<' :: rest) (name : looksBehind rest = false) :
    ∀ i t, (group fuel leading).run s ≠ .ok (i, t) := by
  cases fuel with
  | zero => rintro _ _ ⟨⟩
  | succ fuel =>
    intro i t ran
    unfold group at ran
    rw [run_bind_of_ok (takeIf_run text (by simp)), if_pos rfl, run_get_bind] at ran
    dsimp only at ran
    split at ran
    case h_8 _ looks => 
      obtain ⟨-, rfl⟩ := List.cons_eq_cons.1 looks
      cases name
    case h_9 _ looks =>
      obtain ⟨-, rfl⟩ := List.cons_eq_cons.1 looks
      cases name
    case h_10 =>
      cases leading with
      | false => cases ran
      | true => cases ran
    all_goals next other => cases other

end Items

/-! ## §2 Choices and Sequences -/

/-- The steps that call each other, with fuel for both readings. -/
structure Paired (strict : Prop) (gap fuel fuel' : ℕ) : Prop where
  choice : ∀ {s s'} (leading : Bool), Along strict gap .outside s s' →
    Follows s s' (choice fuel leading) (choice fuel' leading) (Leaves strict gap (LikeTree strict))
  items : ∀ {s s' done done'} (leading : Bool), Along strict gap .outside s s' →
    LikeItems strict done done' →
    Follows s s' (Pattern.items fuel leading done) (Pattern.items fuel' leading done')
      (Leaves strict gap (LikeItems strict))
  /-- The parenthesis of a literal sign has been taken. -/
  sign : ∀ {s s' done done'} (leading : Bool), AtSign strict gap s s' → LikeItems strict done done' →
    Follows s s' (Pattern.items fuel leading (single '('.toNat :: done))
      (Pattern.items fuel' leading (single '('.toNat :: done')) (Leaves strict gap (LikeItems strict))
  group : ∀ {s s'} (leading : Bool), Along strict gap .parenthesis s s' →
    Follows s s' (group fuel leading) (group fuel' leading) (Leaves strict gap (Option.Rel (LikeItem strict)))
  behind : ∀ {s s' c rest} (wanted : Bool), Along strict gap .outside s s' →
    s.rest = '<' :: c :: rest → isSpecial c = false →
    Follows s s' (behind fuel wanted) (behind fuel' wanted) (Leaves strict gap (LikeItem strict))
  captured : ∀ {s s'} (name : Option String), Along strict gap .outside s s' →
    Follows s s' (captured fuel name) (captured fuel' name) (Leaves strict gap (LikeItem strict))
  enclosed : ∀ {s s'}, Along strict gap .outside s s' →
    Follows s s' (enclosed fuel) (enclosed fuel') (Leaves strict gap (LikeTree strict))

namespace Paired

variable {strict : Prop} {gap fuel fuel' : ℕ} {s s' : Scan} {done done' : List Item}

theorem choice_succ (h : Paired strict gap fuel fuel') (leading : Bool)
    (along : Along strict gap .outside s s') :
    Follows s s' (Pattern.choice (fuel + 1) leading) (Pattern.choice (fuel' + 1) leading)
      (Leaves strict gap (LikeTree strict)) := by
  unfold Pattern.choice
  refine .bind (h.items leading along .nil) ?_
  rintro is is' t t' ⟨like, along⟩
  refine along.takeIf (by simp) (fun _ => id) (fun t t' along => ?_) fun _ => ?_
  · refine .bind (h.choice false along) ?_
    rintro body body' t t' ⟨like', along⟩
    exact .pure ⟨like.sequence.choice like', along⟩
  · exact .pure ⟨like.sequence, along⟩

theorem enclosed_succ (h : Paired strict gap fuel fuel') (along : Along strict gap .outside s s') :
    Follows s s' (Pattern.enclosed (fuel + 1)) (Pattern.enclosed (fuel' + 1))
      (Leaves strict gap (LikeTree strict)) := by
  unfold Pattern.enclosed
  refine .bind (h.choice false along) ?_
  rintro body body' t t' ⟨like, along⟩
  refine along.takeIf (by simp) (fun _ => id) (fun t t' along => ?_) fun _ => ?_
  · exact .pure ⟨like, along⟩
  · exact .refuse

theorem captured_succ (h : Paired strict gap fuel fuel') (name : Option String)
    (along : Along strict gap .outside s s') :
    Follows s s' (Pattern.captured (fuel + 1) name) (Pattern.captured (fuel' + 1) name)
      (Leaves strict gap (LikeItem strict)) := by
  unfold Pattern.captured
  refine .bind (openGroup_steady name along) ?_
  rintro _ index t t' ⟨same, _, along⟩
  subst same
  refine .bind (h.enclosed along) ?_
  rintro body body' t t' ⟨like, along⟩
  refine .bind (closeGroup_follows along like index) fun _ _ t t' along => ?_
  exact .pure ⟨⟨like.group index, rfl⟩, along⟩

theorem behind_succ (h : Paired strict gap fuel fuel') {c : Char} {rest : List Char} (wanted : Bool)
    (along : Along strict gap .outside s s') (text : s.rest = '<' :: c :: rest)
    (plain : isSpecial c = false) :
    Follows s s' (Pattern.behind (fuel + 1) wanted) (Pattern.behind (fuel' + 1) wanted)
      (Leaves strict gap (LikeItem strict)) := by
  unfold Pattern.behind
  have passes : ∀ d ∈ ['<', c], Passes .outside d := by
    simpa using ⟨passes_outside rfl, passes_outside plain⟩
  refine .bind (along.advance_plain ['<', c] text passes) ?_
  rintro _ _ t t' ⟨_, along⟩
  refine .get ?_
  rw [along.kept.ceiling]
  dsimp only
  refine .bind (ceiling_follows along (by rw [along.kept.groups.length_eq])) fun _ _ t t' along => ?_
  refine .bind (h.choice false along) ?_
  rintro body body' t t' ⟨like, along⟩
  refine .bind (ceiling_follows along rfl) fun _ _ t t' along => ?_
  refine along.takeIf (by simp) (fun _ => id) (fun t t' along => ?_) fun _ => ?_
  · exact lookBehind_follows along like wanted
  · exact .refuse

theorem sign_succ (h : Paired strict gap fuel fuel') (leading : Bool)
    (place : AtSign strict (gap + 1) s s') (like : LikeItems strict done done') :
    Follows s s' (Pattern.items (fuel + 1) leading (single '('.toNat :: done))
      (Pattern.items (fuel' + 2) leading (single '('.toNat :: done')) (Leaves strict gap (LikeItems strict)) := by
  obtain ⟨behind, text, text', along⟩ := place.along .outside
  refine .of_run (items_question text (by simp) (by simp))
    ((items_question text' (by simp) (by simp)).trans (items_letter rfl (by simp))) ?_
  exact h.items leading along (.letter place.free like)

theorem itemBehind_succ (h : Paired strict gap fuel fuel') (leading : Bool) {c : Char}
    (along : Along strict gap (Region.behind .outside c) s s')
    (noEscape : c = '\\' → s.rest = []) (like : LikeItems strict done done') :
    Follows s s' (itemBehind fuel leading done c) (itemBehind fuel' leading done' c)
      (Leaves strict gap (LikeItems strict)) := by
  -- a character that opens nothing leaves the reader where it was, outside of sets and groups
  have plain (noSet : ¬(c == '[') = true) (noGroup : ¬(c == '(') = true) :
      Along strict gap .outside s s' := by
    refine along.reread ?_
    by_cases escape : c = '\\'
    · rw [noEscape escape]
      rfl
    · have next : Region.behind .outside c = .outside :=
        behindOutside_of_ne escape (by simpa using noSet) (by simpa using noGroup)
      rw [next]
  have letter {t t' : Scan} (along : Along strict gap .outside t t') :=
    h.items leading along (.cons (fair_single c.toNat) like)
  unfold itemBehind
  split
  · next opened =>
    rw [beq_iff_eq.1 opened] at along
    refine .bind (charSet_follows along) fun i i' t t' ⟨same, along⟩ => ?_
    exact h.items leading along (.cons same like)
  next noSet =>
  have plain := plain (by simpa using noSet)
  split
  · next dot => exact h.items leading (plain (by simp_all)) (.cons ⟨.any, rfl⟩ like)
  split
  · next caret => exact h.items leading (plain (by simp_all)) (.cons ⟨.anchor _, rfl⟩ like)
  split
  · next dollar => exact h.items leading (plain (by simp_all)) (.cons ⟨.anchor _, rfl⟩ like)
  split
  · next opened =>
    rw [beq_iff_eq.1 opened] at along
    rw [like.isEmpty_eq]
    refine .bind (h.group _ along) fun i i' t t' ⟨same, along⟩ => ?_
    cases same with
    | none => exact h.items leading along like
    | some same => exact h.items leading along (.cons same like)
  next noGroup =>
  have along := plain noGroup
  split
  · refine .bind (bounds_steady c along) fun _ found t t' ⟨same, ordered, along⟩ => ?_
    subst same
    match found with
    | none => exact letter along
    | some (least, most) =>
      cases like with
      | nil => exact .refuse
      | cons last like =>
        refine .bind (repeated_follows along last ordered) fun i i' t t' ⟨last, along⟩ => ?_
        exact h.items leading along (.cons last like)
      -- the first reading would repeat what is optional already, and refuses
      | letter => exact .bind .refuse fun _ _ _ _ => False.elim
  · exact letter along

theorem items_succ (h : Paired strict gap fuel fuel') (leading : Bool)
    (along : Along strict gap .outside s s') (like : LikeItems strict done done') :
    Follows s s' (Pattern.items (fuel + 1) leading done) (Pattern.items (fuel' + 1) leading done')
      (Leaves strict gap (LikeItems strict)) := by
  cases text : s.rest with
  | nil =>
    have text' : s'.rest = [] := by rw [along.rest, text, spellNames]
    exact .of_run (items_nil text) (items_nil text') (.pure ⟨like, along⟩)
  | cons c rest =>
    by_cases ends : c = '|' ∨ c = ')'
    · obtain ⟨more, text'⟩ := exists_spellNames_cons c rest
      rw [← text, ← along.rest] at text'
      exact .of_run (items_end text ends) (items_end text' ends) (.pure ⟨like, along⟩)
    obtain ⟨kept, spelled, room, clear⟩ := along
    rw [text] at spelled clear
    by_cases escaped : c = '\\' ∧ rest ≠ []
    · obtain ⟨rfl, more⟩ := escaped
      obtain ⟨d, rest, rfl⟩ := List.exists_cons_of_ne_nil more
      rw [spellNames_cons rfl] at spelled
      rw [hasLiteral_outside_escape] at clear
      obtain ⟨more, same⟩ := exists_spellNames_cons d rest
      refine .of_run (items_escape text) (items_escape (spelled.trans (congrArg _ same))) ?_
      refine .bind (advance_over ['\\'] kept text spelled room clear) fun _ _ t t' place => ?_
      rcases place with along | ⟨rfl, place⟩
      · have escaped := escapedItem_steady (fun _ => passes_outside) d along
        refine .bind escaped ?_
        rintro _ i t t' ⟨same, fair, along⟩
        subst same
        exact h.items leading along (.cons fair like)
      · exact h.sign leading place like
    · have noEscape : c = '\\' → rest = [] := by
        intro escape
        by_contra more
        exact escaped ⟨escape, more⟩
      by_cases sign : opensName (c :: rest)
      · obtain ⟨rfl, behind, rfl, name⟩ := exists_of_opensName sign
        -- the text as it stands is refused
        intro is t ran
        rw [items_cons text ends noEscape, run_bind_of_ok (advance_run text (by simp))] at ran
        obtain ⟨⟨i, u⟩, made, -⟩ := Outcome.bind_eq_ok.1 ran
        exact absurd made (group_refuses rfl name i u)
      · rw [spellNames_cons (Bool.of_not_eq_true sign)] at spelled
        have noEscape' (escape : c = '\\') : spellNames rest = [] := by
          rw [noEscape escape]
          rfl
        refine .of_run (items_cons text ends noEscape) (items_cons spelled ends noEscape') ?_
        have moved : Follows s s' (advance 1) (advance 1) fun _ _ t t' =>
            t.rest = rest ∧ Along strict gap (Region.behind .outside c) t t' :=
          advance_follows [c] kept text spelled room clear
        refine .bind moved ?_
        rintro _ _ t t' ⟨left, along⟩
        exact h.itemBehind_succ leading along (fun escape => left.trans (noEscape escape)) like

theorem some_of_leaves {i i' : Item} (left : Leaves strict gap (LikeItem strict) i i' s s') :
    Leaves strict gap (Option.Rel (LikeItem strict)) (some i) (some i') s s' := ⟨.some left.1, left.2⟩

/-! ### Groups by their signs, the question mark taken -/

section Signs

variable {c : Char} {rest : List Char}

/-- Most groups are some tree around what they enclose. -/
theorem around_follows (h : Paired strict gap fuel fuel') (along : Along strict gap .outside s s')
    (sign : s.rest = c :: rest) (plain : isSpecial c = false) {wrap : Tree → Tree}
    (wraps : ∀ {body body'}, LikeTree strict body body' → LikeTree strict (wrap body) (wrap body')) :
    Follows s s' (do advance 1; return some ⟨wrap (← Pattern.enclosed fuel), true⟩)
      (do advance 1; return some ⟨wrap (← Pattern.enclosed fuel'), true⟩)
      (Leaves strict gap (Option.Rel (LikeItem strict))) := by
  refine .bind (along.advance_plain [c] sign (by simpa using passes_outside plain)) ?_
  rintro _ _ t t' ⟨_, along⟩
  refine .bind (h.enclosed along) fun _ _ _ _ ⟨like, along⟩ => ?_
  exact .pure (some_of_leaves ⟨⟨wraps like, rfl⟩, along⟩)

theorem named_follows (h : Paired strict gap fuel fuel') (along : Along strict gap .outside s s')
    (sign : s.rest = 'P' :: '<' :: rest) :
    Follows s s' (do advance 2; return some (← Pattern.captured fuel (some (← groupName '>'))))
      (do advance 2; return some (← Pattern.captured fuel' (some (← groupName '>'))))
      (Leaves strict gap (Option.Rel (LikeItem strict))) := by
  have passes : ∀ c ∈ ['P', '<'], Passes .outside c := by
    simpa using ⟨passes_outside rfl, passes_outside rfl⟩
  refine .bind (along.advance_plain ['P', '<'] sign passes) ?_
  rintro _ _ t t' ⟨_, along⟩
  refine .bind (groupName_steady rfl along) ?_
  rintro _ name t t' ⟨same, _, along⟩
  subst same
  exact .bind (h.captured _ along) fun _ _ _ _ left => .pure (some_of_leaves left)

/-- What `group` does with a reference to a name. -/
def referenceByName : Reader (Option Item) := do
  advance 2
  let name ← groupName ')'
  match (← get).names.find? (·.1 == name) with
  | some (_, index) => return some (← reference index)
  | none => refuse

theorem referenceByName_follows (along : Along strict gap .outside s s') (sign : s.rest = 'P' :: '=' :: rest) :
    Follows s s' referenceByName referenceByName (Leaves strict gap (Option.Rel (LikeItem strict))) := by
  have passes : ∀ c ∈ ['P', '='], Passes .outside c := by
    simpa using ⟨passes_outside rfl, passes_outside rfl⟩
  unfold referenceByName
  refine .bind (along.advance_plain ['P', '='] sign passes) ?_
  rintro _ _ t t' ⟨_, along⟩
  refine .bind (groupName_steady rfl along) ?_
  rintro _ name t t' ⟨same, _, along⟩
  subst same
  refine .get ?_
  rw [along.kept.names]
  split
  · refine .bind (reference_steady _ along) ?_
    rintro _ i t t' ⟨same, fair, along⟩
    subst same
    exact .pure (some_of_leaves ⟨fair, along⟩)
  · exact .refuse

theorem comment_follows (along : Along strict gap .question s s') {comment : List Char}
    (sign : s.rest = '#' :: comment) (ends : afterComment comment = some rest) :
    Follows s s' (do goTo rest; return none) (do goTo (spellNames rest); return none)
      (Leaves strict gap (Option.Rel (LikeItem strict))) := by
  have room : (spellNames rest).length ≤ rest.length + gap := by
    have longer := length_afterComment ends
    have room := along.room
    rw [along.rest, sign, spellNames_cons rfl, List.length_cons, List.length_cons] at room
    omega
  have clear (sharp : strict) : hasLiteral .outside rest = false := by
    have clear : hasLiteral .question ('#' :: comment) = false := sign ▸ along.clear sharp
    rw [← hasLiteral_comment ends]
    exact clear
  exact .bind (goTo_follows along.kept room clear) fun _ _ _ _ left => .pure ⟨.none, left.2⟩

theorem options_follow (along : Along strict gap .outside s s') :
    Follows s s' (do setOptions; return none) (do setOptions; return none)
      (Leaves strict gap (Option.Rel (LikeItem strict))) :=
  .bind (setOptions_steady along) fun _ _ _ _ left => .pure ⟨.none, left.2.2⟩

end Signs

theorem group_succ (h : Paired strict gap fuel fuel') (leading : Bool)
    (along : Along strict gap .parenthesis s s') :
    Follows s s' (Pattern.group (fuel + 1) leading) (Pattern.group (fuel' + 1) leading)
      (Leaves strict gap (Option.Rel (LikeItem strict))) := by
  unfold Pattern.group
  refine along.takeIf (by simp) (fun _ => id) (fun t t' along => ?_) fun plain => ?_
  · -- only a comment is no text like any other
    have outside (noComment : t.rest.head? ≠ some '#') : Along strict gap .outside t t' :=
      along.reread (hasLiteral_question noComment)
    refine .get ?_
    rw [along.rest]
    split
    · next sign =>
      rw [sign, spellNames_cons rfl, spellNames_cons rfl]
      exact h.named_follows (outside (by simp [sign])) sign
    · next sign =>
      rw [sign, spellNames_cons rfl, spellNames_cons rfl]
      exact referenceByName_follows (outside (by simp [sign])) sign
    · next sign =>
      rw [sign, spellNames_cons rfl]
      exact h.around_follows (outside (by simp [sign])) sign rfl id
    · next sign =>
      rw [sign, spellNames_cons rfl]
      exact h.around_follows (outside (by simp [sign])) sign rfl LikeTree.atomic
    · next comment sign =>
      rw [sign, spellNames_cons rfl]
      cases ends : afterComment comment with
      | none => exact .refuse
      | some rest =>
        simp only [afterComment_spellNames ends]
        exact comment_follows along sign ends
    · next sign =>
      rw [sign, spellNames_cons rfl]
      exact h.around_follows (outside (by simp [sign])) sign rfl fun like => like.look _ _
    · next sign =>
      rw [sign, spellNames_cons rfl]
      exact h.around_follows (outside (by simp [sign])) sign rfl fun like => like.look _ _
    · next sign =>
      rw [sign, spellNames_cons rfl, spellNames_cons rfl]
      refine .bind (h.behind true (outside (by simp [sign])) sign rfl) ?_
      exact fun _ _ _ _ left => .pure (some_of_leaves left)
    · next sign =>
      rw [sign, spellNames_cons rfl, spellNames_cons rfl]
      refine .bind (h.behind false (outside (by simp [sign])) sign rfl) ?_
      exact fun _ _ _ _ left => .pure (some_of_leaves left)
    -- anything else sets options; where that is not allowed, the first reading refuses it
    · cases leading with
      | false => exact .refuse
      | true =>
        by_cases letter : ∃ c rest, t.rest = c :: rest ∧ isOption c = true
        · obtain ⟨c, rest, sign, letter⟩ := letter
          simp only [isOption, Bool.or_eq_true, beq_iff_eq] at letter
          have options (noComment : c ≠ '#') := options_follow (outside (by simpa [sign] using noComment))
          rw [sign]
          obtain ((rfl | rfl) | rfl) | rfl := letter <;> rw [spellNames_cons rfl] <;> exact options (by decide)
        · have refused : setOptions.run t = .error .badPattern := setOptions_refuses fun c rest sign =>
            Bool.of_not_eq_true fun isLetter => letter ⟨c, rest, sign, isLetter⟩
          intro i u ran
          rw [if_pos rfl, StateT.run_bind, refused] at ran
          cases ran
  · have along : Along strict gap .outside s s' := along.reread (hasLiteral_parenthesis plain)
    exact .bind (h.captured none along) fun _ _ _ _ left => .pure (some_of_leaves left)

end Paired

/-- The second reading needs more fuel, but no more than the letters that its text has more. -/
theorem paired (strict : Prop) {gap fuel fuel' : ℕ} (enough : fuel + gap ≤ fuel') :
    Paired strict gap fuel fuel' := by
  induction fuel generalizing gap fuel' with
  | zero =>
    exact ⟨fun _ _ => .refuse, fun _ _ _ => .refuse, fun _ _ _ => .refuse, fun _ _ => .refuse,
      fun _ _ _ _ => .refuse, fun _ _ => .refuse, fun _ => .refuse⟩
  | succ fuel ih =>
    obtain ⟨fuel', rfl⟩ : ∃ fewer, fuel' = fewer + 1 := ⟨fuel' - 1, by omega⟩
    have h : Paired strict gap fuel fuel' := ih (by omega)
    refine ⟨h.choice_succ, h.items_succ, ?_, h.group_succ, fun wanted => h.behind_succ wanted, h.captured_succ,
      h.enclosed_succ⟩
    -- of the room, the letter of the sign takes one
    intro s s' done done' leading place like
    obtain ⟨gap, rfl⟩ : ∃ less, gap = less + 1 := ⟨gap - 1, by have := place.gap_pos; omega⟩
    obtain ⟨fuel', rfl⟩ : ∃ fewer, fuel' = fewer + 1 := ⟨fuel' - 1, by omega⟩
    have h : Paired strict gap fuel fuel' := ih (by omega)
    refine (h.sign_succ leading place like).imp fun _ _ _ _ ⟨like, along⟩ => ?_
    exact ⟨like, along.mono (Nat.le_succ gap)⟩

/-! ## §3 Whole Patterns -/

theorem whole_follows {strict : Prop} {gap : ℕ} {s s' : Scan}
    (along : Along strict gap .outside s s') :
    Follows s s' whole whole fun tree tree' t t' => (strict → tree' = tree) ∧ Kept strict t t' := by
  unfold whole
  refine .get ?_
  rw [along.rest]
  refine .bind (goTo_follows along.kept (along.rest ▸ along.room) along.clear) fun _ _ t t' ⟨_, along⟩ => ?_
  refine .get ?_
  have longer : t.rest.length ≤ t'.rest.length := along.rest ▸ length_le_spellNames _
  -- the second reading has fuel for the letters that its text has more
  have pair : Paired strict (t'.rest.length - t.rest.length) (5 * t.rest.length + 5) (5 * t'.rest.length + 5) :=
    paired strict (by omega)
  refine .bind (pair.choice true along.tight) fun tree tree' u u' ⟨like, along⟩ => ?_
  refine .get ?_
  rw [along.kept.fixedLooks]
  split
  · next ended =>
    obtain ⟨ended, fixed⟩ := Bool.and_eq_true_iff.1 ended
    have ended' : u'.rest.isEmpty = true := by
      rw [along.rest, List.isEmpty_iff.1 ended]
      rfl
    rw [if_pos (by simp [ended', fixed])]
    exact .pure ⟨like.eq, along.kept⟩
  · exact .refuse

/-- **Names of groups in either form**: what is a pattern as it stands is a pattern with the names of groups spelled
out, and has the same groups, names and options. It is the same pattern if no sign of a name stands behind an escape
sign or in a set. -/
theorem compile_of_ofChars {text : String} {p : Pattern} (accepted : ofChars text.toList = .ok p) :
    ∃ p', compile text = .ok p' ∧ p'.groupCount = p.groupCount ∧ p'.names = p.names ∧ p'.options = p.options ∧
      (hasLiteral .outside text.toList = false → p' = p) := by
  have start : Along (hasLiteral .outside text.toList = false) ((spellNames text.toList).length - text.toList.length)
      .outside { rest := text.toList } { rest := spellNames text.toList } :=
    ⟨⟨.cons .none .nil, rfl, rfl, rfl, rfl⟩, rfl, by dsimp only; omega, id⟩
  unfold ofChars at accepted
  obtain ⟨⟨tree, t⟩, ran, made⟩ := Outcome.bind_eq_ok.1 accepted
  obtain ⟨tree', t', ran', same, kept⟩ := whole_follows start tree t ran
  cases made
  refine ⟨⟨tree', t'.groups.length - 1, t'.names, t'.options⟩, ?_, ?_, kept.names, kept.options, fun clear => ?_⟩
  · unfold compile ofChars
    rw [ran']
    rfl
  · dsimp only
    rw [kept.groups.length_eq]
  · rw [same clear, kept.groups.length_eq, kept.names, kept.options]

/-- A sign in a comment is of no importance. -/
theorem compile_sign_in_comment :
    ∃ p p', ofChars "(?<!a)b(?#(?<c)".toList = .ok p ∧ compile "(?<!a)b(?#(?<c)" = .ok p' ∧ p' = p := by
  have accepted : ofChars "(?<!a)b(?#(?<c)".toList =
      .ok ⟨.seq (.look (some 1) false (single 'a'.toNat).tree) (single 'b'.toNat).tree, 0, [], {}⟩ := by cbv
  obtain ⟨p', compiled, -, -, -, same⟩ := compile_of_ofChars accepted
  exact ⟨_, p', accepted, compiled, same (by decide)⟩

/-- In a set the letter is a further member, and behind an escape sign a character that has to be matched. -/
theorem compile_differs :
    (∃ p p', ofChars "[(?<]".toList = .ok p ∧ compile "[(?<]" = .ok p' ∧
      (search p "P").isNone ∧ (search p' "P").isSome) ∧
    ∃ p p', ofChars "\\(?<".toList = .ok p ∧ compile "\\(?<" = .ok p' ∧
      (search p "<").isSome ∧ (search p' "<").isNone := by
  have member : ofChars "[(?<]".toList = .ok ⟨.set ⟨false, [.one 40, .one 63, .one 60]⟩, 0, [], {}⟩ := by cbv
  have member' : compile "[(?<]" = .ok ⟨.set ⟨false, [.one 40, .one 63, .one 80, .one 60]⟩, 0, [], {}⟩ := by cbv
  have escaped : ofChars "\\(?<".toList =
      .ok ⟨.seq optionalParenthesis.tree (single '<'.toNat).tree, 0, [], {}⟩ := by cbv
  have escaped' : compile "\\(?<" =
      .ok ⟨.seq optionalParenthesis.tree (.seq (single 'P'.toNat).tree (single '<'.toNat).tree), 0, [], {}⟩ := by cbv
  refine ⟨⟨_, _, member, member', ?_, ?_⟩, _, _, escaped, escaped', ?_, ?_⟩
  all_goals decide +kernel

end TickCircuit.Pattern
