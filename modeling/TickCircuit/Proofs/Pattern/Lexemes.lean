import TickCircuit.Proofs.Pattern.Following

/-!
# Reading the Words of the Grammar in Both Spellings

Escapes, sets, repeat signs and the parts of groups, in the order of the grammar: each step follows itself.
-/

namespace TickCircuit.Pattern

/-! ## §1 Escapes -/

section Escapes

variable {strict : Prop} {gap : ℕ} {region : Region}
  (plain : ∀ c, isSpecial c = false → Passes region c)

include plain

theorem hexCode_steady (width : ℕ) : Steady strict gap region (fun _ => True) (hexCode width) := by
  unfold hexCode
  have digits := fun c digit => plain c (not_special_of HexDigit.isHexDigit ⟨rfl, rfl, rfl, rfl⟩ digit)
  refine .bind (takeWhile_steady _ digits) fun cs _ => ?_
  dsimp only
  split
  · exact .pure trivial
  · exact .refuse

theorem escapedCode_steady (c : Char) : Steady strict gap region (fun _ => True) (escapedCode c) := by
  unfold escapedCode
  split
  · exact hexCode_steady plain 2
  split
  · exact hexCode_steady plain 4
  split
  · exact hexCode_steady plain 8
  split
  · exact .refuse
  · exact .pure trivial

theorem octalDigits_steady (most : ℕ) : Steady strict gap region (fun _ => True) (takeWhile most isOctal) :=
  takeWhile_steady _ fun c digit => plain c (not_special_of _ ⟨rfl, rfl, rfl, rfl⟩ digit)

theorem escapedMember_steady (c : Char) : Steady strict gap region (fun _ => True) (escapedMember c) := by
  unfold escapedMember
  split
  · exact .pure trivial
  · exact .pure trivial
  · split
    · refine .bind (octalDigits_steady plain 2) fun _ _ => ?_
      dsimp only
      split
      · exact .pure trivial
      · exact .refuse
    · exact .bind (escapedCode_steady plain c) fun _ _ => .pure trivial

/-- An item that is like itself. -/
abbrev Fair (strict : Prop) (i : Item) : Prop := LikeItem strict i i

omit plain in
theorem fair_single (code : ℕ) : Fair strict (single code) := ⟨.set fun _ => rfl, rfl⟩

omit plain in
theorem reference_steady (index : ℕ) : Steady strict gap region (Fair strict) (reference index) := by
  intro s s' along
  unfold reference
  refine .get ?_
  have entry := along.kept.groups.getElem? index
  rw [along.kept.ceiling]
  generalize s.groups[index]? = held, s'.groups[index]? = held' at entry ⊢
  cases entry with
  | none => exact .refuse
  | some width =>
    cases width with
    | none => exact .refuse
    | some =>
      dsimp only
      split
      · exact .refuse
      · exact .pure ⟨rfl, ⟨.again index, rfl⟩, along⟩

theorem numbered_steady (c : Char) : Steady strict gap region (Fair strict) (numbered c) := by
  intro s s' along
  unfold numbered
  refine .get ?_
  rw [along.rest]
  -- up to two more digits are looked at, and neither can begin a sign
  cases text : s.rest with
  | nil => exact reference_steady _ along
  | cons d rest =>
    obtain ⟨more, spelled⟩ := exists_spellNames_cons d rest
    rw [spelled]
    dsimp only
    split
    · exact reference_steady _ along
    · next digit =>
      have digit : d.isDigit = true := by simpa using digit
      have passes := plain d (not_special_of Char.isDigit ⟨rfl, rfl, rfl, rfl⟩ digit)
      obtain rfl : spellNames rest = more := by
        rw [spellNames_cons (opensName_cons passes.other)] at spelled
        exact (List.cons_eq_cons.1 spelled).2
      refine .bind (along.advance_plain [d] text (by simpa using passes)) fun _ _ t t' ⟨left, along⟩ => ?_
      cases rest with
      | nil => exact reference_steady _ along
      | cons e rest =>
        obtain ⟨more, spelled⟩ := exists_spellNames_cons e rest
        rw [spelled]
        dsimp only
        split
        · next digits =>
          have digit : isOctal e = true := (Bool.and_eq_true_iff.1 digits).2
          have passes := plain e (not_special_of _ ⟨rfl, rfl, rfl, rfl⟩ digit)
          refine .bind (along.advance_plain [e] left (by simpa using passes)) fun _ _ _ _ ⟨_, along⟩ => ?_
          split
          · exact .pure ⟨rfl, fair_single _, along⟩
          · exact .refuse
        · exact reference_steady _ along

theorem escapedItem_steady (c : Char) : Steady strict gap region (Fair strict) (escapedItem c) := by
  unfold escapedItem
  split
  · exact .pure ⟨.anchor _, rfl⟩
  · exact .pure ⟨.set fun _ => rfl, rfl⟩
  · exact .pure (fair_single _)
  · split
    · exact .bind (octalDigits_steady plain 2) fun _ _ => .pure (fair_single _)
    split
    · exact numbered_steady plain c
    · exact .bind (escapedCode_steady plain c) fun _ _ => .pure (fair_single _)

end Escapes

/-! ## §2 Repeat Signs -/

section Repeats

variable {strict : Prop} {gap : ℕ}

theorem takeDigits_steady : Steady strict gap .outside (fun _ => True) takeDigits := by
  intro s s' along
  unfold takeDigits
  refine .get ?_
  have digits := fun c digit => passes_outside (not_special_of Char.isDigit ⟨rfl, rfl, rfl, rfl⟩ (c := c) digit)
  refine (takeWhile_follows along digits ?_).imp fun _ _ _ _ ⟨same, along⟩ => ⟨same, trivial, along⟩
  rw [List.take_length, List.take_length, along.rest, takeWhile_spellNames rfl]

theorem count_steady (digits : List Char) :
    Steady strict gap .outside (fun _ => True) (count digits) := by
  unfold count
  split
  · rintro _ _ _ _ _ ⟨⟩
  · dsimp only
    split
    · exact .pure trivial
    · rintro _ _ _ _ _ ⟨⟩

/-- The greatest number of a repeat is not below the least. -/
def Ordered (found : Option (ℕ × Option ℕ)) : Prop :=
  ∀ least most, found = some (least, some most) → least ≤ most

/-- What `braces` does behind its digits. Without a closing brace, the opening one stands for itself, and the
reader goes back to the text `start` behind it. -/
def closing (start low high : List Char) : Reader (Option (ℕ × Option ℕ)) := do
  if ← takeIf '}' then
    let least ← count low
    if high.isEmpty then return some (least, none)
    else
      let most ← count high
      if most < least then refuse else return some (least, some most)
  else
    goTo start
    return none

theorem closing_follows {start start' : Scan} (opened : Along strict gap .outside start start')
    (along : Along strict gap .outside s s') (low high : List Char) :
    Follows s s' (closing start.rest low high) (closing start'.rest low high) fun a b t t' =>
      b = a ∧ Ordered a ∧ Along strict gap .outside t t' := by
  unfold closing
  refine along.takeIf (by simp) (fun _ => id) (fun t t' along => ?_) fun _ => ?_
  · refine .bind (count_steady low along) fun least _ t t' ⟨same, _, along⟩ => ?_
    subst same
    split
    · exact .pure ⟨rfl, (by rintro _ _ ⟨⟩), along⟩
    · refine .bind (count_steady high along) fun most _ t t' ⟨same, _, along⟩ => ?_
      subst same
      split
      · exact .refuse
      · next ordered => exact .pure ⟨rfl, (by rintro _ _ ⟨⟩; exact not_lt.1 ordered), along⟩
  · rw [opened.rest]
    have back := goTo_follows along.kept (opened.rest ▸ opened.room) opened.clear
    exact .bind back fun _ _ _ _ ⟨_, along⟩ => .pure ⟨rfl, (by rintro _ _ ⟨⟩), along⟩

theorem braces_steady : Steady strict gap .outside Ordered braces := by
  intro s s' opened
  unfold braces
  refine .get ?_
  dsimp only
  rw [opened.rest, head?_spellNames]
  split
  · exact .pure ⟨rfl, (by rintro _ _ ⟨⟩), opened⟩
  · rw [← opened.rest]
    refine .bind (takeDigits_steady opened) fun _ low t t' ⟨same, _, along⟩ => ?_
    subst same
    refine along.takeIf (by simp) (fun _ => id) (fun t t' along => ?_) fun _ => ?_
    · refine .bind (takeDigits_steady along) fun _ high t t' ⟨same, _, along⟩ => ?_
      subst same
      exact closing_follows opened along low high
    · exact closing_follows opened along low low

theorem bounds_steady (sign : Char) : Steady strict gap .outside Ordered (bounds sign) := by
  unfold bounds
  split
  · exact .pure (by rintro _ _ ⟨⟩)
  split
  · exact .pure (by rintro _ _ ⟨⟩)
  split
  · exact .pure (by rintro _ _ ⟨⟩; exact Nat.zero_le 1)
  · exact braces_steady

theorem repeated_follows {s s' : Scan} (along : Along strict gap .outside s s') {i i' : Item}
    (like : LikeItem strict i i') {least : ℕ} {most : Option ℕ} (ordered : Ordered (some (least, most))) :
    Follows s s' (repeated least most i) (repeated least most i') (Leaves strict gap (LikeItem strict)) := by
  have loop (greedy : Bool) : LikeTree strict (.loop least most greedy i.tree) (.loop least most greedy i'.tree) :=
    like.tree.loop (fun n bound => ordered least n (bound ▸ rfl)) greedy
  unfold repeated
  rw [like.repeatable]
  split
  · exact .refuse
  · refine along.takeIf (by simp) (fun _ => id) (fun t t' along => ?_) fun _ => ?_
    · exact .pure ⟨⟨loop false, rfl⟩, along⟩
    · refine along.takeIf (by simp) (fun _ => id) (fun t t' along => ?_) fun _ => ?_
      · exact .pure ⟨⟨(loop true).atomic, rfl⟩, along⟩
      · exact .pure ⟨⟨loop true, rfl⟩, along⟩

end Repeats

/-! ## §3 Sets -/

section Sets

variable {strict : Prop} {gap : ℕ} {s s' : Scan}

theorem member_escape {c : Char} {rest : List Char} (text : s.rest = '\\' :: c :: rest) :
    member.run s = (do advance 2; escapedMember c : Reader SetItem).run s := by
  unfold member
  rw [run_get_bind, text]
  rfl

theorem member_cons {c : Char} {rest : List Char} (text : s.rest = c :: rest) (noEscape : c = '\\' → rest = []) :
    member.run s = (do advance 1; return .one c.toNat : Reader SetItem).run s := by
  unfold member
  rw [run_get_bind, text]
  split
  · next escape =>
    obtain ⟨rfl, rfl⟩ := List.cons_eq_cons.1 escape
    cases noEscape rfl
  · next first =>
    obtain ⟨rfl, rfl⟩ := List.cons_eq_cons.1 first
    rfl
  · next empty => cases empty

/-- One character of a set is taken; it may be the parenthesis of a literal sign. -/
theorem member_follows {start : Bool} (along : Along strict gap (.set start) s s')
    (inside : s.rest.head? = some ']' → start = true) :
    Follows s s' member member fun low low' t t' => low' = low ∧
      (Along strict gap (.set false) t t' ∨ AtSign strict gap t t') := by
  obtain ⟨kept, spelled, room, clear⟩ := along
  cases text : s.rest with
  | nil =>
    unfold member
    refine .get ?_
    rw [text]
    exact .refuse
  | cons c rest =>
    rw [text] at spelled clear
    -- an escape sign with nothing behind it would be a member like any other
    by_cases escaped : c = '\\' ∧ rest ≠ []
    · obtain ⟨rfl, more⟩ := escaped
      obtain ⟨d, rest, rfl⟩ := List.exists_cons_of_ne_nil more
      rw [spellNames_cons rfl] at spelled
      rw [hasLiteral_set_escape] at clear
      obtain ⟨more, same⟩ := exists_spellNames_cons d rest
      refine .of_run (member_escape text) (member_escape (spelled.trans (congrArg _ same))) ?_
      refine .bind (advance_over ['\\'] kept text spelled room clear) fun _ _ t t' place => ?_
      rcases place with along | ⟨rfl, place⟩
      · refine (escapedMember_steady (fun _ => passes_set) d along).imp fun _ _ _ _ ⟨same, _, along⟩ => ?_
        exact ⟨same, .inl along⟩
      · exact .pure ⟨rfl, .inr place⟩
    · have noEscape : c = '\\' → rest = [] := by
        intro escape
        by_contra more
        exact escaped ⟨escape, more⟩
      rw [hasLiteral_set_cons noEscape fun ends => inside (by rw [text, ends]; rfl)] at clear
      obtain ⟨more, same⟩ := exists_spellNames_cons c rest
      have noEscape' : c = '\\' → more = [] := by
        rintro rfl
        rw [noEscape rfl] at same
        exact (List.cons_eq_cons.1 same).2.symm
      refine .of_run (member_cons text noEscape) (member_cons (spelled.trans same) noEscape') ?_
      refine .bind (advance_over [] kept text spelled room clear) fun _ _ t t' place => ?_
      exact .pure ⟨rfl, place.imp_right And.right⟩

/-- Plain characters are members one by one. -/
theorem members_cons (fuel : ℕ) (done : List SetItem) {c d : Char} {rest : List Char}
    (text : s.rest = c :: d :: rest) (noEscape : c ≠ '\\') (noEnd : c ≠ ']') (noRange : d ≠ '-')
    (noEscape' : d ≠ '\\') :
    (members (fuel + 1) done).run s = (members fuel (.one c.toNat :: done)).run { s with rest := d :: rest } := by
  have one : member.run s = .ok (.one c.toNat, { s with rest := d :: rest }) := by
    rw [member_cons text fun escape => absurd escape noEscape,
      run_bind_of_ok (advance_run text (by simp [noEscape']))]
    rfl
  conv_lhs => unfold members
  extract_lets next
  have more : (next ()).run s = (members fuel (.one c.toNat :: done)).run { s with rest := d :: rest } := by
    have differs : ({ s with rest := d :: rest } : Scan).rest.head? ≠ some '-' := fun range =>
      noRange (Option.some.inj range)
    rw [run_bind_of_ok one]
    exact takeIf_differs differs
  split
  · rw [takeIf_differs (by simpa [text] using noEnd)]
    exact more
  · exact more

theorem takeIf_place {α β : Type} {c : Char} {region : Region} {yes no : Reader α}
    {yes' no' : Reader β} {post : α → β → Scan → Scan → Prop}
    (place : Along strict gap (.set false) s s' ∨ AtSign strict gap s s') (other : c ≠ '(')
    (other' : c ≠ '?') (clear : ∀ rest, hasLiteral (.set false) (c :: rest) = false → hasLiteral region rest = false)
    (taken : ∀ t t', Along strict gap region t t' → Follows t t' yes yes' post)
    (left : Follows s s' no no' post) :
    Follows s s' (takeIf c >>= fun b => if b = true then yes else no)
      (takeIf c >>= fun b => if b = true then yes' else no') post := by
  cases place with
  | inl along => exact along.takeIf other clear taken fun _ => left
  | inr at_ =>
    obtain ⟨-, -, ⟨behind, text, text'⟩, -⟩ := at_
    refine .of_run (takeIf_differs ?_) (takeIf_differs ?_) left
    · rw [text]
      exact fun same => other' (Option.some.inj same).symm
    · rw [text']
      exact fun same => other' (Option.some.inj same).symm

theorem members_follows (fuel : ℕ) {fuel' : ℕ} {done done' : List SetItem} (same : strict → done' = done)
    (empty : done'.isEmpty = done.isEmpty) (enough : fuel + gap ≤ fuel')
    (place : Along strict gap (.set done.isEmpty) s s' ∨ AtSign strict gap s s') :
    Follows s s' (members fuel done) (members fuel' done')
      (Leaves strict gap fun items items' => strict → items' = items) := by
  induction fuel generalizing gap fuel' done done' s s' with
  | zero => exact .refuse
  | succ fuel ih =>
    obtain ⟨fuel', rfl⟩ : ∃ fewer, fuel' = fewer + 1 := ⟨fuel' - 1, by omega⟩
    cases place with
    | inl along =>
      unfold members
      extract_lets next next'
      have more (inside : s.rest.head? = some ']' → done.isEmpty = true) :
          Follows s s' (next ()) (next' ()) (Leaves strict gap fun items items' => strict → items' = items) := by
        refine .bind (member_follows along inside) ?_
        rintro _ low t t' ⟨rfl, place⟩
        refine takeIf_place place (by simp) (by simp) (fun _ => id) (fun t t' along => ?_) ?_
        · refine along.takeIf (by simp) (fun _ => id) (fun t t' along => ?_) fun inside => ?_
          · exact .pure ⟨fun sharp => by rw [same sharp], along⟩
          · have inside (ends : _) : (low :: done).isEmpty = true := absurd ends inside
            refine .bind (member_follows along inside) ?_
            rintro _ high t t' ⟨rfl, place⟩
            split
            · split
              · exact .refuse
              · exact ih (fun sharp => by rw [same sharp]) rfl (by omega) place
            · exact .refuse
        · exact ih (fun sharp => by rw [same sharp]) rfl (by omega) place
      rw [empty]
      split
      · next opened =>
        have opened : done.isEmpty = false := by simpa using opened
        rw [opened] at along
        refine along.takeIf (by simp) (fun _ => id) (fun t t' along => ?_) fun inside => ?_
        · exact .pure ⟨fun sharp => by rw [same sharp], along⟩
        · exact more fun ends => absurd ends inside
      · next opened => exact more fun _ => by simpa using opened
    | inr place =>
      obtain ⟨gap, rfl⟩ : ∃ less, gap = less + 1 := ⟨gap - 1, by have := place.gap_pos; omega⟩
      obtain ⟨fuel', rfl⟩ : ∃ fewer, fuel' = fewer + 1 := ⟨fuel' - 1, by omega⟩
      have free := place.free
      obtain ⟨behind, text, text', along⟩ := place.along (.set false)
      -- the second reading takes the letter as a member of its own
      have first := members_cons fuel done text (by simp) (by simp) (by simp) (by simp)
      have first' := members_cons (fuel' + 1) done' text' (by simp) (by simp) (by simp) (by simp)
      have letter := members_cons fuel' (.one '?'.toNat :: done')
        (show ({ s' with rest := 'P' :: '<' :: spellNames behind } : Scan).rest = _ from rfl)
        (by simp) (by simp) (by simp) (by simp)
      refine .of_run first (first'.trans letter) ?_
      have followed : Follows _ _ (members fuel (.one '?'.toNat :: done))
          (members fuel' (.one 'P'.toNat :: .one '?'.toNat :: done')) _ :=
        ih (fun sharp => absurd sharp free) rfl (by omega) (.inl along)
      exact followed.imp fun _ _ _ _ left => ⟨left.1, left.2.mono (Nat.le_succ gap)⟩

theorem charSet_follows (along : Along strict gap .opened s s') :
    Follows s s' charSet charSet (Leaves strict gap (LikeItem strict)) := by
  have behind {negated : Bool} {t t' : Scan} (along : Along strict gap (.set true) t t') :
      Follows t t' (do return ⟨.set ⟨negated, ← members ((← get).rest.length + 1) []⟩, true⟩)
        (do return ⟨.set ⟨negated, ← members ((← get).rest.length + 1) []⟩, true⟩)
        (Leaves strict gap (LikeItem strict)) := by
    refine .get ?_
    have longer : t.rest.length ≤ t'.rest.length := along.rest ▸ length_le_spellNames _
    have room := along.room
    have followed : Follows _ _ (members (t.rest.length + 1) []) (members (t'.rest.length + 1) []) _ :=
      members_follows _ (fun _ => rfl) rfl (by omega) (.inl along.tight)
    refine .bind followed fun items items' u u' ⟨same, along⟩ => ?_
    exact .pure ⟨⟨.set fun sharp => by rw [same sharp], rfl⟩, along.mono (by omega)⟩
  unfold charSet
  refine .bind (along.takeIf_follows (by simp) fun _ => id) fun _ negated t t' ⟨rfl, related⟩ => ?_
  cases negated with
  | true => exact behind related
  | false =>
    obtain ⟨rfl, rfl, plain⟩ := related
    exact behind (along.reread (hasLiteral_opened plain))

end Sets

/-! ## §4 Parts of Groups -/

section Groups

variable {strict : Prop} {gap : ℕ} {s s' : Scan} {body body' : Tree}

/-- No range covers what lies below all of them. -/
theorem covers_eq_false {rs : CodeRanges} {least code : ℕ} (above : ∀ r ∈ rs.toList, least ≤ r.1)
    (below : code < least) : rs.covers code = false := by
  by_contra covered
  obtain ⟨r, member, inside⟩ := Array.any_eq_true'.1 (Bool.of_not_eq_false covered)
  have first := above r (Array.mem_toList_iff.2 member)
  simp only [Bool.and_eq_true, decide_eq_true_eq] at inside
  omega

theorem not_special_of_isName {name : String} (valid : Identifier.isName name = true) :
    ∀ c ∈ name.toList, isSpecial c = false := by
  -- all tables begin above the characters of ASCII
  have marks {code : ℕ} (low : code < 128) : Identifier.marks.covers code = false :=
    covers_eq_false (by decide +kernel) low
  have starts {code : ℕ} (low : code < 128) : Identifier.alsoStart.covers code = false :=
    covers_eq_false (by decide +kernel) low
  unfold Identifier.isName at valid
  split at valid
  · cases valid
  · next first others text =>
    obtain ⟨first, others⟩ := Bool.and_eq_true_iff.1 valid
    rw [text]
    refine List.forall_mem_cons.2 ⟨?_, fun c member => ?_⟩
    · refine not_special_of Identifier.starts ?_ first
      refine ⟨?_, ?_, ?_, ?_⟩ <;> exact (if_neg (by decide +kernel)).trans (starts (by simp))
    · refine not_special_of Identifier.continues ?_ (List.all_eq_true.1 others c member)
      refine ⟨?_, ?_, ?_, ?_⟩ <;> exact (if_neg (by decide +kernel)).trans (marks (by simp))

theorem takeWhile_ne {stop : Char} {front behind : List Char} (inside : ∀ c ∈ front, (c != stop) = true) :
    (front ++ stop :: behind).takeWhile (· != stop) = front := by
  rw [List.takeWhile_append_of_pos inside, List.takeWhile_cons_of_neg (by simp), List.append_nil]

/-- The character `stop` comes somewhere. -/
theorem exists_of_takeWhile_ne {stop : Char} {cs : List Char}
    (short : (cs.takeWhile (· != stop)).length < cs.length) :
    ∃ front behind, cs = front ++ stop :: behind ∧ ∀ c ∈ front, (c != stop) = true := by
  have whole := List.takeWhile_append_dropWhile (p := (· != stop)) (l := cs)
  cases left : cs.dropWhile (· != stop) with
  | nil =>
    rw [left, List.append_nil] at whole
    exact absurd (congrArg List.length whole) short.ne
  | cons d behind =>
    have ends := List.head_dropWhile_not (· != stop) (l := cs) (by simp [left])
    simp only [left, List.head_cons, bne_eq_false_iff_eq] at ends
    rw [left, ends] at whole
    exact ⟨_, behind, whole.symm, List.all_eq_true.1 List.all_takeWhile⟩

theorem groupName_steady {stop : Char} (other : isSpecial stop = false) :
    Steady strict gap .outside (fun _ => True) (groupName stop) := by
  intro s s' along
  unfold groupName
  refine .get ?_
  dsimp only
  split
  · next named =>
    obtain ⟨short, valid⟩ := Bool.and_eq_true_iff.1 named
    obtain ⟨front, behind, text, inside⟩ := exists_of_takeWhile_ne (of_decide_eq_true short)
    rw [text, takeWhile_ne inside] at valid ⊢
    -- neither a name nor the character behind it can begin a sign
    have plain : ∀ c ∈ front ++ [stop], Passes .outside c := by
      intro c member
      refine passes_outside ?_
      rcases List.mem_append.1 member with name | last
      · exact not_special_of_isName valid c (by simpa using name)
      · rwa [List.mem_singleton.1 last]
    have text : s.rest = (front ++ [stop]) ++ behind := by simp [text]
    have text' : s'.rest = front ++ stop :: spellNames behind := by
      rw [along.rest, text, spellNames_append fun c member => (plain c member).other]
      simp
    rw [text', takeWhile_ne inside, if_pos (by simp [valid])]
    have moved := along.advance_plain (front ++ [stop]) text plain
    rw [List.length_append] at moved
    exact .bind moved fun _ _ _ _ ⟨_, along⟩ => .pure ⟨rfl, trivial, along⟩
  · exact .refuse

/-- The letters that set options. -/
def isOption (c : Char) : Bool := c == 'i' || c == 'm' || c == 's' || c == 'u'

theorem setOptions_refuses (none : ∀ c rest, s.rest = c :: rest → isOption c = false) :
    setOptions.run s = .error .badPattern := by
  have taken : s.rest.takeWhile isOption = [] := by
    cases text : s.rest with
    | nil => rfl
    | cons c rest => rw [List.takeWhile_cons_of_neg (by simp [none c rest text])]
  have letters : (fun c => c == 'i' || c == 'm' || c == 's' || c == 'u') = isOption := rfl
  unfold setOptions
  rw [run_get_bind]
  dsimp only
  rw [letters, taken]
  rfl

theorem setOptions_steady : Steady strict gap .outside (fun _ => True) setOptions := by
  intro s s' along
  unfold setOptions
  refine .get ?_
  dsimp only
  rw [along.rest, takeWhile_spellNames rfl]
  have letters : (fun c => c == 'i' || c == 'm' || c == 's' || c == 'u') = isOption := rfl
  have plain : ∀ c ∈ s.rest.takeWhile isOption, isSpecial c = false := fun c member =>
    not_special_of isOption ⟨rfl, rfl, rfl, rfl⟩ (List.all_eq_true.1 List.all_takeWhile c member)
  have whole := List.takeWhile_append_dropWhile (l := s.rest) (p := isOption)
  rw [letters]
  -- both texts are split behind the letters, which are spelled alike
  generalize s.rest.takeWhile isOption = front, s.rest.dropWhile isOption = left at plain whole ⊢
  rw [← whole, spellNames_append fun c member => (passes_outside (plain c member)).other, List.drop_left,
    List.drop_left, head?_spellNames]
  split
  · exact .refuse
  · next closed =>
    simp only [Bool.or_eq_true, bne_iff_ne, not_or, not_not] at closed
    obtain ⟨behind, rfl⟩ := List.head?_eq_some_iff.1 closed.2
    have moved : Follows s s' (advance (front.length + 1)) (advance (front.length + 1)) fun _ _ t t' =>
        t.rest = behind ∧ Along strict gap .outside t t' := by
      have passes : ∀ c ∈ front ++ [')'], Passes .outside c := by
        intro c member
        rcases List.mem_append.1 member with letter | last
        · exact passes_outside (plain c letter)
        · exact passes_outside (List.mem_singleton.1 last ▸ rfl)
      have text : s.rest = (front ++ [')']) ++ behind := by simp [← whole]
      have moved := along.advance_plain (front ++ [')']) text passes
      rwa [List.length_append] at moved
    refine .bind moved fun _ _ t t' ⟨_, kept, spelled, room, clear⟩ => .modify ?_
    refine ⟨rfl, trivial, ⟨kept.groups, kept.names, ?_, kept.ceiling, kept.fixedLooks⟩, spelled, room,
      clear⟩
    rw [kept.options]

theorem openGroup_steady (name : Option String) :
    Steady strict gap .outside (fun _ => True) (openGroup name) := by
  intro s s' along
  obtain ⟨kept, spelled, room, clear⟩ := along
  have index : s'.groups.length = s.groups.length := kept.groups.length_eq.symm
  unfold openGroup
  refine .get ?_
  dsimp only
  rw [index]
  -- the new group gets the same index in both readings, and a name is taken in both or in none
  cases name with
  | none =>
    have kept : Kept strict { s with groups := s.groups ++ [none] } { s' with groups := s'.groups ++ [none] } :=
      ⟨kept.groups.append_open, kept.names, kept.options, kept.ceiling, kept.fixedLooks⟩
    have opened : Follows s s' (set _) (set _) fun _ _ => Along strict gap .outside :=
      .set ⟨kept, spelled, room, clear⟩
    exact .bind opened fun _ _ _ _ along => .pure ⟨rfl, trivial, along⟩
  | some name =>
    dsimp only
    rw [kept.names]
    split
    · exact .bind .refuse fun _ _ _ _ => False.elim
    · have kept : Kept strict
          { s with groups := s.groups ++ [none], names := s.names ++ [(name, s.groups.length)] }
          { s' with groups := s'.groups ++ [none], names := s.names ++ [(name, s.groups.length)] } :=
        ⟨kept.groups.append_open, rfl, kept.options, kept.ceiling, kept.fixedLooks⟩
      have opened : Follows s s' (set _) (set _) fun _ _ => Along strict gap .outside :=
        .set ⟨kept, spelled, room, clear⟩
      exact .bind opened fun _ _ _ _ along => .pure ⟨rfl, trivial, along⟩

theorem closeGroup_follows (along : Along strict gap .outside s s')
    (like : LikeTree strict body body') (index : ℕ) :
    Follows s s' (closeGroup index body) (closeGroup index body') fun _ _ =>
      Along strict gap .outside := by
  obtain ⟨kept, spelled, room, clear⟩ := along
  refine .modify ⟨⟨?_, kept.names, kept.options, kept.ceiling, kept.fixedLooks⟩, spelled, room, clear⟩
  exact kept.groups.set index (.some (like.width kept.groups))

theorem ceiling_follows (along : Along strict gap .outside s s') {ceiling ceiling' : Option ℕ}
    (same : ceiling' = ceiling) :
    Follows s s' (modify fun s => { s with ceiling }) (modify fun s => { s with ceiling := ceiling' })
      fun _ _ => Along strict gap .outside := by
  obtain ⟨kept, spelled, room, clear⟩ := along
  exact .modify ⟨⟨kept.groups, kept.names, kept.options, same, kept.fixedLooks⟩, spelled, room, clear⟩

theorem lookBehind_follows (along : Along strict gap .outside s s')
    (like : LikeTree strict body body') (wanted : Bool) :
    Follows s s' (lookBehind wanted body) (lookBehind wanted body') (Leaves strict gap (LikeItem strict)) := by
  obtain ⟨kept, spelled, room, clear⟩ := along
  unfold lookBehind
  refine .get ?_
  dsimp only
  rw [(like.width kept.groups).fixed?_eq]
  split
  · have noted : Follows s s' (modify fun s => { s with fixedLooks := false })
        (modify fun s => { s with fixedLooks := false }) fun _ _ => Along strict gap .outside :=
      .modify ⟨⟨kept.groups, kept.names, kept.options, kept.ceiling, rfl⟩, spelled, room, clear⟩
    exact .bind noted fun _ _ _ _ along => .pure ⟨⟨like.look _ wanted, rfl⟩, along⟩
  · exact .pure ⟨⟨like.look _ wanted, rfl⟩, ⟨kept, spelled, room, clear⟩⟩

end Groups

end TickCircuit.Pattern
