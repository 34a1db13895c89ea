import TickCircuit.Proofs.Outcome
import TickCircuit.Proofs.Pattern.Spelling
import TickCircuit.Proofs.Pattern.Widths

/-!
# Reading Both Spellings

A text is read as it stands, and once more with the names of groups spelled out. As long as the first reading
succeeds, the second follows it (`Follows`): it succeeds too, and is at the corresponding place of its own text
(`Along`).

Under `strict` the text has no literal sign of a name. Then both readings have the same results, otherwise they
have results of like widths.

A literal sign takes the readings apart for one letter (`AtSign`), and behind it they are together again.
-/

namespace TickCircuit.Pattern

/-! ## §1 Steps -/

/-- If the first step has a result, the second one has a result too, and they are related. -/
def Follows {α β : Type} (s s' : Scan) (step : Reader α) (step' : Reader β)
    (post : α → β → Scan → Scan → Prop) : Prop :=
  ∀ a t, step.run s = .ok (a, t) → ∃ b t', step'.run s' = .ok (b, t') ∧ post a b t t'

namespace Follows

variable {α β γ δ : Type} {s s' t t' : Scan} {step : Reader α} {step' : Reader β}
  {post : α → β → Scan → Scan → Prop}

theorem pure {a : α} {b : β} (related : post a b s s') : Follows s s' (pure a) (pure b) post := by
  rintro _ _ ⟨⟩
  exact ⟨b, s', rfl, related⟩

/-- A step that has no result is followed by every other. -/
theorem refuse : Follows s s' (refuse : Reader α) step' post := by
  rintro _ _ ⟨⟩

theorem bind {next : γ → δ → Scan → Scan → Prop} {f : α → Reader γ} {f' : β → Reader δ}
    (first : Follows s s' step step' post)
    (second : ∀ a b t t', post a b t t' → Follows t t' (f a) (f' b) next) :
    Follows s s' (step >>= f) (step' >>= f') next := by
  intro c u done
  rw [StateT.run_bind] at done
  obtain ⟨⟨a, t⟩, ran, done⟩ := Outcome.bind_eq_ok.1 done
  obtain ⟨b, t', ran', related⟩ := first a t ran
  obtain ⟨d, u', done', related'⟩ := second a b t t' related c u done
  refine ⟨d, u', ?_, related'⟩
  rw [StateT.run_bind, ran']
  exact done'

theorem get {f : Scan → Reader α} {f' : Scan → Reader β} (h : Follows s s' (f s) (f' s') post) :
    Follows s s' (get >>= f) (get >>= f') post := h

theorem modify {f f' : Scan → Scan} {post : Unit → Unit → Scan → Scan → Prop}
    (related : post () () (f s) (f' s')) : Follows s s' (modify f) (modify f') post := by
  rintro _ _ ⟨⟩
  exact ⟨(), f' s', rfl, related⟩

theorem set {post : Unit → Unit → Scan → Scan → Prop} (related : post () () t t') :
    Follows s s' (set t) (set t') post := by
  rintro _ _ ⟨⟩
  exact ⟨(), t', rfl, related⟩

theorem imp {next : α → β → Scan → Scan → Prop} (h : Follows s s' step step' post)
    (weaker : ∀ a b t t', post a b t t' → next a b t t') : Follows s s' step step' next := by
  intro a t ran
  obtain ⟨b, t', ran', related⟩ := h a t ran
  exact ⟨b, t', ran', weaker a b t t' related⟩

/-- Steps that come down to others. -/
theorem of_run {next : Reader α} {next' : Reader β} (run : step.run s = next.run t)
    (run' : step'.run s' = next'.run t') (h : Follows t t' next next' post) : Follows s s' step step' post := by
  intro a u ran
  rw [run']
  exact h a u (run ▸ ran)

end Follows

/-! ## §2 Single Runs -/

section Runs

variable {α β : Type} {s t : Scan} {c : Char} {rest : List Char}

theorem run_bind_of_ok {step : Reader α} {f : α → Reader β} {a : α}
    (ran : step.run s = .ok (a, t)) : (step >>= f).run s = (f a).run t := by
  rw [StateT.run_bind, ran]
  rfl

theorem run_get_bind {f : Scan → Reader α} : (get >>= f).run s = (f s).run s := rfl

theorem advance_run (text : s.rest = c :: rest) (more : rest ≠ ['\\']) :
    (advance 1).run s = .ok ((), { s with rest }) := by
  unfold advance
  rw [run_get_bind, text, List.drop_one, List.tail_cons]
  unfold goTo
  rw [if_neg fun last => more (beq_iff_eq.1 last)]
  rfl

theorem takeIf_run (text : s.rest = c :: rest) (more : rest ≠ ['\\']) :
    (takeIf c).run s = .ok (true, { s with rest }) := by
  unfold takeIf
  rw [run_get_bind, text, if_pos (by simp), run_bind_of_ok (advance_run text more)]
  rfl

theorem takeIf_differs {f : Bool → Reader α} (differs : s.rest.head? ≠ some c) :
    (takeIf c >>= f).run s = (f false).run s := by
  have left : (takeIf c).run s = .ok (false, s) := by
    unfold takeIf
    rw [run_get_bind, if_neg fun same => differs (beq_iff_eq.1 same)]
    rfl
  exact run_bind_of_ok left

end Runs

/-! ## §3 Places in Both Texts -/

/-- What has been read so far agrees. -/
structure Kept (strict : Prop) (s s' : Scan) : Prop where
  groups : LikeGroups strict s.groups s'.groups
  names : s'.names = s.names
  options : s'.options = s.options
  ceiling : s'.ceiling = s.ceiling
  fixedLooks : s'.fixedLooks = s.fixedLooks

theorem Kept.moved {strict : Prop} {s s' : Scan} (kept : Kept strict s s') (rest rest' : List Char) :
    Kept strict { s with rest } { s' with rest := rest' } :=
  ⟨kept.groups, kept.names, kept.options, kept.ceiling, kept.fixedLooks⟩

/-- The text that is left is the same but for its spelling, which makes it longer by at most `gap` characters.
Under `strict`, no sign of a name in it is literal when it is read in `region`. -/
structure Along (strict : Prop) (gap : ℕ) (region : Region) (s s' : Scan) : Prop where
  kept : Kept strict s s'
  rest : s'.rest = spellNames s.rest
  room : s'.rest.length ≤ s.rest.length + gap
  clear : strict → hasLiteral region s.rest = false

/-- Both are inside a literal sign, behind its parenthesis; a letter more comes in the second text. -/
structure AtSign (strict : Prop) (gap : ℕ) (s s' : Scan) : Prop where
  free : ¬ strict
  kept : Kept strict s s'
  rest : ∃ behind, s.rest = '?' :: '<' :: behind ∧ s'.rest = '?' :: 'P' :: '<' :: spellNames behind
  room : s'.rest.length ≤ s.rest.length + gap

/-- The results are related, and both readings are at the same place outside of sets. -/
abbrev Leaves {α β : Type} (strict : Prop) (gap : ℕ) (R : α → β → Prop) (a : α) (b : β)
    (s s' : Scan) : Prop :=
  R a b ∧ Along strict gap .outside s s'

section Places

variable {strict : Prop} {gap : ℕ} {region region' : Region} {s s' : Scan} {α β : Type}

theorem goTo_follows {rest : List Char} (kept : Kept strict s s')
    (room : (spellNames rest).length ≤ rest.length + gap) (clear : strict → hasLiteral region rest = false) :
    Follows s s' (goTo rest) (goTo (spellNames rest)) fun _ _ t t' =>
      t.rest = rest ∧ Along strict gap region t t' := by
  unfold goTo
  split
  · exact .refuse
  · next more =>
    rw [if_neg fun last => more (beq_iff_eq.2 (eq_escape_of_spellNames (beq_iff_eq.1 last)))]
    exact .modify ⟨rfl, kept.moved _ _, rfl, room, clear⟩

/-- Both go on by the same characters. -/
theorem advance_follows (front : List Char) {rest : List Char} (kept : Kept strict s s')
    (text : s.rest = front ++ rest) (text' : s'.rest = front ++ spellNames rest)
    (room : s'.rest.length ≤ s.rest.length + gap) (clear : strict → hasLiteral region rest = false) :
    Follows s s' (advance front.length) (advance front.length) fun _ _ t t' =>
      t.rest = rest ∧ Along strict gap region t t' := by
  unfold advance
  refine .get ?_
  rw [text, text', List.drop_left, List.drop_left]
  refine goTo_follows kept ?_ clear
  rw [text, text', List.length_append, List.length_append] at room
  omega

theorem AtSign.gap_pos (place : AtSign strict gap s s') : 0 < gap := by
  obtain ⟨-, -, ⟨behind, text, text'⟩, room⟩ := place
  have longer := length_le_spellNames behind
  rw [text, text'] at room
  simp only [List.length_cons] at room
  omega

/-- Behind the letter the texts are the same again, and the second is longer by one character less. -/
theorem AtSign.along (place : AtSign strict (gap + 1) s s') (region : Region) :
    ∃ behind, s.rest = '?' :: '<' :: behind ∧ s'.rest = '?' :: 'P' :: '<' :: spellNames behind ∧
      Along strict gap region { s with rest := '<' :: behind } { s' with rest := '<' :: spellNames behind } := by
  obtain ⟨free, kept, ⟨behind, text, text'⟩, room⟩ := place
  refine ⟨behind, text, text', kept.moved _ _, (spellNames_cons rfl).symm, ?_, fun sharp => absurd sharp free⟩
  rw [text, text'] at room
  simp only [List.length_cons] at room ⊢
  omega

/-- Both go on over the character `c`, which may be the parenthesis of a literal sign. -/
theorem advance_over (front : List Char) {c : Char} {rest : List Char} (kept : Kept strict s s')
    (text : s.rest = front ++ c :: rest) (text' : s'.rest = front ++ spellNames (c :: rest))
    (room : s'.rest.length ≤ s.rest.length + gap)
    (clear : strict → (opensName (c :: rest) || hasLiteral region rest) = false) :
    Follows s s' (advance (front.length + 1)) (advance (front.length + 1)) fun _ _ t t' =>
      Along strict gap region t t' ∨ c = '(' ∧ AtSign strict gap t t' := by
  have next : front.length + 1 = (front ++ [c]).length := by rw [List.length_append, List.length_singleton]
  have text : s.rest = (front ++ [c]) ++ rest := by rw [text, List.append_assoc, List.singleton_append]
  -- at a literal sign both go on over the parenthesis, and the second has the letter still ahead
  by_cases sign : opensName (c :: rest)
  · obtain ⟨rfl, behind, rfl, name⟩ := exists_of_opensName sign
    rw [spellNames_sign name, List.append_cons] at text'
    unfold advance
    refine .get ?_
    rw [next, text, List.drop_left, text', List.drop_left]
    rw [text, text', List.length_append, List.length_append, List.length_append] at room
    unfold goTo
    rw [if_neg (by simp), if_neg (by simp)]
    refine .modify (.inr ⟨rfl, fun sharp => ?_, kept.moved _ _, ⟨behind, rfl, rfl⟩, ?_⟩)
    · rw [sign] at clear
      cases clear sharp
    · simp only [List.length_cons, List.length_nil] at room ⊢
      omega
  · rw [spellNames_cons (Bool.of_not_eq_true sign), List.append_cons] at text'
    rw [next]
    refine (advance_follows _ kept text text' room fun sharp => ?_).imp fun _ _ _ _ ⟨_, along⟩ => .inl along
    exact (Bool.or_eq_false_iff.1 (clear sharp)).2

namespace Along

theorem mono {larger : ℕ} (along : Along strict gap region s s') (le : gap ≤ larger) :
    Along strict larger region s s' :=
  ⟨along.kept, along.rest, along.room.trans (Nat.add_le_add_left le _), along.clear⟩

/-- No more room than is needed. -/
theorem tight (along : Along strict gap region s s') :
    Along strict (s'.rest.length - s.rest.length) region s s' :=
  ⟨along.kept, along.rest, by omega, along.clear⟩

/-- Signs are literal in one region where they are in the other. -/
theorem reread (along : Along strict gap region s s')
    (same : hasLiteral region s.rest = hasLiteral region' s.rest) : Along strict gap region' s s' :=
  ⟨along.kept, along.rest, along.room, fun sharp => same ▸ along.clear sharp⟩

theorem advance (along : Along strict gap region s s') (front : List Char) {rest : List Char}
    (text : s.rest = front ++ rest) (plain : ∀ c ∈ front, c ≠ '(')
    (clear : hasLiteral region (front ++ rest) = false → hasLiteral region' rest = false) :
    Follows s s' (Pattern.advance front.length) (Pattern.advance front.length) fun _ _ t t' =>
      t.rest = rest ∧ Along strict gap region' t t' := by
  refine advance_follows front along.kept text ?_ along.room fun sharp => clear (text ▸ along.clear sharp)
  rw [along.rest, text, spellNames_append plain]

/-- Characters that have no meaning of their own are left behind. -/
theorem advance_plain (along : Along strict gap region s s') (front : List Char) {rest : List Char}
    (text : s.rest = front ++ rest) (plain : ∀ c ∈ front, Passes region c) :
    Follows s s' (Pattern.advance front.length) (Pattern.advance front.length) fun _ _ t t' =>
      t.rest = rest ∧ Along strict gap region t t' := by
  refine along.advance front text (fun c member => (plain c member).other) ?_
  clear text
  induction front with
  | nil => exact id
  | cons c front ih =>
    obtain ⟨first, plain⟩ := List.forall_mem_cons.1 plain
    exact fun clear => ih plain (first.clear _ clear)

/-- The character `c` comes next in both texts or in none. -/
theorem takeIf_follows (along : Along strict gap region s s') {c : Char} (other : c ≠ '(')
    (clear : ∀ rest, hasLiteral region (c :: rest) = false → hasLiteral region' rest = false) :
    Follows s s' (takeIf c) (takeIf c) fun b b' t t' => b' = b ∧
      bif b then Along strict gap region' t t' else t = s ∧ t' = s' ∧ s.rest.head? ≠ some c := by
  unfold takeIf
  refine .get ?_
  rw [along.rest, head?_spellNames]
  split
  · next comes =>
    obtain ⟨rest, text⟩ := List.head?_eq_some_iff.1 (beq_iff_eq.1 comes)
    refine .bind (along.advance [c] text (by simpa using other) (clear rest)) fun _ _ t t' ⟨_, along'⟩ => ?_
    exact .pure ⟨rfl, along'⟩
  · next differs => exact .pure ⟨rfl, rfl, rfl, fun comes => differs (beq_iff_eq.2 comes)⟩

theorem takeIf (along : Along strict gap region s s') {c : Char} (other : c ≠ '(')
    (clear : ∀ rest, hasLiteral region (c :: rest) = false → hasLiteral region' rest = false)
    {yes no : Reader α} {yes' no' : Reader β} {post : α → β → Scan → Scan → Prop}
    (taken : ∀ t t', Along strict gap region' t t' → Follows t t' yes yes' post)
    (left : s.rest.head? ≠ some c → Follows s s' no no' post) :
    Follows s s' (Pattern.takeIf c >>= fun b => if b = true then yes else no)
      (Pattern.takeIf c >>= fun b => if b = true then yes' else no') post := by
  refine .bind (along.takeIf_follows other clear) fun b b' t t' ⟨same, related⟩ => ?_
  subst same
  cases b' with
  | true => exact taken t t' related
  | false =>
    obtain ⟨rfl, rfl, differs⟩ := related
    exact left differs

end Along

end Places

/-! ## §4 Steps with the Same Result -/

/-- A step has the same result at both places, and a property `post`. -/
def Steady {α : Type} (strict : Prop) (gap : ℕ) (region : Region) (post : α → Prop)
    (step : Reader α) : Prop :=
  ∀ ⦃s s'⦄, Along strict gap region s s' →
    Follows s s' step step fun a b t t' => b = a ∧ post a ∧ Along strict gap region t t'

section Steady

variable {strict : Prop} {gap : ℕ} {region : Region} {α β : Type} {post : α → Prop}
  {next : β → Prop}

theorem Steady.pure {a : α} (h : post a) : Steady strict gap region post (pure a) :=
  fun _ _ along => .pure ⟨rfl, h, along⟩

theorem Steady.refuse : Steady strict gap region post refuse := fun _ _ _ => .refuse

theorem Steady.bind {step : Reader α} {f : α → Reader β} (first : Steady strict gap region post step)
    (second : ∀ a, post a → Steady strict gap region next (f a)) :
    Steady strict gap region next (step >>= f) := by
  intro s s' along
  refine .bind (first along) fun a b t t' ⟨same, holds, along⟩ => ?_
  subst same
  exact second b holds along

theorem takeWhile_follows {s s' : Scan} (along : Along strict gap region s s') {p : Char → Bool}
    (plain : ∀ c, p c = true → Passes region c) {most most' : ℕ}
    (same : (s'.rest.take most').takeWhile p = (s.rest.take most).takeWhile p) :
    Follows s s' (takeWhile most p) (takeWhile most' p) fun cs cs' t t' =>
      cs' = cs ∧ Along strict gap region t t' := by
  unfold takeWhile
  refine .get ?_
  rw [same]
  obtain ⟨rest, text⟩ := (List.takeWhile_prefix p).trans (List.take_prefix most s.rest)
  have front : ∀ c ∈ (s.rest.take most).takeWhile p, Passes region c := fun c member =>
    plain c (List.all_eq_true.1 List.all_takeWhile c member)
  exact .bind (along.advance_plain _ text.symm front) fun _ _ _ _ ⟨_, along⟩ => .pure ⟨rfl, along⟩

theorem takeWhile_steady (most : ℕ) {p : Char → Bool} (plain : ∀ c, p c = true → Passes region c) :
    Steady strict gap region (fun _ => True) (takeWhile most p) := by
  intro s s' along
  have other : p '(' = false := by
    by_contra member
    exact (plain '(' (Bool.of_not_eq_false member)).other rfl
  refine (takeWhile_follows along plain ?_).imp fun _ _ _ _ ⟨same, along⟩ => ⟨same, trivial, along⟩
  rw [along.rest, ← List.take_takeWhile, takeWhile_spellNames other, List.take_takeWhile]

end Steady

end TickCircuit.Pattern
