import GoldenFiles.Proofs.Sexp.Lexing
import GoldenFiles.Sexp.Language
import Mathlib.Tactic.SplitIfs
import Mathlib.Tactic.Tauto

/-!
# Recovery

What the grammar makes of a malformed source is said by its lexemes alone: read from the left with a
count of the lists that are open, they lose the closing parentheses that close nothing, gain one for
every list left open, and a literal that is never closed is closed. Nothing else is lost, added or
moved, and no source is refused.

## Main definitions

* `withoutLone` — a body without a backslash that its pairs leave over
* `mend` — the tokens of a program from its lexemes
* `complaints` — the problems of a source from its lexemes
* `Stretch` — the lexemes between two places are certain tokens and problems

## Main results

* `closableBody_eq_withoutLone` — counting backslashes from the right and pairing them from the left
  agree
* `forms_cover`, `items_cover` — what the rules read is the stretch of lexemes that they pass
* `items?_eq_ok` — no source is refused
* `tokensOf_program`, `diagnostics_eq` — the program of a source is its lexemes, mended, and its
  diagnostics are the complaints about them
-/

namespace GoldenFiles.Sexp

/-! ### Backslashes without a partner -/

/-- A body read from the left, with every backslash taking the next character with it, and without
the backslash at the end that finds none. -/
def withoutLone : Text → Text
  | [] => []
  | ['\\'] => []
  | '\\' :: c :: rest => '\\' :: c :: withoutLone rest
  | c :: rest => c :: withoutLone rest

theorem trailingBackslashes_le (text : Text) : trailingBackslashes text ≤ text.length := by
  unfold trailingBackslashes
  have hsub : (text.reverse.takeWhile (· = '\\')).Sublist text.reverse := List.takeWhile_sublist _
  simpa using hsub.length_le

theorem trailingBackslashes_cons (c : Char) (rest : Text) :
    trailingBackslashes (c :: rest) =
      if trailingBackslashes rest = rest.length then
        rest.length + if c = '\\' then 1 else 0
      else
        trailingBackslashes rest := by
  unfold trailingBackslashes
  rw [List.reverse_cons, List.takeWhile_append]
  simp only [List.length_reverse]
  split
  · by_cases hc : c = '\\' <;> simp [hc]
  · rfl

/-- A pair at the head of a body does not change whether the backslashes at its end are odd in
number. -/
theorem trailingBackslashes_pair (c : Char) (rest : Text) :
    trailingBackslashes ('\\' :: c :: rest) % 2 = trailingBackslashes rest % 2 := by
  have hle := trailingBackslashes_le rest
  rw [trailingBackslashes_cons, trailingBackslashes_cons]
  simp only [List.length_cons, if_true]
  split_ifs <;> omega

theorem trailingBackslashes_of_ne {c : Char} (h : c ≠ '\\') (rest : Text) :
    trailingBackslashes (c :: rest) = trailingBackslashes rest := by
  rw [trailingBackslashes_cons, if_neg h]
  split_ifs with hall
  · exact hall.symm
  · rfl

theorem closableBody_append {head rest : Text}
    (h : trailingBackslashes (head ++ rest) % 2 = trailingBackslashes rest % 2) :
    closableBody (head ++ rest) = head ++ closableBody rest := by
  unfold closableBody
  rw [h]
  split_ifs with hodd
  · have hrest : rest ≠ [] := by rintro rfl; simp [trailingBackslashes] at hodd
    exact List.dropLast_append_of_ne_nil hrest
  · rfl

/-- Counting the backslashes at the end of a body, and pairing its backslashes from the left, agree
on whether one is left over. -/
theorem closableBody_eq_withoutLone (body : Text) : closableBody body = withoutLone body := by
  fun_induction withoutLone body with
  | case1 => rfl
  | case2 => rfl
  | case3 c rest ih =>
    have heq : closableBody (['\\', c] ++ rest) = ['\\', c] ++ closableBody rest :=
      closableBody_append (trailingBackslashes_pair c rest)
    exact heq.trans (by rw [ih]; rfl)
  | case4 c rest hlast hpair ih =>
    have hc : c ≠ '\\' := ne_backslash hlast hpair
    have heq : closableBody ([c] ++ rest) = [c] ++ closableBody rest :=
      closableBody_append (by simp [trailingBackslashes_of_ne hc])
    exact heq.trans (by rw [ih]; rfl)

/-! ### Lexemes, mended -/

/-- The tokens of a program from its lexemes, when so many lists are open: a closing parenthesis
with no list open is dropped, lists left open are closed at the end, and so is a literal, without a
backslash that would take the quote with it. -/
def mend : Nat → List Lexeme → List Token
  | depth, [] => List.replicate depth .closing
  | depth, .token .opening :: rest => .opening :: mend (depth + 1) rest
  | 0, .token .closing :: rest => mend 0 rest
  | depth + 1, .token .closing :: rest => .closing :: mend depth rest
  | depth, .token (.atom text) :: rest => .atom text :: mend depth rest
  | depth, .token (.string body) :: rest => .string body :: mend depth rest
  | depth, .unterminated body :: rest => .string (withoutLone body) :: mend depth rest

/-- The problems of a source from its lexemes, when lists that begin at the given places are open,
innermost first. -/
def complaints : List Position → List (Located Lexeme) → List (Located Problem)
  | opened, [] => opened.map (⟨·, .unclosedList⟩)
  | opened, ⟨start, .token .opening⟩ :: rest => complaints (start :: opened) rest
  | [], ⟨start, .token .closing⟩ :: rest => ⟨start, .strayClosing⟩ :: complaints [] rest
  | _ :: opened, ⟨_, .token .closing⟩ :: rest => complaints opened rest
  | opened, ⟨_, .token (.atom _)⟩ :: rest => complaints opened rest
  | opened, ⟨start, .token (.string body)⟩ :: rest =>
    unknownEscapes (start.advance '"') body ++ complaints opened rest
  | opened, ⟨start, .unterminated body⟩ :: rest =>
    ⟨start, .unterminatedString⟩ :: unknownEscapes (start.advance '"') body ++
      complaints opened rest

/-- Between two places of a source there are exactly the given tokens and problems, whatever lists
are open. -/
structure Stretch (tokens : List Token) (problems : List (Located Problem))
    (here there : List (Located Lexeme)) : Prop where
  mend_eq : ∀ depth, mend depth (values here) = tokens ++ mend depth (values there)
  complaints_eq : ∀ opened, complaints opened here = problems ++ complaints opened there

namespace Stretch

variable {tokens tokens' : List Token} {problems problems' : List (Located Problem)}
  {here between there : List (Located Lexeme)} {start start' : Position} {text : Text}

theorem refl (here : List (Located Lexeme)) : Stretch [] [] here here where
  mend_eq _ := rfl
  complaints_eq _ := rfl

theorem append (h : Stretch tokens problems here between)
    (h' : Stretch tokens' problems' between there) :
    Stretch (tokens ++ tokens') (problems ++ problems') here there where
  mend_eq depth := by rw [h.mend_eq, h'.mend_eq, List.append_assoc]
  complaints_eq opened := by rw [h.complaints_eq, h'.complaints_eq, List.append_assoc]

theorem atom : Stretch [.atom text] [] (⟨start, .token (.atom text)⟩ :: there) there where
  mend_eq depth := by simp [mend]
  complaints_eq opened := by cases opened <;> simp [complaints]

theorem string :
    Stretch [.string text] (unknownEscapes (start.advance '"') text)
      (⟨start, .token (.string text)⟩ :: there) there where
  mend_eq depth := by simp [mend]
  complaints_eq opened := by cases opened <;> simp [complaints]

theorem unterminated :
    Stretch [.string (withoutLone text)]
      (⟨start, .unterminatedString⟩ :: unknownEscapes (start.advance '"') text)
      [⟨start, .unterminated text⟩] [] where
  mend_eq depth := by simp [mend]
  complaints_eq opened := by cases opened <;> simp [complaints]

/-- A list that is closed. -/
theorem closed (h : Stretch tokens problems between (⟨start', .token .closing⟩ :: there)) :
    Stretch (.opening :: (tokens ++ [.closing])) problems
      (⟨start, .token .opening⟩ :: between) there where
  mend_eq depth := by simp [mend, h.mend_eq]
  complaints_eq opened := by simp [complaints, h.complaints_eq]

/-- A list that the source leaves open. -/
theorem unclosed (h : Stretch tokens problems between []) :
    Stretch (.opening :: (tokens ++ [.closing])) (problems ++ [⟨start, .unclosedList⟩])
      (⟨start, .token .opening⟩ :: between) [] where
  mend_eq depth := by simp [mend, h.mend_eq, List.replicate_succ]
  complaints_eq opened := by simp [complaints, h.complaints_eq]

end Stretch

/-! ### What the rules read -/

/-- What a rule has read at a cursor is the stretch up to where it has stopped. -/
def Reading.Covers {bound : Nat} (reading : Reading Tree bound) (cursor : Cursor) : Prop :=
  Stretch reading.value.form.tokens reading.value.problems cursor.lexemes reading.next.lexemes

section Rules

variable {cursor : Cursor} {reading : Reading Tree cursor.text.length}

theorem string?_covers (h : string? cursor = some reading) : reading.Covers cursor := by
  unfold string? at h
  split at h
  · cases h
  · next inner hinner =>
    split at h
    · cases h
    · next next hnext =>
      cases h
      obtain ⟨rest, htext, rfl⟩ := Cursor.pass?_eq_some_iff.mp hinner
      obtain ⟨behind, hbehind, rfl⟩ := Cursor.pass?_eq_some_iff.mp hnext
      have hlexemes := Cursor.lexemes_of_text htext
      rw [lexemesFrom_string (readBody_eq_some hbehind)] at hlexemes
      rw [Reading.Covers, hlexemes]
      exact .string

theorem unterminated?_covers (h : unterminated? cursor = some reading) :
    reading.Covers cursor := by
  unfold unterminated? at h
  split at h
  · cases h
  · next inner hinner =>
    split at h
    · next hend =>
      cases h
      obtain ⟨rest, htext, rfl⟩ := Cursor.pass?_eq_some_iff.mp hinner
      have hlexemes := Cursor.lexemes_of_text htext
      rw [lexemesFrom_unterminated (readBody_eq_none hend)] at hlexemes
      rw [Reading.Covers, hlexemes, Cursor.lexemes_of_nil hend]
      simp only [Tree.form, Form.tokens, closableBody_eq_withoutLone]
      exact .unterminated
    · cases h

theorem atom?_covers (h : atom? cursor = some reading) : reading.Covers cursor := by
  obtain ⟨position, text⟩ := cursor
  cases text with
  | nil => cases h
  | cons c rest =>
    simp only [atom?] at h
    split at h
    · cases h
    · next hc =>
      cases h
      rw [Reading.Covers, Cursor.lexemes, lexemesFrom_atom (by simpa using hc), atomHead_eq,
        atomTail_eq]
      exact .atom

/-- A quote begins a literal, closed or not. -/
theorem exists_literal {rest : Text} (h : cursor.text = '"' :: rest)
    (hnone : string? cursor = none) :
    ∃ reading, unterminated? cursor = some reading := by
  have hpass := Cursor.pass?_of_text h
  unfold string? at hnone
  unfold unterminated?
  split at hnone
  · next hinner => rw [hpass] at hinner; cases hinner
  · next inner hinner =>
    split at hnone
    · next hnext =>
      split
      · exact ⟨_, rfl⟩
      · next hopen =>
        -- A body ends at a quote or with the source, and a quote would have closed the literal.
        rcases bodyTail_cases inner.text with hend | ⟨behind, hbehind⟩
        · exact absurd hend hopen
        · have hquote : inner.behindBody.text = '"' :: behind := hbehind
          rw [Cursor.pass?_of_text hquote] at hnext
          cases hnext
    · cases hnone

/-- An atom begins with any character that is no delimiter. -/
theorem isDelimiter_of_atom?_eq_none {c : Char} {rest : Text} (h : cursor.text = c :: rest)
    (hnone : atom? cursor = none) : isDelimiter c = true := by
  obtain ⟨position, text⟩ := cursor
  subst h
  simpa [atom?] using hnone

end Rules

/-! ### Forms -/

/-- Without a first form there are none. -/
theorem forms_of_none {cursor : Cursor} (h : form? cursor.skip = none) :
    (forms cursor).value = [] ∧ (forms cursor).next = cursor := by
  rw [forms]
  simp [h]

/-- Behind the first form come the others. -/
theorem forms_of_some {cursor : Cursor} {first : Reading Tree cursor.skip.text.length}
    (h : form? cursor.skip = some first) :
    (forms cursor).value = first.value :: (forms first.next).value ∧
      (forms cursor).next = (forms first.next).next := by
  rw [forms]
  simp [h]

/-- Forms have been read as far as they go, and they are the stretch that has been read. -/
structure FormsCover (cursor : Cursor) : Prop where
  stop : (forms cursor).next.skip.text = [] ∨
    ∃ rest, (forms cursor).next.skip.text = ')' :: rest
  stretch : Stretch (tokensOf (formsOf (forms cursor).value)) (problemsOf (forms cursor).value)
    cursor.lexemes (forms cursor).next.skip.lexemes

section Forms

variable {cursor : Cursor} {reading : Reading Tree cursor.text.length}

theorem list?_covers (ih : ∀ inner : Cursor, inner.text.length < cursor.text.length →
      FormsCover inner) (h : list? cursor = some reading) : reading.Covers cursor := by
  rw [list?] at h
  split at h
  · cases h
  · next inner hinner =>
    obtain ⟨rest, htext, rfl⟩ := Cursor.pass?_eq_some_iff.mp hinner
    have hcover := ih _ (Cursor.length_lt_of_pass? hinner)
    have hlexemes := Cursor.lexemes_of_text htext
    rw [lexemesFrom_opening] at hlexemes
    rw [Reading.Covers, hlexemes]
    dsimp only at h
    split at h
    · next next hnext =>
      cases h
      obtain ⟨behind, hbehind, rfl⟩ := Cursor.pass?_eq_some_iff.mp hnext
      have hstretch := hcover.stretch
      rw [Cursor.lexemes_of_text hbehind, lexemesFrom_closing] at hstretch
      simpa [Tree.form, Form.tokens, Tree.problems, Cursor.lexemes] using hstretch.closed
    · next hnext =>
      split at h
      · next hend =>
        cases h
        have hstretch := hcover.stretch
        rw [Cursor.lexemes_of_nil hend] at hstretch
        rw [Cursor.lexemes_of_nil hend]
        simpa [Tree.form, Form.tokens, Tree.problems, Cursor.lexemes] using hstretch.unclosed
      · cases h

/-- A parenthesis begins a list, closed or not. -/
theorem exists_list (ih : ∀ inner : Cursor, inner.text.length < cursor.text.length →
      FormsCover inner) {rest : Text} (h : cursor.text = '(' :: rest) :
    ∃ reading, list? cursor = some reading := by
  rw [list?]
  split
  · next hinner => rw [Cursor.pass?_of_text h] at hinner; cases hinner
  · next inner hinner =>
    dsimp only
    split
    · exact ⟨_, rfl⟩
    · next hnext =>
      have hcover := ih _ (Cursor.length_lt_of_pass? hinner)
      rcases hcover.stop with hend | ⟨behind, hbehind⟩
      · exact ⟨_, if_pos hend⟩
      · rw [Cursor.pass?_of_text hbehind] at hnext
        cases hnext

theorem form?_covers (ih : ∀ inner : Cursor, inner.text.length < cursor.text.length →
      FormsCover inner) (h : form? cursor = some reading) : reading.Covers cursor := by
  rw [form?] at h
  split at h
  · next hlist => cases h; exact list?_covers ih hlist
  · split at h
    · next hstring => cases h; exact string?_covers hstring
    · split at h
      · next hunterminated => cases h; exact unterminated?_covers hunterminated
      · exact atom?_covers h

/-- No form begins only at the end of the source, and at a blank, a comment or a closing
parenthesis. -/
theorem text_of_form?_eq_none (ih : ∀ inner : Cursor, inner.text.length < cursor.text.length →
      FormsCover inner) (h : form? cursor = none) :
    cursor.text = [] ∨ ∃ c rest, cursor.text = c :: rest ∧
      (isBlank c = true ∨ c = ';' ∨ c = ')') := by
  rw [form?] at h
  split at h
  · cases h
  · next hlist =>
    split at h
    · cases h
    · next hstring =>
      split at h
      · cases h
      · next hunterminated =>
        cases htext : cursor.text with
        | nil => exact .inl rfl
        | cons c rest =>
          refine .inr ⟨c, rest, rfl, ?_⟩
          have hopening : c ≠ '(' := by
            rintro rfl
            obtain ⟨reading, hreading⟩ := exists_list ih htext
            rw [hlist] at hreading
            cases hreading
          have hquote : c ≠ '"' := by
            rintro rfl
            obtain ⟨reading, hreading⟩ := exists_literal htext hstring
            rw [hunterminated] at hreading
            cases hreading
          have hdelimiter := isDelimiter_of_atom?_eq_none htext h
          simp only [isDelimiter, Bool.or_eq_true, decide_eq_true_eq] at hdelimiter
          tauto

/-- Behind blanks and comments a form begins unless the source ends or a list is closed. -/
theorem text_skip_of_form?_eq_none (ih : ∀ inner : Cursor,
      inner.text.length < cursor.skip.text.length → FormsCover inner)
    (h : form? cursor.skip = none) :
    cursor.skip.text = [] ∨ ∃ rest, cursor.skip.text = ')' :: rest := by
  rcases text_of_form?_eq_none ih h with hend | ⟨c, rest, htext, hc⟩
  · exact .inl hend
  · rcases cursor.skip_cases with hend | ⟨c', rest', htext', hblank, hcomment⟩
    · exact .inl hend
    · obtain ⟨rfl, rfl⟩ := List.cons.inj (htext.symm.trans htext')
      rcases hc with hc | hc | rfl
      · simp [hblank] at hc
      · exact absurd hc hcomment
      · exact .inr ⟨rest, htext⟩

end Forms

/-- What the rule for forms reads is the stretch that it passes, up to the end of the source or to a
closing parenthesis. -/
theorem forms_cover (cursor : Cursor) : FormsCover cursor := by
  -- Forms inside a list and forms behind the first one both begin further on in the source.
  induction hlength : cursor.text.length using Nat.strongRecOn generalizing cursor with
  | _ length ih =>
  have hle := Cursor.length_skip_le cursor
  have ihskip : ∀ inner : Cursor, inner.text.length < cursor.skip.text.length →
      FormsCover inner := fun inner hlt => ih _ (by omega) inner rfl
  cases hform : form? cursor.skip with
  | none =>
    obtain ⟨hvalue, hnext⟩ := forms_of_none hform
    refine ⟨?_, ?_⟩
    · rw [hnext]
      exact text_skip_of_form?_eq_none ihskip hform
    · rw [hvalue, hnext, Cursor.lexemes_skip]
      exact .refl _
  | some first =>
    obtain ⟨hvalue, hnext⟩ := forms_of_some hform
    have hfirst : first.Covers cursor.skip := form?_covers ihskip hform
    have hothers := ihskip first.next first.length_lt
    rw [Reading.Covers, Cursor.lexemes_skip] at hfirst
    refine ⟨?_, ?_⟩
    · rw [hnext]
      exact hothers.stop
    · rw [hvalue, hnext]
      exact hfirst.append hothers.stretch

/-! ### Programs -/

/-- The parts of a program have been read up to the end of the source, and they are what its lexemes
say. -/
structure ItemsCover (cursor : Cursor) : Prop where
  stop : (items cursor).next.skip.text = []
  mend_eq : mend 0 (values cursor.lexemes) =
    tokensOf ((items cursor).value.filterMap Item.form?)
  complaints_eq : complaints [] cursor.lexemes = (items cursor).value.flatMap Item.problems

section Items

variable {cursor : Cursor} {reading : Reading Item cursor.text.length}

/-- What one part of a program adds to what follows it. -/
theorem item?_covers (h : item? cursor = some reading) :
    mend 0 (values cursor.lexemes) =
        tokensOf reading.value.form?.toList ++ mend 0 (values reading.next.lexemes) ∧
      complaints [] cursor.lexemes =
        reading.value.problems ++ complaints [] reading.next.lexemes := by
  unfold item? at h
  split at h
  · next tree htree =>
    cases h
    have hcover := form?_covers (fun inner _ => forms_cover inner) htree
    exact ⟨by simpa [Item.form?, tokensOf] using hcover.mend_eq 0,
      by simpa [Item.problems] using hcover.complaints_eq []⟩
  · next hform =>
    unfold stray? at h
    split at h
    · cases h
    · next next hnext =>
      cases h
      obtain ⟨rest, htext, rfl⟩ := Cursor.pass?_eq_some_iff.mp hnext
      have hlexemes := Cursor.lexemes_of_text htext
      rw [lexemesFrom_closing] at hlexemes
      rw [hlexemes]
      exact ⟨by simp [mend, Item.form?, tokensOf, Cursor.lexemes],
        by simp [complaints, Item.problems, Cursor.lexemes]⟩

/-- Behind blanks and comments a part of the program begins unless the source ends. -/
theorem text_of_item?_skip_eq_none (h : item? cursor.skip = none) : cursor.skip.text = [] := by
  unfold item? at h
  split at h
  · cases h
  · next hform =>
    rcases text_skip_of_form?_eq_none (fun inner _ => forms_cover inner) hform with
      hend | ⟨rest, htext⟩
    · exact hend
    · unfold stray? at h
      split at h
      · next hnext => rw [Cursor.pass?_of_text htext] at hnext; cases hnext
      · cases h

/-- Without a first part there are none. -/
theorem items_of_none (h : item? cursor.skip = none) :
    (items cursor).value = [] ∧ (items cursor).next = cursor := by
  rw [items]
  simp [h]

/-- Behind the first part come the others. -/
theorem items_of_some {first : Reading Item cursor.skip.text.length}
    (h : item? cursor.skip = some first) :
    (items cursor).value = first.value :: (items first.next).value ∧
      (items cursor).next = (items first.next).next := by
  rw [items]
  simp [h]

end Items

theorem items_cover (cursor : Cursor) : ItemsCover cursor := by
  induction hlength : cursor.text.length using Nat.strongRecOn generalizing cursor with
  | _ length ih =>
  cases hitem : item? cursor.skip with
  | none =>
    obtain ⟨hvalue, hnext⟩ := items_of_none hitem
    have hend := text_of_item?_skip_eq_none hitem
    have hlexemes : cursor.lexemes = [] := by
      rw [← cursor.lexemes_skip, Cursor.lexemes_of_nil hend]
    refine ⟨?_, ?_, ?_⟩
    · rw [hnext]
      exact hend
    · rw [hvalue, hlexemes]
      rfl
    · rw [hvalue, hlexemes]
      rfl
  | some first =>
    obtain ⟨hvalue, hnext⟩ := items_of_some hitem
    have hlt := Nat.lt_of_lt_of_le first.length_lt (Cursor.length_skip_le cursor)
    have hothers := ih _ (by omega) first.next rfl
    obtain ⟨hmend, hcomplaints⟩ := item?_covers hitem
    rw [Cursor.lexemes_skip] at hmend hcomplaints
    refine ⟨?_, ?_, ?_⟩
    · rw [hnext]
      exact hothers.stop
    · rw [hvalue, hmend, hothers.mend_eq, ← tokensOf_append]
      cases hform : first.value.form? <;> simp [hform]
    · rw [hvalue, hcomplaints, hothers.complaints_eq, List.flatMap_cons]

/-- No source is refused. -/
theorem items?_eq_ok (source : Text) : items? source = .ok (items ⟨.start, source⟩).value :=
  if_pos (items_cover ⟨.start, source⟩).stop

/-- The program of a source is its lexemes, mended. -/
theorem tokensOf_program (source : Text) : tokensOf (program source) = mend 0 (lex source) := by
  have hcover := items_cover ⟨.start, source⟩
  rw [program, items?_eq_ok]
  exact hcover.mend_eq.symm

/-- Forms whose tokens are the lexemes of a source, mended, are its program. -/
theorem program_eq_of_mend {source : Text} {forms : List Form}
    (h : mend 0 (lex source) = tokensOf forms) : program source = forms :=
  tokensOf_injective ((tokensOf_program source).trans h)

/-- The diagnostics for a source are the complaints about its lexemes. -/
theorem diagnostics_eq (source filename : Text) :
    diagnostics source filename =
      (complaints [] (lexemes source)).map (Problem.diagnostic filename) := by
  have hcover := items_cover ⟨.start, source⟩
  rw [diagnostics, items?_eq_ok]
  exact congrArg _ hcover.complaints_eq.symm

/-- Whatever the source is, the grammar does not refuse it, and the tokens of its program are its
lexemes without the closing parentheses that close nothing, with one more for every list left open
and with the last literal closed. -/
theorem tokensOf_parse (source filename : Text) :
    (∃ parts, items? source = .ok parts) ∧
      tokensOf (parse source filename).program = mend 0 (lex source) :=
  ⟨⟨_, items?_eq_ok source⟩, tokensOf_program source⟩

example : mend 0 (lex ")(a \"b\\".toList) =
    [.opening, .atom "a".toList, .string "b".toList, .closing] := by cbv

end GoldenFiles.Sexp
