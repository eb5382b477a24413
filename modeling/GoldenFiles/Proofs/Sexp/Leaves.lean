import GoldenFiles.Proofs.Sexp.RoundTrip

/-!
# Leaves of programs

The leaves of a program are its atoms and literals, whatever lists they stand in. A source only has
a program whose leaves can stand in a source, and all such forms are the program of some source. A
literal that is never closed is a leaf too, without a backslash that would escape the quote that
closes it. Whether there is one is found out by counting from the right. It is the backslash that is
left over from the left, where every other one takes a character with it.

## Main definitions

* `Occurs` — a form stands among forms, at any depth
* `Token.leaf?` — the leaf that a token is
* `units` — the body of a literal, read from the left

## Main results

* `mem_tokensOf_iff_occurs` — the leaves of forms are their tokens, parentheses aside
* `allWellFormed_iff_leaves` — forms can be written if their leaves can
* `validBody_iff` — a body can be written if no quote and no backslash stands alone in it
* `eq_closableBody_append` — what is dropped from a body to close it
* `exists_program_eq_iff` — forms are the program of some source if they can be written
* `leaves_parse` — the leaves of the programs of sources
-/

namespace GoldenFiles.Sexp

/-! ### Forms at any depth -/

/-- The form is one of the given ones, or stands at some depth in a list that is one of them. -/
inductive Occurs (form : Form) : List Form → Prop
  | here {forms : List Form} (h : form ∈ forms) : Occurs form forms
  | inside {items forms : List Form} (hlist : .list items ∈ forms) (h : Occurs form items) :
      Occurs form forms

/-- The atom or the literal that a token is. A parenthesis is neither. -/
def Token.leaf? : Token → Option Form
  | .atom text => some (.atom text)
  | .string body => some (.string body)
  | .opening | .closing => none

section Occurs

variable {form leaf : Form} {forms others : List Form} {token : Token}

theorem Occurs.mono (h : Occurs form forms) (hsubset : forms ⊆ others) : Occurs form others := by
  cases h with
  | here h => exact .here (hsubset h)
  | inside hlist h => exact .inside (hsubset hlist) h

theorem tokens_subset_tokensOf (h : form ∈ forms) : form.tokens ⊆ tokensOf forms := by
  induction forms with
  | nil => cases h
  | cons first rest ih =>
    rw [tokensOf]
    rcases List.mem_cons.mp h with rfl | h
    · exact List.subset_append_left _ _
    · exact List.subset_append_of_subset_right _ (ih h)

/-- Forms have the tokens of every form that stands among them. -/
theorem Occurs.tokens_subset (h : Occurs form forms) : form.tokens ⊆ tokensOf forms := by
  induction h with
  | here h => exact tokens_subset_tokensOf h
  | @inside items forms hlist _ ih =>
    have hitems : tokensOf items ⊆ (Form.list items).tokens := by
      rw [Form.tokens]
      exact List.subset_cons_of_subset _ (List.subset_append_left _ _)
    exact List.Subset.trans ih (List.Subset.trans hitems (tokens_subset_tokensOf hlist))

theorem Token.mem_tokens_of_leaf? (h : token.leaf? = some leaf) : token ∈ leaf.tokens := by
  cases token with
  | opening | closing => cases h
  | atom text | string body =>
    cases h
    exact List.mem_singleton_self _

mutual

theorem Form.occurs_of_mem_tokens (hleaf : token.leaf? = some leaf) :
    (form : Form) → token ∈ form.tokens → Occurs leaf [form]
  | .atom text, h | .string body, h => by
    obtain rfl := List.mem_singleton.mp h
    cases hleaf
    exact .here (List.mem_singleton_self _)
  | .list items, h => by
    have hitems : token ∈ tokensOf items := by
      simp only [Form.tokens, List.mem_cons, List.mem_append, List.not_mem_nil, or_false] at h
      rcases h with rfl | h | rfl
      · cases hleaf
      · exact h
      · cases hleaf
    exact .inside (List.mem_singleton_self _) (occurs_of_mem_tokensOf hleaf items hitems)

theorem occurs_of_mem_tokensOf (hleaf : token.leaf? = some leaf) :
    (forms : List Form) → token ∈ tokensOf forms → Occurs leaf forms
  | [], h => absurd h List.not_mem_nil
  | form :: rest, h => by
    rcases List.mem_append.mp h with h | h
    · exact (form.occurs_of_mem_tokens hleaf h).mono (by simp)
    · exact (occurs_of_mem_tokensOf hleaf rest h).mono (List.subset_cons_self _ _)

end

/-- The leaves of forms are their tokens, parentheses aside. -/
theorem mem_tokensOf_iff_occurs (hleaf : token.leaf? = some leaf) :
    token ∈ tokensOf forms ↔ Occurs leaf forms :=
  ⟨occurs_of_mem_tokensOf hleaf forms, fun h => h.tokens_subset (Token.mem_tokens_of_leaf? hleaf)⟩

/-- Forms can be written if their leaves can. -/
theorem allWellFormed_iff_leaves :
    AllWellFormed forms ↔
      (∀ text, Occurs (.atom text) forms → ValidAtom text) ∧
        ∀ body, Occurs (.string body) forms → validBody body = true := by
  rw [allWellFormed_iff]
  constructor
  · intro h
    refine ⟨?_, ?_⟩
    · intro text htext
      exact h (.atom text) ((mem_tokensOf_iff_occurs rfl).mpr htext)
    · intro body hbody
      exact h (.string body) ((mem_tokensOf_iff_occurs rfl).mpr hbody)
  · rintro ⟨hatoms, hbodies⟩ token htoken
    cases token with
    | opening | closing => trivial
    | atom text => exact hatoms text ((mem_tokensOf_iff_occurs rfl).mp htoken)
    | string body => exact hbodies body ((mem_tokensOf_iff_occurs rfl).mp htoken)

end Occurs

/-! ### Units of a body -/

/-- A body, read from the left: a backslash with the character that it takes with it, or any other
character alone. A backslash at the end that finds no character is a unit of its own. -/
def units : Text → List Text
  | [] => []
  | ['\\'] => [['\\']]
  | '\\' :: c :: rest => ['\\', c] :: units rest
  | c :: rest => [c] :: units rest

/-- A body can be written if no quote and no backslash stands alone in it. -/
theorem validBody_iff {body : Text} :
    validBody body = true ↔ ['"'] ∉ units body ∧ ['\\'] ∉ units body := by
  fun_induction units body with
  | case1 => simp [validBody]
  | case2 => simp [validBody]
  | case3 c rest ih => simp [validBody, ih]
  | case4 c rest hlast hpair ih =>
    have hbackslash : c ≠ '\\' := ne_backslash hlast hpair
    by_cases hquote : c = '"'
    · simp [validBody, hquote]
    · rw [validBody_cons_of_ne hquote hbackslash, ih]
      simp [Ne.symm hquote, Ne.symm hbackslash]

example : units "a\\\"b\\".toList = [['a'], ['\\', '"'], ['b'], ['\\']] := by decide

/-- A body is closed by dropping the backslash that stands alone in it, if one does. -/
theorem eq_closableBody_append (body : Text) :
    body = closableBody body ++ if ['\\'] ∈ units body then ['\\'] else [] := by
  rw [closableBody_eq_withoutLone]
  fun_induction units body with
  | case1 => rfl
  | case2 => rfl
  | case3 c rest ih => simpa [withoutLone] using ih
  | case4 c rest hlast hpair ih =>
    have hbackslash : c ≠ '\\' := ne_backslash hlast hpair
    rw [withoutLone_cons_of_ne hbackslash]
    simpa [Ne.symm hbackslash] using ih

/-! ### Programs of sources -/

/-- Mending closes a literal that is never closed. -/
theorem mem_mend_of_unterminated {depth : Nat} {lexemes : List Lexeme} {body : Text}
    (h : .unterminated body ∈ lexemes) : .string (closableBody body) ∈ mend depth lexemes := by
  rw [closableBody_eq_withoutLone]
  fun_induction mend depth lexemes with
  | case1 depth => cases h
  | case3 rest ih => exact ih ((List.mem_cons.mp h).resolve_left (by simp))
  | case7 depth found rest ih =>
    rcases List.mem_cons.mp h with h | h
    · cases h
      exact List.mem_cons_self
    · exact List.mem_cons_of_mem _ (ih h)
  | case2 depth rest ih | case4 depth rest ih | case5 depth rest text ih
  | case6 depth rest text ih =>
    exact List.mem_cons_of_mem _ (ih ((List.mem_cons.mp h).resolve_left (by simp)))

/-- Forms are the program of some source if they can be written. -/
theorem exists_program_eq_iff {forms : List Form} :
    (∃ source, program source = forms) ↔ AllWellFormed forms := by
  constructor
  · rintro ⟨source, rfl⟩
    exact allWellFormed_program source
  · intro h
    exact ⟨_, program_printProgram List.length defaultLimit h⟩

/-- Forms are the program of some source exactly if all their leaves, at any depth, can stand in a
source: no atom is empty or holds a delimiter, and in no literal, read from the left, a quote or a
backslash stands alone. A literal that the source never closes is a leaf as well. It loses a
backslash at its end exactly if that backslash stands alone, read from the left, and loses nothing
otherwise. -/
theorem leaves_parse (filename : Text) :
    (∀ forms, (∃ source, (parse source filename).program = forms) ↔
      (∀ text, Occurs (.atom text) forms →
        text ≠ [] ∧ ∀ c ∈ text, c ∉ [' ', '\t', '\r', '\n', '(', ')', '"', ';']) ∧
      ∀ body, Occurs (.string body) forms → ['"'] ∉ units body ∧ ['\\'] ∉ units body) ∧
    (∀ source body, .unterminated body ∈ lex source →
      Occurs (.string (closableBody body)) (parse source filename).program) ∧
    ∀ body, (body = closableBody body ++ ['\\'] ↔ ['\\'] ∈ units body) ∧
      (body = closableBody body ↔ ['\\'] ∉ units body) := by
  refine ⟨?_, ?_, ?_⟩
  · intro forms
    refine exists_program_eq_iff.trans (allWellFormed_iff_leaves.trans ?_)
    simp only [ValidAtom, validBody_iff]
  · intro source body h
    have hmem : .string (closableBody body) ∈ tokensOf (program source) := by
      rw [tokensOf_program]
      exact mem_mend_of_unterminated h
    exact (mem_tokensOf_iff_occurs rfl).mp hmem
  · intro body
    have heq := eq_closableBody_append body
    have hne : closableBody body ≠ closableBody body ++ ['\\'] := by simp
    by_cases hlone : ['\\'] ∈ units body
    · rw [if_pos hlone] at heq
      refine ⟨iff_of_true heq hlone, iff_of_false ?_ (not_not_intro hlone)⟩
      intro hkept
      exact hne (hkept.symm.trans heq)
    · rw [if_neg hlone, List.append_nil] at heq
      refine ⟨iff_of_false ?_ hlone, iff_of_true heq hlone⟩
      intro hdropped
      exact hne (heq.symm.trans hdropped)

/-- The third of three backslashes would escape the quote that closes the literal. Around the
literal there are two lists that are never closed. -/
theorem leaves_parse_openLiteral :
    .unterminated "c\\\\\\".toList ∈ lex "(a (b\"c\\\\\\".toList ∧
      ['\\'] ∈ units "c\\\\\\".toList ∧
      Occurs (.string "c\\\\".toList) (parse "(a (b\"c\\\\\\".toList []).program ∧
      ['"'] ∉ units "c\\\\".toList ∧ ['\\'] ∉ units "c\\\\".toList := by
  have hlex : lex "(a (b\"c\\\\\\".toList =
      [.token .opening, .token (.atom "a".toList), .token .opening, .token (.atom "b".toList),
        .unterminated "c\\\\\\".toList] := by decide +kernel
  have hopen : .unterminated "c\\\\\\".toList ∈ lex "(a (b\"c\\\\\\".toList := by
    rw [hlex]
    decide
  have hbody : closableBody "c\\\\\\".toList = "c\\\\".toList := by decide
  obtain ⟨hprograms, hliterals, hbackslash⟩ := leaves_parse []
  have hliteral := hliterals _ _ hopen
  rw [hbody] at hliteral
  have hunits := ((hprograms _).mp ⟨_, rfl⟩).2 _ hliteral
  exact ⟨hopen, (hbackslash _).1.mp (by decide), hliteral, hunits⟩

end GoldenFiles.Sexp
