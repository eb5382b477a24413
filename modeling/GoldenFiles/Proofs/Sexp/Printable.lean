import GoldenFiles.Proofs.Sexp.Recovery

/-!
# Programs that are read can be printed

Every atom and every body that comes out of a source is one that can stand in a source: atoms are
not empty and hold no delimiter, and bodies leave no quote and no backslash over.

## Main definitions

* `Token.Valid` — a token that can be written as it is

## Main results

* `allWellFormed_iff` — forms can be written if all their tokens can
* `valid_of_mem_mend` — mending leaves only tokens that can be written
* `allWellFormed_program` — the program of a source can be written
-/

namespace GoldenFiles.Sexp

/-- The text of an atom and the body of a literal can be written as they are. -/
def Token.Valid : Token → Prop
  | .atom text => ValidAtom text
  | .string body => validBody body = true
  | .opening | .closing => True

/-- What a lexeme is mended to can be written. -/
def Lexeme.Mendable : Lexeme → Prop
  | .token content => content.Valid
  | .unterminated body => validBody (withoutLone body) = true

/-! ### Forms and their tokens -/

mutual

theorem Form.wellFormed_iff :
    (form : Form) → (form.WellFormed ↔ ∀ token ∈ form.tokens, token.Valid)
  | .atom text => by simp [Form.WellFormed, Form.tokens, Token.Valid]
  | .string body => by simp [Form.WellFormed, Form.tokens, Token.Valid]
  | .list items => by
    rw [Form.WellFormed, allWellFormed_iff items, Form.tokens]
    simp [Token.Valid, or_imp, forall_and]

/-- Forms can be written if all their tokens can. -/
theorem allWellFormed_iff :
    (forms : List Form) → (AllWellFormed forms ↔ ∀ token ∈ tokensOf forms, token.Valid)
  | [] => by simp [AllWellFormed, tokensOf]
  | form :: rest => by
    rw [AllWellFormed, form.wellFormed_iff, allWellFormed_iff rest, tokensOf]
    simp [or_imp, forall_and]

end

/-! ### Lexemes -/

theorem validBody_cons_of_ne {c : Char} (hquote : c ≠ '"') (hbackslash : c ≠ '\\') (rest : Text) :
    validBody (c :: rest) = validBody rest := by
  rw [validBody]
  · exact hquote
  · exact fun h => absurd h hbackslash
  · exact fun _ _ h => absurd h hbackslash

theorem withoutLone_cons_of_ne {c : Char} (hbackslash : c ≠ '\\') (rest : Text) :
    withoutLone (c :: rest) = c :: withoutLone rest := by
  rw [withoutLone]
  · exact fun h => absurd h hbackslash
  · exact fun _ _ h => absurd h hbackslash

/-- The body of a literal whose closing quote has been found can be written. -/
theorem validBody_readBody {text : Text} (h : (readBody text).2.isSome) :
    validBody (readBody text).1 = true := by
  fun_induction readBody text with
  | case1 => simp at h
  | case2 rest => rfl
  | case3 c rest ih => exact ih h
  | case4 c rest hquote hpair ih =>
    -- A lone backslash at the end would have left the literal open.
    have hlast : c = '\\' → rest = [] → False := by
      rintro rfl rfl
      simp [readBody] at h
    have hbackslash : c ≠ '\\' := ne_backslash hlast hpair
    rw [validBody_cons_of_ne hquote hbackslash]
    exact ih h

/-- The body of any literal can be written once a backslash that is left over has been dropped. -/
theorem validBody_withoutLone_readBody (text : Text) :
    validBody (withoutLone (readBody text).1) = true := by
  fun_induction readBody text with
  | case1 => rfl
  | case2 rest => rfl
  | case3 c rest ih => exact ih
  | case4 c rest hquote hpair ih =>
    by_cases hbackslash : c = '\\'
    · subst hbackslash
      cases rest with
      | nil => rfl
      | cons d rest => exact absurd rfl (hpair d rest rfl)
    · rw [withoutLone_cons_of_ne hbackslash, validBody_cons_of_ne hquote hbackslash]
      exact ih

/-- Every lexeme of a source can be written, once it is mended. -/
theorem mendable_of_mem_lexemesFrom {p : Position} {text : Text} {lexeme : Located Lexeme}
    (h : lexeme ∈ lexemesFrom p text) : lexeme.value.Mendable := by
  fun_induction lexemesFrom p text with
  | case1 => simp at h
  | case2 p c rest _ ih => exact ih h
  | case3 p rest _ ih => exact ih h
  | case4 p rest _ _ ih =>
    rcases List.mem_cons.mp h with rfl | h
    · trivial
    · exact ih h
  | case5 p rest _ _ _ ih =>
    rcases List.mem_cons.mp h with rfl | h
    · trivial
    · exact ih h
  | case6 p rest body behind hbody _ _ _ _ ih =>
    rcases List.mem_cons.mp h with rfl | h
    · have hvalid : validBody (readBody rest).1 = true := validBody_readBody (by simp [hbody])
      rwa [hbody] at hvalid
    · exact ih h
  | case7 p rest body hbody =>
    obtain rfl := List.mem_singleton.mp h
    have hvalid := validBody_withoutLone_readBody rest
    rwa [hbody] at hvalid
  | case8 p c rest h1 h2 h3 h4 h5 ih =>
    rcases List.mem_cons.mp h with rfl | h
    · refine ⟨List.cons_ne_nil _ _, ?_⟩
      intro d hd
      rcases List.mem_cons.mp hd with rfl | hd
      · simp_all
      · simpa only [decide_eq_true_eq] using List.all_eq_true.mp List.all_takeWhile d hd
    · exact ih h

/-! ### Programs -/

/-- Mending leaves only tokens that can be written. -/
theorem valid_of_mem_mend {depth : Nat} {lexemes : List Lexeme} {token : Token}
    (hall : ∀ lexeme ∈ lexemes, lexeme.Mendable) (h : token ∈ mend depth lexemes) :
    token.Valid := by
  fun_induction mend depth lexemes with
  | case1 depth => rw [(List.mem_replicate.mp h).2]; trivial
  | case3 rest ih => exact ih (fun lexeme hlexeme => hall lexeme (List.mem_cons_of_mem _ hlexeme)) h
  | case2 depth rest ih | case4 depth rest ih | case5 depth rest text ih
  | case6 depth rest body ih | case7 depth rest body ih =>
    rcases List.mem_cons.mp h with rfl | h
    · first
      | trivial
      | exact hall _ List.mem_cons_self
    · exact ih (fun lexeme hlexeme => hall lexeme (List.mem_cons_of_mem _ hlexeme)) h

/-- The program of a source can be written. -/
theorem allWellFormed_program (source : Text) : AllWellFormed (program source) := by
  rw [allWellFormed_iff, tokensOf_program]
  intro token htoken
  refine valid_of_mem_mend ?_ htoken
  intro lexeme hlexeme
  obtain ⟨located, hlocated, rfl⟩ := List.mem_map.mp hlexeme
  exact mendable_of_mem_lexemesFrom hlocated

end GoldenFiles.Sexp
