import GoldenFiles.Proofs.Sexp.RoundTrip
import Mathlib.Data.List.Induction

/-!
# The diagnostics of a source

What is wrong with a source is read off its lexemes in one pass that remembers which lists are open.
Everything that is wrong at its own place comes first, from left to right; the lists that are left
open follow, innermost first. Every diagnostic names the place of the characters that it is about.

## Main definitions

* `Position.behind`, `Position.Before` — the place behind a text, and the order of places
* `Laid` — lexemes that stand in a text where they say
* `escapes`, `strange` — the escapes of a body, and those that mean nothing
* `faults`, `leftOpen` — what is wrong at its own place, and the lists that are left open
* `Balanced` — every parenthesis has its partner

## Main results

* `laid_lexemesFrom` — the lexemes of a source stand where they say
* `complaints_eq` — the complaints about lexemes are their faults and the lists left open
* `stands_of_mem_faults`, `pairwise_faults` — faults stand where they say, from left to right
* `stands_of_mem_leftOpen`, `pairwise_leftOpen` — so do open lists, from right to left
* `diagnostics_parse` — the diagnostics of a source
-/

namespace GoldenFiles

/-! ### Places -/

namespace Position

variable {p q r : Position} {text : Text}

/-- The place behind a text that begins at the first place. A line begins behind each line feed,
also behind one that is part of a pair; whatever else stands behind the last of them is a column. -/
def behind (text : Text) : Position where
  line := text.count '\n' + 1
  column := (text.reverse.takeWhile (· ≠ '\n')).length + 1

theorem start_after (text : Text) : start.after text = behind text := by
  -- The last character decides whether a line ends or a column is added.
  induction text using List.reverseRecOn with
  | nil => rfl
  | append_singleton text c ih =>
    rw [after_append, ih, after_cons, after_nil, advance]
    by_cases h : c = '\n'
    · simp [behind, h]
    · simp [behind, h]

/-- One place comes before another. -/
def Before (p q : Position) : Prop := p.line < q.line ∨ p.line = q.line ∧ p.column < q.column

theorem Before.trans (h : p.Before q) (h' : q.Before r) : p.Before r := by
  unfold Before at *
  omega

theorem before_advance (p : Position) (c : Char) : p.Before (p.advance c) := by
  unfold advance
  split
  · exact .inl (Nat.lt_succ_self _)
  · exact .inr ⟨rfl, Nat.lt_succ_self _⟩

theorem before_after (h : text ≠ []) : p.Before (p.after text) := by
  induction text generalizing p with
  | nil => exact absurd rfl h
  | cons c rest ih =>
    rw [after_cons]
    by_cases hrest : rest = []
    · rw [hrest]
      exact p.before_advance c
    · exact (p.before_advance c).trans (ih hrest)

theorem Before.after (h : p.Before q) (text : Text) : p.Before (q.after text) := by
  by_cases htext : text = []
  · rwa [htext]
  · exact h.trans (before_after htext)

end Position

namespace Sexp

variable {p : Position} {text rest : Text}

/-! ### Lexemes in a text -/

/-- The characters of a lexeme. -/
def Lexeme.spelling : Lexeme → Text
  | .token .opening => ['(']
  | .token .closing => [')']
  | .token (.atom text) => text
  | .token (.string body) => '"' :: (body ++ ['"'])
  | .unterminated body => '"' :: body

/-- Lexemes stand one behind the other in a text that begins at a place, each of them where it says,
with gaps between them. -/
inductive Laid : Position → Text → List (Located Lexeme) → Prop
  | nil {p : Position} {text : Text} : Laid p text []
  | cons {p : Position} {lexeme : Lexeme} {others : List (Located Lexeme)} (gap : Text)
    {rest : Text}
    (h : Laid ((p.after gap).after lexeme.spelling) rest others) :
    Laid p (gap ++ (lexeme.spelling ++ rest)) (⟨p.after gap, lexeme⟩ :: others)

theorem Laid.behind {lexemes : List (Located Lexeme)} (gap : Text)
    (h : Laid (p.after gap) text lexemes) : Laid p (gap ++ text) lexemes := by
  cases h with
  | nil => exact .nil
  | cons inner h =>
    rw [← Position.after_append p gap inner] at h ⊢
    rw [← List.append_assoc]
    exact .cons _ h

/-- A lexeme that stands at the beginning. -/
theorem Laid.here {lexeme : Lexeme} {others : List (Located Lexeme)} (rest : Text)
    (htext : text = lexeme.spelling ++ rest) (h : Laid (p.after lexeme.spelling) rest others) :
    Laid p text (⟨p, lexeme⟩ :: others) := by
  rw [htext]
  exact .cons [] h

theorem eq_of_readBody_some {body behind : Text} (h : readBody text = (body, some behind)) :
    text = body ++ '"' :: behind := by
  fun_induction readBody text generalizing body <;> grind

theorem eq_of_readBody_none {body : Text} (h : readBody text = (body, none)) : text = body := by
  fun_induction readBody text generalizing body <;> grind

/-- The lexemes of a source stand where they say. -/
theorem laid_lexemesFrom (p : Position) (text : Text) : Laid p text (lexemesFrom p text) := by
  fun_induction lexemesFrom p text with
  | case1 => exact .nil
  | case2 p c rest _ ih => exact ih.behind [c]
  | case3 p rest _ ih =>
    -- A comment is part of a gap, and the line feed behind it is not part of the comment.
    have hgap : Laid p (';' :: (commentHead rest ++ commentTail rest)) _ :=
      ih.behind (';' :: commentHead rest)
    rwa [commentHead, commentTail, List.takeWhile_append_dropWhile] at hgap
  | case4 p rest _ _ ih => exact .here rest rfl ih
  | case5 p rest _ _ _ ih => exact .here rest rfl ih
  | case6 p rest body behind hbody _ _ _ _ ih =>
    refine .here behind ?_ ?_
    · simp [Lexeme.spelling, eq_of_readBody_some hbody]
    · simpa [Lexeme.spelling] using ih
  | case7 p rest body hbody =>
    refine .here [] ?_ .nil
    simp [Lexeme.spelling, eq_of_readBody_none hbody]
  | case8 p c rest _ _ _ _ _ ih =>
    refine .here (atomTail rest) ?_ ih
    simp [Lexeme.spelling, atomHead, atomTail]

/-! ### Escapes that mean nothing -/

/-- The escapes of a body: every backslash with the character that it takes with it. -/
def escapes (p : Position) : Text → List (Located Char)
  | [] => []
  | '\\' :: c :: rest => ⟨p, c⟩ :: escapes ((p.advance '\\').advance c) rest
  | c :: rest => escapes (p.advance c) rest

/-- The escapes of a body that mean nothing, as problems. -/
def strange (p : Position) (body : Text) : List (Located Problem) :=
  ((escapes p body).filter fun pair => pair.value ∉ ['"', '\\', 'n', 't', 'r']).map fun pair =>
    ⟨pair.position, .unknownEscape pair.value⟩

theorem unknownEscapes_eq_strange (p : Position) (body : Text) :
    unknownEscapes p body = strange p body := by
  fun_induction unknownEscapes p body with
  | case1 => rfl
  | case2 p c rest behind hknown ih =>
    refine ih.trans ?_
    rw [isKnownEscape_iff] at hknown
    rw [strange, strange, escapes,
      List.filter_cons_of_neg (by rw [decide_eq_true_eq]; exact not_not_intro hknown)]
  | case3 p c rest behind hunknown ih =>
    refine (congrArg _ ih).trans ?_
    rw [isKnownEscape_iff] at hunknown
    rw [strange, strange, escapes,
      List.filter_cons_of_pos (by rw [decide_eq_true_eq]; exact hunknown)]
    rfl
  | case4 p c rest hpair ih =>
    rw [ih, strange, strange, escapes]
    exact hpair

/-! ### Problems in a text -/

/-- The characters that a problem is about. -/
def Problem.sign : Problem → Text
  | .strayClosing => [')']
  | .unclosedList => ['(']
  | .unterminatedString => ['"']
  | .unknownEscape c => ['\\', c]

theorem Problem.sign_ne_nil (problem : Problem) : problem.sign ≠ [] := by
  cases problem <;> exact List.cons_ne_nil _ _

/-- The characters that a problem is about stand where it says, in a text that begins at a place. -/
def Stands (p : Position) (text : Text) (problem : Located Problem) : Prop :=
  ∃ before rest, text = before ++ (problem.value.sign ++ rest) ∧ problem.position = p.after before

namespace Stands

variable {problem other : Located Problem}

theorem here {kind : Problem} (rest : Text) (htext : text = kind.sign ++ rest) :
    Stands p text ⟨p, kind⟩ :=
  ⟨[], rest, htext, rfl⟩

theorem behind (text : Text) (h : Stands (p.after text) rest problem) :
    Stands p (text ++ rest) problem := by
  obtain ⟨before, more, rfl, hposition⟩ := h
  refine ⟨text ++ before, more, ?_, ?_⟩
  · rw [List.append_assoc]
  · rw [hposition, Position.after_append]

theorem within (h : Stands p text problem) (rest : Text) : Stands p (text ++ rest) problem := by
  obtain ⟨before, more, rfl, hposition⟩ := h
  exact ⟨before, more ++ rest, by simp, hposition⟩

/-- A problem comes before all that follow the text in which it stands. -/
theorem before (h : Stands p text problem) (hother : Stands (p.after text) rest other) :
    problem.position.Before other.position := by
  obtain ⟨before, more, rfl, hposition⟩ := h
  obtain ⟨between, -, -, hotherPosition⟩ := hother
  have hbetween : other.position =
      problem.position.after (problem.value.sign ++ (more ++ between)) := by
    rw [hotherPosition, hposition]
    simp only [Position.after_append]
  rw [hbetween]
  apply Position.before_after
  simp [problem.value.sign_ne_nil]

end Stands

theorem stands_of_mem_unknownEscapes {problem : Located Problem} {body : Text}
    (h : problem ∈ unknownEscapes p body) : Stands p body problem := by
  fun_induction unknownEscapes p body with
  | case1 => simp at h
  | case2 p c rest behind _ ih => exact (ih h).behind ['\\', c]
  | case3 p c rest behind _ ih =>
    rcases List.mem_cons.mp h with rfl | h
    · exact .here rest rfl
    · exact (ih h).behind ['\\', c]
  | case4 p c rest _ ih => exact (ih h).behind [c]

theorem pairwise_unknownEscapes (p : Position) (body : Text) :
    (unknownEscapes p body).Pairwise fun a b => a.position.Before b.position := by
  fun_induction unknownEscapes p body with
  | case1 => exact .nil
  | case2 p c rest behind _ ih => exact ih
  | case3 p c rest behind _ ih =>
    refine .cons ?_ ih
    intro other hother
    have hpair : Stands p ['\\', c] ⟨p, .unknownEscape c⟩ := .here [] rfl
    exact hpair.before (stands_of_mem_unknownEscapes hother)
  | case4 p c rest _ ih => exact ih

/-! ### What is wrong with a source -/

/-- The places of the lists that are open behind a lexeme, innermost first. -/
def openedBehind (opened : List Position) (lexeme : Located Lexeme) : List Position :=
  match lexeme.value with
  | .token .opening => lexeme.position :: opened
  | .token .closing => opened.tail
  | _ => opened

/-- What is wrong with a lexeme at its own place, when lists that begin at the given places are
open. -/
def faultsAt (opened : List Position) (lexeme : Located Lexeme) : List (Located Problem) :=
  match lexeme.value with
  | .token .closing => if opened = [] then [⟨lexeme.position, .strayClosing⟩] else []
  | .token (.string body) => strange (lexeme.position.advance '"') body
  | .unterminated body =>
    ⟨lexeme.position, .unterminatedString⟩ :: strange (lexeme.position.advance '"') body
  | _ => []

/-- What is wrong with lexemes at their own places. -/
def faults : List Position → List (Located Lexeme) → List (Located Problem)
  | _, [] => []
  | opened, lexeme :: others =>
    faultsAt opened lexeme ++ faults (openedBehind opened lexeme) others

/-- The places of the lists that are open behind lexemes, innermost first. -/
def leftOpen (opened : List Position) (lexemes : List (Located Lexeme)) : List Position :=
  lexemes.foldl openedBehind opened

/-- The complaints about lexemes are their faults, and then the lists left open. -/
theorem complaints_eq (opened : List Position) (lexemes : List (Located Lexeme)) :
    complaints opened lexemes =
      faults opened lexemes ++ (leftOpen opened lexemes).map (⟨·, .unclosedList⟩) := by
  fun_induction complaints opened lexemes with
  | case1 opened => rfl
  | case2 opened start others ih => exact ih
  | case3 start others ih => exact congrArg _ ih
  | case4 _ opened _ others ih => exact ih
  | case5 opened start text others ih => exact ih
  | case6 opened start body others ih =>
    rw [ih, unknownEscapes_eq_strange, ← List.append_assoc]
    rfl
  | case7 opened start body others ih =>
    rw [ih, unknownEscapes_eq_strange, ← List.append_assoc]
    rfl

/-- A fault of a lexeme is about characters of the lexeme. -/
theorem stands_of_mem_faultsAt {opened : List Position} {lexeme : Located Lexeme}
    {problem : Located Problem} (h : problem ∈ faultsAt opened lexeme) :
    Stands lexeme.position lexeme.value.spelling problem := by
  obtain ⟨start, value⟩ := lexeme
  have hbody : ∀ {body}, problem ∈ strange (start.advance '"') body →
      Stands start ('"' :: body) problem := by
    intro body hmem
    rw [← unknownEscapes_eq_strange] at hmem
    exact (stands_of_mem_unknownEscapes hmem).behind ['"']
  match value with
  | .token .opening => simp [faultsAt] at h
  | .token (.atom text) => simp [faultsAt] at h
  | .token .closing =>
    by_cases hopened : opened = []
    · obtain rfl : problem = ⟨start, .strayClosing⟩ := by simpa [faultsAt, hopened] using h
      exact .here [] rfl
    · simp [faultsAt, hopened] at h
  | .token (.string body) => exact (hbody h).within ['"']
  | .unterminated body =>
    rcases List.mem_cons.mp h with rfl | h
    · exact .here body rfl
    · exact hbody h

theorem pairwise_faultsAt (opened : List Position) (lexeme : Located Lexeme) :
    (faultsAt opened lexeme).Pairwise fun a b => a.position.Before b.position := by
  obtain ⟨start, value⟩ := lexeme
  match value with
  | .token .opening => exact .nil
  | .token (.atom text) => exact .nil
  | .token .closing =>
    simp only [faultsAt]
    split
    · exact List.pairwise_singleton _ _
    · exact .nil
  | .token (.string body) =>
    simp only [faultsAt, ← unknownEscapes_eq_strange]
    exact pairwise_unknownEscapes _ body
  | .unterminated body =>
    simp only [faultsAt, ← unknownEscapes_eq_strange]
    refine .cons ?_ (pairwise_unknownEscapes _ body)
    intro other hother
    have hquote : Stands start ['"'] ⟨start, .unterminatedString⟩ := .here [] rfl
    exact hquote.before (stands_of_mem_unknownEscapes hother)

/-- Faults stand where they say. -/
theorem stands_of_mem_faults {lexemes : List (Located Lexeme)} {opened : List Position}
    {problem : Located Problem} (hlaid : Laid p text lexemes)
    (h : problem ∈ faults opened lexemes) :
    Stands p text problem := by
  induction hlaid generalizing opened with
  | nil => simp [faults] at h
  | cons gap hothers ih =>
    refine .behind gap ?_
    rcases List.mem_append.mp h with hhere | hlater
    · exact (stands_of_mem_faultsAt hhere).within _
    · exact (ih hlater).behind _

/-- Faults are listed from left to right. -/
theorem pairwise_faults {lexemes : List (Located Lexeme)} (hlaid : Laid p text lexemes)
    (opened : List Position) :
    (faults opened lexemes).Pairwise fun a b => a.position.Before b.position := by
  induction hlaid generalizing opened with
  | nil => exact .nil
  | cons gap hothers ih =>
    refine List.pairwise_append.mpr ⟨pairwise_faultsAt _ _, ih _, ?_⟩
    intro problem hhere other hlater
    exact (stands_of_mem_faultsAt hhere).before (stands_of_mem_faults hothers hlater)

/-- Lists left open stand where they say, or have been open before. -/
theorem stands_of_mem_leftOpen {lexemes : List (Located Lexeme)} {opened : List Position}
    {start : Position} (hlaid : Laid p text lexemes) (h : start ∈ leftOpen opened lexemes) :
    start ∈ opened ∨ Stands p text ⟨start, .unclosedList⟩ := by
  induction hlaid generalizing opened with
  | nil => exact .inl h
  | @cons p lexeme others gap rest hothers ih =>
    rcases ih h with hopened | hstands
    · match lexeme with
      | .token .opening =>
        rcases List.mem_cons.mp hopened with rfl | hopened
        · exact .inr (.behind gap (.here rest rfl))
        · exact .inl hopened
      | .token .closing => exact .inl (List.mem_of_mem_tail hopened)
      | .token (.atom _) | .token (.string _) | .unterminated _ => exact .inl hopened
    · exact .inr (.behind gap (.behind _ hstands))

/-- Lists left open are listed from right to left. -/
theorem pairwise_leftOpen {lexemes : List (Located Lexeme)} {opened : List Position}
    (hlaid : Laid p text lexemes) (hopened : opened.Pairwise fun a b => b.Before a)
    (hbefore : ∀ start ∈ opened, start.Before p) :
    (leftOpen opened lexemes).Pairwise fun a b => b.Before a := by
  induction hlaid generalizing opened with
  | nil => exact hopened
  | @cons p lexeme others gap rest hothers ih =>
    have hhere : ∀ start ∈ opened, start.Before (p.after gap) := fun start hmem =>
      (hbefore start hmem).after gap
    have hbehind : ∀ start ∈ opened, start.Before ((p.after gap).after lexeme.spelling) :=
      fun start hmem => (hhere start hmem).after _
    match lexeme with
    | .token .opening =>
      refine ih (.cons hhere hopened) ?_
      intro start hmem
      rcases List.mem_cons.mp hmem with rfl | hmem
      · exact Position.before_advance _ '('
      · exact hbehind start hmem
    | .token .closing =>
      exact ih hopened.tail fun start hmem => hbehind start (List.mem_of_mem_tail hmem)
    | .token (.atom _) | .token (.string _) | .unterminated _ => exact ih hopened hbehind

/-! ### Sources without errors -/

/-- The number of opening parentheses. -/
def openings (lexemes : List Lexeme) : Nat := lexemes.count (.token .opening)

/-- The number of closing parentheses. -/
def closings (lexemes : List Lexeme) : Nat := lexemes.count (.token .closing)

/-- The parentheses of lexemes balance, with so many lists open before them: every closing
parenthesis has something to close, and in the end nothing is open. -/
def Balanced (depth : Nat) (lexemes : List Lexeme) : Prop :=
  (∀ earlier, earlier <+: lexemes → closings earlier ≤ depth + openings earlier) ∧
    depth + openings lexemes = closings lexemes

/-- No literal runs to the end of the source. -/
def AllClosed (lexemes : List Lexeme) : Prop := ∀ body, .unterminated body ∉ lexemes

section Count

variable {lexeme : Lexeme} {others : List Lexeme} {depth : Nat}

theorem openings_cons :
    openings (lexeme :: others) = openings others + if lexeme = .token .opening then 1 else 0 := by
  simp [openings, List.count_cons]

theorem closings_cons :
    closings (lexeme :: others) = closings others + if lexeme = .token .closing then 1 else 0 := by
  simp [closings, List.count_cons]

theorem balanced_nil : Balanced depth [] ↔ depth = 0 := by
  simp [Balanced, closings, openings]

/-- The beginnings of lexemes are none of them, or the first one with a beginning of the others. -/
theorem balanced_cons :
    Balanced depth (lexeme :: others) ↔
      (∀ earlier, earlier <+: others →
        closings (lexeme :: earlier) ≤ depth + openings (lexeme :: earlier)) ∧
      depth + openings (lexeme :: others) = closings (lexeme :: others) := by
  refine and_congr_left' ⟨?_, ?_⟩
  · intro h earlier hearlier
    exact h _ (List.prefix_cons_inj lexeme |>.mpr hearlier)
  · intro h earlier hearlier
    rcases List.prefix_cons_iff.mp hearlier with rfl | ⟨tail, rfl, htail⟩
    · exact Nat.zero_le _
    · exact h tail htail

theorem balanced_opening :
    Balanced depth (.token .opening :: others) ↔ Balanced (depth + 1) others := by
  rw [balanced_cons, Balanced]
  simp only [openings_cons, closings_cons]
  simp [Nat.add_assoc, Nat.add_comm 1]

theorem balanced_closing :
    Balanced depth (.token .closing :: others) ↔
      0 < depth ∧ Balanced (depth - 1) others := by
  have hopenings (lexemes : List Lexeme) :
      openings (.token .closing :: lexemes) = openings lexemes := by
    simp [openings_cons]
  have hclosings (lexemes : List Lexeme) :
      closings (.token .closing :: lexemes) = closings lexemes + 1 := by
    simp [closings_cons]
  rw [balanced_cons, Balanced]
  simp only [hopenings, hclosings]
  constructor
  · rintro ⟨hearlier, hall⟩
    have hdepth : 0 < depth := by
      have hnone : closings [] + 1 ≤ depth + openings [] := hearlier [] List.nil_prefix
      exact Nat.zero_lt_of_lt hnone
    refine ⟨hdepth, ?_, by omega⟩
    intro earlier h
    have hbehind := hearlier earlier h
    omega
  · rintro ⟨hdepth, hearlier, hall⟩
    refine ⟨?_, by omega⟩
    intro earlier h
    have hbehind := hearlier earlier h
    omega

theorem balanced_other (hopening : lexeme ≠ .token .opening) (hclosing : lexeme ≠ .token .closing) :
    Balanced depth (lexeme :: others) ↔ Balanced depth others := by
  rw [balanced_cons, Balanced]
  simp only [openings_cons, closings_cons, if_neg hopening, if_neg hclosing, Nat.add_zero]

end Count

theorem severity_of_mem_strange {problem : Located Problem} {body : Text}
    (h : problem ∈ strange p body) : problem.value.severity = .warning := by
  obtain ⟨pair, -, rfl⟩ := List.mem_map.mp h
  rfl

/-- There is no error among the faults, and no list is left open, if the parentheses balance and the
literals close. -/
theorem errorFree_iff (opened : List Position) (lexemes : List (Located Lexeme)) :
    ((∀ problem ∈ faults opened lexemes, problem.value.severity ≠ .error) ∧
        leftOpen opened lexemes = []) ↔
      Balanced opened.length (values lexemes) ∧ AllClosed (values lexemes) := by
  induction lexemes generalizing opened with
  | nil => simp [faults, leftOpen, balanced_nil, AllClosed]
  | cons lexeme others ih =>
    obtain ⟨start, value⟩ := lexeme
    have hleft : leftOpen opened (⟨start, value⟩ :: others) =
      leftOpen (openedBehind opened ⟨start, value⟩) others := rfl
    rw [faults, List.forall_mem_append, and_assoc, hleft, ih, values_cons]
    match value with
    | .token .opening =>
      rw [balanced_opening]
      simp [faultsAt, openedBehind, AllClosed]
    | .token .closing =>
      rw [balanced_closing]
      by_cases hopened : opened = []
      · simp [faultsAt, hopened, Problem.severity]
      · simp [faultsAt, openedBehind, AllClosed, hopened, List.length_pos_iff]
    | .token (.atom text) =>
      rw [balanced_other (by simp) (by simp)]
      simp [faultsAt, openedBehind, AllClosed]
    | .token (.string body) =>
      rw [balanced_other (by simp) (by simp)]
      have hwarnings : ∀ problem ∈ strange (start.advance '"') body,
          problem.value.severity ≠ .error := by
        intro problem hmem
        rw [severity_of_mem_strange hmem]
        decide
      simpa [faultsAt, openedBehind, AllClosed] using fun _ _ => hwarnings
    | .unterminated body =>
      have hopen : ¬ AllClosed (.unterminated body :: values others) := fun h =>
        h body List.mem_cons_self
      simp [faultsAt, Problem.severity, hopen]

/-! ### The diagnostics -/

/-- The diagnostics for a source are what is wrong with it at its own place, from left to right, and
then the lists left open, innermost first. All of them carry the name of the file and the place of
the characters that they are about. None of them is an error exactly if the parentheses balance and
all literals close. -/
theorem diagnostics_parse (source filename : Text) :
    let found := faults [] (lexemes source)
    let unclosed : List (Located Problem) :=
      (leftOpen [] (lexemes source)).map (⟨·, .unclosedList⟩)
    (parse source filename).diagnostics = (found ++ unclosed).map (fun problem =>
        { severity := match problem.value with
            | .strayClosing | .unclosedList | .unterminatedString => .error
            | .unknownEscape _ => .warning
          message := match problem.value with
            | .strayClosing => "Unexpected ')'".toList
            | .unclosedList => "')' expected".toList
            | .unterminatedString => "Unterminated string literal".toList
            | .unknownEscape c => "Unknown escape sequence '\\".toList ++ [c] ++ "'".toList
          filename := filename
          line := problem.position.line
          column := problem.position.column }) ∧
      (∀ problem ∈ found ++ unclosed, ∃ before rest,
        source = before ++ (problem.value.sign ++ rest) ∧ problem.position = .behind before) ∧
      found.Pairwise (fun a b => a.position.Before b.position) ∧
      unclosed.Pairwise (fun a b => b.position.Before a.position) ∧
      ((∀ d ∈ (parse source filename).diagnostics, d.severity ≠ .error) ↔
        Balanced 0 (lex source) ∧ AllClosed (lex source)) := by
  intro found unclosed
  have hlaid : Laid .start source (lexemes source) := laid_lexemesFrom .start source
  have hdiagnostics : (parse source filename).diagnostics =
      (found ++ unclosed).map (Problem.diagnostic filename) := by
    change diagnostics source filename = _
    rw [diagnostics_eq, complaints_eq]
  refine ⟨hdiagnostics.trans ?_, ?_, pairwise_faults hlaid [], ?_, ?_⟩
  · refine List.map_congr_left ?_
    rintro ⟨position, kind⟩ -
    cases kind <;> rfl
  · intro problem hmem
    have hstands : Stands .start source problem := by
      rcases List.mem_append.mp hmem with hfound | hunclosed
      · exact stands_of_mem_faults hlaid hfound
      · obtain ⟨start, hstart, rfl⟩ := List.mem_map.mp hunclosed
        exact (stands_of_mem_leftOpen hlaid hstart).resolve_left List.not_mem_nil
    obtain ⟨before, rest, hsource, hposition⟩ := hstands
    exact ⟨before, rest, hsource, hposition.trans (Position.start_after before)⟩
  · exact List.pairwise_map.mpr (pairwise_leftOpen hlaid .nil (List.forall_mem_nil _))
  · have hfree := errorFree_iff [] (lexemes source)
    rw [hdiagnostics, List.forall_mem_map, List.forall_mem_append]
    refine Iff.trans (and_congr_right' ?_) hfree
    rw [List.forall_mem_map, List.eq_nil_iff_forall_not_mem]
    exact forall₂_congr fun _ _ => by simp [Problem.diagnostic, Problem.severity]

example : (faults [] (lexemes ")\"\\q\r\n\" ((".toList)).map (·.position) = [⟨1, 1⟩, ⟨1, 3⟩] := by
  cbv

example : leftOpen [] (lexemes ")\"\\q\r\n\" ((".toList) = [⟨2, 4⟩, ⟨2, 3⟩] := by
  cbv

end Sexp

end GoldenFiles
