import GoldenFiles.Sexp.Token
import GoldenFiles.Text.Position

/-!
# The grammar of sources

A source is read by rules. Tried at a place of the source, a rule fails or reads a stretch of it; of
alternatives the first is taken that does not fail, and a repetition goes on until its rule fails.
Blanks and comments are passed between the parts of a program and of a list, and nowhere else.

    program      = (form | stray)* end
    form         = list | string | unterminated | atom
    list         = "(" form* (")" | end)
    string       = "\"" body "\""
    unterminated = "\"" body end
    body         = (not "\"", ("\\" any | any))*
    atom         = (not delimiter, any)+
    stray        = ")"

A list and a literal that the source does not close are read to its end, and a closing parenthesis
with nothing to close is read as such.

## Main definitions

* `Cursor` — a place in a source, with the text from there on
* `Tree`, `Item` — what the rules for forms and for a program read
* `form?`, `list?`, `forms` — the rules for forms
* `items?` — the rule for a program
-/

namespace GoldenFiles.Sexp

/-! ### Places in a source -/

/-- A place in a source, with the text from there on. -/
structure Cursor where
  position : Position
  text : Text

namespace Cursor

/-- Behind the next character, if it is the one asked for. -/
def pass? (c : Char) (cursor : Cursor) : Option Cursor :=
  match cursor.text with
  | [] => none
  | next :: rest => if next = c then some ⟨cursor.position.advance next, rest⟩ else none

/-- Behind the next characters of which `p` holds. -/
def passWhile (p : Char → Bool) (cursor : Cursor) : Cursor :=
  ⟨cursor.position.after (cursor.text.takeWhile p), cursor.text.dropWhile p⟩

/-- Behind the comment that begins here, if one does. The line feed is not part of it. -/
def passComment? (cursor : Cursor) : Option Cursor :=
  match cursor.pass? ';' with
  | none => none
  | some inner => some (inner.passWhile (· ≠ '\n'))

theorem length_lt_of_pass? {c : Char} {cursor next : Cursor} (h : cursor.pass? c = some next) :
    next.text.length < cursor.text.length := by
  unfold pass? at h
  split at h
  · cases h
  · next ht =>
    split at h
    · cases h; simp [ht]
    · cases h

theorem length_passWhile_le (p : Char → Bool) (cursor : Cursor) :
    (cursor.passWhile p).text.length ≤ cursor.text.length :=
  (List.dropWhile_sublist _).length_le

theorem length_lt_of_passComment? {cursor next : Cursor} (h : cursor.passComment? = some next) :
    next.text.length < cursor.text.length := by
  unfold passComment? at h
  split at h
  · cases h
  · next inner hinner =>
    cases h
    exact Nat.lt_of_le_of_lt (length_passWhile_le _ _) (length_lt_of_pass? hinner)

/-- Behind all blanks and comments. -/
def skip (cursor : Cursor) : Cursor :=
  match _h : (cursor.passWhile isBlank).passComment? with
  | none => cursor.passWhile isBlank
  | some next => next.skip
  termination_by cursor.text.length
  decreasing_by
    exact Nat.lt_of_lt_of_le (length_lt_of_passComment? _h) (length_passWhile_le _ _)

theorem length_skip_le (cursor : Cursor) : cursor.skip.text.length ≤ cursor.text.length := by
  fun_induction skip cursor with
  | case1 cursor h => exact length_passWhile_le _ _
  | case2 cursor next h ih =>
    exact Nat.le_trans ih (Nat.le_trans (Nat.le_of_lt (length_lt_of_passComment? h))
      (length_passWhile_le _ _))

end Cursor

/-! ### What rules read -/

/-- What the rule for forms reads. A list knows where it begins and whether it is closed; the body
of a literal is kept with the place where it begins. -/
inductive Tree
  | list (start : Position) (items : List Tree) (closed : Bool)
  | string (body : Located Text)
  | unterminated (start : Position) (body : Located Text)
  | atom (text : Text)

/-- What a program consists of: forms, and closing parentheses that close nothing. -/
inductive Item
  | form (tree : Tree)
  | stray (start : Position)

/-- What a rule has read, and the cursor behind it, from which less than `bound` characters follow.
-/
structure Reading (α : Type) (bound : Nat) where
  value : α
  next : Cursor
  length_lt : next.text.length < bound

/-! ### Literals and atoms -/

/-- The body of a literal whose opening quote has been read. A backslash takes the next character
with it; at the end of the source it stands for itself. -/
def bodyHead : Text → Text
  | [] => []
  | '"' :: _ => []
  | '\\' :: c :: rest => '\\' :: c :: bodyHead rest
  | c :: rest => c :: bodyHead rest

/-- What follows the body of a literal, its closing quote included. -/
def bodyTail : Text → Text
  | [] => []
  | '"' :: rest => '"' :: rest
  | '\\' :: _ :: rest => bodyTail rest
  | _ :: rest => bodyTail rest

theorem length_bodyTail_le (text : Text) : (bodyTail text).length ≤ text.length := by
  fun_induction bodyTail text <;> grind

/-- The body of a literal, with the place where it begins. -/
def Cursor.body (cursor : Cursor) : Located Text := ⟨cursor.position, bodyHead cursor.text⟩

/-- Behind the body of a literal. -/
def Cursor.behindBody (cursor : Cursor) : Cursor :=
  ⟨cursor.position.after (bodyHead cursor.text), bodyTail cursor.text⟩

/-- A literal with its closing quote. -/
def string? (cursor : Cursor) : Option (Reading Tree cursor.text.length) :=
  match h : cursor.pass? '"' with
  | none => none
  | some inner =>
    match hnext : inner.behindBody.pass? '"' with
    | none => none
    | some next =>
      some ⟨.string inner.body, next,
        Nat.lt_trans (Nat.lt_of_lt_of_le (Cursor.length_lt_of_pass? hnext) (length_bodyTail_le _))
          (Cursor.length_lt_of_pass? h)⟩

/-- A literal that the source ends in. -/
def unterminated? (cursor : Cursor) : Option (Reading Tree cursor.text.length) :=
  match h : cursor.pass? '"' with
  | none => none
  | some inner =>
    if inner.behindBody.text = [] then
      some ⟨.unterminated cursor.position inner.body, inner.behindBody,
        Nat.lt_of_le_of_lt (length_bodyTail_le _) (Cursor.length_lt_of_pass? h)⟩
    else
      none

/-- Characters that are no delimiters, at least one of them. -/
def atom? (cursor : Cursor) : Option (Reading Tree cursor.text.length) :=
  match cursor.text with
  | [] => none
  | c :: rest =>
    if isDelimiter c then
      none
    else
      let inner : Cursor := ⟨cursor.position.advance c, rest⟩
      some ⟨.atom (c :: rest.takeWhile (!isDelimiter ·)), inner.passWhile (!isDelimiter ·),
        Nat.lt_succ_of_le (Cursor.length_passWhile_le _ inner)⟩

/-! ### Forms -/

mutual

/-- A form. -/
def form? (cursor : Cursor) : Option (Reading Tree cursor.text.length) :=
  match list? cursor with
  | some reading => some reading
  | none =>
    match string? cursor with
    | some reading => some reading
    | none =>
      match unterminated? cursor with
      | some reading => some reading
      | none => atom? cursor
  -- Rules call each other at one cursor too, but only in one order, which the summands say.
  termination_by 3 * cursor.text.length + 1

/-- A list, up to its closing parenthesis or to the end of the source. -/
def list? (cursor : Cursor) : Option (Reading Tree cursor.text.length) :=
  match h : cursor.pass? '(' with
  | none => none
  | some inner =>
    let items := forms inner
    have hlt : items.next.skip.text.length < cursor.text.length :=
      Nat.lt_of_le_of_lt (Cursor.length_skip_le _)
        (Nat.lt_of_lt_of_le items.length_lt (Cursor.length_lt_of_pass? h))
    match hnext : items.next.skip.pass? ')' with
    | some next =>
      some ⟨.list cursor.position items.value true, next,
        Nat.lt_trans (Cursor.length_lt_of_pass? hnext) hlt⟩
    | none =>
      if items.next.skip.text = [] then
        some ⟨.list cursor.position items.value false, items.next.skip, hlt⟩
      else
        none
  termination_by 3 * cursor.text.length
  decreasing_by
    have := Cursor.length_lt_of_pass? h
    omega

/-- As many forms as there are, with blanks and comments before each of them. -/
def forms (cursor : Cursor) : Reading (List Tree) (cursor.text.length + 1) :=
  match form? cursor.skip with
  | none => ⟨[], cursor, Nat.lt_succ_self _⟩
  | some first =>
    have hlt : first.next.text.length < cursor.text.length :=
      Nat.lt_of_lt_of_le first.length_lt (Cursor.length_skip_le _)
    let others := forms first.next
    ⟨first.value :: others.value, others.next, Nat.lt_trans others.length_lt (Nat.succ_lt_succ hlt)⟩
  termination_by 3 * cursor.text.length + 2
  decreasing_by
    · have := Cursor.length_skip_le cursor
      omega
    · omega

end

/-! ### Programs -/

/-- A closing parenthesis that closes nothing. -/
def stray? (cursor : Cursor) : Option (Reading Item cursor.text.length) :=
  match h : cursor.pass? ')' with
  | none => none
  | some next => some ⟨.stray cursor.position, next, Cursor.length_lt_of_pass? h⟩

/-- A part of a program. -/
def item? (cursor : Cursor) : Option (Reading Item cursor.text.length) :=
  match form? cursor with
  | some reading => some ⟨.form reading.value, reading.next, reading.length_lt⟩
  | none => stray? cursor

/-- As many parts of a program as there are, with blanks and comments before each of them. -/
def items (cursor : Cursor) : Reading (List Item) (cursor.text.length + 1) :=
  match item? cursor.skip with
  | none => ⟨[], cursor, Nat.lt_succ_self _⟩
  | some first =>
    have hlt : first.next.text.length < cursor.text.length :=
      Nat.lt_of_lt_of_le first.length_lt (Cursor.length_skip_le _)
    let others := items first.next
    ⟨first.value :: others.value, others.next, Nat.lt_trans others.length_lt (Nat.succ_lt_succ hlt)⟩
  termination_by cursor.text.length

/-- What is said of a source at a place where neither a part of a program nor its end is. -/
def refusal : Text :=
  "expected EOI, list, string, unterminated_string, atom, or stray_close".toList

/-- The parts of the program that a source is, or where and why it is none. -/
def items? (source : Text) : Except (Located Text) (List Item) :=
  let reading := items ⟨.start, source⟩
  let last := reading.next.skip
  if last.text = [] then .ok reading.value else .error ⟨last.position, refusal⟩

end GoldenFiles.Sexp
