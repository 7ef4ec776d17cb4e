import Mathlib.Data.List.Forall2

/-!
# Tokens of the shell

How a POSIX shell cuts a script into words and operators.  A character of a word is quoted if it
stood between quotes or after a backslash; what the shell does to a word later (expansions,
patterns, reserved words) looks at unquoted characters only.  The lexer gives up where the rules
for the text to come are others: at a substitution, a here-document and a NUL.
-/

namespace XGovernor.Lib.Shell

/-- A word, whose characters know whether they were quoted, or a character of an operator. -/
inductive Token where
  | word (chars : List (Char × Bool))
  | operator (c : Char)
  deriving DecidableEq

/-- What the next character is read as. -/
inductive Mode where
  | plain | escaped | single | double | doubleEscaped | comment
  deriving DecidableEq

structure State where
  mode : Mode := .plain
  /-- The word that has begun; a word that has begun may be empty. -/
  word : Option (List (Char × Bool)) := none
  tokens : List Token := []

namespace State

/-- The character belongs to the word. -/
def add (s : State) (mode : Mode) (c : Char) (quoted : Bool) : State :=
  { s with mode, word := some (s.word.getD [] ++ [(c, quoted)]) }

/-- A quotation begins, and with it a word. -/
def enter (s : State) (mode : Mode) : State :=
  { s with mode, word := some (s.word.getD []) }

/-- The word that has begun ends. -/
def delimit (s : State) : State :=
  match s.word with
  | none => s
  | some chars => { s with word := none, tokens := s.tokens ++ [.word chars] }

def operator (s : State) (c : Char) : State :=
  { s.delimit with mode := .plain, tokens := s.delimit.tokens ++ [.operator c] }

/-- One character of the script. -/
def next (s : State) (c : Char) : Option State :=
  if c = '\x00' then none
  else match s.mode with
  | .plain =>
    if c = '\x27' then some (s.enter .single)
    else if c = '\x22' then some (s.enter .double)
    else if c = '\\' then some { s with mode := .escaped }
    else if c = ' ' || c = '\t' then some s.delimit
    else if c = '#' && s.word.isNone then some { s with mode := .comment }
    else if c = '$' || c = '\x60' || c = '<' then none
    else if ['\n', ';', '&', '|', '>', '(', ')'].contains c then some (s.operator c)
    else some (s.add .plain c false)
  | .escaped =>
    -- A backslash joins two lines.
    if c = '\n' then some { s with mode := .plain } else some (s.add .plain c true)
  | .single => if c = '\x27' then some { s with mode := .plain } else some (s.add .single c true)
  | .double =>
    if c = '\x22' then some { s with mode := .plain }
    else if c = '\\' then some { s with mode := .doubleEscaped }
    else if c = '$' || c = '\x60' then none
    else some (s.add .double c true)
  | .doubleEscaped =>
    if c = '\n' then some { s with mode := .double }
    else if ['$', '\x60', '\x22', '\\'].contains c then some (s.add .double c true)
    else some ((s.add .double '\\' true).add .double c true)
  | .comment => if c = '\n' then some (s.operator c) else some s

/-- The tokens once the script is over; a quotation must not be open. -/
def finish (s : State) : Option (List Token) :=
  if s.mode = .plain || s.mode = .comment then some s.delimit.tokens else none

end State

/-- The tokens of a script, from a state on. -/
def lexFrom (s : State) (text : List Char) : Option (List Token) :=
  (text.foldlM State.next s).bind State.finish

def lex (text : List Char) : Option (List Token) :=
  lexFrom {} text

theorem lexFrom_append {s s' : State} {piece : List Char}
    (h : piece.foldlM State.next s = some s') (rest : List Char) :
    lexFrom s (piece ++ rest) = lexFrom s' rest := by
  rw [lexFrom, List.foldlM_append, h]
  rfl

/-- **A piece of a script that spells (a part of) a word**, wherever it stands. -/
def Spells (piece : List Char) (chars : List (Char × Bool)) : Prop :=
  ∀ (begun : Option (List (Char × Bool))) (tokens : List Token),
    piece.foldlM State.next { word := begun, tokens } =
      some { word := some (begun.getD [] ++ chars), tokens }

/-- Pieces with blanks between them are words of their own. -/
theorem lexFrom_intercalate {pieces : List (List Char)} {words : List (List (Char × Bool))}
    (h : List.Forall₂ Spells pieces words) (tokens : List Token) :
    lexFrom { tokens } ([' '].intercalate pieces) = some (tokens ++ words.map .word) := by
  induction h generalizing tokens with
  | nil => simp [lexFrom, State.finish, State.delimit]
  | @cons piece chars rest words hpiece hrest ih =>
    cases hrest with
    | nil => simp [lexFrom, hpiece none tokens, State.finish, State.delimit]
    | cons hnext hrest =>
      have hword : (piece ++ [' ']).foldlM State.next { tokens } =
          some { tokens := tokens ++ [.word chars] } := by
        rw [List.foldlM_append, hpiece none tokens]
        rfl
      rw [List.intercalate_cons_cons, lexFrom_append hword]
      exact (ih (tokens ++ [.word chars])).trans (congrArg some (List.append_assoc ..))

end XGovernor.Lib.Shell
