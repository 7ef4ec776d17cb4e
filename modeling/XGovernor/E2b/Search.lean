import XGovernor.Lib.Shell

/-!
# Remote searches

A search in a sandbox is a script for its shell.  What the caller chose (a directory, a query, a
pattern for file names) goes into the script through `shell_quote`, and the shell reads it back as
one word, none of whose characters means anything to it.
-/

namespace XGovernor.E2b

open Lib Shell

/-- A part of the script as the source writes it. -/
abbrev Text := List Char

/-- `shell_quote`. -/
def shellQuote (value : Text) : Text :=
  if value.isEmpty then ['\x27', '\x27']
  else '\x27' :: value.flatMap
    (fun c => if c = '\x27' then ['\x27', '\\', '\x27', '\x27'] else [c]) ++ ['\x27']

/-! ## What the shell reads -/

/-- A word all of whose characters are quoted. -/
def quoted (value : Text) : List (Char × Bool) :=
  value.map (·, true)

/-- Inside the quotes of a value; a quote of the value itself is outside for a moment. -/
theorem foldlM_quotation {value : Text} (hvalue : '\x00' ∉ value) (chars : List (Char × Bool))
    (tokens : List Token) :
    (value.flatMap fun c => if c = '\x27' then ['\x27', '\\', '\x27', '\x27'] else [c]).foldlM
        State.next { mode := .single, word := some chars, tokens } =
      some { mode := .single, word := some (chars ++ quoted value), tokens } := by
  induction value generalizing chars with
  | nil => simp [quoted]
  | cons c value ih =>
    obtain ⟨hc, hvalue⟩ : '\x00' ≠ c ∧ '\x00' ∉ value := by simpa using hvalue
    have hstep : (if c = '\x27' then ['\x27', '\\', '\x27', '\x27'] else [c]).foldlM State.next
        { mode := .single, word := some chars, tokens } =
        some { mode := .single, word := some (chars ++ [(c, true)]), tokens } := by
      by_cases hquote : c = '\x27'
      · subst hquote
        rfl
      · simp [hquote, State.next, hc.symm, State.add]
    have hrest := ih hvalue (chars ++ [(c, true)])
    rw [List.append_assoc] at hrest
    rw [List.flatMap_cons, List.foldlM_append, hstep]
    exact hrest

/-- **A quoted value is one word**, or a part of one, with every character quoted. -/
theorem spells_shellQuote {value : Text} (hvalue : '\x00' ∉ value) :
    Spells (shellQuote value) (quoted value) := by
  intro begun tokens
  cases value with
  | nil => cases begun <;> simp [shellQuote, State.next, State.enter, quoted]
  | cons c rest =>
    have henter : State.next { word := begun, tokens } '\x27' =
      some { mode := .single, word := some (begun.getD []), tokens } := rfl
    rw [shellQuote, if_neg (by simp), List.cons_append, List.foldlM_cons, henter]
    show List.foldlM State.next _ _ = _
    rw [List.foldlM_append, foldlM_quotation hvalue]
    rfl

/-- **Nothing that a caller chooses is read as a command.**  Quoted values with blanks between them
are read back as the words they are; and in any script, where no quotation is open, a quoted value
only adds its characters to a word. -/
theorem shellQuote_words :
    (∀ words : List Text, (∀ word ∈ words, '\x00' ∉ word) →
      lex ([' '].intercalate (words.map shellQuote)) = some ((words.map quoted).map .word)) ∧
    ∀ value : Text, '\x00' ∉ value → Spells (shellQuote value) (quoted value) := by
  refine ⟨fun words hwords => lexFrom_intercalate ?_ [], fun value => spells_shellQuote⟩
  rw [List.forall₂_map_left_iff, List.forall₂_map_right_iff, List.forall₂_same]
  exact fun word hword => spells_shellQuote (hwords word hword)

/-- A value with a blank, a quote and a substitution in it, and an empty one. -/
theorem shellQuote_words_sample :
    lex ([' '].intercalate (["it\x27s $(ls)".toList, []].map shellQuote)) =
      some ((["it\x27s $(ls)".toList, []].map quoted).map .word) :=
  shellQuote_words.1 _ (by decide)

end XGovernor.E2b
