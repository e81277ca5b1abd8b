import ProfileCreator.Python.Builtins

/-! # The shell's token recognition

`create_performance_profile` runs the rendered command with `shell=True`, so `/bin/sh` cuts it
into tokens by the rules of POSIX token recognition before anything runs. This module models
those rules over `List Char`, one character at a time:

* a blank delimits a word, and an unquoted newline is a token of its own;
* `& | ; < > ( )` start operators, which grow while the longer text is still an operator;
* a backslash quotes the next character, and a backslash-newline pair is removed;
* single quotes quote everything up to the next one; inside double quotes a backslash quotes
  only `$`, the backquote, the double quote, the backslash and the newline;
* `#` where a word would start begins a comment;
* an unquoted `$`, backquote, `*`, `?`, `[` or a leading `~` begins an expansion, and so does a
  `$` or backquote inside double quotes; the word is marked, since the shell, not its text,
  decides what it becomes;
* an unquoted all-digit word delimited by `<` or `>` is an IO number.

The text of an expansion is not parsed further. Here-documents, aliases and reserved words need a
newline or the command position, so they do not matter for the single command line that
`simpleCommand` accepts.

The lemmas at the end describe commands made of safe words (non-empty, of ASCII letters, digits
and `-_./:@%+,=`): such a word reads back as itself, and `lexFrom_chunks` folds that along words
joined by blanks and line continuations.
-/

namespace ProfileCreator.Shell

open ProfileCreator.Python

/-- A token of the shell's input. -/
inductive ShellToken
  | word (text : String) (expands : Bool)
  | ioNumber (digits : String)
  | operator (text : String)
  | newline
  deriving DecidableEq, Repr

/-- Outside quotes, inside single or double quotes, after a backslash outside or inside double
quotes, or in a comment. -/
inductive LexMode
  | plain
  | singleQuoted
  | doubleQuoted
  | escaped
  | doubleEscaped
  | comment
  deriving DecidableEq, Repr

/-- The token being read, with whether a word was quoted and whether it holds an expansion. -/
inductive Pending
  | empty
  | word (text : List Char) (quoted expands : Bool)
  | operator (text : List Char)
  deriving DecidableEq, Repr

/-- The single quote. -/
def singleQuote : Char := '\x27'

/-- The double quote. -/
def doubleQuote : Char := '\x22'

/-- The backslash. -/
def backslash : Char := '\x5c'

/-- The backquote. -/
def backquote : Char := '\x60'

/-- A blank: space or tab. -/
def isBlank (c : Char) : Bool := c = ' ' || c = '\t'

/-- The control and redirection operators. -/
def operators : List String :=
  ["&", "&&", "(", ")", ";", ";;", "|", "||", "<", ">", ">|", "<<", ">>", "<&", ">&", "<<-", "<>"]

/-- The redirection operators. -/
def redirectionOperators : List String := ["<", ">", ">|", "<<", ">>", "<&", ">&", "<<-", "<>"]

/-- The characters that start an operator. -/
def operatorStart (c : Char) : Bool := c ∈ ['&', '|', ';', '<', '>', '(', ')']

/-- The unquoted characters that start an expansion. -/
def expansionStart (c : Char) : Bool := c ∈ ['$', backquote, '*', '?', '[']

/-- The tokens a pending token becomes when `delimiter` ends it. -/
def delimit (delimiter : Char) : Pending → List ShellToken
  | .empty => []
  | .word text quoted expands =>
    if (delimiter = '<' || delimiter = '>') && !quoted && !text.isEmpty && text.all Char.isDigit then
      [.ioNumber ⟨text⟩]
    else [.word ⟨text⟩ expands]
  | .operator text => [.operator ⟨text⟩]

/-- A quoted character joins the word being read, or starts one. -/
def appendQuoted (c : Char) (expansion : Bool) : Pending → Pending
  | .word text _ expands => .word (text ++ [c]) true (expands || expansion)
  | _ => .word [c] true expansion

/-- An unquoted character other than a backslash where no token is pending. -/
def startToken (c : Char) : List ShellToken × Pending × LexMode :=
  if c = singleQuote then ([], .word [] true false, .singleQuoted)
  else if c = doubleQuote then ([], .word [] true false, .doubleQuoted)
  else if operatorStart c then ([], .operator [c], .plain)
  else if c = '\n' then ([.newline], .empty, .plain)
  else if isBlank c then ([], .empty, .plain)
  else if c = '#' then ([], .empty, .comment)
  else ([], .word [c] false (expansionStart c || c = '~'), .plain)

/-- An unquoted character other than a backslash. -/
def stepPlain (pending : Pending) (c : Char) : List ShellToken × Pending × LexMode :=
  match pending with
  | .empty => startToken c
  | .operator text =>
    if String.mk (text ++ [c]) ∈ operators then ([], .operator (text ++ [c]), .plain)
    else
      let (emitted, next, mode) := startToken c
      (.operator ⟨text⟩ :: emitted, next, mode)
  | .word text quoted expands =>
    if c = singleQuote then ([], .word text true expands, .singleQuoted)
    else if c = doubleQuote then ([], .word text true expands, .doubleQuoted)
    else if operatorStart c || c = '\n' || isBlank c then
      let (emitted, next, mode) := startToken c
      (delimit c pending ++ emitted, next, mode)
    else ([], .word (text ++ [c]) quoted (expands || expansionStart c), .plain)

/-- One character: the tokens it completes, the pending token and the mode after it. -/
def step : LexMode → Pending → Char → List ShellToken × Pending × LexMode
  | .plain, pending, c => if c = backslash then ([], pending, .escaped) else stepPlain pending c
  | .escaped, pending, c =>
    if c = '\n' then ([], pending, .plain)
    else match pending with
      | .operator text => ([.operator ⟨text⟩], .word [c] true false, .plain)
      | other => ([], appendQuoted c false other, .plain)
  | .singleQuoted, pending, c =>
    if c = singleQuote then ([], pending, .plain) else ([], appendQuoted c false pending, .singleQuoted)
  | .doubleQuoted, pending, c =>
    if c = doubleQuote then ([], pending, .plain)
    else if c = backslash then ([], pending, .doubleEscaped)
    else ([], appendQuoted c (c = '$' || c = backquote) pending, .doubleQuoted)
  | .doubleEscaped, pending, c =>
    if c = '\n' then ([], pending, .doubleQuoted)
    else if c = '$' || c = backquote || c = doubleQuote || c = backslash then
      ([], appendQuoted c false pending, .doubleQuoted)
    else ([], appendQuoted c false (appendQuoted backslash false pending), .doubleQuoted)
  | .comment, pending, c => if c = '\n' then ([.newline], .empty, .plain) else ([], pending, .comment)

/-- The end of the input: inside quotes the command is incomplete; a trailing backslash stays. -/
def finish : LexMode → Pending → Option (List ShellToken)
  | .plain, pending | .comment, pending => some (delimit ' ' pending)
  | .escaped, .operator text => some [.operator ⟨text⟩, .word ⟨[backslash]⟩ false]
  | .escaped, pending => some (delimit ' ' (appendQuoted backslash false pending))
  | _, _ => none

/-- The tokens of the rest of the input; `done` holds the tokens so far, last first. -/
def lexFrom (mode : LexMode) (pending : Pending) (done : List ShellToken) : List Char → Option (List ShellToken)
  | [] => (done.reverse ++ ·) <$> finish mode pending
  | c :: rest =>
    let (emitted, next, mode') := step mode pending c
    lexFrom mode' next (emitted.reverse ++ done) rest

theorem lexFrom_cons (mode : LexMode) (pending : Pending) (done : List ShellToken) (c : Char) (rest : List Char) :
    lexFrom mode pending done (c :: rest) =
      lexFrom (step mode pending c).2.2 (step mode pending c).2.1 ((step mode pending c).1.reverse ++ done) rest :=
  rfl

/-- The tokens of a command line, or `none` when it ends inside quotes. -/
def tokenize (input : String) : Option (List ShellToken) := lexFrom .plain .empty [] input.toList

/-! ## Simple commands -/

/-- A redirection: the descriptor it names, its operator and its target. -/
structure Redirection where
  fd : Option String
  operator : String
  target : String
  deriving DecidableEq, Repr

/-- A simple command: its words and its redirections. -/
structure SimpleCommand where
  words : List String
  redirections : List Redirection
  deriving DecidableEq, Repr

/-- The tokens as one simple command of literal words and redirections to literal words; `none`
on a control operator, a newline, or a word that holds an expansion. -/
def simpleCommand : List ShellToken → Option SimpleCommand
  | [] => some ⟨[], []⟩
  | .word text false :: rest => (fun command => { command with words := text :: command.words }) <$> simpleCommand rest
  | .operator op :: .word target false :: rest =>
    if op ∈ redirectionOperators then
      (fun command => { command with redirections := ⟨none, op, target⟩ :: command.redirections }) <$>
        simpleCommand rest
    else none
  | .ioNumber fd :: .operator op :: .word target false :: rest =>
    if op ∈ redirectionOperators then
      (fun command => { command with redirections := ⟨some fd, op, target⟩ :: command.redirections }) <$>
        simpleCommand rest
    else none
  | _ => none

/-- Literal words followed by one redirection form one simple command. -/
theorem simpleCommand_words_redirect (words : List String) {op : String} (redirecting : op ∈ redirectionOperators)
    (target : String) :
    simpleCommand (words.map (.word · false) ++ [.operator op, .word target false]) =
      some ⟨words, [⟨none, op, target⟩]⟩ := by
  induction words with
  | nil => simp [simpleCommand, redirecting]
  | cons _ rest inductionHypothesis => simp [simpleCommand, inductionHypothesis]

/-! ## Safe words -/

/-- A character the shell reads literally anywhere in a word. -/
def safeChar (c : Char) : Bool := c.isAlphanum || c ∈ ['-', '_', '.', '/', ':', '@', '%', '+', ',', '=']

/-- A word the shell reads back as itself: non-empty, of safe characters. -/
def SafeWord (word : String) : Prop := word.toList ≠ [] ∧ word.toList.all safeChar = true

instance (word : String) : Decidable (SafeWord word) := inferInstanceAs (Decidable (_ ∧ _))

/-- The characters some rule of token recognition reads. -/
def specialChars : List Char :=
  [backslash, singleQuote, doubleQuote, '\n', ' ', '\t', '&', '|', ';', '<', '>', '(', ')', '$', backquote, '*', '?',
   '[', '#', '~']

theorem safeChar_special : ∀ c ∈ specialChars, safeChar c = false := by decide

theorem not_special_of_safe {c : Char} (safe : safeChar c = true) : c ∉ specialChars := fun special => by
  rw [safeChar_special c special] at safe
  cases safe

theorem digitChar_safe : ∀ digit < 10, safeChar (Nat.digitChar digit) = true := by decide

theorem toDigitsCore_safe : ∀ (fuel value : Nat) (digits : List Char), digits.all safeChar = true →
    (Nat.toDigitsCore 10 fuel value digits).all safeChar = true ∧
      (digits ≠ [] → Nat.toDigitsCore 10 fuel value digits ≠ [])
  | 0, _, _, safe => ⟨safe, id⟩
  | fuel + 1, value, digits, safe => by
    have digitSafe : (Nat.digitChar (value % 10) :: digits).all safeChar = true := by
      simp [digitChar_safe _ (Nat.mod_lt value (by decide)), safe]
    simp only [Nat.toDigitsCore]
    split
    · exact ⟨digitSafe, fun _ => List.cons_ne_nil _ _⟩
    · exact ⟨(toDigitsCore_safe fuel _ _ digitSafe).1, fun _ => (toDigitsCore_safe fuel _ _ digitSafe).2
        (List.cons_ne_nil _ _)⟩

/-- A natural number in decimal is a safe word. -/
theorem safeWord_repr (value : Nat) : SafeWord (Nat.repr value) := by
  have digitSafe : [Nat.digitChar (value % 10)].all safeChar = true := by
    simp [digitChar_safe _ (Nat.mod_lt value (by decide))]
  show Nat.toDigitsCore 10 (value + 1) value [] ≠ [] ∧ (Nat.toDigitsCore 10 (value + 1) value []).all safeChar = true
  simp only [Nat.toDigitsCore]
  split
  · exact ⟨List.cons_ne_nil _ _, digitSafe⟩
  · exact ⟨(toDigitsCore_safe value _ _ digitSafe).2 (List.cons_ne_nil _ _), (toDigitsCore_safe value _ _ digitSafe).1⟩

/-- An integer in decimal, as `str` renders it, is a safe word. -/
theorem safeWord_toString_int (count : Int) : SafeWord (toString count) := by
  cases count with
  | ofNat value => exact safeWord_repr value
  | negSucc value =>
    obtain ⟨_, digitsSafe⟩ := safeWord_repr (value + 1)
    have minusSafe : safeChar '-' = true := rfl
    exact ⟨by simp [toString], by simpa [toString, String.toList, minusSafe] using digitsSafe⟩

theorem startToken_safe {c : Char} (safe : safeChar c = true) : startToken c = ([], .word [c] false false, .plain) := by
  have ordinary := not_special_of_safe safe
  simp only [specialChars, List.mem_cons, List.not_mem_nil, or_false, not_or] at ordinary
  simp [startToken, operatorStart, expansionStart, isBlank, ordinary]

theorem step_word_safe {c : Char} (safe : safeChar c = true) (text : List Char) (quoted expands : Bool) :
    step .plain (.word text quoted expands) c = ([], .word (text ++ [c]) quoted expands, .plain) := by
  have ordinary := not_special_of_safe safe
  simp only [specialChars, List.mem_cons, List.not_mem_nil, or_false, not_or] at ordinary
  simp [step, stepPlain, operatorStart, expansionStart, isBlank, ordinary]

theorem step_empty_safe {c : Char} (safe : safeChar c = true) :
    step .plain .empty c = ([], .word [c] false false, .plain) := by
  have ordinary := not_special_of_safe safe
  simp only [specialChars, List.mem_cons, List.not_mem_nil, or_false, not_or] at ordinary
  simp [step, stepPlain, startToken_safe safe, ordinary.1]

/-- Safe characters join the word being read. -/
theorem lexFrom_safe_chars (done : List ShellToken) (rest : List Char) :
    ∀ (chars : List Char), chars.all safeChar = true → ∀ (text : List Char) (quoted expands : Bool),
      lexFrom .plain (.word text quoted expands) done (chars ++ rest) =
        lexFrom .plain (.word (text ++ chars) quoted expands) done rest
  | [], _, text, quoted, expands => by simp
  | c :: chars, safe, text, quoted, expands => by
    simp only [List.all_cons, Bool.and_eq_true] at safe
    rw [List.cons_append, lexFrom_cons, step_word_safe safe.1, List.reverse_nil, List.nil_append,
      lexFrom_safe_chars done rest chars safe.2, List.append_assoc, List.singleton_append]

/-- A safe word read from a token boundary is pending, unquoted and without expansion. -/
theorem lexFrom_safe_word {word : String} (safe : SafeWord word) (done : List ShellToken) (rest : List Char) :
    lexFrom .plain .empty done (word.toList ++ rest) = lexFrom .plain (.word word.toList false false) done rest := by
  obtain ⟨nonempty, allSafe⟩ := safe
  obtain ⟨c, chars, spelled⟩ := List.exists_cons_of_ne_nil nonempty
  rw [spelled] at allSafe ⊢
  simp only [List.all_cons, Bool.and_eq_true] at allSafe
  rw [List.cons_append, lexFrom_cons, step_empty_safe allSafe.1, List.reverse_nil, List.nil_append,
    lexFrom_safe_chars done rest chars allSafe.2, List.singleton_append]

/-! ## Commands of safe words -/

/-- A separator of words: a blank, or a blank, a line continuation and two blanks. -/
def Separator (separator : List Char) : Prop := separator = [' '] ∨ separator = [' ', backslash, '\n', ' ', ' ']

/-- A separator ends the pending word and leaves nothing pending. -/
theorem lexFrom_separator {separator : List Char} (separates : Separator separator) (text : List Char)
    (done : List ShellToken) (rest : List Char) :
    lexFrom .plain (.word text false false) done (separator ++ rest) =
      lexFrom .plain .empty (.word ⟨text⟩ false :: done) rest := by
  rcases separates with rfl | rfl <;> rfl

/-- A separator and a safe word: the previous word is emitted and the new one is pending. -/
theorem lexFrom_chunk {separator : List Char} (separates : Separator separator) {word : String}
    (safe : SafeWord word) (text : List Char) (done : List ShellToken) (rest : List Char) :
    lexFrom .plain (.word text false false) done (separator ++ (word.toList ++ rest)) =
      lexFrom .plain (.word word.toList false false) (.word ⟨text⟩ false :: done) rest := by
  rw [lexFrom_separator separates, lexFrom_safe_word safe]

/-- The characters of chunks, each a separator and a word. -/
def chunkChars (chunks : List (List Char × String)) : List Char :=
  (chunks.map fun chunk => chunk.1 ++ chunk.2.toList).flatten

@[simp] theorem chunkChars_append (first second : List (List Char × String)) :
    chunkChars (first ++ second) = chunkChars first ++ chunkChars second := by
  simp [chunkChars]

theorem chunkChars_flatMap {α : Type} (items : List α) (chunksOf : α → List (List Char × String)) :
    chunkChars (items.flatMap chunksOf) = (items.map fun item => chunkChars (chunksOf item)).flatten := by
  induction items with
  | nil => rfl
  | cons item rest inductionHypothesis => simp [List.flatMap_cons, inductionHypothesis]

/-- Chunks of safe words after a pending word, then an ending that emits the pending word and
then `endTokens`: every word is emitted in order, then the ending's tokens. -/
theorem lexFrom_chunks (chunks : List (List Char × String))
    (wellFormed : ∀ chunk ∈ chunks, Separator chunk.1 ∧ SafeWord chunk.2) {ending : List Char}
    {endTokens : List ShellToken}
    (ends : ∀ text done, lexFrom .plain (.word text false false) done ending =
      some (done.reverse ++ .word ⟨text⟩ false :: endTokens))
    (previous : String) (done : List ShellToken) :
    lexFrom .plain (.word previous.toList false false) done (chunkChars chunks ++ ending) =
      some (done.reverse ++ (previous :: chunks.map (·.2)).map (.word · false) ++ endTokens) := by
  induction chunks generalizing previous done with
  | nil =>
    rw [chunkChars, List.map_nil, List.flatten_nil, List.nil_append, ends]
    simp
  | cons chunk rest inductionHypothesis =>
    obtain ⟨separates, safe⟩ := wellFormed chunk (List.mem_cons_self _ _)
    simp only [chunkChars, List.map_cons, List.flatten_cons, List.append_assoc] at inductionHypothesis ⊢
    rw [lexFrom_chunk separates safe,
      inductionHypothesis (fun other member => wellFormed other (List.mem_cons_of_mem _ member))]
    simp

end ProfileCreator.Shell
