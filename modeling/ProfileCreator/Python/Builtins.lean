import ProfileCreator.Python.Unicode

/-! # The Python fragment the assistant is written in

The server is Python over dictionaries of dynamically typed values. This module fixes the part
of the language its core relies on:

* `PyError` — the exceptions a modelled call can raise, with CPython's messages.
* `PyValue` — the scalar values that parameter maps carry (`None`, `bool`, `int`, `str`), with
  truthiness, `str()`, `>=` against an int and `int - value`.
* String builtins over `List Char`: `upper`, `lower` (with the final sigma), substring `in`,
  `endswith`, `isdigit`, `int()` of a digit string and `repr`, over the Unicode data of
  `ProfileCreator.Python.Unicode`.
* `floatAccepts` — the strings `float()` converts without `ValueError` — and `intFitsFloat`, the
  ints `float()` converts without `OverflowError`.
-/

namespace ProfileCreator.Python

/-- The exceptions the modelled code can raise, carrying CPython's message. -/
inductive PyError
  | valueError (message : String)
  | typeError (message : String)
  | indexError (message : String)
  | keyError (message : String)
  | attributeError (message : String)
  | overflowError (message : String)
  | runtimeError (message : String)
  deriving DecidableEq, Repr

/-- Outcomes of calls compare by constructor and payload, so that a check on one can run. -/
instance exceptDecidableEq {ε α : Type} [DecidableEq ε] [DecidableEq α] : DecidableEq (Except ε α)
  | .error first, .error second => decidable_of_iff (first = second) (by rw [Except.error.injEq])
  | .ok first, .ok second => decidable_of_iff (first = second) (by rw [Except.ok.injEq])
  | .error _, .ok _ => isFalse fun same => Except.noConfusion same
  | .ok _, .error _ => isFalse fun same => Except.noConfusion same

/-- A `do` step that returns: the first computation returned a value, and the rest returned on it. -/
theorem bind_eq_ok {ε α β : Type} {x : Except ε α} {f : α → Except ε β} {b : β} :
    x >>= f = .ok b ↔ ∃ a, x = .ok a ∧ f a = .ok b := by
  cases x <;> simp [bind, Except.bind]

theorem map_eq_ok {ε α β : Type} {x : Except ε α} {f : α → β} {b : β} :
    f <$> x = .ok b ↔ ∃ a, x = .ok a ∧ f a = b := by
  cases x <;> simp [Functor.map, Except.map]

theorem mapError_eq_ok {ε ε' α : Type} {f : ε → ε'} {x : Except ε α} {a : α} :
    x.mapError f = .ok a ↔ x = .ok a := by
  cases x <;> simp [Except.mapError]

/-- `str(e)` of a raised exception: its message. -/
def PyError.toStr : PyError → String
  | .valueError message | .typeError message | .indexError message | .keyError message
  | .attributeError message | .overflowError message | .runtimeError message => message

/-- The scalar Python values that parameter maps and requests carry. -/
inductive PyValue
  | none
  | bool (value : Bool)
  | int (value : Int)
  | str (value : String)
  deriving DecidableEq, Repr

namespace PyValue

/-- Python truthiness: `None`, `False`, `0` and `""` are false. -/
def truthy : PyValue → Bool
  | none => false
  | bool value => value
  | int value => value != 0
  | str value => !value.isEmpty

/-- `str(value)`, which is also what an f-string field renders. -/
def toStr : PyValue → String
  | none => "None"
  | bool value => if value then "True" else "False"
  | int value => toString value
  | str value => value

/-- The type name CPython puts in a `TypeError` message. -/
def typeName : PyValue → String
  | none => "NoneType"
  | bool _ => "bool"
  | int _ => "int"
  | str _ => "str"

/-- `value >= bound` for an int `bound`: a bool compares as `0`/`1`, `None` and `str` raise. -/
def geInt : PyValue → Int → Except PyError Bool
  | bool value, bound => .ok (decide ((if value then 1 else 0) ≥ bound))
  | int value, bound => .ok (decide (value ≥ bound))
  | other, _ => .error (.typeError
      ("'>=' not supported between instances of '" ++ other.typeName ++ "' and 'int'"))

/-- `minuend - value` for an int `minuend`. -/
def subtractFrom (minuend : Int) : PyValue → Except PyError Int
  | bool value => .ok (minuend - if value then 1 else 0)
  | int value => .ok (minuend - value)
  | other => .error (.typeError
      ("unsupported operand type(s) for -: 'int' and '" ++ other.typeName ++ "'"))

/-- `type(value) is bool`. -/
def isBool : PyValue → Bool
  | bool _ => true
  | _ => false

/-- `type(value) is int`. -/
def isInt : PyValue → Bool
  | int _ => true
  | _ => false

/-- `type(value) is str`. -/
def isStr : PyValue → Bool
  | str _ => true
  | _ => false

theorem isBool_iff (value : PyValue) : value.isBool = true ↔ ∃ flag, value = bool flag := by
  cases value <;> simp [isBool]

theorem isInt_iff (value : PyValue) : value.isInt = true ↔ ∃ count, value = int count := by
  cases value <;> simp [isInt]

theorem isStr_iff (value : PyValue) : value.isStr = true ↔ ∃ text, value = str text := by
  cases value <;> simp [isStr]

@[simp] theorem truthy_bool (value : Bool) : (bool value).truthy = value := rfl

@[simp] theorem geInt_int (value bound : Int) : (int value).geInt bound = .ok (decide (value ≥ bound)) :=
  rfl

end PyValue

/-! ## Strings -/

/-- `separator.join(parts)` as characters: the first part, then each later part after the
separator. -/
theorem toList_intercalate (separator first : String) (rest : List String) :
    (separator.intercalate (first :: rest)).toList =
      first.toList ++ (rest.map fun part => separator.toList ++ part.toList).flatten := by
  suffices going : ∀ accumulated, (String.intercalate.go accumulated separator rest).toList =
      accumulated.toList ++ (rest.map fun part => separator.toList ++ part.toList).flatten from going first
  induction rest with
  | nil => intro accumulated; simp [String.intercalate.go]
  | cons part rest inductionHypothesis =>
    intro accumulated
    simp only [String.intercalate.go, inductionHypothesis, List.map_cons, List.flatten_cons]
    simp [String.toList, List.append_assoc]

@[simp] theorem intercalate_singleton (separator part : String) : separator.intercalate [part] = part := rfl

@[simp] theorem intercalate_pair (separator first second : String) :
    separator.intercalate [first, second] = first ++ separator ++ second := rfl

/-- `str.upper()`: the full upper-case mapping of every character. -/
def upper (text : String) : String := ⟨text.toList.flatMap upperChar⟩

/-- `str.lower()` of the characters `after`, which follow the characters `before` (nearest
first): a capital sigma that ends a word becomes the final sigma. -/
def lowerFrom (before : List Char) : List Char → List Char
  | [] => []
  | c :: after =>
    (if c = '\u03A3' then [if finalSigma before after then '\u03C2' else '\u03C3'] else lowerChar c) ++
      lowerFrom (c :: before) after

/-- `str.lower()`: the full lower-case mapping of every character. -/
def lower (text : String) : String := ⟨lowerFrom [] text.toList⟩

/-- Substring search over characters: `needle in haystack`. -/
def isInfixOf (needle : List Char) : List Char → Bool
  | [] => needle.isEmpty
  | haystack@(_ :: rest) => needle.isPrefixOf haystack || isInfixOf needle rest

/-- `needle in text` for two strings. -/
def contains (text needle : String) : Bool := isInfixOf needle.toList text.toList

/-- The search finds exactly the infixes. -/
theorem isInfixOf_iff (needle : List Char) : ∀ haystack, isInfixOf needle haystack = true ↔ needle <:+: haystack
  | [] => by rw [isInfixOf, List.isEmpty_iff, List.infix_nil]
  | c :: rest => by
    rw [isInfixOf, Bool.or_eq_true, List.isPrefixOf_iff_prefix, isInfixOf_iff needle rest, List.infix_cons_iff]

theorem contains_iff (text needle : String) : contains text needle = true ↔ needle.toList <:+: text.toList :=
  isInfixOf_iff _ _

/-- `text.startswith(leading)`. -/
def startsWith (text leading : String) : Bool := leading.toList.isPrefixOf text.toList

/-- `text.endswith(suffix)`. -/
def endsWith (text suffix : String) : Bool := suffix.toList.isSuffixOf text.toList

/-- `text[:-1]`. -/
def dropLastChar (text : String) : String := ⟨text.toList.dropLast⟩

/-- `text.isdigit()`: non-empty and made of digits. -/
def isDigits (text : String) : Bool := !text.isEmpty && text.toList.all isDigitChar

/-- A backslash, an escape letter and the `width` lower-case hexadecimal digits of `code`. -/
def hexEscape (letter : Char) (width code : Nat) : List Char :=
  '\x5c' :: letter :: ((List.range width).reverse.map fun place => Nat.digitChar (code / 16 ^ place % 16))

/-- One character of `repr(text)` inside the quote `quote`. -/
def reprChar (quote c : Char) : List Char :=
  if c = quote || c = '\x5c' then ['\x5c', c]
  else if c = '\t' then ['\x5c', 't']
  else if c = '\n' then ['\x5c', 'n']
  else if c = '\r' then ['\x5c', 'r']
  else if c.toNat < 0x20 || c.toNat = 0x7F then hexEscape 'x' 2 c.toNat
  else if c.toNat < 0x7F || isPrintableChar c then [c]
  else if c.toNat ≤ 0xFF then hexEscape 'x' 2 c.toNat
  else if c.toNat ≤ 0xFFFF then hexEscape 'u' 4 c.toNat
  else hexEscape 'U' 8 c.toNat

/-- `repr(text)`: quoted with the single quote, or with the double quote when the text holds a
single quote and no double quote. -/
def pyRepr (text : String) : String :=
  let quote := if text.toList.contains '\x27' && !text.toList.contains '\x22' then '\x22' else '\x27'
  ⟨quote :: text.toList.flatMap (reprChar quote) ++ [quote]⟩

/-- `int(text)` of a string `isdigit` accepts: its decimal value, read digit by digit; a digit
that is not a decimal digit raises. -/
def intOfDigits (text : String) : Except PyError Nat :=
  match text.toList.mapM decimalValue? with
  | some digits => .ok (digits.foldl (fun value digit => 10 * value + digit) 0)
  | none => .error (.valueError ("invalid literal for int() with base 10: " ++ pyRepr text))

/-! ## `float()` on strings

CPython's `float(text)` first rewrites every non-ASCII whitespace character as a space and every
decimal digit as its ASCII digit, and fails on any other non-ASCII character. It then strips the
ASCII whitespace and accepts an optional sign followed by `inf`, `infinity` or `nan` in any case,
or by a decimal literal whose digit groups may be joined by single underscores. -/

/-- `_PyUnicode_TransformDecimalAndSpaceToASCII`: `none` where it writes the `?` that no number
parses. -/
def asciiForNumber (text : List Char) : Option (List Char) :=
  text.mapM fun c =>
    if c.toNat < 0x7F then some c
    else if isSpaceChar c then some ' '
    else (decimalValue? c).map fun digit => Char.ofNat ('0'.toNat + digit)

/-- `Py_ISSPACE`: the ASCII whitespace `float()` strips. -/
def isAsciiSpace (c : Char) : Bool := c = ' ' || ('\t' ≤ c && c ≤ '\r')

/-- The rest of a digit group after its first digit: `(["_"] digit)*`, taken greedily. -/
def digitTail : List Char → List Char
  | '_' :: c :: rest => if c.isDigit then digitTail rest else '_' :: c :: rest
  | c :: rest => if c.isDigit then digitTail rest else c :: rest
  | [] => []

/-- A digit group `digit (["_"] digit)*`, returning what follows it. -/
def digitPart : List Char → Option (List Char)
  | c :: rest => if c.isDigit then some (digitTail rest) else none
  | [] => none

/-- An optional exponent `(e|E) [sign] digits` that must end the literal. -/
def exponentEnds : List Char → Bool
  | [] => true
  | e :: rest =>
    (e = 'e' || e = 'E') &&
      match rest with
      | '+' :: digits | '-' :: digits => digitPart digits == some []
      | digits => digitPart digits == some []

/-- A decimal literal: `digits ["." [digits]]` or `"." digits`, then an exponent. -/
def decimalLiteral : List Char → Bool
  | '.' :: rest =>
    match digitPart rest with
    | some after => exponentEnds after
    | none => false
  | text =>
    match digitPart text with
    | some ('.' :: rest) => exponentEnds ((digitPart rest).getD rest)
    | some after => exponentEnds after
    | none => false

/-- A stripped literal: an optional sign, then a special value or a decimal literal. -/
def floatBody (text : List Char) : Bool :=
  let unsigned := match text with
    | '+' :: rest | '-' :: rest => rest
    | rest => rest
  let folded := unsigned.map Char.toLower
  folded = "inf".toList || folded = "infinity".toList || folded = "nan".toList ||
    decimalLiteral unsigned

/-- `float(text)` returns rather than raising `ValueError`. -/
def floatAccepts (text : String) : Bool :=
  match asciiForNumber text.toList with
  | some ascii => floatBody ((ascii.dropWhile isAsciiSpace).reverse.dropWhile isAsciiSpace).reverse
  | none => false

/-- The `ValueError` that `float(text)` raises on a string it does not accept. -/
def floatConversionError (text : String) : PyError :=
  .valueError ("could not convert string to float: " ++ pyRepr text)

/-- `2^1024 - 2^970`, written out: the least magnitude that rounds past the largest double
`2^1024 - 2^971`. -/
def floatOverflowBound : Nat :=
  179769313486231580793728971405303415079934132710037826936173778980444968292764750946649017977587207096330286416692887910946555547851940402630657488671505820681908902000708383676273854845817711531764475730270069855571366959622842914819860834936475292719074168444365510704342711559699508093042880177904174497792

set_option exponentiation.threshold 1024 in
theorem floatOverflowBound_eq : floatOverflowBound = 2 ^ 1024 - 2 ^ 970 := by
  decide

/-- `float(n)` of an int returns rather than raising `OverflowError`. -/
def intFitsFloat (n : Int) : Bool := n.natAbs < floatOverflowBound

example : floatAccepts " 1_000.5e-3 " = true ∧ floatAccepts "-Infinity" = true ∧
    floatAccepts "X" = false ∧ floatAccepts "1__0" = false ∧ floatAccepts "." = false := by
  decide

end ProfileCreator.Python
