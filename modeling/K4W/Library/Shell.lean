import Mathlib.Algebra.Ring.Nat
import Mathlib.Data.List.Basic

/-!
# Shell words

Token recognition and quoting of the POSIX shell, one character at a time: blanks
separate words, operators end them, and quotes and backslashes quote.  A word
keeps its source text, in which reserved words and assignments are recognized,
beside its text after quote removal.  Words are not expanded: `$`, a backquote,
and the characters of patterns stay in the word.  Texts with an unfinished quote
and texts with a null character are not read at all.
-/

namespace K4W.Library.Shell

structure Word where
  raw : List Char
  text : List Char
deriving DecidableEq, Repr

namespace Word

def empty : Word where
  raw := []
  text := []

/-- A character that stands for itself. -/
def literal (word : Word) (char : Char) : Word where
  raw := word.raw ++ [char]
  text := word.text ++ [char]

/-- A character that quote removal takes away. -/
def mark (word : Word) (char : Char) : Word where
  raw := word.raw ++ [char]
  text := word.text

@[simp] theorem text_literal (word : Word) (char : Char) :
    (word.literal char).text = word.text ++ [char] := rfl

@[simp] theorem text_mark (word : Word) (char : Char) : (word.mark char).text = word.text := rfl

end Word

/-- Operators are reported character by character. -/
inductive Token where
  | word (word : Word)
  | operator (char : Char)
deriving DecidableEq, Repr

/-- What the next character is part of. -/
inductive Mode where
  | unquoted
  | escaped
  | comment
  | singleQuoted
  | doubleQuoted
  | doubleEscaped
deriving DecidableEq, Repr

def isBlank (char : Char) : Bool :=
  char = ' ' || char = '\t'

def isOperator (char : Char) : Bool :=
  char ∈ ['\n', ';', '&', '|', '<', '>', '(', ')']

/-- The characters besides the newline that a backslash quotes in double quotes. -/
def isDoubleEscape (char : Char) : Bool :=
  char = '$' || char = '\x60' || char = '"' || char = '\\'

def isQuoting (char : Char) : Bool :=
  char = '\\' || char = '\'' || char = '"'

/-- The token of a word that ends here. -/
def flush : Option Word → List Token
  | none => []
  | some word => [.word word]

/-- The word begun so far. -/
def begun (current : Option Word) : Word :=
  current.getD .empty

/-- What an unquoted character does. -/
def unquotedStep (current : Option Word) (char : Char) :
    Option (List Token × Mode × Option Word) :=
  if isBlank char then some (flush current, .unquoted, none)
  else if isOperator char then some (flush current ++ [.operator char], .unquoted, none)
  else if char = '\\' then some ([], .escaped, current)
  else if char = '\'' then some ([], .singleQuoted, some ((begun current).mark char))
  else if char = '"' then some ([], .doubleQuoted, some ((begun current).mark char))
  else if char = '#' ∧ current = none then some ([], .comment, none)
  else some ([], .unquoted, some ((begun current).literal char))

/-- The tokens that end at a character, the next mode, and the word begun. -/
def step (mode : Mode) (current : Option Word) (char : Char) :
    Option (List Token × Mode × Option Word) :=
  if char = '\x00' then none
  else
    match mode with
    | .unquoted => unquotedStep current char
    | .escaped =>
        -- a backslash and a newline continue the line
        if char = '\n' then some ([], .unquoted, current)
        else some ([], .unquoted, some (((begun current).mark '\\').literal char))
    | .comment =>
        if char = '\n' then some ([.operator char], .unquoted, none)
        else some ([], .comment, none)
    | .singleQuoted =>
        if char = '\'' then some ([], .unquoted, some ((begun current).mark char))
        else some ([], .singleQuoted, some ((begun current).literal char))
    | .doubleQuoted =>
        if char = '"' then some ([], .unquoted, some ((begun current).mark char))
        else if char = '\\' then some ([], .doubleEscaped, current)
        else some ([], .doubleQuoted, some ((begun current).literal char))
    | .doubleEscaped =>
        if char = '\n' then some ([], .doubleQuoted, current)
        else if isDoubleEscape char then
          some ([], .doubleQuoted, some (((begun current).mark '\\').literal char))
        else some ([], .doubleQuoted, some (((begun current).literal '\\').literal char))

def lexFrom : Mode → Option Word → List Char → Option (List Token)
  | .unquoted, current, [] => some (flush current)
  | .comment, _, [] => some []
  | _, _, [] => none
  | mode, current, char :: rest =>
      match step mode current char with
      | none => none
      | some (tokens, next, word) => (lexFrom next word rest).map (tokens ++ ·)

def lex (text : List Char) : Option (List Token) :=
  lexFrom .unquoted none text

/-! ## Simple commands -/

def reservedWords : List String :=
  ["!", "\x7b", "\x7d", "case", "do", "done", "elif", "else", "esac", "fi", "for", "if", "in", "then",
    "until", "while"]

def isReserved (raw : List Char) : Bool :=
  String.ofList raw ∈ reservedWords

def isNameStart (char : Char) : Bool :=
  char.isAlpha || char = '_'

/-- The word begins with a name and `=`. -/
def isAssignment (raw : List Char) : Bool :=
  let name := raw.takeWhile fun char => char.isAlphanum || char = '_'
  name.head?.any isNameStart && raw[name.length]? = some '='

def Token.word? : Token → Option Word
  | .word found => some found
  | .operator _ => none

/-- The words of a text that is one simple command without redirections or assignments. -/
def readCommand (text : List Char) : Option (List (List Char)) :=
  match (lex text).bind (List.mapM Token.word?) with
  | none | some [] => none
  | some (first :: rest) =>
      if isReserved first.raw || isAssignment first.raw then none
      else some (first.text :: rest.map Word.text)

/-- The words before the first operator. -/
def firstCommand (text : List Char) : Option (List (List Char)) :=
  (lex text).map fun tokens =>
    (tokens.takeWhile fun token => token.word?.isSome).filterMap
      fun token => token.word?.map Word.text

/-! ## Plain words -/

/-- Characters that stand for themselves outside quotes. -/
def isOrdinary (char : Char) : Bool :=
  !(isBlank char || isOperator char || isQuoting char || char = '\x00')

/-- A word that the shell reads as it stands. -/
structure Plain (word : List Char) : Prop where
  nonempty : word ≠ []
  ordinary : ∀ char ∈ word, isOrdinary char = true
  noComment : word.head? ≠ some '#'

/-- Words with one blank between two of them. -/
def unwords : List (List Char) → List Char
  | [] => []
  | [word] => word
  | word :: rest => word ++ ' ' :: unwords rest

@[simp] theorem unwords_singleton (word : List Char) : unwords [word] = word := rfl

theorem unwords_cons_cons (word next : List Char) (rest : List (List Char)) :
    unwords (word :: next :: rest) = word ++ ' ' :: unwords (next :: rest) := rfl

theorem unquotedStep_ordinary {current : Option Word} {char : Char}
    (hordinary : isOrdinary char = true) (hcomment : current = none → char ≠ '#') :
    step .unquoted current char =
      some ([], .unquoted, some ((begun current).literal char)) := by
  simp only [isOrdinary, isQuoting, Bool.not_eq_true', Bool.or_eq_false_iff,
    decide_eq_false_iff_not] at hordinary
  obtain ⟨⟨⟨hblank, hoperator⟩, ⟨hback, hsingle⟩, hdouble⟩, hnull⟩ := hordinary
  have hstart : ¬(char = '#' ∧ current = none) := fun h => hcomment h.2 h.1
  simp [step, unquotedStep, hnull, hblank, hoperator, hback, hsingle, hdouble, hstart]

/-- Ordinary characters go on with the word begun. -/
theorem lexFrom_ordinary {word : List Char} (hword : ∀ char ∈ word, isOrdinary char = true)
    (current : Word) (rest : List Char) :
    lexFrom .unquoted (some current) (word ++ rest) =
      lexFrom .unquoted (some ⟨current.raw ++ word, current.text ++ word⟩) rest := by
  induction word generalizing current with
  | nil => simp
  | cons char word ih =>
      have hchar := hword char List.mem_cons_self
      have hrest := fun other hmem => hword other (List.mem_cons_of_mem char hmem)
      have hstep := @unquotedStep_ordinary (some current) char hchar nofun
      rw [List.cons_append, lexFrom, hstep]
      simp only [List.nil_append, Option.map_id', begun, Option.getD_some]
      rw [ih hrest]
      simp [Word.literal]

theorem lexFrom_plain {word : List Char} (hplain : Plain word) (rest : List Char) :
    lexFrom .unquoted none (word ++ rest) =
      lexFrom .unquoted (some ⟨word, word⟩) rest := by
  cases word with
  | nil => exact absurd rfl hplain.nonempty
  | cons char word =>
      have hchar := hplain.ordinary char List.mem_cons_self
      have hrest := fun other hmem => hplain.ordinary other (List.mem_cons_of_mem char hmem)
      have hcomment : (none : Option Word) = none → char ≠ '#' := by
        rintro - rfl
        exact hplain.noComment rfl
      rw [List.cons_append, lexFrom, unquotedStep_ordinary hchar hcomment]
      simp only [List.nil_append, Option.map_id']
      rw [lexFrom_ordinary hrest]
      rfl

theorem lexFrom_plain_blank {word : List Char} (hplain : Plain word) (rest : List Char) :
    lexFrom .unquoted none (word ++ ' ' :: rest) =
      (lexFrom .unquoted none rest).map (.word ⟨word, word⟩ :: ·) := by
  have hblank : step .unquoted (some ⟨word, word⟩) ' ' =
      some ([.word ⟨word, word⟩], .unquoted, none) := rfl
  rw [lexFrom_plain hplain, lexFrom, hblank]
  rfl

/-- Plain words with blanks between them are read as they stand. -/
theorem lex_unwords {words : List (List Char)} (hplain : ∀ word ∈ words, Plain word) :
    lex (unwords words) = some (words.map fun word => .word ⟨word, word⟩) := by
  unfold lex
  induction words with
  | nil => rfl
  | cons word rest ih =>
      have hword := hplain word List.mem_cons_self
      have hrest := ih fun other hmem => hplain other (List.mem_cons_of_mem word hmem)
      cases rest with
      | nil =>
          have happend := lexFrom_plain hword []
          rw [List.append_nil] at happend
          rw [unwords_singleton, happend]
          rfl
      | cons next rest =>
          rw [unwords_cons_cons, lexFrom_plain_blank hword, hrest]
          rfl

/-! ## Nothing but plain words is read as it stands -/

/-- The characters of the words, and one for the end of each. -/
def weight (tokens : List Token) : Nat :=
  (tokens.map fun token =>
    match token with
    | .word word => word.text.length + 1
    | .operator _ => 0).sum

def currentLength (current : Option Word) : Nat :=
  (begun current).text.length

/-- The characters of a quoted part or a comment that are certainly lost. -/
def Mode.cost : Mode → Nat
  | .unquoted | .escaped | .doubleEscaped => 0
  | .comment | .singleQuoted | .doubleQuoted => 1

@[simp] theorem weight_nil : weight [] = 0 := rfl

@[simp] theorem weight_append (front back : List Token) :
    weight (front ++ back) = weight front + weight back := by
  simp [weight]

@[simp] theorem weight_operator (char : Char) : weight [.operator char] = 0 := rfl

theorem weight_flush_le (current : Option Word) :
    weight (flush current) ≤ currentLength current + 1 := by
  cases current with
  | none => exact Nat.zero_le _
  | some word => exact Nat.le_refl _

@[simp] theorem currentLength_none : currentLength none = 0 := rfl

@[simp] theorem currentLength_mark (current : Option Word) (char : Char) :
    currentLength (some ((begun current).mark char)) = currentLength current := rfl

@[simp] theorem currentLength_literal (word : Word) (char : Char) :
    currentLength (some (word.literal char)) = word.text.length + 1 := by
  simp [currentLength, begun]

/-- A character adds at most itself to the words. -/
theorem weight_step {mode next : Mode} {current word : Option Word} {char : Char}
    {tokens : List Token} (hstep : step mode current char = some (tokens, next, word)) :
    weight tokens + currentLength word + mode.cost ≤ currentLength current + 1 + next.cost := by
  have hflush := weight_flush_le current
  have hbegun : (begun current).text.length = currentLength current := rfl
  unfold step at hstep
  split at hstep
  · cases hstep
  · cases mode with
    | unquoted =>
        simp only [unquotedStep] at hstep
        repeat' split at hstep
        all_goals cases hstep
        all_goals simp [Mode.cost, hbegun] <;> omega
    | escaped | comment | singleQuoted | doubleQuoted | doubleEscaped =>
        dsimp only at hstep
        repeat' split at hstep
        all_goals cases hstep
        all_goals simp [Mode.cost, hbegun] <;> omega

theorem weight_lexFrom {mode : Mode} {current : Option Word} {text : List Char}
    {tokens : List Token} (hlex : lexFrom mode current text = some tokens) :
    weight tokens + mode.cost ≤ currentLength current + text.length + 1 := by
  induction text generalizing mode current tokens with
  | nil =>
      have hflush := weight_flush_le current
      cases mode with
      | unquoted =>
          cases hlex
          exact hflush
      | comment =>
          cases hlex
          exact Nat.le_add_left _ _
      | escaped | singleQuoted | doubleQuoted | doubleEscaped => cases hlex
  | cons char rest ih =>
      simp only [lexFrom] at hlex
      split at hlex
      case h_1 => cases hlex
      case h_2 front next word hstep =>
          obtain ⟨back, hback, rfl⟩ := Option.map_eq_some_iff.mp hlex
          have hbound := ih hback
          have hchar := weight_step hstep
          rw [weight_append, List.length_cons]
          omega

/-- What an unquoted character does: end a word, go on with it, or be lost. -/
theorem unquotedStep_cases {next : Mode} {current word : Option Word} {char : Char}
    {tokens : List Token} (hstep : step .unquoted current char = some (tokens, next, word)) :
    (next = .unquoted ∧ word = none ∧
      (tokens = flush current ∨ tokens = flush current ++ [.operator char])) ∨
    (isOrdinary char = true ∧ (current = none → char ≠ '#') ∧ tokens = [] ∧
      next = .unquoted ∧ word = some ((begun current).literal char)) ∨
    weight tokens + currentLength word < currentLength current + 1 + next.cost := by
  have hquote : 0 + currentLength current < currentLength current + 1 + 1 := by omega
  unfold step at hstep
  split at hstep
  case isTrue => cases hstep
  case isFalse hnull =>
      simp only [unquotedStep] at hstep
      split at hstep
      case isTrue =>
          cases hstep
          exact .inl ⟨rfl, rfl, .inl rfl⟩
      split at hstep
      case isTrue =>
          cases hstep
          exact .inl ⟨rfl, rfl, .inr rfl⟩
      split at hstep
      case isTrue =>
          cases hstep
          exact .inr (.inr (by simp [Mode.cost]))
      split at hstep
      case isTrue =>
          cases hstep
          exact .inr (.inr hquote)
      split at hstep
      case isTrue =>
          cases hstep
          exact .inr (.inr hquote)
      split at hstep
      case isTrue =>
          cases hstep
          exact .inr (.inr (by simp [Mode.cost]))
      case isFalse hblank hoperator hback hsingle hdouble hcomment =>
          cases hstep
          refine .inr (.inl ⟨?_, fun hnone hhash => hcomment ⟨hhash, hnone⟩, rfl, rfl, rfl⟩)
          simp [isOrdinary, isQuoting, hblank, hoperator, hback, hsingle, hdouble, hnull]

/-- A word under construction that is plain so far. -/
def PlainSoFar (current : Option Word) : Prop :=
  ∀ word, current = some word → word.raw = word.text ∧ Plain word.text

theorem PlainSoFar.literal {current : Option Word} (hcurrent : PlainSoFar current) {char : Char}
    (hordinary : isOrdinary char = true) (hcomment : current = none → char ≠ '#') :
    PlainSoFar (some ((begun current).literal char)) := by
  rintro word ⟨⟩
  cases current with
  | none =>
      refine ⟨rfl, List.cons_ne_nil _ _, ?_, ?_⟩
      · intro other hmem
        rw [List.mem_singleton.mp hmem]
        exact hordinary
      · intro hhead
        exact hcomment rfl (Option.some.inj hhead)
  | some word =>
      obtain ⟨hraw, hplain⟩ := hcurrent word rfl
      refine ⟨congrArg (· ++ [char]) hraw, by simp [begun], ?_, ?_⟩
      · intro other hmem
        rcases List.mem_append.mp hmem with hold | hnew
        · exact hplain.ordinary other hold
        · rw [List.mem_singleton.mp hnew]
          exact hordinary
      · rw [begun, Option.getD_some, Word.text_literal,
          List.head?_append_of_ne_nil _ hplain.nonempty]
        exact hplain.noComment

/-- Every word among the tokens is plain. -/
def PlainTokens (tokens : List Token) : Prop :=
  ∀ word, .word word ∈ tokens → word.raw = word.text ∧ Plain word.text

theorem plainTokens_flush {current : Option Word} (hcurrent : PlainSoFar current) :
    PlainTokens (flush current) := by
  intro word hmem
  cases current with
  | none => cases hmem
  | some shown =>
      cases List.mem_singleton.mp hmem
      exact hcurrent word rfl

theorem plainTokens_append {front back : List Token} (hfront : PlainTokens front)
    (hback : PlainTokens back) : PlainTokens (front ++ back) := by
  intro word hmem
  rcases List.mem_append.mp hmem with hmem | hmem
  · exact hfront word hmem
  · exact hback word hmem

/-- A text none of whose characters is lost has plain words only. -/
theorem plainTokens_lexFrom {current : Option Word} {text : List Char} {tokens : List Token}
    (hlex : lexFrom .unquoted current text = some tokens) (hcurrent : PlainSoFar current)
    (htight : currentLength current + text.length + 1 ≤ weight tokens) : PlainTokens tokens := by
  induction text generalizing current tokens with
  | nil =>
      cases hlex
      exact plainTokens_flush hcurrent
  | cons char rest ih =>
      simp only [lexFrom] at hlex
      split at hlex
      case h_1 => cases hlex
      case h_2 front next word hstep =>
          obtain ⟨back, hback, rfl⟩ := Option.map_eq_some_iff.mp hlex
          have hbound := weight_lexFrom hback
          rw [weight_append, List.length_cons] at htight
          have hflush := plainTokens_flush hcurrent
          have hweight := weight_flush_le current
          rcases unquotedStep_cases hstep with
            ⟨rfl, rfl, hfront⟩ | ⟨hordinary, hcomment, rfl, rfl, rfl⟩ | hlost
          · have hfrontWeight : weight front ≤ currentLength current + 1 := by
              rcases hfront with rfl | rfl
              · exact hweight
              · simpa using hweight
            have hplain := ih hback nofun (by rw [currentLength_none]; omega)
            refine plainTokens_append ?_ hplain
            rcases hfront with rfl | rfl
            · exact hflush
            · exact plainTokens_append hflush (by rintro other ⟨⟩; contradiction)
          · have hlength : currentLength (some ((begun current).literal char)) =
                currentLength current + 1 := currentLength_literal _ _
            rw [weight_nil] at htight
            have hplain := ih hback (hcurrent.literal hordinary hcomment) (by rw [hlength]; omega)
            exact hplain
          · omega

theorem length_unwords {words : List (List Char)} (hwords : words ≠ []) :
    (unwords words).length + 1 = (words.map fun word => word.length + 1).sum := by
  induction words with
  | nil => exact absurd rfl hwords
  | cons word rest ih =>
      cases rest with
      | nil => simp [unwords]
      | cons next rest =>
          have hrest := ih (List.cons_ne_nil _ _)
          rw [unwords_cons_cons, List.length_append, List.length_cons, List.map_cons,
            List.sum_cons, ← hrest]
          omega

theorem weight_words (words : List Word) :
    weight (words.map .word) = (words.map fun word => word.text.length + 1).sum := by
  rw [weight, List.map_map]
  rfl

/-- Words are read as they stand exactly when all of them are plain. -/
theorem lex_unwords_iff {words : List (List Char)} (hwords : words ≠ []) :
    (∃ read : List Word, lex (unwords words) = some (read.map .word) ∧
      read.map Word.text = words) ↔ ∀ word ∈ words, Plain word := by
  constructor
  · rintro ⟨read, hlex, rfl⟩
    have htight : (unwords (read.map Word.text)).length + 1 = weight (read.map .word) := by
      rw [length_unwords hwords, weight_words, List.map_map]
      rfl
    have hplain := plainTokens_lexFrom hlex nofun (by rw [currentLength_none]; omega)
    intro text hmem
    obtain ⟨word, hword, rfl⟩ := List.mem_map.mp hmem
    exact (hplain word (List.mem_map_of_mem hword)).2
  · intro hplain
    refine ⟨words.map fun word => ⟨word, word⟩, ?_, ?_⟩
    · rw [lex_unwords hplain, List.map_map]
      rfl
    · rw [List.map_map]
      exact List.map_id' words

theorem mapM_word?_eq_some {tokens : List Token} {words : List Word} :
    tokens.mapM Token.word? = some words ↔ tokens = words.map .word := by
  induction tokens generalizing words with
  | nil =>
      rw [List.mapM_nil, Option.pure_def, Option.some.injEq]
      exact ⟨fun h => by rw [← h]; rfl, fun h => (List.map_eq_nil_iff.mp h.symm).symm⟩
  | cons token rest ih =>
      rw [List.mapM_cons]
      cases token with
      | operator char =>
          refine ⟨nofun, fun h => ?_⟩
          cases words <;> cases h
      | word first =>
          simp only [Token.word?, Option.bind_eq_bind, Option.bind_some, Option.pure_def,
            Option.bind_eq_some_iff, Option.some.injEq, ih]
          constructor
          · rintro ⟨words, rfl, rfl⟩
            rfl
          · intro htokens
            cases words with
            | nil => cases htokens
            | cons second words =>
                obtain ⟨hfirst, hrest⟩ := List.cons.inj htokens
                cases hfirst
                exact ⟨words, hrest, rfl⟩

/-- Words are a command as they stand exactly when they are plain and the first names one. -/
theorem readCommand_unwords_iff (name : List Char) (args : List (List Char)) :
    readCommand (unwords (name :: args)) = some (name :: args) ↔
      (∀ word ∈ name :: args, Plain word) ∧ isReserved name = false ∧
        isAssignment name = false := by
  have hmap : ∀ words : List (List Char),
      (words.map fun word => Token.word ⟨word, word⟩) =
        (words.map fun word => Word.mk word word).map .word := by
    intro words
    rw [List.map_map]
    rfl
  have hread : (∀ word ∈ name :: args, Plain word) →
      (lex (unwords (name :: args))).bind (List.mapM Token.word?) =
        some (⟨name, name⟩ :: args.map fun word => ⟨word, word⟩) := by
    intro hplain
    rw [lex_unwords hplain, hmap]
    exact mapM_word?_eq_some.mpr rfl
  constructor
  · intro hcommand
    have hplain : ∀ word ∈ name :: args, Plain word := by
      refine (lex_unwords_iff (List.cons_ne_nil name args)).mp ?_
      unfold readCommand at hcommand
      split at hcommand
      case h_1 => cases hcommand
      case h_2 => cases hcommand
      case h_3 first rest hwords =>
          obtain ⟨tokens, hlex, htokens⟩ := Option.bind_eq_some_iff.mp hwords
          split at hcommand
          · cases hcommand
          · rw [mapM_word?_eq_some.mp htokens] at hlex
            exact ⟨first :: rest, hlex, Option.some.inj hcommand⟩
    refine ⟨hplain, ?_⟩
    rw [readCommand, hread hplain] at hcommand
    dsimp only at hcommand
    split at hcommand
    case isTrue => cases hcommand
    case isFalse hname => simpa using hname
  · rintro ⟨hplain, hreserved, hassignment⟩
    rw [readCommand, hread hplain]
    simp [hreserved, hassignment, Function.comp_def]

/-! ## Single quotes -/

/-- Every single quote leaves the quotes, is escaped, and enters them again. -/
def escapeQuotes (text : List Char) : List Char :=
  text.flatMap fun char => if char = '\'' then ['\'', '\\', '\'', '\''] else [char]

theorem lexFrom_openQuote (rest : List Char) :
    lexFrom .unquoted none ('\'' :: rest) =
      lexFrom .singleQuoted (some ((Word.empty).mark '\'')) rest := by
  have hopen : step .unquoted none '\'' =
      some ([], .singleQuoted, some ((Word.empty).mark '\'')) := rfl
  rw [lexFrom, hopen]
  exact Option.map_id'

theorem lexFrom_closeQuote (word : Word) (rest : List Char) :
    lexFrom .singleQuoted (some word) ('\'' :: rest) =
      lexFrom .unquoted (some (word.mark '\'')) rest := by
  have hclose : step .singleQuoted (some word) '\'' =
      some ([], .unquoted, some (word.mark '\'')) := rfl
  rw [lexFrom, hclose]
  exact Option.map_id'

/-- Escaped text inside single quotes is read as the text. -/
theorem lexFrom_escapeQuotes {text : List Char} (hnull : '\x00' ∉ text) (current : Word)
    (rest : List Char) : ∃ word : Word, word.text = current.text ++ text ∧
      lexFrom .singleQuoted (some current) (escapeQuotes text ++ rest) =
        lexFrom .singleQuoted (some word) rest := by
  induction text generalizing current with
  | nil => exact ⟨current, (List.append_nil _).symm, rfl⟩
  | cons char text ih =>
      rw [List.mem_cons, not_or] at hnull
      by_cases hquote : char = '\''
      · subst hquote
        -- out of the quotes, an escaped quote, and into the quotes again
        let outside := (current.mark '\'').mark '\\'
        obtain ⟨word, htext, hlex⟩ := ih hnull.2 ((outside.literal '\'').mark '\'')
        refine ⟨word, ?_, ?_⟩
        · rw [htext]
          simp [outside]
        · rw [← hlex]
          simp only [escapeQuotes, List.flatMap_cons, if_true, List.cons_append,
            List.nil_append]
          simp only [lexFrom, step, unquotedStep, isBlank, isOperator]
          simp [begun, outside]
      · obtain ⟨word, htext, hlex⟩ := ih hnull.2 (current.literal char)
        refine ⟨word, ?_, ?_⟩
        · rw [htext, Word.text_literal, List.append_assoc]
          rfl
        · have hstep : step .singleQuoted (some current) char =
              some ([], .singleQuoted, some (current.literal char)) := by
            simp [step, Ne.symm hnull.1, hquote, begun]
          rw [← hlex]
          simp only [escapeQuotes, List.flatMap_cons, hquote, if_false, List.cons_append,
            List.nil_append, lexFrom, hstep, Option.map_id']

/-- A text in single quotes is one word, the text. -/
theorem lexFrom_quoted {text : List Char} (hnull : '\x00' ∉ text) (rest : List Char) :
    ∃ word : Word, word.text = text ∧
      lexFrom .unquoted none ('\'' :: (escapeQuotes text ++ '\'' :: rest)) =
        lexFrom .unquoted (some word) rest := by
  obtain ⟨word, htext, hlex⟩ :=
    lexFrom_escapeQuotes hnull ((Word.empty).mark '\'') ('\'' :: rest)
  refine ⟨word.mark '\'', htext, ?_⟩
  rw [lexFrom_openQuote, hlex, lexFrom_closeQuote]

theorem length_escapeQuotes (text : List Char) :
    (escapeQuotes text).length = text.length + 3 * text.count '\'' := by
  induction text with
  | nil => rfl
  | cons char text ih =>
      have hcons : escapeQuotes (char :: text) =
          (if char = '\'' then ['\'', '\\', '\'', '\''] else [char]) ++ escapeQuotes text :=
        List.flatMap_cons
      rw [hcons, List.length_append, ih, List.count_cons, List.length_cons]
      by_cases hquote : char = '\''
      · simp [hquote]
        omega
      · simp [hquote]
        omega

/-- Escaping changes exactly the texts with a single quote. -/
theorem escapeQuotes_eq_iff (text : List Char) : escapeQuotes text = text ↔ '\'' ∉ text := by
  constructor
  · intro hsame hmem
    have hlength := length_escapeQuotes text
    have hcount := List.count_pos_iff.mpr hmem
    rw [hsame] at hlength
    omega
  · intro hnone
    induction text with
    | nil => rfl
    | cons char text ih =>
        rw [List.mem_cons, not_or] at hnone
        have hchar : char ≠ '\'' := Ne.symm hnone.1
        have hrest := ih hnone.2
        unfold escapeQuotes at hrest ⊢
        rw [List.flatMap_cons, if_neg hchar, hrest]
        rfl

theorem null_notMem_escapeQuotes {text : List Char} (hnull : '\x00' ∉ text) :
    '\x00' ∉ escapeQuotes text := by
  intro hmem
  obtain ⟨char, hchar, hin⟩ := List.mem_flatMap.mp hmem
  split at hin
  · simp at hin
  · rw [List.mem_singleton] at hin
    rw [hin] at hnull
    exact hnull hchar

/-! ## Double quotes -/

def isPlain (word : List Char) : Bool :=
  !word.isEmpty && word.all isOrdinary && !word.head?.any fun char => char = '#'

theorem isPlain_iff (word : List Char) : isPlain word = true ↔ Plain word := by
  cases word with
  | nil => exact ⟨fun h => absurd h (by decide), fun h => absurd rfl h.nonempty⟩
  | cons char rest =>
      simp only [isPlain, List.isEmpty_cons, Bool.not_false, Bool.true_and, Bool.and_eq_true,
        List.all_eq_true, List.head?_cons, Option.any_some, Bool.not_eq_true',
        decide_eq_false_iff_not]
      refine ⟨fun h => ⟨List.cons_ne_nil char rest, h.1, ?_⟩, fun h => ⟨h.ordinary, ?_⟩⟩
      · exact fun hhash => h.2 (Option.some.inj hhash)
      · exact fun hhash => h.noComment (congrArg some hhash)

instance (word : List Char) : Decidable (Plain word) :=
  decidable_of_iff (isPlain word = true) (isPlain_iff word)

/-- Characters that stand for themselves in double quotes. -/
def isPlainInDouble (char : Char) : Bool :=
  !(char = '"' || char = '\\' || char = '\x00')

theorem lexFrom_inDouble {text : List Char} (htext : ∀ char ∈ text, isPlainInDouble char = true)
    (word : Word) (rest : List Char) :
    lexFrom .doubleQuoted (some word) (text ++ rest) =
      lexFrom .doubleQuoted (some ⟨word.raw ++ text, word.text ++ text⟩) rest := by
  induction text generalizing word with
  | nil => simp
  | cons char text ih =>
      have hchar := htext char List.mem_cons_self
      have hrest := fun other hmem => htext other (List.mem_cons_of_mem char hmem)
      simp only [isPlainInDouble, Bool.not_eq_true', Bool.or_eq_false_iff,
        decide_eq_false_iff_not] at hchar
      obtain ⟨⟨hquote, hback⟩, hnull⟩ := hchar
      have hstep : step .doubleQuoted (some word) char =
          some ([], .doubleQuoted, some (word.literal char)) := by
        simp [step, hquote, hback, hnull, begun]
      rw [List.cons_append, lexFrom, hstep]
      simp only [List.nil_append, Option.map_id']
      rw [ih hrest]
      simp [Word.literal]

theorem lexFrom_openDouble (word : Word) (rest : List Char) :
    lexFrom .unquoted (some word) ('"' :: rest) =
      lexFrom .doubleQuoted (some (word.mark '"')) rest := by
  have hopen : step .unquoted (some word) '"' =
      some ([], .doubleQuoted, some (word.mark '"')) := rfl
  rw [lexFrom, hopen]
  exact Option.map_id'

theorem lexFrom_closeDouble (word : Word) (rest : List Char) :
    lexFrom .doubleQuoted (some word) ('"' :: rest) =
      lexFrom .unquoted (some (word.mark '"')) rest := by
  have hclose : step .doubleQuoted (some word) '"' =
      some ([], .unquoted, some (word.mark '"')) := rfl
  rw [lexFrom, hclose]
  exact Option.map_id'

/-- A text that ends inside double quotes is not read. -/
theorem lexFrom_unclosed {text : List Char} (htext : ∀ char ∈ text, isPlainInDouble char = true)
    (word : Word) : lexFrom .unquoted (some word) ('"' :: text) = none := by
  have hinside := lexFrom_inDouble htext (word.mark '"') []
  rw [List.append_nil] at hinside
  rw [lexFrom_openDouble, hinside]
  rfl

/-- Words before a text that is not read. -/
theorem lexFrom_unwords_none {words : List (List Char)} (hwords : words ≠ [])
    (hplain : ∀ word ∈ words, Plain word) {rest : List Char}
    (hrest : lexFrom .unquoted none rest = none) :
    lexFrom .unquoted none (unwords words ++ ' ' :: rest) = none := by
  induction words with
  | nil => exact absurd rfl hwords
  | cons word words ih =>
      have hword := hplain word List.mem_cons_self
      have hothers := fun other hmem => hplain other (List.mem_cons_of_mem word hmem)
      cases words with
      | nil => rw [unwords_singleton, lexFrom_plain_blank hword, hrest, Option.map_none]
      | cons next words =>
          rw [unwords_cons_cons, List.append_assoc, List.cons_append, lexFrom_plain_blank hword,
            ih (List.cons_ne_nil next words) hothers, Option.map_none]

/-- A command that ends inside the quotes of its last word is not read. -/
theorem readCommand_unclosed {words : List (List Char)} (hwords : words ≠ [])
    (hplain : ∀ word ∈ words, Plain word) {front text : List Char} (hfront : Plain front)
    (htext : ∀ char ∈ text, isPlainInDouble char = true) :
    readCommand (unwords words ++ ' ' :: (front ++ '"' :: text)) = none := by
  have hrest : lexFrom .unquoted none (front ++ '"' :: text) = none := by
    rw [lexFrom_plain hfront, lexFrom_unclosed htext]
  have hlex : lex (unwords words ++ ' ' :: (front ++ '"' :: text)) = none :=
    lexFrom_unwords_none hwords hplain hrest
  rw [readCommand, hlex]
  rfl

/-- How a word is written: in front as it stands, and the rest, if any, in double quotes. -/
structure Spelling where
  front : List Char
  quoted : Option (List Char)

namespace Spelling

def raw (spelling : Spelling) : List Char :=
  match spelling.quoted with
  | none => spelling.front
  | some text => spelling.front ++ '"' :: (text ++ ['"'])

/-- What the shell makes of it. -/
def text (spelling : Spelling) : List Char :=
  spelling.front ++ spelling.quoted.getD []

structure Valid (spelling : Spelling) : Prop where
  front : Plain spelling.front
  quoted : ∀ char ∈ spelling.quoted.getD [], isPlainInDouble char = true

def isValid (spelling : Spelling) : Bool :=
  isPlain spelling.front && (spelling.quoted.getD []).all isPlainInDouble

theorem isValid_iff (spelling : Spelling) : spelling.isValid = true ↔ spelling.Valid := by
  rw [isValid, Bool.and_eq_true, isPlain_iff, List.all_eq_true]
  exact ⟨fun h => ⟨h.1, h.2⟩, fun h => ⟨h.front, h.quoted⟩⟩

instance (spelling : Spelling) : Decidable spelling.Valid :=
  decidable_of_iff (spelling.isValid = true) spelling.isValid_iff

def plain (word : List Char) : Spelling where
  front := word
  quoted := none

@[simp] theorem text_plain (word : List Char) : (plain word).text = word :=
  List.append_nil word

theorem plain_valid {word : List Char} (hplain : Plain word) : (plain word).Valid :=
  ⟨hplain, fun _ hmem => absurd hmem List.not_mem_nil⟩

end Spelling

theorem lexFrom_spelling {spelling : Spelling} (hvalid : spelling.Valid) (rest : List Char) :
    lexFrom .unquoted none (spelling.raw ++ rest) =
      lexFrom .unquoted (some ⟨spelling.raw, spelling.text⟩) rest := by
  obtain ⟨front, quoted⟩ := spelling
  cases quoted with
  | none =>
      rw [Spelling.raw, Spelling.text, Option.getD_none, List.append_nil]
      exact lexFrom_plain hvalid.front rest
  | some text =>
      have htext : ∀ char ∈ text, isPlainInDouble char = true := hvalid.quoted
      rw [Spelling.raw, Spelling.text, Option.getD_some, List.append_assoc, List.cons_append,
        List.append_assoc, List.singleton_append, lexFrom_plain hvalid.front, lexFrom_openDouble,
        lexFrom_inDouble htext, lexFrom_closeDouble]
      simp [Word.mark]

theorem lexFrom_spelling_blank {spelling : Spelling} (hvalid : spelling.Valid)
    (rest : List Char) : lexFrom .unquoted none (spelling.raw ++ ' ' :: rest) =
      (lexFrom .unquoted none rest).map (.word ⟨spelling.raw, spelling.text⟩ :: ·) := by
  have hblank : step .unquoted (some ⟨spelling.raw, spelling.text⟩) ' ' =
      some ([.word ⟨spelling.raw, spelling.text⟩], .unquoted, none) := rfl
  rw [lexFrom_spelling hvalid, lexFrom, hblank]
  rfl

/-- Spelled words with blanks between them. -/
theorem lex_spelled {spellings : List Spelling} (hvalid : ∀ spelling ∈ spellings, spelling.Valid) :
    lex (unwords (spellings.map Spelling.raw)) =
      some (spellings.map fun spelling => .word ⟨spelling.raw, spelling.text⟩) := by
  unfold lex
  induction spellings with
  | nil => rfl
  | cons spelling rest ih =>
      have hspelling := hvalid spelling List.mem_cons_self
      have hrest := ih fun other hmem => hvalid other (List.mem_cons_of_mem spelling hmem)
      cases rest with
      | nil =>
          have happend := lexFrom_spelling hspelling []
          rw [List.append_nil] at happend
          rw [List.map_singleton, unwords_singleton, happend]
          rfl
      | cons next rest =>
          rw [List.map_cons, List.map_cons, unwords_cons_cons, lexFrom_spelling_blank hspelling,
            ← List.map_cons, hrest]
          rfl

/-- A command of spelled words is read as their texts. -/
theorem readCommand_spelled {name : List Char} {args : List Spelling} (hname : Plain name)
    (hreserved : isReserved name = false) (hassignment : isAssignment name = false)
    (hargs : ∀ spelling ∈ args, spelling.Valid) :
    readCommand (unwords (name :: args.map Spelling.raw)) =
      some (name :: args.map Spelling.text) := by
  have hall : ∀ spelling ∈ Spelling.plain name :: args, spelling.Valid := by
    intro spelling hmem
    rcases List.mem_cons.mp hmem with rfl | hmem
    · exact Spelling.plain_valid hname
    · exact hargs spelling hmem
  have hlex : lex (unwords (name :: args.map Spelling.raw)) = _ := lex_spelled hall
  have hwords : ∀ spellings : List Spelling,
      (spellings.map fun spelling => Token.word ⟨spelling.raw, spelling.text⟩) =
        (spellings.map fun spelling => (⟨spelling.raw, spelling.text⟩ : Word)).map .word := by
    intro spellings
    rw [List.map_map]
    rfl
  have hread := mapM_word?_eq_some.mpr (hwords (Spelling.plain name :: args))
  rw [readCommand, hlex, Option.bind_some, hread]
  simp [Spelling.plain, Spelling.raw, Spelling.text, hreserved, hassignment, Function.comp_def]

end K4W.Library.Shell
