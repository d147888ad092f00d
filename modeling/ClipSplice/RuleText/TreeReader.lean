import ClipSplice.RuleText.Reply
import ClipSplice.RuleText.Tree

/-!
# The grammar of rule texts

A rule is `default`, one or two clip lists, or a list of rules between brackets, and may have a
condition with a colon in front. Rules follow each other with or without commas. Blanks and comments
may stand between all parts. `readRules` reads a whole text.
-/

namespace ClipSplice.RuleText

open Reader

/-! ## Blanks and words -/

/-- Whether a comment can end: at a line end or at the end of the text. A carriage return that is
no part of a line end spoils the comment. -/
def endsAsComment (text : List Char) : Bool :=
  match text.dropWhile fun c => c ≠ '\n' && c ≠ '\r' with
  | ['\r'] => false
  | '\r' :: c :: _ => c = '\n'
  | _ => true

/-- The text without the blanks and comments that it starts with; `inComment` says that a comment
has begun. -/
def skipSpace (inComment : Bool) : List Char → List Char
  | [] => []
  | c :: rest =>
    if inComment then skipSpace (c ≠ '\n' && c ≠ '\r') rest
    else if isBlank c then skipSpace false rest
    else if c = '#' && endsAsComment rest then skipSpace true rest
    else c :: rest

/-- Read blanks and comments. -/
def space : Reader Unit := fun text => .done () (skipSpace false text)

/-- Whether a character may stand in a word without quotes. -/
def isBare (c : Char) : Bool :=
  !isBlank c && !",:()[]'\"#=<>".toList.contains c

/-- Read a word without quotes. -/
def bareWord : Reader String := do return .ofList (← wordOf isBare)

/-- Read a certain word. -/
def keyword (word : String) : Reader Unit := fun text =>
  match bareWord text with
  | .done found rest => if found = word then .done () rest else .miss [] text
  | _ => .miss [] text

/-- Words with a meaning of their own. -/
def keywords : List String := ["default", "pre", "post", "and", "or", "not"]

/-- Read up to the closing quote. A backslash in front of it makes it part of the text. -/
def quotedRest (quote : Char) : List Char → Reply (List Char)
  | [] => .stop [.closingQuote] []
  | [c] => if c = quote then .done [] [] else .stop [.closingQuote] []
  | c :: d :: rest =>
    if c = quote then .done [] (d :: rest)
    else if c = '\\' ∧ d = quote then after quote (quotedRest quote rest)
    else after c (quotedRest quote (d :: rest))
where
  /-- Put a character in front of what was read. -/
  after (c : Char) : Reply (List Char) → Reply (List Char)
    | .done text rest => .done (c :: text) rest
    | reply => reply

/-- Read a text between single or double quotes. -/
def quoted : Reader String := do
  let quote ← charWith fun c => c = '\'' || c = '"'
  return .ofList (← quotedRest quote)

/-- Read a word that is no keyword. -/
def plainWord : Reader String := fun text =>
  match bareWord text with
  | .done found rest => if keywords.contains found then .miss [] text else .done found rest
  | _ => .miss [] text

/-- Read a text in quotes or a plain word. -/
def string : Reader String := quoted <|> plainWord

/-! ## Options -/

/-- Read an option. -/
def option : Reader OptionTree := do
  space
  let place ← bytesLeft
  let key ← labelled .optionName bareWord
  let value ← optional do
    space
    char '='
    space
    labelled .optionValue (must string)
  return { key, value, place }

/-- Read a comma with space in front. -/
def comma : Reader Unit := do
  space
  char ','

/-- Read options between brackets. -/
def options : Reader (List OptionTree) := do
  space
  char '['
  labelled .conditionOptions <| must do
    space
    let options ← separated comma option
    space
    char ']'
    return options

/-- Read options that may be missing. -/
def maybeOptions : Reader (List OptionTree) := do return (← optional options).getD []

/-! ## Regular expressions -/

/-- A pattern without quotes: the characters up to a blank, comma or colon, and the rest. A
backslash in front of a space, comma or colon takes it into the pattern. -/
def barePattern : List Char → List Char × List Char
  | [] => ([], [])
  | [c] => if endsPattern c then ([], [c]) else ([c], [])
  | c :: d :: rest =>
    if c = '\\' ∧ (d = ' ' ∨ d = ',' ∨ d = ':') then
      let (pattern, after) := barePattern rest
      (d :: pattern, after)
    else if endsPattern c then ([], c :: d :: rest)
    else
      let (pattern, after) := barePattern (d :: rest)
      (c :: pattern, after)
where
  /-- Whether a character ends a pattern. -/
  endsPattern (c : Char) : Bool := isBlank c || c = ',' || c = ':'

/-- Read a pattern without quotes; it has at least one character. -/
def bareRegex : Reader String := fun text =>
  match barePattern text with
  | ([], _) => .miss [] text
  | (pattern, rest) => .done (.ofList pattern) rest

/-- Read a regular expression. -/
def regexCondition (place : Nat) : Reader ConditionTree := do
  exactly "regex:".toList
  let pattern ← labelled .regularExpression (must (quoted <|> bareRegex))
  return .regex place pattern (← maybeOptions)

/-! ## Dates -/

/-- Read a time of day without a mark between hour and minute. -/
def dayTime (separator : Char) : Reader (Nat × Nat) := do
  char ' ' <|> char separator
  return (← digits 2, ← digits 2)

/-- Read a date: month, day and year, and perhaps a time of day. -/
def dateLiteral : Reader DateLiteral := fun text =>
  let reader : Reader (Nat × Nat × Nat × Option (Nat × Nat)) := do
    let month ← digits 2
    let separator ← charWith fun c => c = '-' || c = '/' || c = '.'
    let day ← digits 2
    char separator
    let year ← digits 4
    return (month, day, year, ← optional (dayTime separator))
  match reader text with
  | .done (month, day, year, time) rest =>
    let text := String.ofList (text.take (text.length - rest.length))
    .done { month, day, year, time, text } rest
  | .miss labels rest => .miss labels rest
  | .stop labels rest => .stop labels rest

/-- Read the sign of a comparison. -/
def comparison : Reader Comparison :=
  (do exactly ['<', '=']; return .lessOrEqual) <|>
  (do exactly ['>', '=']; return .greaterOrEqual) <|>
  (do exactly ['<']; return .less) <|>
  (do exactly ['>']; return .greater) <|>
  (do exactly ['=']; return .equal)

/-- Read a comparison with a date. -/
def comparedDate : Reader DateSpan := do
  let comparison ← comparison
  space
  return .compare comparison (← labelled .date (must dateLiteral))

/-- Read two dates with a hyphen between them. -/
def dateInterval : Reader DateSpan := do
  let first ← dateLiteral
  space
  char '-'
  space
  return .between first (← labelled .endDate (must dateLiteral))

/-- Read a span of time. -/
def dateCondition (place : Nat) : Reader ConditionTree := do
  let span ← comparedDate <|> dateInterval
  return .date place span (← maybeOptions)

/-! ## Conditions -/

/-- Read a glob. -/
def globCondition (place : Nat) : Reader ConditionTree := do
  let text ← string
  return .glob place text (← maybeOptions)

/-- Read a certain character with space in front; nothing else may follow. -/
def closing (c : Char) : Reader Unit :=
  labelled (.mark c) do
    space
    must (char c)

/-- Read conditions between parentheses, of which one or all must hold. -/
def conditionList (condition : Reader ConditionTree) : Reader (List ConditionTree) := do
  space
  char '('
  let members ← labelled .conditionList (must (separated comma condition))
  closing ')'
  return members

/-- Read a condition that is made from others. -/
def compound (condition : Reader ConditionTree) : Reader ConditionTree := do
  let make ←
    (do keyword "and"; return (do return .all (← conditionList condition))) <|>
    (do keyword "or"; return (do return .any (← conditionList condition))) <|>
    (do
      keyword "not"
      return (do
        space
        char '('
        let inner ← must condition
        closing ')'
        return .negation inner))
  make

/-- Read a condition that is nested less than `depth` levels deep. -/
def condition : (depth : Nat) → Reader ConditionTree
  | 0 => fun text => .miss [] text
  | depth + 1 => do
    space
    let place ← bytesLeft
    labelled .condition <|
      compound (condition depth) <|> regexCondition place <|> dateCondition place <|>
        globCondition place

/-! ## Rules -/

/-- Read a list of clips. -/
def clipList : Reader (List String) := do
  space
  char '['
  let clips ← separatedOrNone comma do
    space
    string
  space
  char ']'
  return clips

/-- Read the clips before or after the file. -/
def clause : Reader ClauseTree := do
  space
  let place ← bytesLeft
  let side ← (do keyword "pre"; return ClipSide.pre) <|> (do keyword "post"; return ClipSide.post)
  closing ':'
  let clips ← labelled .clipList (must clipList)
  return { side, clips, place }

/-- Read a comma that may be missing, with space in front. -/
def maybeComma : Reader Unit := do
  space
  let _ ← optional (char ',')

/-- Read one or two clip lists. -/
def clauses : Reader (List ClauseTree) := do
  let first ← clause
  let second ← optional do
    maybeComma
    clause
  return first :: second.toList

/-- Read one or more rules. -/
def ruleSequence (rule : Reader RuleTree) : Reader (List RuleTree) := do
  let first ← rule
  let rest ← many do
    maybeComma
    rule
  return first :: rest

/-- Read rules between brackets, perhaps none. -/
def ruleList (rule : Reader RuleTree) : Reader (List RuleTree) := do
  char '['
  let rules ← labelled .ruleList (must do return (← optional (ruleSequence rule)).getD [])
  closing ']'
  return rules

/-- Read what follows a condition. -/
def ruleBody (rule : Reader RuleTree) (condition : Option ConditionTree) : Reader RuleTree := do
  space
  (do keyword "default"; return .default condition) <|>
    (do return .clips condition (← clauses)) <|>
    (do return .list condition (← ruleList rule))

/-- Read a rule that is nested less than `depth` levels deep. -/
def rule : (depth : Nat) → Reader RuleTree
  | 0 => fun text => .miss [] text
  | depth + 1 => do
    space
    match ← optional (ruleBody (rule depth) none) with
    | some body => return body
    | none =>
      let guard ← fun text => condition (text.length + 1) text
      closing ':'
      labelled .rule (must (ruleBody (rule depth) (some guard)))

/-- Read the rules that make up a text. No level of nesting takes less than one character. -/
def readRules : Reader (List RuleTree) := fun text =>
  let reader := do
    let rules ← labelled .rule (ruleSequence (rule (text.length + 1)))
    space
    return rules
  match reader text with
  | .done rules [] => .done rules []
  | .done _ rest => .miss [] rest
  | reply => reply

end ClipSplice.RuleText
