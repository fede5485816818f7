import ShuffleWatch.Yaml.Block

/-!
# Reading YAML

A reader of flat documents: one mapping, each key on a line of its own or all
of them in braces, whose keys are texts. Values may be collections in brackets,
which are read over, but not in blocks of indented lines; there are no tags,
anchors or directives either. A document without any content is the empty
mapping.

A key ends on the line on which it begins, and its colon comes at most 1024
bytes after its beginning (`isKeyUpTo`), unless a question mark comes before it.
-/

namespace ShuffleWatch.Yaml

/-- The entries of a document, in their order. -/
abbrev Entries := List (String × Value)

/-! ## Characters and lines -/

/-- A character that a document may hold. -/
def isAllowed (c : Char) : Bool :=
  let n := c.toNat
  n == 0x09 || n == 0x0A || n == 0x0D || (0x20 ≤ n && n ≤ 0x7E) || n == 0x85 ||
    (0xA0 ≤ n && n ≤ 0xFFFD) || 0x10000 ≤ n

/-- The text in which a line feed stands for each line break that reads as one. -/
def unifyBreaks : List Char → List Char
  | [] => []
  | '\r' :: '\n' :: cs => '\n' :: unifyBreaks cs
  | c :: cs => (if c = '\r' ∨ c = '\u0085' then '\n' else c) :: unifyBreaks cs

/-- The beginning of a line without the byte order mark that may stand there. It
    counts as a column. -/
def withoutMark : List Char → List Char
  | '\ufeff' :: cs => cs
  | cs => cs

/-- The text from the first line on that has more than spaces and a comment,
    where `start` is the beginning of the line. -/
def skipEmptyLines (start : List Char) (isComment : Bool) : List Char → List Char
  | [] => []
  | c :: cs =>
    if isBreak c then skipEmptyLines cs false cs
    else if isComment || c == ' ' then skipEmptyLines start isComment cs
    else if c = '#' then skipEmptyLines start true cs
    else if c = '\ufeff' ∧ start.length = cs.length + 1 then skipEmptyLines start false cs
    else start

/-- The text from the next line on with more than spaces and a comment. -/
def nextLine (cs : List Char) : List Char := skipEmptyLines cs false cs

/-- What stands on a line and after it, without the indentation. -/
def unindented (cs : List Char) : List Char := (withoutMark cs).dropWhile (· == ' ')

/-- The number of columns before what stands on a line. -/
def indentation (cs : List Char) : Nat := cs.length - (unindented cs).length

/-- A key that ends at the second text, a part of the first, may begin at the
    first one. -/
def isKeyUpTo (cs rest : List Char) : Bool :=
  let key := cs.take (cs.length - rest.length)
  key.foldl (fun n c => n + c.utf8Size) 0 ≤ 1024 && !key.any isBreak

/-! ## Brackets -/

/-- The text without blanks, line breaks and comments at its front. Nothing is
    left of it where the document may not go on. -/
def skipGap (isComment : Bool) : List Char → List Char
  | [] => []
  | c :: cs =>
    if isBreak c then
      if isAtMarker cs then []
      else
        match cs with
        | '\ufeff' :: cs => skipGap false cs
        | cs => skipGap false cs
    else if isComment || isBlank c then skipGap isComment cs
    else if c = '#' then skipGap true cs
    else c :: cs

mutual

/-- The value at the front of a text inside brackets, and the text after it.
    Each call takes up a unit of fuel and reads a character before the next
    one. -/
def flowValue? (floor : Nat) : Nat → List Char → Option (Value × List Char)
  | 0, _ => none
  | fuel + 1, cs =>
    match cs with
    | '[' :: rest => (flowPairs? floor fuel ']' rest).map fun p => (.collection, p.2)
    | '\x7b' :: rest => (flowPairs? floor fuel '\x7d' rest).map fun p => (.collection, p.2)
    | '\'' :: rest => quoted? ('\'' :: rest)
    | '"' :: rest => quoted? ('"' :: rest)
    | cs => plain? true floor cs

/-- The value, or nothing where it is left out. -/
def flowValueOrNothing? (floor : Nat) : Nat → Char → List Char → Option (Value × List Char)
  | 0, _, _ => none
  | fuel + 1, close, cs =>
    if cs.head?.any fun c => c == ':' || c == ',' || c == close then some (.plain "", cs)
    else flowValue? floor fuel cs

/-- The pairs of keys and values up to the closing bracket, and the text after
    it. -/
def flowPairs? (floor : Nat) : Nat → Char → List Char → Option (List (Value × Value) × List Char)
  | 0, _, _ => none
  | fuel + 1, close, cs =>
    match skipGap false cs with
    | [] => none
    | c :: rest =>
      if c = close then some ([], rest)
      else do
        let isMarked := c == '?'
        let (key, next) ←
          if isMarked then flowValueOrNothing? floor fuel close (skipGap false rest)
          else flowValue? floor fuel (c :: rest)
        let (value, next) ← match skipGap false next with
          | ':' :: next =>
            if isMarked || isKeyUpTo rest next then
              flowValueOrNothing? floor fuel close (skipGap false next)
            else none
          | next => some (.plain "", next)
        match skipGap false next with
        | ',' :: next =>
          let (pairs, after) ← flowPairs? floor fuel close next
          return ((key, value) :: pairs, after)
        | d :: after => if d = close then return ([(key, value)], after) else none
        | [] => none

end

/-- The text of a key. -/
def keyText? : Value → Option String
  | .plain s => some s
  | .quoted s => some s
  | .collection => none

/-- The entries of a mapping in braces, after the opening one, and the text
    after the closing one. -/
def flowEntries? (cs : List Char) : Option (Entries × List Char) := do
  let (pairs, after) ← flowPairs? 0 (3 * cs.length + 3) '\x7d' cs
  return (← pairs.mapM fun p => (keyText? p.1).map (·, p.2), after)

/-! ## Lines of entries -/

/-- The key at the front of a line, and the text after its colon. -/
def key? (cs : List Char) : Option (String × List Char) := do
  -- A key does not go on after the end of its line.
  let line := cs.takeWhile (!isBreak ·)
  let (key, rest) ← (quoted? line).or (plain? false 0 line)
  match rest.dropWhile isBlank with
  | ':' :: value =>
    if isAtGap value ∧ isKeyUpTo line (':' :: value) then
      return (← keyText? key, cs.drop (line.length - value.length))
    else none
  | _ => none

/-- The value at the front of the text, and the text after its last line. -/
def lineValue? (floor : Nat) (cs : List Char) : Option (Value × List Char) := do
  let (value, rest) ← match cs with
    | '[' :: _ => flowValue? floor (3 * cs.length + 3) cs
    | '\x7b' :: _ => flowValue? floor (3 * cs.length + 3) cs
    | '\'' :: _ => quoted? cs
    | '"' :: _ => quoted? cs
    | '|' :: text => block? false floor text
    | '>' :: text => block? true floor text
    | cs => plain? false floor cs
  return (value, ← endLine? rest)

/-- The value of a key whose line is indented by `indent`, and the text after
    its last line. It may begin on a later line that is indented further, where
    the mark of a block text need not be; if it is left out, it is the empty
    plain text. -/
def blockValue? (indent : Nat) (cs : List Char) : Option (Value × List Char) :=
  match endLine? cs with
  | none => lineValue? (indent + 1) (cs.dropWhile isBlank)
  | some rest =>
    let next := nextLine rest
    let isBlock := (unindented next).head?.any fun c => c == '|' || c == '>'
    if indent < indentation next ∨ (isBlock ∧ indent = indentation next) then
      lineValue? (indent + 1) (unindented next)
    else some (.plain "", rest)

/-- The key after a question mark, or the value after its colon. No tab may come
    before it. -/
def markedValue? (indent : Nat) (cs : List Char) : Option (Value × List Char) :=
  if (cs.dropWhile (· == ' ')).head? = some '\t' then none else blockValue? indent cs

/-- The entry after a question mark, and the text after its last line. The colon
    of its value, if there is one, begins a line of its own. -/
def markedEntry? (indent : Nat) (cs : List Char) : Option ((String × Value) × List Char) := do
  let (key, rest) ← markedValue? indent cs
  let line := nextLine rest
  match unindented line with
  | ':' :: value =>
    if indentation line = indent ∧ isAtGap value then
      let (value, rest) ← markedValue? indent value
      return ((← keyText? key, value), rest)
    else none
  | _ => return ((← keyText? key, .plain ""), rest)

/-- The entry at the front of a line that is indented by `indent`, and the text
    after its last line. -/
def entry? (indent : Nat) (cs : List Char) : Option ((String × Value) × List Char) :=
  if cs.head? = some '?' ∧ isAtGap cs.tail then markedEntry? indent cs.tail
  else do
    let (key, rest) ← key? cs
    let (value, rest) ← blockValue? indent rest
    return ((key, value), rest)

/-- The text after the line that marks the end of a document. -/
def endMark? : List Char → Option (List Char)
  | '.' :: '.' :: '.' :: rest => if isAtGap rest then endLine? rest else none
  | _ => none

/-- Nothing more follows but so many marks of the end at most. -/
def hasOnlyEndMarks : Nat → List Char → Bool
  | 0, cs => (nextLine cs).isEmpty
  | n + 1, cs => (nextLine cs).isEmpty || (endMark? (nextLine cs)).any (hasOnlyEndMarks n)

/-- Nothing more follows but marks of the end. -/
def isAtEnd (cs : List Char) : Bool := hasOnlyEndMarks cs.length cs

/-- The entries on lines that are all indented by `indent`, up to the end of the
    document. Each entry takes up a unit of fuel. -/
def blockEntries? (indent : Nat) : Nat → List Char → Option Entries
  | 0, _ => none
  | fuel + 1, cs =>
    let line := nextLine cs
    if isAtEnd line then some []
    else if isAtMarker line ∨ indentation line ≠ indent then none
    else do
      let (entry, rest) ← entry? indent (unindented line)
      return entry :: (← blockEntries? indent fuel rest)

/-! ## Documents -/

/-- The entries of the mapping in braces after which nothing more follows. -/
def flowDocument? (cs : List Char) : Option Entries := do
  let (entries, rest) ← flowEntries? cs
  if isAtEnd (← endLine? rest) then return entries else none

/-- The entries of the mapping that the text holds. A text without any content
    holds the empty one. -/
def mapping? (cs : List Char) : Option Entries :=
  let line := nextLine cs
  match unindented line with
  | '\x7b' :: rest => flowDocument? rest
  | _ => blockEntries? (indentation line) (line.length + 1) line

/-- The entries of a document, which may begin with a mark. Only the mark lets a
    document end before there is any content. -/
def document? (cs : List Char) : Option Entries :=
  match nextLine cs with
  | [] => some []
  | '-' :: '-' :: '-' :: rest =>
    if !isAtGap rest then mapping? cs
    else
      match endLine? rest with
      | some rest => mapping? rest
      | none =>
        -- On the line of the mark, no key may stand outside braces.
        match rest.dropWhile isBlank with
        | '\x7b' :: rest => flowDocument? rest
        | _ => none
  | line => if isAtMarker line then none else mapping? line

/-- The entries of the document that a text writes. -/
def read? (text : String) : Option Entries :=
  let cs := text.toList
  if cs.all isAllowed then document? (unifyBreaks cs) else none

end ShuffleWatch.Yaml
