import BeanRegistry.Config.QuotedText
import BeanRegistry.Config.Toml.Scalar
import BeanRegistry.Config.Toml.Tree

set_option autoImplicit false

namespace BeanRegistry.Config.Toml

open Text

def isGap (character : Char) : Bool :=
  character == ' ' || character == '\t'

def skipGap : Reader Unit :=
  Reader.skipWhile isGap

def newline : Reader Unit :=
  Reader.expect '\n' <|> Reader.literal ['\r', '\n']

def comment : Reader Unit := do
  Reader.expect '#'
  Reader.skipWhile isPlain

def skipLines : Nat → Reader Unit
  | 0 => pure ()
  | rounds + 1 => do
    skipGap
    match ← Reader.optional (comment <|> newline) with
    | none => pure ()
    | some () => skipLines rounds

def skipAllLines : Reader Unit := do
  skipLines (← get).length

def endOfLine : Reader Unit := do
  skipGap
  discard (Reader.optional comment)
  unless ← Reader.atEnd do newline

def literalText : Reader String := do
  Reader.expect '\''
  let content ← Reader.takeWhile fun character => isPlain character && character != '\''
  Reader.expect '\''
  pure (String.ofList content)

def skipNewlines : Nat → Reader Unit
  | 0 => pure ()
  | rounds + 1 => do
    skipGap
    if (← Reader.optional newline).isSome then skipNewlines rounds

def joinedLines : Reader Unit := do
  Reader.expect '\\'
  skipGap
  newline
  skipNewlines (← get).length

-- Up to two quotes belong to the text, also before the three that close it.
def linesRest (quote : Char) (hasEscapes : Bool) : Nat → Reader (List Char)
  | 0 => failure
  | rounds + 1 => do
    match ← Reader.peek with
    | none => failure
    | some character =>
      if character = quote then
        let run := (← Reader.takeWhile (· == quote)).length
        if run < 3 then
          let rest ← linesRest quote hasEscapes rounds
          pure (List.replicate run quote ++ rest)
        else if run ≤ 5 then pure (List.replicate (run - 3) quote)
        else failure
      else if character = '\\' && hasEscapes then
        match ← Reader.optional joinedLines with
        | some () => linesRest quote hasEscapes rounds
        | none =>
          discard Reader.next
          let meant ← escaped
          let rest ← linesRest quote hasEscapes rounds
          pure (meant :: rest)
      else
        match ← Reader.optional newline with
        | some () =>
          let rest ← linesRest quote hasEscapes rounds
          pure ('\n' :: rest)
        | none =>
          let plain ← Reader.satisfy isPlain
          let rest ← linesRest quote hasEscapes rounds
          pure (plain :: rest)

def linesText (quote : Char) (hasEscapes : Bool) : Reader String := do
  Reader.literal [quote, quote, quote]
  discard (Reader.optional newline)
  String.ofList <$> linesRest quote hasEscapes (← get).length

def text : Reader String :=
  linesText '"' true <|> linesText '\'' false <|> quotedText <|> literalText

def simpleKey : Reader String := do
  match ← Reader.peek with
  | some '"' => quotedText
  | some '\'' => literalText
  | _ =>
    String.ofList <$> Reader.takeSome fun character =>
      character.isAlphanum || character == '_' || character == '-'

def pathFrom (parents : List String) : Nat → Reader Path
  | 0 => failure
  | rounds + 1 => do
    skipGap
    let key ← simpleKey
    skipGap
    if ← Reader.accepts '.' then pathFrom (parents ++ [key]) rounds else pure { parents, key }

-- How many keys a path may have, and how many arrays and inline tables may lie in each other.
def nestingLimit : Nat := 79

def path : Reader Path :=
  pathFrom [] nestingLimit

-- A comma may stand before the closing bracket.
def arrayRest (value : Reader Datum) : Nat → Reader Unit
  | 0 => failure
  | rounds + 1 => do
    skipAllLines
    unless ← Reader.accepts ']' do
      discard value
      skipAllLines
      if ← Reader.accepts ',' then arrayRest value rounds else Reader.expect ']'

def inlinePairs (value : Reader Datum) (entries : Entries) : Nat → Reader Unit
  | 0 => failure
  | rounds + 1 => do
    let path ← path
    Reader.expect '='
    skipGap
    let datum ← value
    skipGap
    match Entries.insertAt path.parents path.key datum .declared entries with
    | none => failure
    | some entries =>
      if ← Reader.accepts ',' then inlinePairs value entries rounds else Reader.expect '\x7d'

-- No comma may stand before the closing brace.
def inlineRest (value : Reader Datum) : Reader Unit := do
  skipGap
  unless ← Reader.accepts '\x7d' do
    inlinePairs value [] (← get).length

def scalar : Reader Datum := do
  match ← Reader.peek with
  | some '"' | some '\'' => Datum.text <$> text
  | some 't' =>
    Reader.literal ['t', 'r', 'u', 'e']
    pure (.truth true)
  | some 'f' =>
    Reader.literal ['f', 'a', 'l', 's', 'e']
    pure (.truth false)
  | _ => number

def value : Nat → Reader Datum
  | 0 => scalar
  | nesting + 1 => do
    match ← Reader.peek with
    | some '[' =>
      discard Reader.next
      arrayRest (value nesting) (← get).length
      pure .list
    | some '\x7b' =>
      discard Reader.next
      inlineRest (value nesting)
      pure .record
    | _ => scalar

def pairLine : Reader Line := do
  let path ← path
  Reader.expect '='
  skipGap
  let datum ← value nestingLimit
  pure (.pair path datum)

def elementLine : Reader Line := do
  Reader.literal ['[', '[']
  let path ← path
  Reader.literal [']', ']']
  pure (.element path)

def tableLine : Reader Line := do
  Reader.expect '['
  let path ← path
  Reader.expect ']'
  pure (.table path)

def lines : Nat → Reader (List Line)
  | 0 => pure []
  | rounds + 1 => do
    skipAllLines
    if ← Reader.atEnd then pure []
    else
      let line ← elementLine <|> tableLine <|> pairLine
      endOfLine
      let rest ← lines rounds
      pure (line :: rest)

def withoutMark (document : List Char) : List Char :=
  match document with
  | '\ufeff' :: rest => rest
  | _ => document

def entries? (document : String) : Option Entries :=
  match (lines (document.length + 1)).parse? (withoutMark document.toList) with
  | none => none
  | some lines => entriesOf [] [] lines

end BeanRegistry.Config.Toml
