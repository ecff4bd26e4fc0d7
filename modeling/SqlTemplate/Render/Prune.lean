import SqlTemplate.Text.Blank

/-!
# Pruning a scope

What a scope contributes once its text is known. A scope of blanks, or of blanks and one clause
keyword, contributes nothing. A connector directly behind a leading keyword joins nothing and is
taken out, and if nothing is left then, neither is the scope. Everything else stays as it is.
-/

namespace SqlTemplate

/-- The words that introduce a clause or join conditions. -/
def clauseKeywords : List String :=
  ["where", "and", "or", "having", "on", "set"]

/-- The word is a clause keyword in some case. -/
def isClauseKeyword (word : List Char) : Bool :=
  clauseKeywords.contains (String.ofList (word.map Char.toLower))

/-- The word joins conditions, in some case. -/
def isConnector (word : List Char) : Bool :=
  ["and", "or"].contains (String.ofList (word.map Char.toLower))

/-- A character that no word goes beyond. -/
def endsClauseWord (c : Char) : Bool :=
  Text.isBlank c || c == '('

/-- The word that a text starts with, and the text after it. -/
def splitWord (text : List Char) : List Char × List Char :=
  (text.takeWhile (!endsClauseWord ·), text.dropWhile (!endsClauseWord ·))

/-- The blanks that a text starts with, and the text after them. -/
def splitBlanks (text : List Char) : List Char × List Char :=
  (text.takeWhile Text.isBlank, text.dropWhile Text.isBlank)

/-- A word and the text behind it are the text. -/
theorem splitWord_append (text : List Char) : (splitWord text).1 ++ (splitWord text).2 = text :=
  List.takeWhile_append_dropWhile

/-- Blanks and the text behind them are the text. -/
theorem splitBlanks_append (text : List Char) :
    (splitBlanks text).1 ++ (splitBlanks text).2 = text :=
  List.takeWhile_append_dropWhile

/-- What the text of a scope contributes, if it contributes something. -/
def pruneChars (text : List Char) : Option (List Char) :=
  let (lead, body) := splitBlanks text
  let (keyword, afterKeyword) := splitWord body
  if body.isEmpty then none
  else if !isClauseKeyword keyword then some text
  else
    let (gap, rest) := splitBlanks afterKeyword
    if rest.isEmpty then none
    else
      let (connector, afterConnector) := splitWord rest
      if !isConnector connector then some text
      else
        let remaining := (splitBlanks afterConnector).2
        if remaining.isEmpty then none
        else some (lead ++ keyword ++ (if gap.contains '\n' then gap else [' ']) ++ remaining)

/-- What the text of a scope contributes, if it contributes something. -/
def prune (text : String) : Option String :=
  (pruneChars text.toList).map String.ofList

end SqlTemplate
