import Errand.Template.Token
import Errand.Text.Blank

/-!
# Errand — the pieces of a template

A template is text with tags in it: `\x7b\x7b … \x7d\x7d` holds an expression,
`\x7b% … %\x7d` a statement, and `\x7b# … #\x7d` a comment. A minus sign at the
inner side of a tag's brace swallows the white space on that side of the tag;
one line break at the end of the template is dropped.

* `Piece`         — text, an expression's words, or a statement's words.
* `Piece.ofText?` — the pieces of a template, if every tag is closed.
-/

namespace Errand.Template

/-- A part of a template. -/
inductive Piece where
  | text (s : String)
  | output (tokens : List Token)
  | statement (tokens : List Token)
  deriving Inhabited

-- ---------------------------------------------------------------------------
-- Tags
-- ---------------------------------------------------------------------------

/-- How a word changes the number of open brackets. -/
def nesting (depth : Nat) : Token → Nat
  | .symbol s =>
    if s = "(" ∨ s = "[" ∨ s = "\x7b" then depth + 1
    else if s = ")" ∨ s = "]" ∨ s = "\x7d" then depth - 1
    else depth
  | _ => depth

/-- The end of a tag at the front of a text: whether it swallows white space, and the rest. -/
def tagEnd (close : List Char) (cs : List Char) : Option (Bool × List Char) :=
  if close.isPrefixOf cs then some (false, cs.drop close.length)
  else match cs with
    | '-' :: rest => if close.isPrefixOf rest then some (true, rest.drop close.length) else none
    | '+' :: rest => if close.isPrefixOf rest then some (false, rest.drop close.length) else none
    | _ => none

/-- The words of a tag up to its end, whether the end swallows white space, and the rest. -/
def tagTokens (fuel depth : Nat) (close : List Char) (read : List Token) (cs : List Char) :
    Option (List Token × Bool × List Char) :=
  match fuel with
  | 0 => none
  | fuel + 1 =>
    let cs := skipGap cs
    match if depth = 0 then tagEnd close cs else none with
    | some (swallow, rest) => some (read.reverse, swallow, rest)
    | none =>
      match token cs with
      | some (t, rest) => tagTokens fuel (nesting depth t) close (t :: read) rest
      | none => none

/-- The text after a sign that follows a tag's opening brace, and whether it was a minus. -/
def openingSign : List Char → Bool × List Char
  | '-' :: rest => (true, rest)
  | '+' :: rest => (false, rest)
  | rest => (false, rest)

/-- The text after a comment's end, and whether the end swallows white space. -/
def commentEnd : List Char → Option (Bool × List Char)
  | '-' :: '#' :: '\x7d' :: rest => some (true, rest)
  | '#' :: '\x7d' :: rest => some (false, rest)
  | _ :: rest => commentEnd rest
  | [] => none

/-- The text after a statement that is a single given word, and whether its end swallows. -/
def loneStatement (word : String) (cs : List Char) : Option (Bool × List Char) :=
  let cs := skipGap cs
  if word.toList.isPrefixOf cs then
    tagEnd ['%', '\x7d'] (skipGap (cs.drop word.length))
  else none

/-- The verbatim text up to the statement that ends it: reversed, with both swallowing signs. -/
def verbatim (fuel : Nat) (read : List Char) (cs : List Char) :
    Option (List Char × Bool × Bool × List Char) :=
  match fuel, cs with
  | fuel + 1, '\x7b' :: '%' :: rest =>
    let (before, inner) := openingSign rest
    match loneStatement "endraw" inner with
    | some (after, rest) => some (read, before, after, rest)
    | none => verbatim fuel ('%' :: '\x7b' :: read) rest
  | fuel + 1, c :: rest => verbatim fuel (c :: read) rest
  | _, _ => none

-- ---------------------------------------------------------------------------
-- Pieces
-- ---------------------------------------------------------------------------

/-- The piece of some text, trimmed at the ends where a tag swallows; empty text has none. -/
def textPiece (swallowFront swallowBack : Bool) (reversed : List Char) : List Piece :=
  let text := (if swallowBack then Text.trimFront reversed else reversed).reverse
  let text := if swallowFront then Text.trimFront text else text
  if text.isEmpty then [] else [.text (String.ofList text)]

/--
The pieces of a template. `swallow` tells that the tag before swallows the
white space that follows it, and `read` is the text since that tag, reversed.
-/
def pieces (fuel : Nat) (swallow : Bool) (read : List Char) (cs : List Char) :
    Option (List Piece) :=
  match fuel, cs with
  | 0, _ => none
  | _ + 1, [] => some (textPiece swallow false read)
  | fuel + 1, '\x7b' :: '\x7b' :: rest =>
    let (before, inner) := openingSign rest
    match tagTokens (inner.length + 1) 0 ['\x7d', '\x7d'] [] inner with
    | some (tokens, after, rest) =>
      (pieces fuel after [] rest).map fun more =>
        textPiece swallow before read ++ .output tokens :: more
    | none => none
  | fuel + 1, '\x7b' :: '%' :: rest =>
    let (before, inner) := openingSign rest
    match loneStatement "raw" inner with
    | some (front, rest) =>
      match verbatim (rest.length + 1) [] rest with
      | some (body, back, after, rest) =>
        (pieces fuel after [] rest).map fun more =>
          textPiece swallow before read ++ textPiece front back body ++ more
      | none => none
    | none =>
      match tagTokens (inner.length + 1) 0 ['%', '\x7d'] [] inner with
      | some (tokens, after, rest) =>
        (pieces fuel after [] rest).map fun more =>
          textPiece swallow before read ++ .statement tokens :: more
      | none => none
  | fuel + 1, '\x7b' :: '#' :: rest =>
    let (before, inner) := openingSign rest
    match commentEnd inner with
    | some (after, rest) =>
      (pieces fuel after [] rest).map fun more => textPiece swallow before read ++ more
    | none => none
  | fuel + 1, c :: rest => pieces fuel swallow (c :: read) rest

/-- The template without one line break at its end. -/
def dropFinalNewline (cs : List Char) : List Char :=
  let drop (c : Char) (reversed : List Char) := match reversed with
    | d :: rest => if d = c then rest else d :: rest
    | [] => []
  (drop '\r' (drop '\n' cs.reverse)).reverse

/-- The pieces of a template, if every tag is closed and made of known words. -/
def Piece.ofText? (source : String) : Option (List Piece) :=
  let cs := dropFinalNewline source.toList
  pieces (cs.length + 1) false [] cs

end Errand.Template
